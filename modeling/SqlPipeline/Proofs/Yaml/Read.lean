/-
  SqlPipeline/Proofs/Yaml/Read.lean
  =================================
  **A written outline is read back as the map that it stands for.**

  The tokens of an outline have its nodes, and its nodes have its data: under each key what its
  value means, which for a plain word depends on its form and for a quoted one is the
  text (`read_outline`).  A text that goes on behind the outline with a word alone is
  refused (`read_looseWord`).

  A plain scalar is a text if it is written like nothing else.  One that starts with a dollar
  sign always is, because no other form starts so; and one that is no text never gives data that
  could be taken for one (`notText_of_toData`).
-/
import SqlPipeline.Proofs.Data
import SqlPipeline.Proofs.Text.Cut
import SqlPipeline.Proofs.Yaml.Outline

namespace SqlPipeline.Yaml

/-! ### Texts that start with a dollar sign -/

theorem isFraction_dollar (rest : List Char) : isFraction ('$' :: rest) = false := by
  obtain ⟨whole, fractions, hpoint⟩ : ∃ whole fractions,
      Text.splitAt '.' ('$' :: rest) = ('$' :: whole) :: fractions :=
    Text.exists_splitAt_cons (by decide) rest
  obtain ⟨first, more, hcolon⟩ : ∃ first more,
      Text.splitAt ':' ('$' :: whole) = ('$' :: first) :: more :=
    Text.exists_splitAt_cons (by decide) whole
  have hrun : isDigitRun ('$' :: first) = false := rfl
  have hunsigned : unsigned ('$' :: rest) = '$' :: rest := rfl
  simp only [isFraction, hunsigned, hpoint]
  cases fractions with
  | nil => simp
  | cons fraction fractions =>
    cases fractions with
    | cons => simp
    | nil => cases more <;> simp [hcolon, hrun]

theorem isWhole_dollar (rest : List Char) : isWhole ('$' :: rest) = false := by
  obtain ⟨first, more, hcolon⟩ : ∃ first more,
      Text.splitAt ':' ('$' :: rest) = ('$' :: first) :: more :=
    Text.exists_splitAt_cons (by decide) rest
  have hrun : isDigitRun ('$' :: first) = false := rfl
  simp [isWhole, unsigned, hcolon, hrun]

theorem plainTag_dollar (rest : List Char) : plainTag (.ofList ('$' :: rest)) = coreTag "str" := by
  have htruth : isTruth ('$' :: rest) = false := by
    simp [isTruth, truthNames]
  have hnothing : isNothing ('$' :: rest) = false := by
    simp [isNothing]
  have hmoment : isMoment ('$' :: rest) = false := rfl
  have hne : ∀ text : String, text.toList.head? ≠ some '$' →
      (String.ofList ('$' :: rest) == text) = false := by
    intro text htext
    refine beq_false_of_ne fun heq => htext ?_
    rw [← heq, String.toList_ofList]
    rfl
  simp only [plainTag, String.toList_ofList, htruth, isFraction_dollar, isWhole_dollar, hnothing,
    hmoment, hne "<<" (by decide), hne "=" (by decide)]
  rfl

/-! ### Data that is no text -/

/-- Data that no check takes for a text. -/
def NotText : Data → Prop
  | .null | .bool _ | .int _ | .float _ | .date _ | .moment _ => True
  | _ => False

/-- That what is read, if anything is, is no text. -/
def GivesNoText (x : Except Fault Data) : Prop :=
  ∀ d, x = .ok d → NotText d

namespace GivesNoText

variable {α : Type} {x : Except Fault α}

theorem ok {d : Data} (h : NotText d) : GivesNoText (.ok d) :=
  fun _ heq => Except.ok.inj heq ▸ h

theorem error (fault : Fault) : GivesNoText (.error fault) :=
  fun _ heq => nomatch heq

theorem bind {f : α → Except Fault Data} (h : ∀ a, GivesNoText (f a)) : GivesNoText (x >>= f) := by
  cases x with
  | error fault => exact error fault
  | ok a => exact h a

theorem map {f : α → Data} (h : ∀ a, NotText (f a)) : GivesNoText (x.map f) := by
  cases x with
  | error fault => exact error fault
  | ok a => exact ok (h a)

/-- What a day gives together with its clock. -/
theorem dated (day : Except Fault Date) (r : Reading) : GivesNoText (do
    let date ← day
    match r.clock with
    | none => return .date date
    | some (hour, minute, second, millionths) =>
        return .moment (← (Moment.ofNumbers date hour minute second millionths
          r.offset).mapError .calendar)) := by
  refine bind fun date => ?_
  split
  · exact ok trivial
  · exact bind fun moment => ok trivial

theorem moment (text : String) : GivesNoText (Scalar.moment text) := by
  rw [Scalar.moment]
  split
  · rename_i r hr
    dsimp only
    split
    · split
      · exact error _
      · exact dated _ r
    · exact dated _ r
  · exact error _

theorem toData {text : String} (htag : plainTag text ≠ coreTag "str") :
    GivesNoText (Scalar.toData (plainTag text) text) := by
  rw [plainTag] at htag ⊢
  split
  · exact map (x := Scalar.truth text) fun b => (trivial : NotText (.bool b))
  split
  · exact map (x := Scalar.fraction text) fun x => (trivial : NotText (.float x))
  split
  · exact map (x := Scalar.whole text) fun n => (trivial : NotText (.int n))
  split
  · exact error .malformed
  split
  · exact ok (trivial : NotText .null)
  split
  · exact moment text
  split
  · exact error .malformed
  · rename_i htruth hfraction hwhole hmerge hnothing hmoment hvalue
    rw [if_neg htruth, if_neg hfraction, if_neg hwhole, if_neg hmerge, if_neg hnothing, if_neg hmoment,
      if_neg hvalue] at htag
    exact absurd rfl htag

end GivesNoText

/-! ### Nodes -/

namespace Written

def node : Written → Node
  | plain word => .scalar (plainTag (.ofList word)) (.ofList word)
  | quoted word => .scalar (coreTag "str") (.ofList word)
  | listed word => .list (coreTag "seq") [.scalar (plainTag (.ofList word)) (.ofList word)]

end Written

namespace Outline

/-- The entries of the map. -/
def entries : Outline → List (Node × Node)
  | done => []
  | leaf _ key value rest =>
      (.scalar (plainTag (.ofList key)) (.ofList key), value.node) :: rest.entries
  | nest _ key inner rest =>
      (.scalar (plainTag (.ofList key)) (.ofList key), .map (coreTag "map") inner.entries)
        :: rest.entries

end Outline

namespace Node

variable {tokens rest : List Token} {shorthands : Entries String}
  {anchors : List (String × Option Node)} {fuel : Nat} {o : Outline}

/-- What ends a value that is not written. -/
def endsValue (t : Token) : Bool :=
  isKey t || isValue t || isBlockEnd t

theorem run_blockEntries_key (key : String) :
    StateT.run (blockEntries (fuel + 4)) ⟨.key :: .scalar true key :: .value :: tokens, shorthands,
        anchors⟩
      = (do
        let (value, r) ← StateT.run (readUnless .inEntry endsValue (fuel + 3))
          ⟨tokens, shorthands, anchors⟩
        let (more, r) ← StateT.run (blockEntries (fuel + 3)) r
        pure ((.scalar (plainTag key) key, value) :: more, r)) := rfl

theorem run_blockEntries_end :
    StateT.run (blockEntries (fuel + 1)) ⟨.blockEnd :: rest, shorthands, anchors⟩
      = pure ([], ⟨rest, shorthands, anchors⟩) := rfl

theorem run_read_map {position : Position} (hposition : position ≠ .inBrackets) :
    StateT.run (read position (fuel + 2)) ⟨.mapStart :: tokens, shorthands, anchors⟩
      = (do
        let (entries, r) ← StateT.run (blockEntries fuel) ⟨tokens, shorthands, anchors⟩
        pure (.map (coreTag "map") entries, r)) := by
  have hstep : StateT.run (read position (fuel + 2)) ⟨.mapStart :: tokens, shorthands, anchors⟩
      = (do
        let (node, r) ← (do
          let (entries, r) ← StateT.run (blockEntries fuel) ⟨tokens, shorthands, anchors⟩
          pure (.map (coreTag "map") entries, r))
        StateT.run (closeAnchor none node) r) := by
    cases position with
    | inBrackets => exact absurd rfl hposition
    | inBlock => rfl
    | inEntry => rfl
  rw [hstep]
  cases StateT.run (blockEntries fuel) ⟨tokens, shorthands, anchors⟩ <;> rfl

theorem run_readUnless_map :
    StateT.run (readUnless .inEntry endsValue (fuel + 1)) ⟨.mapStart :: tokens, shorthands, anchors⟩
      = StateT.run (read .inEntry fuel) ⟨.mapStart :: tokens, shorthands, anchors⟩ := rfl

theorem run_readUnless_written {value : Written} (hfuel : value.tokens.length + 3 ≤ fuel) :
    StateT.run (readUnless .inEntry endsValue fuel) ⟨value.tokens ++ rest, shorthands, anchors⟩
      = pure (value.node, ⟨rest, shorthands, anchors⟩) := by
  have hscalar : ∃ n, fuel = n + 4 :=
    ⟨fuel - 4, by cases value <;> simp [Written.tokens] at hfuel <;> omega⟩
  cases value with
  | plain word =>
    obtain ⟨fuel, rfl⟩ := hscalar
    rfl
  | quoted word =>
    obtain ⟨fuel, rfl⟩ := hscalar
    rfl
  | listed word =>
    obtain ⟨fuel, rfl⟩ : ∃ n, fuel = n + 6 := ⟨fuel - 6, by simp [Written.tokens] at hfuel; omega⟩
    rfl

/-- The entries of an outline are read, and then those that follow. -/
theorem run_blockEntries_outline (o : Outline) (least fuel : Nat) (rest : List Token)
    (hleast : 0 < least) (hfuel : o.tokens.length + least ≤ fuel) :
    ∃ fuel', least ≤ fuel'
      ∧ StateT.run (blockEntries fuel) ⟨o.tokens ++ rest, shorthands, anchors⟩
        = (do
          let (more, r) ← StateT.run (blockEntries fuel') ⟨rest, shorthands, anchors⟩
          pure (o.entries ++ more, r)) := by
  induction o generalizing least fuel rest with
  | done =>
    refine ⟨fuel, by simpa [Outline.tokens] using hfuel, ?_⟩
    simp [Outline.tokens, Outline.entries]
  | leaf above key value outline ih =>
    simp only [Outline.tokens, List.length_append, List.length_cons, List.length_nil] at hfuel
    obtain ⟨n, rfl⟩ : ∃ n, fuel = n + 4 := ⟨fuel - 4, by omega⟩
    obtain ⟨fuel', hfuel', hrest⟩ := ih least (n + 3) rest hleast (by omega)
    refine ⟨fuel', hfuel', ?_⟩
    have htokens : (Outline.leaf above key value outline).tokens ++ rest
        = .key :: .scalar true (.ofList key) :: .value
          :: (value.tokens ++ (outline.tokens ++ rest)) := by
      simp [Outline.tokens]
    rw [htokens, run_blockEntries_key, run_readUnless_written (by omega)]
    simp [hrest, Outline.entries]
  | nest above key inner outline ihInner ihRest =>
    simp only [Outline.tokens, List.length_append, List.length_cons, List.length_nil] at hfuel
    obtain ⟨n, rfl⟩ : ∃ n, fuel = n + 4 := ⟨fuel - 4, by omega⟩
    obtain ⟨fuel₁, hfuel₁, hinner⟩ :=
      ihInner 1 n (.blockEnd :: (outline.tokens ++ rest)) Nat.one_pos (by omega)
    obtain ⟨fuel', hfuel', hrest⟩ := ihRest least (n + 3) rest hleast (by omega)
    refine ⟨fuel', hfuel', ?_⟩
    have htokens : (Outline.nest above key inner outline).tokens ++ rest
        = .key :: .scalar true (.ofList key) :: .value :: .mapStart
            :: (inner.tokens ++ .blockEnd :: (outline.tokens ++ rest)) := by
      simp [Outline.tokens]
    have hentry : Position.inEntry ≠ .inBrackets := by decide
    obtain ⟨fuel₁, rfl⟩ := Nat.exists_eq_succ_of_ne_zero (Nat.ne_zero_of_lt hfuel₁)
    rw [htokens, run_blockEntries_key, run_readUnless_map, run_read_map hentry, hinner,
      run_blockEntries_end]
    simp [hrest, Outline.entries]

/-- A map as a document: its entries are read, and nothing may follow. -/
theorem run_document_map (fuel : Nat) :
    StateT.run (document (fuel + 2)) ⟨.mapStart :: tokens, shorthands, anchors⟩
      = (do
        let (entries, r) ← StateT.run (blockEntries fuel) ⟨tokens, shorthands, anchors⟩
        StateT.run (do
          dropEndMarks (fuel + 2)
          if (← peek).isSome then throw .malformed
          return some (.map (coreTag "map") entries)) r) := by
  have hstep : StateT.run (document (fuel + 2)) ⟨.mapStart :: tokens, shorthands, anchors⟩
      = (do
        let (node, r) ← StateT.run (read .inBlock (fuel + 2))
          ⟨.mapStart :: tokens, shorthands, anchors⟩
        StateT.run (do
          dropEndMarks (fuel + 2)
          if (← peek).isSome then throw .malformed
          return some node) r) := rfl
  rw [hstep, run_read_map (by decide)]
  cases StateT.run (blockEntries fuel) ⟨tokens, shorthands, anchors⟩ <;> rfl

theorem ofText_outline (ho : o.Fine) (hne : o ≠ .done) (hfirst : (o.ahead 0 {}).lines = 0) :
    ofText (.ofList (o.ahead 0 {}).text) = .ok (some (.map (coreTag "map") o.entries)) := by
  obtain ⟨fuel, hfuel, hentries⟩ := run_blockEntries_outline o 1
    (4 * (Token.mapStart :: (o.tokens ++ [.blockEnd])).length + 2) [.blockEnd] Nat.one_pos
    (by simp only [List.length_cons, List.length_append]; omega)
  obtain ⟨fuel, rfl⟩ := Nat.exists_eq_succ_of_ne_zero (Nat.ne_zero_of_lt hfuel)
  rw [ofText, String.toList_ofList, Token.ofText_outline ho hne hfirst]
  change (StateT.run (document (_ + 2 + 2)) _).map _ = _
  rw [run_document_map, hentries, run_blockEntries_end]
  simp only [pure_bind, List.append_nil]
  rfl

theorem ofText_looseWord {word : List Char} (ho : o.Fine) (hne : o ≠ .done)
    (hfirst : (o.ahead 0 ⟨0, 0, word ++ ['\n']⟩).lines = 0) (hword : IsPlain word)
    (hstarts : ∃ c rest, word = c :: rest ∧ Scan.StartsWord c ∧ c ≠ '.') :
    ofText (.ofList (o.ahead 0 ⟨0, 0, word ++ ['\n']⟩).text) = .error .malformed := by
  obtain ⟨fuel, hfuel, hentries⟩ := run_blockEntries_outline o 1
    (4 * (Token.mapStart :: (o.tokens ++ [.scalar true (.ofList word), .bad .malformed])).length + 2)
    [.scalar true (.ofList word), .bad .malformed] Nat.one_pos
    (by simp only [List.length_cons, List.length_append]; omega)
  obtain ⟨fuel, rfl⟩ := Nat.exists_eq_succ_of_ne_zero (Nat.ne_zero_of_lt hfuel)
  have hnoKey : StateT.run (blockEntries (fuel + 1))
      ⟨[.scalar true (.ofList word), .bad .malformed], commonShorthands, []⟩
      = .error .malformed := rfl
  rw [ofText, String.toList_ofList, Token.ofText_looseWord ho hne hfirst hword hstarts]
  change (StateT.run (document (_ + 2 + 2)) _).map _ = _
  rw [run_document_map, hentries, hnoKey]
  rfl

end Node

/-! ### Data -/

namespace Written

/-- What a value stands for. -/
def data : Written → Except Fault Data
  | plain word => Scalar.toData (plainTag (.ofList word)) (.ofList word)
  | quoted word => .ok (.text (.ofList word))
  | listed word =>
      (Scalar.toData (plainTag (.ofList word)) (.ofList word)).map fun d => .list [d]

theorem toData_node (value : Written) : value.node.toData = value.data := by
  cases value with
  | plain word => rfl
  | quoted word => rfl
  | listed word =>
    have hlist : (listed word).node.toData = (do
        let d ← Scalar.toData (plainTag (.ofList word)) (.ofList word)
        return [d] : Except Fault (List Data)).map .list := rfl
    rw [hlist, data]
    cases Scalar.toData (plainTag (.ofList word)) (.ofList word) <;> rfl

end Written

namespace Outline

/-- The entries that an outline stands for. -/
def data : Outline → Except Fault (List (Data × Data))
  | done => .ok []
  | leaf _ key value rest => do
      let d ← value.data
      return (.text (.ofList key), d) :: (← rest.data)
  | nest _ key inner rest => do
      let entries ← inner.data
      return (.text (.ofList key), .map (Node.mapOf entries)) :: (← rest.data)

theorem data_leaf_eq (above : Nat) (key : List Char) (value : Written) (rest : Outline) :
    (leaf above key value rest).data = (do
      let d ← value.data
      return (.text (.ofList key), d) :: (← rest.data)) := rfl

theorem data_nest_eq (above : Nat) (key : List Char) (inner rest : Outline) :
    (nest above key inner rest).data = (do
      let entries ← inner.data
      return (.text (.ofList key), .map (Node.mapOf entries)) :: (← rest.data)) := rfl

end Outline

theorem Node.toData_map (entries : List (Node × Node)) :
    (Node.map (coreTag "map") entries).toData
      = (Node.entriesOf entries).map fun found => .map (Node.mapOf (found.1 ++ found.2)) := rfl

theorem Node.entriesOf_cons {key : String} (htag : plainTag key = coreTag "str") (value : Node)
    (rest : List (Node × Node)) :
    Node.entriesOf ((.scalar (plainTag key) key, value) :: rest) = (do
      let d ← value.toData
      let (taken, own) ← Node.entriesOf rest
      return (taken, (.text key, d) :: own)) := by
  rw [htag]
  rfl

theorem Outline.entriesOf_entries {o : Outline} (ho : o.Fine) :
    Node.entriesOf o.entries = o.data.map fun own => ([], own) := by
  induction o with
  | done => rfl
  | leaf above key value rest ih =>
    obtain ⟨hkey, -, hrest⟩ := ho
    rw [entries, Node.entriesOf_cons hkey.isText, ih hrest, value.toData_node, data_leaf_eq]
    cases value.data with
    | error fault => rfl
    | ok d => cases rest.data <;> rfl
  | nest above key inner rest ihInner ihRest =>
    obtain ⟨hkey, -, hinner, hrest⟩ := ho
    rw [entries, Node.entriesOf_cons hkey.isText, ihRest hrest, Node.toData_map, ihInner hinner,
      data_nest_eq]
    cases inner.data with
    | error fault => rfl
    | ok own => cases rest.data <;> rfl

variable {o : Outline}

/-! ### Entries by name -/

namespace Outline

variable {above : Nat} {key : List Char} {value : Written} {inner rest : Outline} {d : Data}
  {fault : Fault} {own entries : Entries Data}

theorem data_leaf (hvalue : value.data = .ok d) (hrest : rest.data = .ok (Data.keyed entries)) :
    (leaf above key value rest).data = .ok (Data.keyed ((.ofList key, d) :: entries)) := by
  rw [data_leaf_eq, hvalue, hrest]
  rfl

theorem data_leaf_of_error (hvalue : value.data = .error fault) :
    (leaf above key value rest).data = .error fault := by
  rw [data_leaf_eq, hvalue]
  rfl

theorem data_nest (hinner : inner.data = .ok (Data.keyed own)) (hown : own.names.Nodup)
    (hrest : rest.data = .ok (Data.keyed entries)) : (nest above key inner rest).data
      = .ok (Data.keyed ((.ofList key, .ofEntries own) :: entries)) := by
  rw [data_nest_eq, hinner, hrest]
  exact congrArg (fun d => Except.ok ((.text (.ofList key), d) :: Data.keyed entries))
    (Data.map_mapOf_keyed hown)

end Outline

/-- **A written outline is read back as the map that it stands for.** -/
theorem read_outline (ho : o.Fine) (hne : o ≠ .done) (hfirst : (o.ahead 0 {}).lines = 0) :
    read (.ofList (o.ahead 0 {}).text) = o.data.map fun own => .map (Node.mapOf own) := by
  have hdata : (Node.map (coreTag "map") o.entries).toData
      = o.data.map fun own => .map (Node.mapOf own) := by
    rw [Node.toData_map, Outline.entriesOf_entries ho]
    cases o.data <;> rfl
  rw [read, Node.ofText_outline ho hne hfirst]
  exact hdata

/-- An outline is no YAML any more when a word alone follows it. -/
theorem read_looseWord {word : List Char} (ho : o.Fine) (hne : o ≠ .done)
    (hfirst : (o.ahead 0 ⟨0, 0, word ++ ['\n']⟩).lines = 0) (hword : IsPlain word)
    (hstarts : ∃ c rest, word = c :: rest ∧ Scan.StartsWord c ∧ c ≠ '.') :
    read (.ofList (o.ahead 0 ⟨0, 0, word ++ ['\n']⟩).text) = .error .malformed := by
  rw [read, Node.ofText_looseWord ho hne hfirst hword hstarts]
  rfl

end SqlPipeline.Yaml
