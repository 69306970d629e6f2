/-
  SqlPipeline/Proofs/Yaml/Scan.lean
  =================================
  **What a step of the scanner does at each kind of token.**

  A step goes on to the next token, forgets the keys that can no longer end and ends the blocks
  that are indented further (`Reaches`); what it does then depends on the character there.  There
  is one lemma for each kind of token that the outline of a map is written with.
-/
import SqlPipeline.Yaml.Scan
import SqlPipeline.Proofs.Yaml.Scalar

namespace SqlPipeline.Yaml.Scan

section Running

variable {α : Type}

@[simp] theorem run_ite {c : Prop} [Decidable c] (x y : Scan α) (s : Scanner) :
    StateT.run (if c then x else y) s = if c then StateT.run x s else StateT.run y s := by
  split <;> rfl

@[simp] theorem run_emit (t : Token) (s : Scanner) :
    StateT.run (emit t) s = pure ((), { s with tokens := t :: s.tokens }) := rfl

@[simp] theorem run_emitAt (n : Nat) (t : Token) (s : Scanner) : StateT.run (emitAt n t) s
    = pure ((), { s with tokens := s.tokens.insertIdx (s.tokens.length - n) t }) := rfl

@[simp] theorem run_moveTo (p : Place) (s : Scanner) :
    StateT.run (moveTo p) s = pure ((), { s with place := p }) := rfl

@[simp] theorem run_advance (n : Nat) (s : Scanner) :
    StateT.run (advance n) s = pure ((), { s with place := s.place.forward n }) := rfl

@[simp] theorem run_peek (k : Nat) (s : Scanner) :
    StateT.run (peek k) s = pure (s.place.peek k, s) := rfl

@[simp] theorem run_inFlow (s : Scanner) :
    StateT.run inFlow s = pure (decide (s.keys.length > 1), s) := rfl

@[simp] theorem run_allowKey (allowed : Bool) (s : Scanner) :
    StateT.run (allowKey allowed) s = pure ((), { s with mayStartKey := allowed }) := rfl

@[simp] theorem run_skipSpaces (s : Scanner) :
    StateT.run skipSpaces s = pure ((), { s with place := s.place.skipWhile (· == ' ') }) := rfl

end Running

variable {body rest word : List Char} {index line column lines indent : Nat} {c : Char}
  {tokens : List Token} {block outer : Int} {blocks blocks' further : List Int}
  {keys around : List (Option KeyStart)} {mayStartKey newLine : Bool} {key : KeyStart}
  {place p : Place} {s t : Scanner} {text : String}

/-! ### On the way to a token -/

theorem run_skipToToken (hbody : StartsToken body) (hkeys : keys.length ≤ 1 ∨ lines = 0)
    {fuel : Nat} (hfuel : lines < fuel) :
    StateT.run (skipToToken fuel) ⟨⟨gap lines indent ++ body, index, line, column⟩, tokens, block,
        blocks, keys, mayStartKey⟩
      = pure ((),
        ⟨(Place.mk (gap lines indent ++ body) index line column).behindGap lines indent body,
          tokens, block, blocks, keys, mayStartKey || 0 < lines⟩) := by
  induction lines generalizing fuel index line column mayStartKey with
  | zero =>
    obtain ⟨fuel, rfl⟩ := Nat.exists_eq_succ_of_ne_zero (Nat.ne_zero_of_lt hfuel)
    simp [skipToToken, gap_zero_append, Place.skipWhile, Place.takeWhile_spaces hbody.ne_space,
      hbody.peek_ne_hash, hbody.lineBreak?_eq_none, Place.behindGap]
  | succ lines ih =>
    obtain ⟨fuel, rfl⟩ := Nat.exists_eq_succ_of_ne_zero (Nat.ne_zero_of_lt hfuel)
    have hstay : (Place.mk (gap (lines + 1) indent ++ body) index line column).skipWhile (· == ' ')
        = ⟨gap (lines + 1) indent ++ body, index, line, column⟩ := rfl
    have hbreak : (Place.mk (gap (lines + 1) indent ++ body) index line column).lineBreak?
        = some ('\n', ⟨gap lines indent ++ body, index + 1, line + 1, 0⟩) := rfl
    have hpeek : (Place.mk (gap (lines + 1) indent ++ body) index line column).peek 0 = '\n' := rfl
    have hblock : ¬ keys.length > 1 := by omega
    have hindex : index + 1 + lines = index + (lines + 1) := by omega
    have hline : line + 1 + lines = line + (lines + 1) := by omega
    simp [skipToToken, hstay, hpeek, hbreak, hblock,
      ih (Or.inl (by omega)) (Nat.lt_of_succ_lt_succ hfuel), Place.behindGap, hindex, hline]

theorem run_dropKey : StateT.run dropKey ⟨place, tokens, block, blocks, none :: keys, mayStartKey⟩
    = pure ((), ⟨place, tokens, block, blocks, none :: keys, mayStartKey⟩) := by
  simp [dropKey]

/-- A key that need not have been one is forgotten. -/
theorem run_dropKey_some (hkey : key.isRequired = false) :
    StateT.run dropKey ⟨place, tokens, block, blocks, some key :: keys, mayStartKey⟩
      = pure ((), ⟨place, tokens, block, blocks, none :: keys, mayStartKey⟩) := by
  simp [dropKey, hkey]

/-- No key is forgotten that can still end. -/
theorem run_dropStaleKeys (hfresh : ∀ key, some key ∈ keys → isStale place key = false) :
    StateT.run dropStaleKeys ⟨place, tokens, block, blocks, keys, mayStartKey⟩
      = pure ((), ⟨place, tokens, block, blocks, keys, mayStartKey⟩) := by
  have hnone : keys.filterMap (Option.filter (isStale place)) = [] := by
    rw [List.filterMap_eq_nil_iff]
    rintro (_ | key) hkey
    · rfl
    · simp [hfresh key hkey]
  have hkept : keys.map (Option.filter (!isStale place ·)) = keys := by
    conv_rhs => rw [← List.map_id keys]
    refine List.map_congr_left ?_
    rintro (_ | key) hkey
    · rfl
    · simp [hfresh key hkey]
  simp only [dropStaleKeys, StateT.run_bind, StateT.run_get, pure_bind, hnone, hkept, List.any_nil]
  rfl

/-- Just the blocks that are indented further than a column are ended. -/
theorem run_endBlocks {column : Int} (hfurther : ∀ x ∈ further, column < x)
    (houter : outer ≤ column) (hblocks : block :: blocks = further ++ outer :: blocks') :
    StateT.run (endBlocks column blocks) ⟨place, tokens, block, blocks, keys, mayStartKey⟩
      = pure ((), ⟨place, List.replicate further.length .blockEnd ++ tokens, outer, blocks', keys,
          mayStartKey⟩) := by
  induction further generalizing tokens block blocks with
  | nil =>
    obtain ⟨rfl, rfl⟩ := List.cons.inj hblocks
    cases blocks with
    | nil => rfl
    | cons _ _ => simp [endBlocks, Int.not_lt.2 houter]
  | cons x further ih =>
    rw [List.cons_append] at hblocks
    obtain ⟨rfl, rfl⟩ := List.cons.inj hblocks
    obtain ⟨hx, hfurther⟩ := List.forall_mem_cons.1 hfurther
    obtain ⟨next, more, hnext⟩ : ∃ next more, further ++ outer :: blocks' = next :: more := by
      cases further <;> simp
    rw [hnext, endBlocks]
    simp [hx, ih hfurther hnext.symm, List.replicate_succ']

theorem run_unindent {column : Int} (hkeys : keys.length ≤ 1) (hfurther : ∀ x ∈ further, column < x)
    (houter : outer ≤ column) (hblocks : block :: blocks = further ++ outer :: blocks') :
    StateT.run (unindent column) ⟨place, tokens, block, blocks, keys, mayStartKey⟩
      = pure ((), ⟨place, List.replicate further.length .blockEnd ++ tokens, outer, blocks', keys,
          mayStartKey⟩) := by
  have hblock : ¬ 1 < keys.length := by omega
  simp [unindent, hblock, run_endBlocks hfurther houter hblocks]

/-- Between brackets indentation has no meaning. -/
theorem run_unindent_flow {column : Int} (hkeys : 1 < s.keys.length) :
    StateT.run (unindent column) s = pure ((), s) := by
  simp [unindent, hkeys]

/-- That a step of the scanner gets from one state to the other before it looks at the next
    character. -/
def Reaches (s t : Scanner) : Prop :=
  ∃ between, StateT.run (skipToToken (s.place.rest.length + 1)) s = pure ((), between)
    ∧ StateT.run dropStaleKeys between = pure ((), between)
    ∧ between.place = t.place ∧ StateT.run (unindent t.place.column) between = pure ((), t)

/-- A token in a block, at a place `q` behind a gap: the blocks further in are ended. -/
theorem reaches_inBlock {q : Place} (hrest : s.place.rest = gap lines indent ++ body)
    (hq : s.place.behindGap lines indent body = q) (hbody : StartsToken body)
    (hfresh : ∀ key, some key ∈ s.keys → isStale q key = false) (hkeys : s.keys.length ≤ 1)
    (hfurther : ∀ x ∈ further, (q.column : Int) < x) (houter : outer ≤ q.column)
    (hblocks : s.indent :: s.indents = further ++ outer :: blocks) :
    Reaches s ⟨q, List.replicate further.length .blockEnd ++ s.tokens, outer, blocks, s.keys,
      s.mayStartKey || 0 < lines⟩ := by
  obtain ⟨⟨rest, index, line, column⟩, tokens, block, blocks', keys, mayStartKey⟩ := s
  obtain rfl : rest = gap lines indent ++ body := hrest
  subst hq
  exact ⟨_, run_skipToToken hbody (Or.inl hkeys) lt_length_gap_append, run_dropStaleKeys hfresh,
    rfl, run_unindent hkeys hfurther houter hblocks⟩

/-- A token between brackets. -/
theorem reaches_inFlow (hbody : StartsToken s.place.rest)
    (hfresh : ∀ key, some key ∈ s.keys → isStale s.place key = false) (hkeys : 1 < s.keys.length) :
    Reaches s s := by
  obtain ⟨⟨rest, index, line, column⟩, tokens, block, blocks, keys, mayStartKey⟩ := s
  have hskip : StateT.run (skipToToken (rest.length + 1))
        ⟨⟨gap 0 0 ++ rest, index, line, column⟩, tokens, block, blocks, keys, mayStartKey⟩
      = _ := run_skipToToken hbody (Or.inr rfl) (Nat.zero_lt_succ _)
  simp only [Place.behindGap, if_true, Nat.add_zero, Nat.lt_irrefl, decide_false, Bool.or_false]
    at hskip
  exact ⟨_, hskip, run_dropStaleKeys hfresh, rfl, run_unindent_flow hkeys⟩

/-! ### Words -/

/-- Characters that start no plain word, most of them marks. -/
def marks : List Char :=
  ['-', '?', ':', ',', '[', ']', '\x7b', '\x7d', '#', '&', '*', '!', '|', '>', '\'', '"', '%', '@',
    '`']

/-- A character that starts a plain word, whatever follows. -/
def StartsWord (c : Char) : Prop :=
  isGapOrEnd c = false ∧ c ∉ marks

instance (c : Char) : Decidable (StartsWord c) :=
  inferInstanceAs (Decidable (_ ∧ _))

end Scan

/-- The key that may start where a scanner is. -/
def Scanner.key? (s : Scanner) : Option KeyStart :=
  if s.mayStartKey then
    some ⟨s.tokens.length, s.keys.length ≤ 1 && s.indent == s.place.column, s.place.index,
      s.place.line, s.place.column⟩
  else none

namespace Scan

theorem run_rememberKey (hkeys : s.keys = none :: around) :
    StateT.run rememberKey s = pure ((), { s with keys := s.key? :: around }) := by
  obtain ⟨place, tokens, block, blocks, keys, mayStartKey⟩ := s
  obtain rfl : keys = none :: around := hkeys
  cases mayStartKey with
  | true => simp [rememberKey, run_dropKey, Scanner.key?]
  | false => simp [rememberKey, Scanner.key?]

/-- What a word may be a key with is remembered, then the word is read. -/
theorem run_keyable {scan : Scan Token} {token : Token} (hkeys : s.keys = none :: around)
    (hscan : StateT.run scan { s with keys := s.key? :: around, mayStartKey := false }
      = pure (token, t)) :
    StateT.run (keyable scan) s = pure ((), { t with tokens := token :: t.tokens }) := by
  simp [keyable, run_rememberKey hkeys, hscan]

theorem run_keyable_plain (hkeys : s.keys = none :: around)
    (hscalar : plainScalar (!around.isEmpty) (s.indent + 1) s.place = (text, p, newLine)) :
    StateT.run (keyable plain) s = pure ((), { s with
      place := p
      tokens := .scalar true text :: s.tokens
      keys := s.key? :: around
      mayStartKey := newLine }) := by
  have hflow : decide (0 < around.length) = !around.isEmpty := by cases around <;> simp
  rw [run_keyable hkeys (t := { s with place := p, keys := s.key? :: around, mayStartKey := newLine })]
  simp [plain, hflow, hscalar]

theorem run_keyable_quoted (hkeys : s.keys = none :: around)
    (hscalar : quotedScalar s.place = .ok (text, p)) :
    StateT.run (keyable quoted) s = pure ((), { s with
      place := p
      tokens := .scalar false text :: s.tokens
      keys := s.key? :: around
      mayStartKey := false }) := by
  rw [run_keyable hkeys (t := { s with place := p, keys := s.key? :: around, mayStartKey := false })]
  simp [quoted, hscalar]
  rfl

theorem run_step_plain (hst : Reaches s t) (hkeys : t.keys = none :: around)
    (hplace : t.place = ⟨c :: rest, index, line, column⟩)
    (hc : StartsWord c ∨ c = '-' ∧ isGapOrEnd (rest.headD '\x00') = false)
    (hruler : column ≠ 0 ∨ c ≠ '-' ∧ c ≠ '.')
    (hscalar : plainScalar (!around.isEmpty) (t.indent + 1) t.place = (text, p, newLine)) :
    StateT.run step s = pure (true, { t with
      place := p
      tokens := .scalar true text :: t.tokens
      keys := t.key? :: around
      mayStartKey := newLine }) := by
  obtain ⟨between, hskip, hdrop, hsame, hunindent⟩ := hst
  have hmarks : "-?:,[]\x7b\x7d#&*!|>'\"%@`".toList = marks := rfl
  simp only [step, StateT.run_bind, StateT.run_get, pure_bind, hskip, hdrop, hunindent, hsame,
    run_inFlow]
  simp only [hplace, Place.peek_cons, Place.peek_cons_one, startsPlain, hmarks]
  rcases hc with hc | ⟨rfl, hafter⟩
  · obtain ⟨hgap, hc⟩ := hc
    simp only [marks, List.mem_cons, not_or] at hc
    have hdot : column = 0 → c ≠ '.' := by tauto
    simp [hc, hgap, Place.isRuler, run_keyable_plain hkeys hscalar, marks]
    simp +contextual [hdot]
  · have hcolumn : column ≠ 0 := by simpa using hruler
    simp only [hafter]
    simp [hcolumn, run_keyable_plain hkeys hscalar, marks]

theorem run_step_quoted (hst : Reaches s t) (hkeys : t.keys = none :: around)
    (hplace : t.place = ⟨'"' :: rest, index, line, column⟩)
    (hscalar : quotedScalar t.place = .ok (text, p)) :
    StateT.run step s = pure (true, { t with
      place := p
      tokens := .scalar false text :: t.tokens
      keys := t.key? :: around
      mayStartKey := false }) := by
  obtain ⟨between, hskip, hdrop, hsame, hunindent⟩ := hst
  simp only [step, StateT.run_bind, StateT.run_get, pure_bind, hskip, hdrop, hunindent, hsame,
    run_inFlow]
  simp only [hplace, Place.peek_cons, Place.peek_cons_one]
  simp [Place.isRuler, run_keyable_quoted hkeys hscalar]

/-! ### Marks -/

/-- Behind the colon that ends a key: the key has its token, and where it stands further in than
    the blocks around it a block starts with it. -/
theorem run_valueMark (hkeys : s.keys = [some key]) {token : Token}
    (htokens : s.tokens = token :: tokens) (hbefore : key.before = tokens.length) :
    StateT.run valueMark s = pure ((), if s.indent < key.column then
        ⟨s.place.forward 1, .value :: token :: .key :: .mapStart :: tokens, key.column,
          s.indent :: s.indents, [none], false⟩
      else ⟨s.place.forward 1, .value :: token :: .key :: tokens, s.indent, s.indents, [none],
          false⟩) := by
  obtain ⟨place, tokens', block, blocks, keys, mayStartKey⟩ := s
  obtain rfl : keys = [some key] := hkeys
  obtain rfl : tokens' = token :: tokens := htokens
  by_cases hblock : block < key.column
  · have hback : tokens.length + 1 + 1 - tokens.length = 2 := by omega
    simp [valueMark, indentTo, hbefore, hblock, hback]
  · simp [valueMark, indentTo, hbefore, hblock]

theorem run_step_value (hst : Reaches s t) (hkeys : t.keys = [some key]) {token : Token}
    (htokens : t.tokens = token :: tokens) (hbefore : key.before = tokens.length)
    (hplace : t.place = ⟨':' :: rest, index, line, column⟩)
    (hgap : isGapOrEnd (rest.headD '\x00') = true) :
    StateT.run step s = pure (true, if t.indent < key.column then
        ⟨t.place.forward 1, .value :: token :: .key :: .mapStart :: tokens, key.column,
          t.indent :: t.indents, [none], false⟩
      else ⟨t.place.forward 1, .value :: token :: .key :: tokens, t.indent, t.indents, [none],
          false⟩) := by
  obtain ⟨between, hskip, hdrop, hsame, hunindent⟩ := hst
  simp only [step, StateT.run_bind, StateT.run_get, pure_bind, hskip, hdrop, hunindent, hsame,
    run_inFlow]
  simp only [hplace, Place.peek_cons, Place.peek_cons_one, hgap]
  simp [Place.isRuler, run_valueMark hkeys htokens hbefore, hplace]

theorem run_step_openList (hst : Reaches s t) (hkeys : t.keys = none :: around)
    (hplace : t.place = ⟨'[' :: rest, index, line, column⟩) :
    StateT.run step s = pure (true, { t with
      place := t.place.forward 1
      tokens := .openList :: t.tokens
      keys := none :: t.key? :: around
      mayStartKey := true }) := by
  obtain ⟨between, hskip, hdrop, hsame, hunindent⟩ := hst
  simp only [step, StateT.run_bind, StateT.run_get, pure_bind, hskip, hdrop, hunindent, hsame,
    run_inFlow]
  simp only [hplace, Place.peek_cons, Place.peek_cons_one]
  simp [Place.isRuler, openBracket, run_rememberKey hkeys, hplace]

theorem run_step_closeList (hst : Reaches s t) (hkeys : t.keys = some key :: keys :: around)
    (hkey : key.isRequired = false) (hplace : t.place = ⟨']' :: rest, index, line, column⟩) :
    StateT.run step s = pure (true, { t with
      place := t.place.forward 1
      tokens := .closeList :: t.tokens
      keys := keys :: around
      mayStartKey := false }) := by
  obtain ⟨between, hskip, hdrop, hsame, hunindent⟩ := hst
  simp only [step, StateT.run_bind, StateT.run_get, pure_bind, hskip, hdrop, hunindent, hsame,
    run_inFlow]
  simp only [hplace, Place.peek_cons, Place.peek_cons_one]
  obtain ⟨place, tokens, block, blocks, keys', mayStartKey⟩ := t
  obtain rfl : keys' = some key :: keys :: around := hkeys
  obtain rfl : place = ⟨']' :: rest, index, line, column⟩ := hplace
  simp [Place.isRuler, closeBracket, run_dropKey_some hkey]

/-! ### Ends -/

/-- At the end of the text all blocks are ended. -/
theorem run_step_end (hst : Reaches s t) (hkeys : t.keys = [none]) (hrest : t.place.rest = [])
    (hfurther : ∀ x ∈ further, (-1 : Int) < x) (hblocks : t.indent :: t.indents = further ++ [-1]) :
    ∃ s', StateT.run step s = pure (false, s')
      ∧ s'.tokens = List.replicate further.length .blockEnd ++ t.tokens := by
  obtain ⟨between, hskip, hdrop, hsame, hunindent⟩ := hst
  obtain ⟨⟨rest, index, line, column⟩, tokens, block, blocks, keys, mayStartKey⟩ := t
  obtain rfl : keys = [none] := hkeys
  obtain rfl : rest = [] := hrest
  have hend : StateT.run endAll
        ⟨⟨[], index, line, column⟩, tokens, block, blocks, [none], mayStartKey⟩
      = pure ((), ⟨⟨[], index, line, column⟩, List.replicate further.length .blockEnd ++ tokens, -1,
          [], [none], false⟩) := by
    have hkeys : [(none : Option KeyStart)].length ≤ 1 := by simp
    simp [endAll, run_unindent hkeys hfurther (Int.le_refl _) hblocks, run_dropKey]
  refine ⟨⟨⟨[], index, line, column⟩, List.replicate further.length .blockEnd ++ tokens, -1, [],
    [none], false⟩, ?_, rfl⟩
  simp only [step, StateT.run_bind, StateT.run_get, pure_bind, hskip, hdrop, hunindent, hsame,
    run_inFlow]
  simp [hend]

/-- What had to be a key and has not ended on its line is no YAML. -/
theorem run_step_stale (hskip : StateT.run (skipToToken (s.place.rest.length + 1)) s = pure ((), t))
    (hkeys : t.keys = [some key]) (hrequired : key.isRequired = true)
    (hstale : isStale t.place key = true) : StateT.run step s = .error .malformed := by
  have hdrop : StateT.run dropStaleKeys t = .error .malformed := by
    simp [dropStaleKeys, hkeys, hrequired, hstale, Option.filter]
    rfl
  simp only [step, StateT.run_bind, StateT.run_get, pure_bind, hskip, hdrop]
  rfl

end Scan

end SqlPipeline.Yaml
