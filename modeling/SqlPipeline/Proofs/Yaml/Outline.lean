/-
  SqlPipeline/Proofs/Yaml/Outline.lean
  ====================================
  **Maps within maps, written with a key on each line, and their tokens.**

  An outline has lines with a key and a value, and lines with a key alone, whose value is an
  outline that is indented further.  The scanner turns the written outline into its tokens.
  It ends a block only when it comes to the line behind it, so that between two lines the tokens
  that end blocks are still owed (`Inside`), and it starts a block only behind its first
  key (`Opens`).
-/
import SqlPipeline.Yaml.Kind
import SqlPipeline.Proofs.Yaml.Scan

namespace SqlPipeline.Yaml

/-! ### Outlines -/

/-- A value as it is written on the line of its key. -/
inductive Written where
  | plain (word : List Char)
  | quoted (word : List Char)
  | listed (word : List Char)          -- alone between brackets

/-- A map with a key on each line, and with empty lines above them. -/
inductive Outline where
  | done
  | leaf (above : Nat) (key : List Char) (value : Written) (rest : Outline)
  | nest (above : Nat) (key : List Char) (inner rest : Outline)

/-- The text from the start of a line on: a gap and what is behind it. -/
structure Ahead where
  lines : Nat := 0
  indent : Nat := 0
  body : List Char := []

def Ahead.text (a : Ahead) : List Char :=
  gap a.lines a.indent ++ a.body

theorem Ahead.text_zero (body : List Char) : Ahead.text ⟨0, 0, body⟩ = body := rfl

namespace Written

def text : Written → List Char
  | plain word => word
  | quoted word => '"' :: (word ++ ['"'])
  | listed word => '[' :: (word ++ [']'])

def tokens : Written → List Token
  | plain word => [.scalar true (.ofList word)]
  | quoted word => [.scalar false (.ofList word)]
  | listed word => [.openList, .scalar true (.ofList word), .closeList]

/-- Values that can be written so. -/
def Fine : Written → Prop
  | plain word =>
      IsPlain word ∧ ∃ c rest, word = c :: rest ∧ (Scan.StartsWord c ∨ c = '-' ∧ rest ≠ [])
  | quoted word => IsQuotable word
  | listed word => IsBare word ∧ word.length ≤ 1024 ∧ ∃ c rest, word = c :: rest ∧ Scan.StartsWord c

end Written

/-- A word that can be a key. -/
structure IsKey (key : List Char) : Prop where
  bare : IsBare key
  starts : ∃ c rest, key = c :: rest ∧ Scan.StartsWord c ∧ c ≠ '.'
  short : key.length ≤ 1024
  isText : plainTag (.ofList key) = coreTag "str"

namespace Outline

/-- The written outline in a column, and what follows it. -/
def ahead (column : Nat) (more : Ahead) : Outline → Ahead
  | done => more
  | leaf above key value rest =>
      ⟨above, column, key ++ ':' :: ' ' :: (value.text ++ '\n' :: (rest.ahead column more).text)⟩
  | nest above key inner rest =>
      ⟨above, column, key ++ ':' :: '\n' :: (inner.ahead (column + 2) (rest.ahead column more)).text⟩

def tokens : Outline → List Token
  | done => []
  | leaf _ key value rest =>
      [.key, .scalar true (.ofList key), .value] ++ value.tokens ++ rest.tokens
  | nest _ key inner rest =>
      [.key, .scalar true (.ofList key), .value, .mapStart] ++ inner.tokens
        ++ .blockEnd :: rest.tokens

/-- Outlines that can be written so. -/
def Fine : Outline → Prop
  | done => True
  | leaf _ key value rest => IsKey key ∧ value.Fine ∧ rest.Fine
  | nest _ key inner rest => IsKey key ∧ inner ≠ done ∧ inner.Fine ∧ rest.Fine

end Outline

variable {body rest key : List Char} {index line column lines indent : Nat} {c : Char}
  {tokens : List Token} {blocks : List Int} {s s' s'' : Scanner} {more : Ahead} {o : Outline}

theorem Scan.StartsWord.startsToken (h : Scan.StartsWord c) : StartsToken (c :: rest) := by
  rintro d ⟨⟩
  refine ⟨?_, ?_, ?_⟩
  · rintro rfl
    exact absurd h.1 (by decide)
  · rintro rfl
    exact absurd h.2 (by decide)
  · have hgap := h.1
    simp only [isGapOrEnd, isBreakOrEnd, Bool.or_eq_false_iff] at hgap
    exact hgap.2.1

theorem IsKey.startsLine (h : IsKey key) : StartsLine (key ++ rest) := by
  obtain ⟨c, cs, rfl, hc, hdot⟩ := h.starts
  refine ⟨hc.startsToken, ?_⟩
  rintro d ⟨⟩
  exact ⟨fun h => absurd (h ▸ hc.2) (by decide), hdot⟩

namespace Outline

theorem startsLine_ahead (ho : o.Fine) (hmore : StartsLine more.body) :
    StartsLine (o.ahead column more).body := by
  cases o with
  | done => exact hmore
  | leaf above key value rest => exact ho.1.startsLine
  | nest above key inner rest => exact ho.1.startsLine

theorem ne_byteOrderMark_of_head? (ho : o.Fine) (hne : o ≠ .done) :
    ∀ c ∈ (o.ahead column more).body.head?, c ≠ byteOrderMark := by
  have hkey : ∀ {key rest}, IsKey key → ∀ c ∈ (key ++ rest).head?, c ≠ byteOrderMark := by
    intro key rest hkey c hc
    obtain ⟨first, others, rfl, -⟩ := hkey.starts
    obtain rfl := Option.some.inj hc
    exact (hkey.bare first List.mem_cons_self).1.noMark
  cases o with
  | done => exact absurd rfl hne
  | leaf above key value rest => exact hkey ho.1
  | nest above key inner rest => exact hkey ho.1

theorem indent_ahead_le (hmore : more.indent ≤ column) : (o.ahead column more).indent ≤ column := by
  cases o with
  | done => exact hmore
  | leaf above key value rest => exact Nat.le_refl _
  | nest above key inner rest => exact Nat.le_refl _

end Outline

namespace Scan

/-! ### Steps of the scanner -/

/-- That the scanner comes from one state to the other, taking a character at least with each
    step. -/
def Leads (s s' : Scanner) : Prop :=
  ∃ n, n + s'.place.rest.length ≤ s.place.rest.length
    ∧ ∀ fuel, run (fuel + n) s = run fuel s'

theorem Leads.refl (s : Scanner) : Leads s s :=
  ⟨0, by omega, fun _ => rfl⟩

theorem Leads.trans (h : Leads s s') (h' : Leads s' s'') : Leads s s'' := by
  obtain ⟨n, hn, hrun⟩ := h
  obtain ⟨n', hn', hrun'⟩ := h'
  refine ⟨n' + n, by omega, fun fuel => ?_⟩
  rw [← Nat.add_assoc, hrun, hrun']

theorem Leads.step (h : StateT.run step s = pure (true, s'))
    (hshorter : s'.place.rest.length < s.place.rest.length) : Leads s s' := by
  refine ⟨1, by omega, fun fuel => ?_⟩
  rw [run, h]
  rfl

/-! ### Between two lines -/

/-- The scanner at the end of a line, or behind the gap to the next one, where a key may
    start. -/
structure Ready (a : Ahead) (s : Scanner) : Prop where
  keys : s.keys = [none]
  place : ∃ index line,
    (∃ column, s.place = ⟨gap (a.lines + 1) a.indent ++ a.body, index, line, column⟩)
      ∨ s.place = ⟨a.body, index, line, a.indent⟩ ∧ s.mayStartKey = true

/-- The scanner in a block at a column, or further in: the tokens are those that there will be
    when the blocks further in have been ended. -/
def Inside (column : Nat) (blocks : List Int) (tokens : List Token) (s : Scanner) : Prop :=
  ∃ further, s.indent :: s.indents = further ++ (column : Int) :: blocks
    ∧ (∀ x ∈ further, (column : Int) < x)
    ∧ List.replicate further.length .blockEnd ++ s.tokens = tokens

/-- The scanner before a block at a column, the tokens being those with the start of the block. -/
def Opens (column : Nat) (blocks : List Int) (tokens : List Token) (s : Scanner) : Prop :=
  s.indent :: s.indents = blocks ∧ s.indent < column ∧ .mapStart :: s.tokens = tokens

/-- Before the next line the blocks further in have been ended. -/
theorem Ready.reaches {a : Ahead} {outer : Int} {further blocks : List Int} (h : Ready a s)
    (hbody : StartsToken a.body) (hfurther : ∀ x ∈ further, (a.indent : Int) < x)
    (houter : outer ≤ a.indent) (hblocks : s.indent :: s.indents = further ++ outer :: blocks) :
    ∃ index line, Reaches s ⟨⟨a.body, index, line, a.indent⟩,
      List.replicate further.length .blockEnd ++ s.tokens, outer, blocks, [none], true⟩ := by
  obtain ⟨hkeys, index, line, hplace⟩ := h
  have hfresh : ∀ (q : Place) (key : KeyStart), some key ∈ s.keys → isStale q key = false := by
    simp [hkeys]
  rcases hplace with ⟨column, hplace⟩ | ⟨hplace, hmay⟩
  · have hq : s.place.behindGap (a.lines + 1) a.indent a.body
        = ⟨a.body, index + (a.lines + 1) + a.indent, line + (a.lines + 1), a.indent⟩ := by
      simp [Place.behindGap, hplace]
    refine ⟨index + (a.lines + 1) + a.indent, line + (a.lines + 1), ?_⟩
    have hreaches := reaches_inBlock (by rw [hplace]) hq hbody (hfresh _) (by simp [hkeys]) hfurther
      houter hblocks
    simpa [hkeys] using hreaches
  · have hq : s.place.behindGap 0 0 a.body = ⟨a.body, index, line, a.indent⟩ := by
      simp [Place.behindGap, hplace]
    have hreaches := reaches_inBlock (by rw [hplace]; rfl) hq hbody (hfresh _) (by simp [hkeys])
      hfurther houter hblocks
    rw [hkeys, hmay] at hreaches
    exact ⟨index, line, hreaches⟩

theorem Ready.length_body_le {a : Ahead} (h : Ready a s) :
    a.body.length ≤ s.place.rest.length := by
  obtain ⟨index, line, ⟨column, hplace⟩ | ⟨hplace, -⟩⟩ := h.place
  · rw [hplace, List.length_append]
    omega
  · exact Nat.le_of_eq (congrArg (·.rest.length) hplace.symm)

/-- A token that follows directly on the same line, further in than the blocks around it. -/
theorem reaches_onLine (hbody : StartsToken s.place.rest)
    (hfresh : ∀ key, some key ∈ s.keys → isStale s.place key = false) (hkeys : s.keys.length ≤ 1)
    (hblock : s.indent ≤ s.place.column) : Reaches s s := by
  have hq : s.place.behindGap 0 0 s.place.rest = s.place := by
    simp [Place.behindGap]
  have hnone : ∀ x ∈ ([] : List Int), (s.place.column : Int) < x := by simp
  have hgap : s.place.rest = gap 0 0 ++ s.place.rest := rfl
  simpa using reaches_inBlock hgap hq hbody hfresh hkeys hnone hblock rfl

/-- A key with its colon. -/
theorem Reaches.leads_key {block : Int} (hkey : IsKey key) (hc : isGapOrEnd c = true)
    (hst : Reaches s ⟨⟨key ++ ':' :: c :: rest, index, line, column⟩, tokens, block, blocks, [none],
      true⟩) (hblock : block ≤ column)
    (hlength : key.length + rest.length + 2 ≤ s.place.rest.length) :
    ∃ index column', column < column' ∧ Leads s (if block < column then
        ⟨⟨c :: rest, index, line, column'⟩,
          .value :: .scalar true (.ofList key) :: .key :: .mapStart :: tokens, column,
          block :: blocks, [none], false⟩
      else ⟨⟨c :: rest, index, line, column'⟩,
          .value :: .scalar true (.ofList key) :: .key :: tokens, block, blocks, [none],
          false⟩) := by
  obtain ⟨first, others, rfl, hfirst, hdot⟩ := hkey.starts
  have hhyphen : first ≠ '-' := fun h => absurd (h ▸ hfirst.2) (by decide)
  have hhash : (first :: others).head? ≠ some '#' := fun h =>
    absurd (Option.some.inj h ▸ hfirst.2) (by decide)
  have hstop : Stops false (':' :: c :: rest) := by
    simp [Stops, plainLength, hc]
  have hword := run_step_plain hst rfl rfl (Or.inl hfirst) (Or.inr ⟨hhyphen, hdot⟩)
    (plainScalar_bare hkey.bare (by simp) hhash (by decide) (by decide) hstop)
  -- the key is still fresh at its colon, because it is short
  let start : KeyStart := ⟨tokens.length, true && block == column, index, line, column⟩
  let word : Scanner := ⟨⟨':' :: c :: rest, index + (first :: others).length, line,
    column + (first :: others).length⟩, .scalar true (.ofList (first :: others)) :: tokens, block,
    blocks, [some start], false⟩
  have hcolon : StartsToken word.place.rest := by
    rintro d ⟨⟩
    decide
  have hfresh : ∀ key, some key ∈ word.keys → isStale word.place key = false := by
    have hshort := hkey.short
    simp only [word, start, List.mem_singleton, Option.some.injEq, forall_eq, isStale]
    simp at hshort ⊢
    omega
  have hreaches : Reaches word word := reaches_onLine hcolon hfresh (by simp [word]) (by
    simp only [word]
    omega)
  have hforward : word.place.forward 1 = ⟨c :: rest, index + (first :: others).length + 1, line,
      column + (first :: others).length + 1⟩ := Place.forward_one (by decide)
  have hvalue := run_step_value hreaches rfl rfl rfl rfl hc
  rw [hforward] at hvalue
  refine ⟨_, _, ?_, (Leads.step hword ?_).trans (Leads.step hvalue ?_)⟩
  · omega
  · simp only [List.length_cons] at hlength ⊢
    omega
  · split <;> simp

/-- Behind the key of a line the blocks further in have been ended, and a block that had to be
    started has been. -/
theorem Ready.leads_key {a : Ahead} (hready : Ready a s) (hbody : a.body = key ++ ':' :: c :: rest)
    (hkey : IsKey key) (hc : isGapOrEnd c = true)
    (h : Inside a.indent blocks tokens s ∨ Opens a.indent blocks tokens s) :
    ∃ index line column, a.indent < column ∧ Leads s ⟨⟨c :: rest, index, line, column⟩,
      .value :: .scalar true (.ofList key) :: .key :: tokens, a.indent, blocks, [none], false⟩ := by
  have hstarts : StartsToken a.body := hbody ▸ hkey.startsLine.1
  have hlength : key.length + rest.length + 2 ≤ s.place.rest.length := by
    have hle := hready.length_body_le
    simp only [hbody, List.length_append, List.length_cons] at hle
    omega
  rcases h with ⟨further, hblocks, hfurther, htokens⟩ | ⟨hblocks, hblock, htokens⟩
  · obtain ⟨index, line, hreaches⟩ := hready.reaches hstarts hfurther (Int.le_refl _) hblocks
    rw [htokens, hbody] at hreaches
    obtain ⟨index, column, hcolumn, hleads⟩ := hreaches.leads_key hkey hc (Int.le_refl _) hlength
    rw [if_neg (Int.lt_irrefl _)] at hleads
    exact ⟨index, line, column, hcolumn, hleads⟩
  · have hnone : ∀ x ∈ ([] : List Int), (a.indent : Int) < x := by simp
    obtain ⟨index, line, hreaches⟩ := hready.reaches hstarts hnone (Int.le_of_lt hblock) rfl
    rw [hbody] at hreaches
    obtain ⟨index, column, hcolumn, hleads⟩ :=
      hreaches.leads_key hkey hc (Int.le_of_lt hblock) hlength
    rw [if_pos hblock, hblocks] at hleads
    exact ⟨index, line, column, hcolumn, htokens ▸ hleads⟩

/-- Behind the colon and a space. -/
theorem reaches_behindSpace {block : Int} (index line : Nat) (tokens : List Token)
    (blocks : List Int) (hbody : StartsToken body) (hblock : block < column) :
    Reaches ⟨⟨' ' :: body, index, line, column⟩, tokens, block, blocks, [none], false⟩
      ⟨⟨body, index + 1, line, column + 1⟩, tokens, block, blocks, [none], false⟩ := by
  let before : Scanner :=
    ⟨⟨' ' :: body, index, line, column⟩, tokens, block, blocks, [none], false⟩
  have hrest : before.place.rest = gap 0 1 ++ body := rfl
  have hq : before.place.behindGap 0 1 body = ⟨body, index + 1, line, column + 1⟩ := rfl
  have hfresh : ∀ (q : Place) (key : KeyStart), some key ∈ before.keys → isStale q key = false := by
    simp [before]
  have hnone : ∀ x ∈ ([] : List Int), ((column + 1 : Nat) : Int) < x := by simp
  exact reaches_inBlock hrest hq hbody (hfresh _) (Nat.le_refl _) hnone (by simp; omega) rfl

/-- Where the scanner is behind the value of a key. -/
def Behind (value : Written) (more : Ahead) (tokens : List Token) (block : Int)
    (blocks : List Int) (s : Scanner) : Prop :=
  Ready more s ∧ s.indent = block ∧ s.indents = blocks ∧ s.tokens = value.tokens.reverse ++ tokens

section Values

variable {word : List Char} {block : Int}

/-- A plain value ends with its line, because no line that is indented further follows. -/
theorem leads_plain (hword : (Written.plain word).Fine) (hmore : StartsLine more.body)
    (hindent : (more.indent : Int) ≤ block) (hblock : block < column) :
    ∃ s', Leads ⟨⟨' ' :: (word ++ '\n' :: more.text), index, line, column⟩, tokens, block, blocks,
        [none], false⟩ s' ∧ Behind (.plain word) more tokens block blocks s' := by
  obtain ⟨hplain, c, cs, rfl, hc⟩ := hword
  have hhash : (c :: cs).head? ≠ some '#' := by
    rintro ⟨⟩
    rcases hc with hc | ⟨hc, -⟩
    · exact absurd hc.2 (by decide)
    · exact absurd hc (by decide)
  have hstarts : StartsToken (c :: cs ++ '\n' :: more.text) := by
    rcases hc with hc | ⟨rfl, -⟩
    · exact hc.startsToken
    · rintro d ⟨⟩
      decide
  have hafter : StartsWord c
      ∨ c = '-' ∧ isGapOrEnd ((cs ++ '\n' :: more.text).headD '\x00') = false := by
    refine hc.imp_right ?_
    rintro ⟨rfl, hcs⟩
    cases cs with
    | nil => exact absurd rfl hcs
    | cons d ds => exact ⟨rfl, (hplain.solid d (by simp)).noGap⟩
  have hreaches := reaches_behindSpace index line tokens blocks hstarts hblock
  have hstep := run_step_plain hreaches rfl rfl hafter (Or.inl (by omega))
    (plainScalar_endOfLine hplain (by simp) hhash hmore (Int.lt_add_one_of_le hindent))
  refine ⟨_, Leads.step hstep ?_, ⟨rfl, _, _, Or.inr ⟨rfl, rfl⟩⟩, rfl, rfl, rfl⟩
  simp only [Ahead.text, List.length_append, List.length_cons]
  omega

theorem leads_quoted (hword : IsQuotable word) (hblock : block < column) :
    ∃ s', Leads ⟨⟨' ' :: '"' :: (word ++ '"' :: '\n' :: more.text), index, line, column⟩, tokens,
        block, blocks, [none], false⟩ s' ∧ Behind (.quoted word) more tokens block blocks s' := by
  have hstarts : StartsToken ('"' :: (word ++ '"' :: '\n' :: more.text)) := by
    rintro d ⟨⟩
    decide
  have hreaches := reaches_behindSpace index line tokens blocks hstarts hblock
  have hstep := run_step_quoted hreaches rfl rfl (quotedScalar_word hword)
  refine ⟨_, Leads.step hstep ?_, ⟨rfl, _, _, Or.inl ⟨_, rfl⟩⟩, rfl, rfl, rfl⟩
  simp only [List.length_append, List.length_cons]
  omega

/-- A word between brackets may be a key there, which is forgotten at the closing bracket. -/
theorem leads_listed (hword : (Written.listed word).Fine) (hblock : block < column) :
    ∃ s', Leads ⟨⟨' ' :: '[' :: (word ++ ']' :: '\n' :: more.text), index, line, column⟩, tokens,
        block, blocks, [none], false⟩ s' ∧ Behind (.listed word) more tokens block blocks s' := by
  obtain ⟨hbare, hshort, c, cs, rfl, hc⟩ := hword
  have hstarts : StartsToken ('[' :: (c :: cs ++ ']' :: '\n' :: more.text)) := by
    rintro d ⟨⟩
    decide
  have hhash : (c :: cs).head? ≠ some '#' := fun h =>
    absurd (Option.some.inj h ▸ hc.2) (by decide)
  have hreaches := reaches_behindSpace index line tokens blocks hstarts hblock
  have hopen := run_step_openList hreaches rfl rfl
  let opened : Scanner := ⟨⟨c :: cs ++ ']' :: '\n' :: more.text, index + 2, line, column + 2⟩,
    .openList :: tokens, block, blocks, [none, none], true⟩
  have hinside : Reaches opened opened :=
    reaches_inFlow hc.startsToken (by simp [opened]) (by simp [opened])
  have hitem := run_step_plain hinside rfl rfl (Or.inl hc) (Or.inl (by omega))
    (plainScalar_bare hbare (by simp) hhash (by decide) (by decide) rfl)
  let key : KeyStart := ⟨tokens.length + 1, false, index + 2, line, column + 2⟩
  let read : Scanner := ⟨⟨']' :: '\n' :: more.text, index + 2 + (c :: cs).length, line,
    column + 2 + (c :: cs).length⟩, .scalar true (.ofList (c :: cs)) :: .openList :: tokens, block,
    blocks, [some key, none], false⟩
  have hfresh : ∀ key, some key ∈ read.keys → isStale read.place key = false := by
    simp only [read, List.mem_cons, Option.some.injEq, reduceCtorEq, List.not_mem_nil, or_false,
      forall_eq, isStale, key]
    simp at hshort ⊢
    omega
  have hclosing : StartsToken read.place.rest := by
    rintro d ⟨⟩
    decide
  have hclose := run_step_closeList (reaches_inFlow hclosing hfresh (by simp [read])) rfl rfl rfl
  refine ⟨_, ((Leads.step hopen ?_).trans (Leads.step hitem ?_)).trans (Leads.step hclose ?_),
    ⟨rfl, _, _, Or.inl ⟨_, rfl⟩⟩, rfl, rfl, rfl⟩
  · simp only [List.length_append, List.length_cons,
      Place.forward_one (show TakesColumn '[' by decide)]
    omega
  · simp only [List.length_append, List.length_cons,
      Place.forward_one (show TakesColumn '[' by decide)]
    omega
  · simp [read, Place.forward_one (show TakesColumn ']' by decide)]

end Values

/-- A value on the line of its key. -/
theorem leads_value {value : Written} {block : Int} (hvalue : value.Fine)
    (hmore : StartsLine more.body) (hindent : (more.indent : Int) ≤ block)
    (hblock : block < column) :
    ∃ s', Leads ⟨⟨' ' :: (value.text ++ '\n' :: more.text), index, line, column⟩, tokens, block,
        blocks, [none], false⟩ s' ∧ Behind value more tokens block blocks s' := by
  cases value with
  | plain word => exact leads_plain hvalue hmore hindent hblock
  | quoted word =>
    rw [Written.text, List.cons_append, List.append_assoc]
    exact leads_quoted hvalue hblock
  | listed word =>
    rw [Written.text, List.cons_append, List.append_assoc]
    exact leads_listed hvalue hblock

/-! ### Whole outlines -/

/-- In the column of a block that has been ended its end is among the tokens. -/
theorem Inside.outer {column' : Nat} (hcolumn : column < column')
    (h : Inside column' ((column : Int) :: blocks) tokens s) :
    Inside column blocks (.blockEnd :: tokens) s := by
  obtain ⟨further, hblocks, hfurther, htokens⟩ := h
  refine ⟨further ++ [(column' : Int)], ?_, ?_, ?_⟩
  · rw [hblocks, List.append_assoc, List.singleton_append]
  · intro x hx
    rcases List.mem_append.1 hx with hx | hx
    · exact Int.lt_trans (by omega) (hfurther x hx)
    · rw [List.mem_singleton.1 hx]
      omega
  · rw [List.length_append, List.length_singleton, List.replicate_succ, ← htokens, List.cons_append]

/-- **The scanner goes over a written outline and leaves its tokens,** up to the ends of the blocks
    that it is still in. -/
theorem leads_outline (ho : o.Fine) (hmore : StartsLine more.body) (hindent : more.indent ≤ column)
    (hready : Ready (o.ahead column more) s)
    (h : Inside column blocks tokens s ∨ Opens column blocks tokens s ∧ o ≠ .done) :
    ∃ s', Leads s s' ∧ Ready more s' ∧ Inside column blocks (o.tokens.reverse ++ tokens) s' := by
  induction o generalizing column blocks tokens s more with
  | done => exact ⟨s, .refl s, hready, h.resolve_right fun h => h.2 rfl⟩
  | leaf above key value rest ih =>
    obtain ⟨hkey, hvalue, hrest⟩ := ho
    obtain ⟨index, line, column', hcolumn, hleads⟩ :=
      hready.leads_key rfl hkey rfl (h.imp_right And.left)
    obtain ⟨s₁, hleads₁, hready₁, hblock, hblocks, htokens⟩ :=
      leads_value hvalue (Outline.startsLine_ahead hrest hmore)
        (Int.ofNat_le.2 (Outline.indent_ahead_le hindent)) (Int.ofNat_lt.2 hcolumn)
    have hinside : Inside column blocks
        (value.tokens.reverse ++ .value :: .scalar true (.ofList key) :: .key :: tokens) s₁ :=
      ⟨[], by rw [hblock, hblocks]; rfl, by simp, htokens⟩
    obtain ⟨s₂, hleads₂, hready₂, hinside₂⟩ := ih hrest hmore hindent hready₁ (Or.inl hinside)
    refine ⟨s₂, (hleads.trans hleads₁).trans hleads₂, hready₂, ?_⟩
    simpa [Outline.tokens] using hinside₂
  | nest above key inner rest ihInner ihRest =>
    obtain ⟨hkey, hne, hinner, hrest⟩ := ho
    obtain ⟨index, line, column', hcolumn, hleads⟩ :=
      hready.leads_key rfl hkey rfl (h.imp_right And.left)
    -- the block starts only with the first key of the inner outline
    let next := rest.ahead column more
    let behindKey : Scanner :=
      ⟨⟨'\n' :: (inner.ahead (column + 2) next).text, index, line, column'⟩,
      .value :: .scalar true (.ofList key) :: .key :: tokens, column, blocks, [none], false⟩
    have hopens : Opens (column + 2) ((column : Int) :: blocks)
        (.mapStart :: .value :: .scalar true (.ofList key) :: .key :: tokens) behindKey :=
      ⟨rfl, Int.ofNat_lt.2 (Nat.lt_add_of_pos_right Nat.two_pos), rfl⟩
    have hnext : next.indent ≤ column + 2 :=
      Nat.le_trans (Outline.indent_ahead_le hindent) (Nat.le_add_right _ _)
    obtain ⟨s₁, hleads₁, hready₁, hinside₁⟩ := ihInner hinner
      (Outline.startsLine_ahead hrest hmore) hnext ⟨rfl, _, _, Or.inl ⟨_, rfl⟩⟩
      (Or.inr ⟨hopens, hne⟩)
    have hinside := hinside₁.outer (Nat.lt_add_of_pos_right Nat.two_pos)
    obtain ⟨s₂, hleads₂, hready₂, hinside₂⟩ := ihRest hrest hmore hindent hready₁ (Or.inl hinside)
    refine ⟨s₂, (hleads.trans hleads₁).trans hleads₂, hready₂, ?_⟩
    simpa [Outline.tokens] using hinside₂

end Scan

/-! ### Texts -/

theorem Written.isAllowed_text {value : Written} (hvalue : value.Fine) :
    ∀ c ∈ value.text, isAllowed c = true := by
  cases value with
  | plain word => exact fun c hc => (hvalue.1.solid c hc).isAllowed
  | quoted word =>
    have hquote : isAllowed '"' = true := by decide
    simpa [Written.text, hquote, or_imp, forall_and] using fun c hc => (hvalue c hc).1.isAllowed
  | listed word =>
    have hbrackets : isAllowed '[' = true ∧ isAllowed ']' = true := by decide
    simpa [Written.text, hbrackets, or_imp, forall_and] using
      fun c hc => (hvalue.1 c hc).1.isAllowed

theorem isAllowed_gap : ∀ c ∈ gap lines indent, isAllowed c = true := by
  intro c hc
  rcases List.mem_append.1 hc with hc | hc
  · rw [List.eq_of_mem_replicate hc]
    decide
  · rw [List.eq_of_mem_replicate hc]
    decide

theorem Outline.isAllowed_ahead (ho : o.Fine) (hmore : ∀ c ∈ more.text, isAllowed c = true) :
    ∀ c ∈ (o.ahead column more).text, isAllowed c = true := by
  have hmarks : isAllowed ':' = true ∧ isAllowed ' ' = true ∧ isAllowed '\n' = true := by decide
  induction o generalizing column more with
  | done => exact hmore
  | leaf above key value rest ih =>
    obtain ⟨hkey, hvalue, hrest⟩ := ho
    have hword : ∀ c ∈ key, isAllowed c = true := fun c hc => (hkey.bare c hc).1.isAllowed
    simp only [Ahead.text, Outline.ahead, List.forall_mem_append, List.forall_mem_cons, hmarks,
      true_and]
    exact ⟨isAllowed_gap, hword, Written.isAllowed_text hvalue,
      List.forall_mem_append.1 (ih hrest hmore)⟩
  | nest above key inner rest ihInner ihRest =>
    obtain ⟨hkey, -, hinner, hrest⟩ := ho
    have hword : ∀ c ∈ key, isAllowed c = true := fun c hc => (hkey.bare c hc).1.isAllowed
    simp only [Ahead.text, Outline.ahead, List.forall_mem_append, List.forall_mem_cons, hmarks,
      true_and]
    exact ⟨isAllowed_gap, hword, List.forall_mem_append.1 (ihInner hinner (ihRest hrest hmore))⟩

/-- Scanning a text that starts with an outline comes to what follows it. -/
theorem Token.exists_ofText (ho : o.Fine) (hne : o ≠ .done) (hfirst : (o.ahead 0 more).lines = 0)
    (hmore : StartsLine more.body) (hindent : more.indent = 0)
    (hallowed : ∀ c ∈ more.text, isAllowed c = true) :
    ∃ s, Scan.Ready more s ∧ Scan.Inside 0 [-1] (o.tokens.reverse ++ [.mapStart]) s
      ∧ ∃ fuel, s.place.rest.length < fuel
        ∧ Token.ofText (o.ahead 0 more).text = Scan.run fuel s := by
  have hindent' : (o.ahead 0 more).indent = 0 :=
    Nat.le_zero.1 (Outline.indent_ahead_le (Nat.le_zero.2 hindent))
  have htext : (o.ahead 0 more).text = (o.ahead 0 more).body := by
    rw [Ahead.text, hfirst, hindent']
    rfl
  have hstart : ((Place.mk (o.ahead 0 more).text 0 0 0).peek 0 == byteOrderMark) = false := by
    rw [htext]
    exact beq_false_of_ne (Place.peek_ne (by decide) (Outline.ne_byteOrderMark_of_head? ho hne))
  have hready : Scan.Ready (o.ahead 0 more) { place := ⟨(o.ahead 0 more).text, 0, 0, 0⟩ } := by
    refine ⟨rfl, 0, 0, Or.inr ⟨?_, rfl⟩⟩
    rw [htext, hindent']
  have hopens : Scan.Opens 0 [-1] [.mapStart] { place := ⟨(o.ahead 0 more).text, 0, 0, 0⟩ } :=
    ⟨rfl, Int.negSucc_lt_zero 0, rfl⟩
  obtain ⟨s, ⟨n, hn, hrun⟩, hends, hinside⟩ :=
    Scan.leads_outline ho hmore (Nat.le_zero.2 hindent) hready (Or.inr ⟨hopens, hne⟩)
  simp only at hn
  refine ⟨s, hends, hinside, (o.ahead 0 more).text.length + 1 - n, by omega, ?_⟩
  have hfuel : (o.ahead 0 more).text.length + 1 = (o.ahead 0 more).text.length + 1 - n + n := by
    omega
  have hall : (o.ahead 0 more).text.all isAllowed = true :=
    List.all_eq_true.2 (Outline.isAllowed_ahead ho hallowed)
  rw [Token.ofText, hall, hfuel, ← hrun]
  simp [hstart]

/-- **The tokens of a written outline,** which is all that the text has. -/
theorem Token.ofText_outline (ho : o.Fine) (hne : o ≠ .done) (hfirst : (o.ahead 0 {}).lines = 0) :
    Token.ofText (o.ahead 0 {}).text = .mapStart :: (o.tokens ++ [.blockEnd]) := by
  obtain ⟨s, hready, ⟨further, hblocks, hfurther, htokens⟩, fuel, hfuel, htext⟩ :=
    Token.exists_ofText ho hne hfirst StartsLine.nil rfl (by simp [Ahead.text, gap])
  obtain ⟨index, line, hreaches⟩ := hready.reaches StartsToken.nil hfurther (Int.le_refl _) hblocks
  have hone : ∀ x ∈ ([0] : List Int), -1 < x := by decide
  obtain ⟨s', hend, htokens'⟩ := Scan.run_step_end hreaches rfl rfl hone rfl
  obtain ⟨fuel, rfl⟩ := Nat.exists_eq_succ_of_ne_zero (Nat.ne_zero_of_lt hfuel)
  rw [htext, Scan.run, hend]
  simp only [pure, Except.pure]
  rw [htokens', htokens]
  simp

/-- Behind an outline, in the column of its keys, a word alone is no key. -/
theorem Token.ofText_looseWord {word : List Char} (ho : o.Fine) (hne : o ≠ .done)
    (hfirst : (o.ahead 0 ⟨0, 0, word ++ ['\n']⟩).lines = 0) (hword : IsPlain word)
    (hstarts : ∃ c rest, word = c :: rest ∧ Scan.StartsWord c ∧ c ≠ '.') :
    Token.ofText (o.ahead 0 ⟨0, 0, word ++ ['\n']⟩).text
      = .mapStart :: (o.tokens ++ [.scalar true (.ofList word), .bad .malformed]) := by
  obtain ⟨c, cs, rfl, hc, hdot⟩ := hstarts
  have hhyphen : c ≠ '-' := fun h => absurd (h ▸ hc.2) (by decide)
  have hhash : (c :: cs).head? ≠ some '#' := fun h =>
    absurd (Option.some.inj h ▸ hc.2) (by decide)
  have hline : StartsLine (c :: cs ++ ['\n']) := by
    refine ⟨hc.startsToken, ?_⟩
    rintro d ⟨⟩
    exact ⟨hhyphen, hdot⟩
  have hallowed : ∀ d ∈ (Ahead.mk 0 0 (c :: cs ++ ['\n'])).text, isAllowed d = true := by
    have hnewline : isAllowed '\n' = true := by decide
    simpa [Ahead.text, gap, hnewline, or_imp, forall_and] using
      fun d hd => (hword.solid d hd).isAllowed
  obtain ⟨s, hready, ⟨further, hblocks, hfurther, htokens⟩, fuel, hfuel, htext⟩ :=
    Token.exists_ofText ho hne hfirst hline rfl hallowed
  obtain ⟨index, line, hreaches⟩ := hready.reaches hline.1 hfurther (Int.le_refl _) hblocks
  let here : Scanner := ⟨⟨c :: cs ++ ['\n'], index, line, 0⟩,
    List.replicate further.length .blockEnd ++ s.tokens, 0, [-1], [none], true⟩
  have hhere : Scan.Reaches s here := hreaches
  have hend : ['\n'] = gap (0 + 1) 0 ++ [] := rfl
  have hscalar : plainScalar false (here.indent + 1) here.place
      = (.ofList (c :: cs), ⟨[], index + (c :: cs).length + 1, line + 1, 0⟩, true) := by
    simp only [here]
    rw [hend, plainScalar_endOfLine hword (by simp) hhash StartsLine.nil (by simp)]
  have hstep := Scan.run_step_plain hhere rfl rfl (Or.inl hc) (Or.inr ⟨hhyphen, hdot⟩) hscalar
  -- the word had to be a key, and its line is over
  let start : KeyStart := ⟨here.tokens.length, true, index, line, 0⟩
  have hkey : here.key? = some start := by
    simp [here, start, Scanner.key?]
  rw [hkey] at hstep
  let past : Scanner := ⟨⟨[], index + (c :: cs).length + 1, line + 1, 0⟩,
    .scalar true (.ofList (c :: cs)) :: here.tokens, 0, [-1], [some start], true⟩
  have hskip : StateT.run (Scan.skipToToken (past.place.rest.length + 1)) past = pure ((), past) :=
    rfl
  have hstale : Scan.isStale past.place start = true := by
    simp [past, start, Scan.isStale]
  have hfail := Scan.run_step_stale hskip rfl rfl hstale
  have hlong := hready.length_body_le
  obtain ⟨fuel, rfl⟩ : ∃ n, fuel = n + 2 := ⟨fuel - 2, by
    simp only [List.length_append, List.length_cons] at hlong
    omega⟩
  rw [htext, Scan.run, hstep]
  change Scan.run (fuel + 1) past = _
  rw [Scan.run, hfail]
  simp [past, here, htokens]

end SqlPipeline.Yaml
