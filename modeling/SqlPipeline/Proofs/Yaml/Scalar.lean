/-
  SqlPipeline/Proofs/Yaml/Scalar.lean
  ===================================
  **Words, plain or between quotes, are read as they are written.**

  A word has no line breaks, so a place behind it is on the same line, as many columns further on.
  Between two lines with text there is a gap of empty lines and the indentation of the second;
  a place behind it is at the column of that indentation.

  A plain word ends at the end of its line, if the next line with text is not indented further
  than the block around it.  It ends as well at a colon before a gap, and between brackets at
  what belongs to them.
-/
import SqlPipeline.Yaml.Scalar
import Mathlib.Tactic.Common

namespace SqlPipeline.Yaml

variable {word body rest : List Char} {index line column lines indent : Nat} {c : Char}

/-! ### Characters -/

/-- A character that takes one column and leaves the line as it is. -/
def TakesColumn (c : Char) : Prop :=
  isBreak c = false ∧ c ≠ byteOrderMark

instance (c : Char) : Decidable (TakesColumn c) :=
  inferInstanceAs (Decidable (_ ∧ _))

/-- A character that may stand inside a word. -/
structure IsSolid (c : Char) : Prop where
  noGap : isGapOrEnd c = false
  noMark : c ≠ byteOrderMark
  isAllowed : isAllowed c = true

instance (c : Char) : Decidable (IsSolid c) :=
  decidable_of_iff (isGapOrEnd c = false ∧ c ≠ byteOrderMark ∧ isAllowed c = true)
    ⟨fun h => ⟨h.1, h.2.1, h.2.2⟩, fun h => ⟨h.noGap, h.noMark, h.isAllowed⟩⟩

theorem isSolid_of_all (h : (word.all fun c => decide (IsSolid c)) = true) :
    ∀ c ∈ word, IsSolid c :=
  fun c hc => of_decide_eq_true (List.all_eq_true.1 h c hc)

theorem IsSolid.takesColumn (h : IsSolid c) : TakesColumn c := by
  have hgap := h.noGap
  simp only [isGapOrEnd, isBreakOrEnd, Bool.or_eq_false_iff] at hgap
  exact ⟨hgap.2.1, h.noMark⟩

/-! ### Places -/

namespace Place

@[simp] theorem peek_cons (c : Char) (rest : List Char) (index line column : Nat) :
    peek ⟨c :: rest, index, line, column⟩ 0 = c := rfl

@[simp] theorem peek_cons_one (c : Char) (rest : List Char) (index line column : Nat) :
    peek ⟨c :: rest, index, line, column⟩ 1 = rest.headD '\x00' := by
  cases rest <;> rfl

@[simp] theorem peek_nil (index line column k : Nat) :
    peek ⟨[], index, line, column⟩ k = '\x00' := rfl

/-- What does not start the rest is not seen. -/
theorem peek_ne {d : Char} (hd : d ≠ '\x00') (h : ∀ c ∈ rest.head?, c ≠ d) :
    peek ⟨rest, index, line, column⟩ 0 ≠ d := by
  cases rest with
  | nil => exact hd.symm
  | cons c rest => exact h c rfl

@[simp] theorem forward_zero (p : Place) : p.forward 0 = p := rfl

theorem next_of_takesColumn (h : TakesColumn c) :
    next ⟨c :: rest, index, line, column⟩ = ⟨rest, index + 1, line, column + 1⟩ := by
  simp [next, h.1, h.2]

theorem forward_one (h : TakesColumn c) :
    forward 1 ⟨c :: rest, index, line, column⟩ = ⟨rest, index + 1, line, column + 1⟩ := by
  rw [forward, forward_zero, next_of_takesColumn h]

/-- A word is passed on its line. -/
theorem forward_word (h : ∀ c ∈ word, TakesColumn c) :
    forward word.length ⟨word ++ rest, index, line, column⟩
      = ⟨rest, index + word.length, line, column + word.length⟩ := by
  induction word generalizing index column with
  | nil => rfl
  | cons c word ih =>
    obtain ⟨hc, hword⟩ := List.forall_mem_cons.1 h
    rw [List.length_cons, forward, List.cons_append, next_of_takesColumn hc, ih hword]
    simp only [mk.injEq, true_and]
    omega

/-- What passes a test is passed, up to the first character that fails it. -/
theorem takeWhile_word {test : Char → Bool} (h : ∀ c ∈ word, TakesColumn c)
    (htest : ∀ c ∈ word, test c = true) (hrest : ∀ c ∈ rest.head?, test c = false) :
    takeWhile test ⟨word ++ rest, index, line, column⟩
      = (word, ⟨rest, index + word.length, line, column + word.length⟩) := by
  have htaken : (word ++ rest).takeWhile test = word := by
    rw [List.takeWhile_append_of_pos htest]
    cases rest with
    | nil => simp
    | cons c rest => simp [hrest c rfl]
  simp only [takeWhile, htaken, forward_word h]

/-- Spaces are passed, up to the first character that is none. -/
theorem takeWhile_spaces (hrest : ∀ c ∈ rest.head?, c ≠ ' ') :
    takeWhile (· == ' ') ⟨List.replicate indent ' ' ++ rest, index, line, column⟩
      = (List.replicate indent ' ', ⟨rest, index + indent, line, column + indent⟩) := by
  have hspace : ∀ c ∈ List.replicate indent ' ', c = ' ' := fun c => List.eq_of_mem_replicate
  rw [takeWhile_word (fun c hc => hspace c hc ▸ (by decide))
    (fun c hc => by simp [hspace c hc]) (fun c hc => by simpa using hrest c hc),
    List.length_replicate]

end Place

/-! ### Gaps -/

/-- Empty lines, and the indentation of the line behind them. -/
def gap (lines indent : Nat) : List Char :=
  List.replicate lines '\n' ++ List.replicate indent ' '

theorem lt_length_gap_append :
    lines < (gap lines indent ++ body).length + 1 := by
  rw [gap, List.length_append, List.length_append, List.length_replicate]
  omega

theorem gap_zero_append :
    gap 0 indent ++ rest = List.replicate indent ' ' ++ rest := rfl

/-- The place behind a gap, where the rest of the text is `body`. -/
def Place.behindGap (p : Place) (lines indent : Nat) (body : List Char) : Place :=
  ⟨body, p.index + lines + indent, p.line + lines, (if lines = 0 then p.column else 0) + indent⟩

/-- A text that does not go on with a gap or a comment. -/
def StartsToken (body : List Char) : Prop :=
  ∀ c ∈ body.head?, c ≠ ' ' ∧ c ≠ '#' ∧ isBreak c = false

/-- Such a text that does not separate documents either. -/
def StartsLine (body : List Char) : Prop :=
  StartsToken body ∧ ∀ c ∈ body.head?, c ≠ '-' ∧ c ≠ '.'

namespace StartsToken

theorem nil : StartsToken [] := by
  intro c hc
  cases hc

theorem ne_space (h : StartsToken body) : ∀ c ∈ body.head?, c ≠ ' ' :=
  fun c hc => (h c hc).1

theorem peek_ne_hash (h : StartsToken body) :
    (Place.mk body index line column).peek 0 ≠ '#' :=
  Place.peek_ne (by decide) fun c hc => (h c hc).2.1

theorem lineBreak?_eq_none (h : StartsToken body) :
    (Place.mk body index line column).lineBreak? = none := by
  cases body with
  | nil => rfl
  | cons c rest => simp [Place.lineBreak?, (h c rfl).2.2]

end StartsToken

namespace StartsLine

theorem nil : StartsLine [] :=
  ⟨.nil, by simp⟩

theorem of_mem_head?_gap (hc : c ∈ (gap lines indent ++ body).head?) :
    c = '\n' ∨ c = ' ' ∨ c ∈ body.head? := by
  cases lines with
  | succ lines => exact Or.inl (Option.some.inj hc).symm
  | zero =>
    cases indent with
    | succ indent => exact Or.inr (Or.inl (Option.some.inj hc).symm)
    | zero => exact Or.inr (Or.inr hc)

/-- No line that separates documents starts with a gap. -/
theorem atSeparator_gap (h : StartsLine body) :
    (Place.mk (gap lines indent ++ body) index line column).atSeparator = false := by
  have hfirst : ∀ c ∈ (gap lines indent ++ body).head?, c ≠ '-' ∧ c ≠ '.' := by
    intro c hc
    rcases of_mem_head?_gap hc with rfl | rfl | hc
    · decide
    · decide
    · exact h.2 c hc
  have hruler : ∀ d, d ≠ '\x00' → (∀ c ∈ (gap lines indent ++ body).head?, c ≠ d) →
      (Place.mk (gap lines indent ++ body) index line column).isRuler d = false := by
    intro d hd hne
    simp [Place.isRuler, Place.peek_ne hd hne]
  rw [Place.atSeparator, hruler '-' (by decide) fun c hc => (hfirst c hc).1,
    hruler '.' (by decide) fun c hc => (hfirst c hc).2, Bool.or_false]

end StartsLine

/-! ### Plain words -/

variable {inFlow newLine : Bool}

/-- A word that can stand in a block as a plain scalar: it does not end with a colon. -/
structure IsPlain (word : List Char) : Prop where
  solid : ∀ c ∈ word, IsSolid c
  noColon : word.getLast? ≠ some ':'

/-- A word of characters that are no marks, neither between brackets. -/
def IsBare (word : List Char) : Prop :=
  ∀ c ∈ word, IsSolid c ∧ c ∉ [':', ',', '?', '[', ']', '\x7b', '\x7d']

instance (word : List Char) : Decidable (IsBare word) :=
  List.decidableBAll _ word

theorem IsBare.isPlain (h : IsBare word) : IsPlain word where
  solid c hc := (h c hc).1
  noColon hlast := absurd (h ':' (List.mem_of_getLast? hlast)).2 (by decide)

/-- Where a plain scalar has to stop. -/
def Stops (inFlow : Bool) (rest : List Char) : Prop :=
  plainLength inFlow rest = 0

theorem plainLength_plain (h : IsPlain word) (hstop : Stops false rest) :
    plainLength false (word ++ rest) = word.length := by
  induction word with
  | nil => exact hstop
  | cons c word ih =>
    obtain ⟨hc, hword⟩ := List.forall_mem_cons.1 h.solid
    -- a colon is followed by another character of the word
    have hafter : c = ':' → isGapOrEnd ((word ++ rest).headD '\x00') = false := by
      rintro rfl
      cases word with
      | nil => exact absurd rfl h.noColon
      | cons d word => exact (hword d List.mem_cons_self).noGap
    have hrest : IsPlain word := ⟨hword, fun hlast => h.noColon (by
      rw [List.getLast?_cons, hlast]
      rfl)⟩
    rw [List.cons_append, plainLength, ih hrest]
    by_cases hcolon : c = ':'
    · simp only [hc.noGap, hafter hcolon]
      simp
    · simp [hc.noGap, hcolon]

theorem plainLength_bare (h : IsBare word) (hstop : Stops inFlow rest) :
    plainLength inFlow (word ++ rest) = word.length := by
  induction word with
  | nil => exact hstop
  | cons c word ih =>
    obtain ⟨⟨hc, hmark⟩, hword⟩ := List.forall_mem_cons.1 h
    have hmarks : ",?[]\x7b\x7d".toList = [',', '?', '[', ']', '\x7b', '\x7d'] := rfl
    simp only [List.mem_cons, List.not_mem_nil, or_false, not_or] at hmark
    rw [List.cons_append, plainLength, ih hword]
    simp [hc.noGap, hmarks, hmark]

/-! ### Behind a word -/

/-- Empty lines and indentation are passed. -/
theorem plainBreaks_gap (hbody : StartsLine body) {fuel : Nat} (hfuel : lines < fuel) :
    plainBreaks fuel ⟨gap lines indent ++ body, index, line, 0⟩
      = (some (List.replicate lines '\n'),
        ⟨body, index + lines + indent, line + lines, indent⟩) := by
  induction lines generalizing fuel index line with
  | zero =>
    obtain ⟨fuel, rfl⟩ := Nat.exists_eq_succ_of_ne_zero (Nat.pos_iff_ne_zero.1 hfuel)
    rw [gap_zero_append, plainBreaks, Place.skipWhile, Place.takeWhile_spaces hbody.1.ne_space]
    simp [hbody.1.lineBreak?_eq_none]
  | succ lines ih =>
    obtain ⟨fuel, rfl⟩ := Nat.exists_eq_succ_of_ne_zero (Nat.ne_zero_of_lt hfuel)
    have hstay : (Place.mk (gap (lines + 1) indent ++ body) index line 0).skipWhile (· == ' ')
        = ⟨gap (lines + 1) indent ++ body, index, line, 0⟩ := rfl
    have hbreak : (Place.mk (gap (lines + 1) indent ++ body) index line 0).lineBreak?
        = some ('\n', ⟨gap lines indent ++ body, index + 1, line + 1, 0⟩) := rfl
    rw [plainBreaks, hstay]
    simp only [hbreak, hbody.atSeparator_gap, ih (Nat.lt_of_succ_lt_succ hfuel)]
    simp [List.replicate_succ]
    omega

/-- What follows a word on the lines behind it. -/
theorem exists_plainGap (lines indent : Nat) (hbody : StartsLine body) :
    ∃ breaks, plainGap ⟨gap (lines + 1) indent ++ body, index, line, column⟩
      = (breaks, ⟨body, index + (lines + 1) + indent, line + (lines + 1), indent⟩, true) := by
  refine ⟨foldedBreaks '\n' (List.replicate lines '\n'), ?_⟩
  have hstay : (Place.mk (gap (lines + 1) indent ++ body) index line column).takeWhile (· == ' ')
      = ([], ⟨gap (lines + 1) indent ++ body, index, line, column⟩) := rfl
  have hbreak : (Place.mk (gap (lines + 1) indent ++ body) index line column).lineBreak?
      = some ('\n', ⟨gap lines indent ++ body, index + 1, line + 1, 0⟩) := rfl
  rw [plainGap, hstay]
  simp only [hbreak, hbody.atSeparator_gap]
  rw [plainBreaks_gap hbody lt_length_gap_append]
  simp
  omega

/-- Nothing follows a word before a mark. -/
theorem plainGap_mark (hspace : c ≠ ' ') (hbreak : isBreak c = false) :
    plainGap ⟨c :: rest, index, line, column⟩ = ([], ⟨c :: rest, index, line, column⟩, false) := by
  have hstay : (Place.mk (c :: rest) index line column).takeWhile (· == ' ')
      = ([], ⟨c :: rest, index, line, column⟩) := by
    simp [Place.takeWhile, hspace]
  have hnone : (Place.mk (c :: rest) index line column).lineBreak? = none := by
    simp [Place.lineBreak?, hbreak]
  rw [plainGap, hstay]
  simp only [hnone]

/-! ### Scalars -/

/-- A plain scalar is one word, if nothing that goes on with it follows. -/
theorem plainScalar_word {p : Place} {least : Int} {breaks : List Char} (hne : word ≠ [])
    (hhash : word.head? ≠ some '#') (hsolid : ∀ c ∈ word, IsSolid c)
    (hlength : plainLength inFlow (word ++ rest) = word.length)
    (hgap : plainGap ⟨rest, index + word.length, line, column + word.length⟩ = (breaks, p, newLine))
    (hends : breaks = [] ∨ inFlow = false ∧ (p.column : Int) < least) :
    plainScalar inFlow least ⟨word ++ rest, index, line, column⟩ = (.ofList word, p, newLine) := by
  have hpeek : ((Place.mk (word ++ rest) index line column).peek 0 == '#') = false := by
    cases word with
    | nil => exact absurd rfl hne
    | cons c word => exact beq_false_of_ne fun h => hhash (congrArg some h)
  have hpositive : word.length ≠ 0 := fun h => hne (List.length_eq_zero_iff.1 h)
  have hpassed : (Place.mk (word ++ rest) index line column).forward word.length
      = ⟨rest, index + word.length, line, column + word.length⟩ :=
    Place.forward_word fun c hc => (hsolid c hc).takesColumn
  rw [plainScalar, plainWords]
  simp only [hpeek, Bool.false_eq_true, if_false, hlength, hpassed, hgap, List.take_left]
  rcases hends with rfl | ⟨rfl, hleast⟩
  · simp [hpositive]
  · simp [hpositive, hleast]

/-- A word at the end of its line. -/
theorem plainScalar_endOfLine {least : Int} (hword : IsPlain word) (hne : word ≠ [])
    (hhash : word.head? ≠ some '#') (hbody : StartsLine body) (hleast : (indent : Int) < least) :
    plainScalar false least ⟨word ++ (gap (lines + 1) indent ++ body), index, line, column⟩
      = (.ofList word,
        ⟨body, index + word.length + (lines + 1) + indent, line + (lines + 1), indent⟩, true) := by
  obtain ⟨breaks, hgap⟩ := exists_plainGap lines indent hbody
  exact plainScalar_word hne hhash hword.solid (plainLength_plain hword rfl) hgap
    (Or.inr ⟨rfl, hleast⟩)

/-- A bare word before a mark where it has to stop. -/
theorem plainScalar_bare {least : Int} (hword : IsBare word) (hne : word ≠ [])
    (hhash : word.head? ≠ some '#') (hspace : c ≠ ' ') (hbreak : isBreak c = false)
    (hstop : Stops inFlow (c :: rest)) :
    plainScalar inFlow least ⟨word ++ c :: rest, index, line, column⟩
      = (.ofList word, ⟨c :: rest, index + word.length, line, column + word.length⟩, false) :=
  plainScalar_word hne hhash (fun d hd => (hword d hd).1) (plainLength_bare hword hstop)
    (plainGap_mark hspace hbreak) (Or.inl rfl)

/-! ### Between quotes -/

/-- A word that can stand between double quotes as it is. -/
def IsQuotable (word : List Char) : Prop :=
  ∀ c ∈ word, IsSolid c ∧ c ≠ '"' ∧ c ≠ '\\'

instance (word : List Char) : Decidable (IsQuotable word) :=
  List.decidableBAll _ word

theorem quotedText_word (h : IsQuotable word) {fuel : Nat} (hfuel : word.length < fuel) :
    quotedText true fuel ⟨word ++ '"' :: rest, index, line, column⟩
      = .ok (word, ⟨rest, index + word.length + 1, line, column + word.length + 1⟩) := by
  induction word generalizing fuel index column with
  | nil =>
    obtain ⟨fuel, rfl⟩ := Nat.exists_eq_succ_of_ne_zero (Nat.pos_iff_ne_zero.1 hfuel)
    rfl
  | cons c word ih =>
    obtain ⟨fuel, rfl⟩ := Nat.exists_eq_succ_of_ne_zero (Nat.ne_zero_of_lt hfuel)
    obtain ⟨⟨hc, hquote, hbackslash⟩, hword⟩ := List.forall_mem_cons.1 h
    have hgap : isGap c = false := by
      have hnone := hc.noGap
      rw [isGapOrEnd, Bool.or_eq_false_iff] at hnone
      exact hnone.1
    have hmore : quotedText true fuel ⟨word ++ '"' :: rest, index + 1, line, column + 1⟩
        = .ok (word, ⟨rest, index + 1 + word.length + 1, line, column + 1 + word.length + 1⟩) :=
      ih hword (Nat.lt_of_succ_lt_succ hfuel)
    have hstep : quotedText true (fuel + 1) ⟨c :: (word ++ '"' :: rest), index, line, column⟩
        = (quotedText true fuel ⟨word ++ '"' :: rest, index + 1, line, column + 1⟩).map
            fun found => (c :: found.1, found.2) := by
      rw [quotedText]
      simp [Place.next_of_takesColumn hc.takesColumn, hgap, hc.takesColumn.1, hquote, hbackslash]
      rfl
    rw [List.cons_append, hstep, hmore, List.length_cons]
    simp only [Except.map, Except.ok.injEq, Prod.mk.injEq, Place.mk.injEq, true_and]
    omega

theorem quotedScalar_word (h : IsQuotable word) :
    quotedScalar ⟨'"' :: (word ++ '"' :: rest), index, line, column⟩
      = .ok (.ofList word, ⟨rest, index + word.length + 2, line, column + word.length + 2⟩) := by
  have hopen : (Place.mk ('"' :: (word ++ '"' :: rest)) index line column).next
      = ⟨word ++ '"' :: rest, index + 1, line, column + 1⟩ := rfl
  have hfuel : word.length < ('"' :: (word ++ '"' :: rest)).length + 1 := by
    simp only [List.length_cons, List.length_append]
    omega
  have hdouble : ('"' == '"') = true := rfl
  rw [quotedScalar, hopen, Place.peek_cons, hdouble, quotedText_word h hfuel]
  simp only [Except.map, Except.ok.injEq, Prod.mk.injEq, Place.mk.injEq, true_and]
  omega

end SqlPipeline.Yaml
