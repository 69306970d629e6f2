/-
  SqlPipeline/Proofs/RefScan.lean
  ===============================
  **Which names a text refers to, and in which order they are listed.**

  However often and in whatever order a text refers to models, each of their names is
  listed once, and the names are ordered by code points (`refNames_pairwise`).  So the list
  depends on the set of the names alone.

  Matches are taken from the left and do not overlap, so one that starts early could hide
  another.  It does not where the other is a reference to a name (`reference?_append_before`):
  to reach into it the match would have to end at the quote that opens the name, and no name
  starts with the parenthesis that has to follow there.  So the names that are listed are those
  that stand in references somewhere in the text (`refNames_exactly`).
-/
import SqlPipeline.RefScan
import SqlPipeline.Proofs.Identifier
import SqlPipeline.Proofs.Text.Cut
import Mathlib.Data.Char
import Mathlib.Data.List.Lex

namespace SqlPipeline.RefScan

open Text

theorem toNat_lt_iff {a b : Char} : a.toNat < b.toNat ↔ a < b := Iff.rfl

/-- The order by code points is the order of lists of characters. -/
theorem leChars_iff {xs ys : List Char} : Path.leChars xs ys = true ↔ xs = ys ∨ xs < ys := by
  induction xs generalizing ys with
  | nil =>
    cases ys with
    | nil => simp [Path.leChars]
    | cons y ys => simp [Path.leChars]
  | cons x xs ih =>
    cases ys with
    | nil => simp [Path.leChars]
    | cons y ys =>
      simp only [Path.leChars, Bool.or_eq_true, decide_eq_true_eq, Bool.and_eq_true, beq_iff_eq, ih,
        toNat_lt_iff, List.cons_lt_cons_iff, List.cons.injEq]
      constructor
      · rintro (hlt | ⟨rfl, heq | hlt⟩)
        · exact Or.inr (Or.inl hlt)
        · exact Or.inl ⟨rfl, heq⟩
        · exact Or.inr (Or.inr ⟨rfl, hlt⟩)
      · rintro (⟨rfl, heq⟩ | hlt | ⟨rfl, hlt⟩)
        · exact Or.inr ⟨rfl, Or.inl heq⟩
        · exact Or.inl hlt
        · exact Or.inr ⟨rfl, Or.inr hlt⟩

theorem mem_insertSorted {x z : List Char} {ys : List (List Char)} :
    z ∈ insertSorted x ys ↔ z = x ∨ z ∈ ys := by
  induction ys with
  | nil => simp [insertSorted]
  | cons y ys ih =>
    rw [insertSorted]
    by_cases heq : x = y
    · simp [heq]
    · rw [if_neg heq]
      by_cases hle : Path.leChars x y = true
      · rw [if_pos hle, List.mem_cons]
      · rw [if_neg hle, List.mem_cons, ih, List.mem_cons]
        exact or_left_comm

theorem pairwise_insertSorted (x : List Char) {ys : List (List Char)}
    (h : ys.Pairwise (· < ·)) : (insertSorted x ys).Pairwise (· < ·) := by
  induction ys with
  | nil => exact List.pairwise_singleton _ _
  | cons y ys ih =>
    obtain ⟨hy, hys⟩ := List.pairwise_cons.1 h
    rw [insertSorted]
    by_cases heq : x = y
    · rw [if_pos heq]
      exact h
    · rw [if_neg heq]
      by_cases hle : Path.leChars x y = true
      · -- the text is less than the first, and so than all
        have hlt : x < y := (leChars_iff.1 hle).resolve_left heq
        rw [if_pos hle]
        refine List.pairwise_cons.2 ⟨fun z hz => ?_, h⟩
        rcases List.mem_cons.1 hz with rfl | hz
        · exact hlt
        · exact lt_trans hlt (hy z hz)
      · have hgt : y < x := by
          rcases lt_trichotomy x y with hlt | hsame | hgt
          · exact absurd (leChars_iff.2 (Or.inr hlt)) hle
          · exact absurd hsame heq
          · exact hgt
        rw [if_neg hle]
        refine List.pairwise_cons.2 ⟨fun z hz => ?_, ih hys⟩
        rcases mem_insertSorted.1 hz with rfl | hz
        · exact hgt
        · exact hy z hz

/-- **The names that a text refers to stand in the order of their code points,** each once. -/
theorem refNames_pairwise (content : String) : (refNames content).Pairwise (· < ·) := by
  rw [refNames]
  refine List.pairwise_map.2 (List.Pairwise.imp (R := (· < ·)) (fun {a b} hab => ?_) ?_)
  · rw [String.lt_iff, String.toList_ofList, String.toList_ofList]
    exact hab
  · generalize (references false content.toList).map Text.trim = names
    induction names with
    | nil => exact List.Pairwise.nil
    | cons name names ih => exact pairwise_insertSorted name ih

/-! ### References that are written -/

/-- A reference as it can be written: the word `ref`, and between parentheses a text between
    quotes, with white space around each part. -/
structure Written where
  quoted : List Char
  opening : Char
  closing : Char
  gap₁ : List Char                      -- behind the word
  gap₂ : List Char                      -- in front of the opening quote
  gap₃ : List Char                      -- behind the closing one
  isQuote_opening : isQuote opening = true
  isQuote_closing : isQuote closing = true
  quoteless : ∀ c ∈ quoted, isQuote c = false
  blanks : ∀ c ∈ gap₁ ++ gap₂ ++ gap₃, isBlank c = true

namespace Written

variable (w : Written)

/-- The quoted text and what is behind it. -/
def fromQuoted (after : List Char) : List Char :=
  w.quoted ++ w.closing :: (w.gap₃ ++ ')' :: after)

/-- What is behind the word, in front of the quoted text. -/
def toQuoted (rest : List Char) : List Char :=
  w.gap₁ ++ '(' :: (w.gap₂ ++ w.opening :: rest)

/-- The whole reference, in front of a text. -/
def before (after : List Char) : List Char :=
  'r' :: 'e' :: 'f' :: w.toQuoted (w.fromQuoted after)

end Written

/-- That a text has a reference to a name in it, and not inside a longer word. -/
def RefersTo (text name : String) : Prop :=
  ∃ (w : Written) (start after : List Char), trim w.quoted = name.toList
    ∧ text.toList = start ++ w.before after ∧ ∀ c, start.getLast? = some c → isWord c = false

theorem isBlank_of_isQuote {c : Char} (h : isQuote c = true) : isBlank c = false := by
  rw [isQuote, Bool.or_eq_true, beq_iff_eq, beq_iff_eq] at h
  rcases h with rfl | rfl <;> decide

theorem isQuote_of_isPart {c : Char} (h : Identifier.isPart c = true) : isQuote c = false := by
  cases hquote : isQuote c with
  | false => rfl
  | true =>
    rw [isQuote, Bool.or_eq_true, beq_iff_eq, beq_iff_eq] at hquote
    rcases hquote with rfl | rfl <;> exact absurd h (by decide)

section

variable (w : Written) (after : List Char)

theorem Written.gap₁_blank : ∀ c ∈ w.gap₁, isBlank c = true := fun c hc =>
  w.blanks c (List.mem_append_left _ (List.mem_append_left _ hc))

theorem Written.gap₂_blank : ∀ c ∈ w.gap₂, isBlank c = true := fun c hc =>
  w.blanks c (List.mem_append_left _ (List.mem_append_right _ hc))

theorem Written.gap₃_blank : ∀ c ∈ w.gap₃, isBlank c = true := fun c hc =>
  w.blanks c (List.mem_append_right _ hc)

/-- Where a name is quoted, no parenthesis follows the opening quote. -/
theorem Written.trimLeft_fromQuoted (hname : Identifier.isName (trim w.quoted) = true) :
    ∃ c rest, trimLeft (w.fromQuoted after) = c :: rest ∧ (c == ')') = false := by
  rcases blank_or_visible w.quoted with hblank | ⟨gap, c, rest, hgap, hc, hquoted⟩
  · obtain ⟨gap, -, hgap⟩ := exists_append_trimLeft w.quoted
    have hleft : ∀ c ∈ trimLeft w.quoted, isBlank c = true := fun c hc =>
      hblank c (hgap ▸ List.mem_append_right _ hc)
    rw [trim, trimRight_of_blank hleft] at hname
    cases hname
  · have hsplit : w.fromQuoted after
        = gap ++ c :: (rest ++ w.closing :: (w.gap₃ ++ ')' :: after)) := by
      rw [Written.fromQuoted, hquoted, List.append_assoc, List.cons_append]
    refine ⟨c, _, hsplit ▸ trimLeft_append hgap hc _, ?_⟩
    rw [hquoted, trim_append_cons gap hc] at hname
    have hpart := Identifier.isPart_of_mem hname c
      (List.mem_append_right _ List.mem_cons_self)
    rw [beq_eq_false_iff_ne]
    rintro rfl
    exact absurd hpart (by decide)

theorem Written.takeWhile_fromQuoted :
    (w.fromQuoted after).takeWhile (!isQuote ·) = w.quoted := by
  have hquoted : ∀ c ∈ w.quoted, (!isQuote c) = true := by
    intro c hc
    rw [w.quoteless c hc]
    rfl
  rw [Written.fromQuoted, List.takeWhile_append_of_pos hquoted, List.takeWhile_cons,
    w.isQuote_closing]
  simp

theorem Written.dropWhile_fromQuoted : (w.fromQuoted after).dropWhile (!isQuote ·)
    = w.closing :: (w.gap₃ ++ ')' :: after) := by
  have hquoted : ∀ c ∈ w.quoted, (!isQuote c) = true := by
    intro c hc
    rw [w.quoteless c hc]
    rfl
  rw [Written.fromQuoted, List.dropWhile_append_of_pos hquoted, List.dropWhile_cons,
    w.isQuote_closing]
  rfl

/-- In front of the quoted text the first quote is the one that opens it. -/
theorem Written.dropWhile_before : (w.before after).dropWhile (!isQuote ·)
    = w.opening :: w.fromQuoted after := by
  have hgap : ∀ gap : List Char, (∀ c ∈ gap, isBlank c = true) → ∀ c ∈ gap, (!isQuote c) = true := by
    intro gap h c hc
    cases hquote : isQuote c with
    | false => rfl
    | true => exact absurd (h c hc) (by rw [isBlank_of_isQuote hquote]; decide)
  have hword : ∀ c ∈ ['r', 'e', 'f'] ++ w.gap₁ ++ ['('] ++ w.gap₂, (!isQuote c) = true := by
    intro c hc
    simp only [List.mem_append] at hc
    rcases hc with ((hc | hc) | hc) | hc
    · simp only [List.mem_cons, List.not_mem_nil, or_false] at hc
      rcases hc with rfl | rfl | rfl <;> decide
    · exact hgap _ w.gap₁_blank c hc
    · rw [List.mem_singleton.1 hc]
      decide
    · exact hgap _ w.gap₂_blank c hc
  have hbefore : w.before after = (['r', 'e', 'f'] ++ w.gap₁ ++ ['('] ++ w.gap₂)
      ++ w.opening :: w.fromQuoted after := by
    simp [Written.before, Written.toQuoted]
  rw [hbefore, List.dropWhile_append_of_pos hword, List.dropWhile_cons, w.isQuote_opening]
  rfl

/-- A reference that is written is read where it starts. -/
theorem reference?_before (hquoted : w.quoted ≠ []) :
    reference? (w.before after) = some (w.quoted, after) := by
  have hempty : w.quoted.isEmpty = false := by
    simpa using hquoted
  have hword : dropPattern? ['r', 'e', 'f'] (w.before after)
      = some (w.toQuoted (w.fromQuoted after)) := rfl
  have hopen : dropOne? (· == '(') (trimLeft (w.toQuoted (w.fromQuoted after)))
      = some (w.gap₂ ++ w.opening :: w.fromQuoted after) := by
    rw [Written.toQuoted, trimLeft_append w.gap₁_blank (by decide)]
    rfl
  have hquote : dropOne? isQuote (trimLeft (w.gap₂ ++ w.opening :: w.fromQuoted after))
      = some (w.fromQuoted after) := by
    rw [trimLeft_append w.gap₂_blank (isBlank_of_isQuote w.isQuote_opening), dropOne?,
      w.isQuote_opening]
    rfl
  have hclosing : dropOne? isQuote (w.closing :: (w.gap₃ ++ ')' :: after))
      = some (w.gap₃ ++ ')' :: after) := by
    rw [dropOne?, w.isQuote_closing]
    rfl
  have hclose : dropOne? (· == ')') (trimLeft (w.gap₃ ++ ')' :: after)) = some after := by
    rw [trimLeft_append w.gap₃_blank (by decide)]
    rfl
  simp only [reference?, hword, hopen, hquote, w.takeWhile_fromQuoted,
    w.dropWhile_fromQuoted, hempty, hclosing, hclose, Option.bind_eq_bind, Option.bind_some,
    Bool.false_eq_true, if_false]

end

theorem dropOne?_eq_some_iff {p : Char → Bool} {s rest : List Char} :
    dropOne? p s = some rest ↔ ∃ c, p c = true ∧ s = c :: rest := by
  cases s with
  | nil => simp [dropOne?]
  | cons c cs =>
    rw [dropOne?]
    constructor
    · intro h
      split at h
      · rename_i hc
        exact ⟨c, hc, congrArg (c :: ·) (Option.some.inj h)⟩
      · cases h
    · rintro ⟨c', hc', heq⟩
      obtain ⟨rfl, rfl⟩ := List.cons.inj heq
      rw [if_pos hc']

/-- What is read as a reference is written as one. -/
theorem exists_written_of_reference? {s quoted after : List Char}
    (h : reference? s = some (quoted, after)) :
    ∃ w : Written, w.quoted = quoted ∧ s = w.before after := by
  simp only [reference?, Option.bind_eq_bind, Option.bind_eq_some_iff] at h
  obtain ⟨s₁, hword, s₂, hopen, s₃, hquote, h⟩ := h
  split at h
  · cases h
  · simp only [Option.bind_eq_some_iff] at h
    obtain ⟨s₄, hclosing, s₅, hclose, h⟩ := h
    obtain ⟨rfl, rfl⟩ := Prod.mk.inj (Option.some.inj h)
    obtain ⟨gap₁, hgap₁, hs₁⟩ := exists_append_trimLeft s₁
    obtain ⟨gap₂, hgap₂, hs₂⟩ := exists_append_trimLeft s₂
    obtain ⟨gap₃, hgap₃, hs₄⟩ := exists_append_trimLeft s₄
    obtain ⟨paren, hparen, hopen⟩ := dropOne?_eq_some_iff.1 hopen
    obtain ⟨opening, hopening, hquote⟩ := dropOne?_eq_some_iff.1 hquote
    obtain ⟨closing, hclosing, hquoted⟩ := dropOne?_eq_some_iff.1 hclosing
    obtain ⟨paren', hparen', hclose⟩ := dropOne?_eq_some_iff.1 hclose
    have hblank : ∀ c ∈ gap₁ ++ gap₂ ++ gap₃, isBlank c = true := by
      intro c hc
      simp only [List.mem_append] at hc
      rcases hc with (hc | hc) | hc
      · exact hgap₁ c hc
      · exact hgap₂ c hc
      · exact hgap₃ c hc
    have hquoteless : ∀ c ∈ s₃.takeWhile (!isQuote ·), isQuote c = false := fun c hc => by
      simpa using List.mem_takeWhile_imp hc
    refine ⟨⟨_, opening, closing, gap₁, gap₂, gap₃, hopening, hclosing, hquoteless, hblank⟩, rfl, ?_⟩
    have hs₃ : s₃ = s₃.takeWhile (!isQuote ·) ++ closing :: (gap₃ ++ ')' :: s₅) := by
      rw [← beq_iff_eq.1 hparen', ← hclose, ← hs₄, ← hquoted, List.takeWhile_append_dropWhile]
    rw [dropPattern?_eq_some_iff.1 hword, Written.before, Written.toQuoted, Written.fromQuoted, ← hs₃,
      ← hquote, ← hs₂, ← beq_iff_eq.1 hparen, ← hopen, ← hs₁]
    rfl

/-! ### Matches that start earlier

A match that starts in front of a reference goes through its parts while it is still in front of
it: none of them takes the letter that the reference starts with. -/

section

variable (w : Written) (after : List Char)

theorem trimLeft_append_before (start : List Char) : ∃ dropped start', start = dropped ++ start'
    ∧ trimLeft (start ++ w.before after) = start' ++ w.before after := by
  refine ⟨start.takeWhile isBlank, start.dropWhile isBlank,
    List.takeWhile_append_dropWhile.symm, ?_⟩
  rw [trimLeft, List.dropWhile_append]
  split
  · rename_i hall
    rw [List.isEmpty_iff.1 hall]
    rfl
  · rfl

theorem dropOne?_append_before {p : Char → Bool} (hp : p 'r' = false) {start s : List Char}
    (h : dropOne? p (start ++ w.before after) = some s) :
    ∃ dropped start', start = dropped ++ start' ∧ s = start' ++ w.before after := by
  obtain ⟨c, hc, heq⟩ := dropOne?_eq_some_iff.1 h
  cases start with
  | nil =>
    obtain ⟨rfl, -⟩ := List.cons.inj heq
    exact absurd hc (by simp [hp])
  | cons d start => exact ⟨[d], start, rfl, (List.cons.inj heq).2.symm⟩

theorem dropWord_append_before {start s : List Char} (hstart : start ≠ [])
    (h : dropPattern? ['r', 'e', 'f'] (start ++ w.before after) = some s) :
    ∃ dropped start', start = dropped ++ start' ∧ s = start' ++ w.before after := by
  have heq := dropPattern?_eq_some_iff.1 h
  rcases start with _ | ⟨c, _ | ⟨c₁, _ | ⟨c₂, start⟩⟩⟩
  · exact absurd rfl hstart
  · simp [Written.before] at heq
  · simp [Written.before] at heq
  · simp only [List.cons_append, List.nil_append, List.cons.injEq] at heq
    exact ⟨[c, c₁, c₂], start, rfl, heq.2.2.2.symm⟩

/-- The text that a match quotes ends in front of a reference to a name: otherwise it would end at
    the quote that opens the name, and no parenthesis follows there. -/
theorem quoteEnds_append_before (hname : Identifier.isName (trim w.quoted) = true)
    {start s s' : List Char}
    (h : dropOne? isQuote ((start ++ w.before after).dropWhile (!isQuote ·)) = some s)
    (hclose : dropOne? (· == ')') (trimLeft s) = some s') :
    ∃ dropped start', start = dropped ++ start' ∧ s = start' ++ w.before after := by
  rw [List.dropWhile_append] at h
  split at h
  · rw [w.dropWhile_before, dropOne?, w.isQuote_opening] at h
    obtain rfl := Option.some.inj h
    obtain ⟨c, rest, hfirst, hparen⟩ := w.trimLeft_fromQuoted after hname
    rw [hfirst] at hclose
    simp [dropOne?, hparen] at hclose
  · obtain ⟨dropped, start', hstart, hs⟩ := dropOne?_append_before w after (by decide) h
    refine ⟨start.takeWhile (!isQuote ·) ++ dropped, start', ?_, hs⟩
    rw [List.append_assoc, ← hstart, List.takeWhile_append_dropWhile]

end

/-- **A match that starts before a reference to a name ends before it.** -/
theorem reference?_append_before {w : Written} (hname : Identifier.isName (trim w.quoted) = true)
    {start after quoted rest : List Char} (hstart : start ≠ [])
    (h : reference? (start ++ w.before after) = some (quoted, rest)) :
    ∃ dropped start', start = dropped ++ start' ∧ rest = start' ++ w.before after := by
  simp only [reference?, Option.bind_eq_bind, Option.bind_eq_some_iff] at h
  obtain ⟨s₁, hword, s₂, hopen, s₃, hquote, h⟩ := h
  split at h
  · cases h
  · simp only [Option.bind_eq_some_iff] at h
    obtain ⟨s₄, hclosing, s₅, hclose, h⟩ := h
    obtain ⟨-, rfl⟩ := Prod.mk.inj (Option.some.inj h)
    obtain ⟨d₁, t₁, rfl, rfl⟩ := dropWord_append_before w after hstart hword
    obtain ⟨d₂, t₂, rfl, htrim⟩ := trimLeft_append_before w after t₁
    rw [htrim] at hopen
    obtain ⟨d₃, t₃, rfl, rfl⟩ := dropOne?_append_before w after (by decide) hopen
    obtain ⟨d₄, t₄, rfl, htrim⟩ := trimLeft_append_before w after t₃
    rw [htrim] at hquote
    obtain ⟨d₅, t₅, rfl, rfl⟩ := dropOne?_append_before w after (by decide) hquote
    obtain ⟨d₆, t₆, rfl, rfl⟩ := quoteEnds_append_before w after hname hclosing hclose
    obtain ⟨d₇, t₇, rfl, htrim⟩ := trimLeft_append_before w after t₆
    rw [htrim] at hclose
    obtain ⟨d₈, t₈, rfl, rfl⟩ := dropOne?_append_before w after (by decide) hclose
    exact ⟨d₁ ++ d₂ ++ d₃ ++ d₄ ++ d₅ ++ d₆ ++ d₇ ++ d₈, t₈, by simp, rfl⟩

/-! ### The references of a text -/

theorem references_of_match {inWord : Bool} {c : Char} {cs quoted rest : List Char}
    (h : (if inWord then none else reference? (c :: cs)) = some (quoted, rest)) :
    references inWord (c :: cs) = quoted :: references false rest := by
  rw [references]
  split
  · rename_i heq
    obtain ⟨rfl, rfl⟩ := Prod.mk.inj (Option.some.inj (heq.symm.trans h))
    rfl
  · rename_i heq
    cases heq.symm.trans h

theorem references_of_no_match {inWord : Bool} {c : Char} {cs : List Char}
    (h : (if inWord then none else reference? (c :: cs)) = none) :
    references inWord (c :: cs) = references (isWord c) cs := by
  rw [references]
  split
  · rename_i heq
    cases heq.symm.trans h
  · rfl

/-- A reference to a name is among those of the text: the scan comes to its place with every
    match behind it. -/
theorem mem_references {w : Written} (hname : Identifier.isName (trim w.quoted) = true)
    (after : List Char) {text : List Char} {inWord : Bool} {start : List Char}
    (htext : text = start ++ w.before after) (hnone : start = [] → inWord = false)
    (hlast : ∀ c, start.getLast? = some c → isWord c = false) :
    w.quoted ∈ references inWord text := by
  have hread := reference?_before w after (by rintro hnil; rw [hnil] at hname; cases hname)
  induction inWord, text using references.induct generalizing start with
  | case1 inWord => simp [Written.before] at htext
  | case2 inWord c cs quoted rest h ih =>
    rw [dite_eq_ite] at h
    rw [references_of_match h]
    by_cases hstart : start = []
    · subst hstart
      rw [hnone rfl, htext, List.nil_append, if_neg (by decide), hread] at h
      obtain ⟨rfl, -⟩ := Prod.mk.inj (Option.some.inj h)
      exact List.mem_cons_self
    · have hmatch : reference? (start ++ w.before after) = some (quoted, rest) := by
        rw [← htext]
        split at h
        · cases h
        · exact h
      obtain ⟨dropped, start', rfl, rfl⟩ := reference?_append_before hname hstart hmatch
      refine List.mem_cons_of_mem _ (ih rfl (fun _ => rfl) fun c hc => hlast c ?_)
      rw [List.getLast?_append, hc]
      rfl
  | case3 inWord c cs h ih =>
    rw [dite_eq_ite] at h
    rw [references_of_no_match h]
    cases start with
    | nil =>
      rw [hnone rfl, htext, List.nil_append, if_neg (by decide), hread] at h
      cases h
    | cons d start =>
      obtain ⟨rfl, hcs⟩ := List.cons.inj htext
      refine ih hcs ?_ fun c' hc' => hlast c' ?_
      · rintro rfl
        exact hlast c rfl
      · rw [List.getLast?_cons, hc']
        rfl

theorem Written.before_append (w : Written) (start after : List Char) :
    w.before (start ++ after) = w.before [] ++ start ++ after := by
  simp [Written.before, Written.toQuoted, Written.fromQuoted]

theorem Written.getLast?_before (w : Written) : (w.before []).getLast? = some ')' := by
  have hends : w.before [] = ('r' :: 'e' :: 'f' :: w.toQuoted
      (w.quoted ++ w.closing :: w.gap₃)) ++ [')'] := by
    simp [Written.before, Written.toQuoted, Written.fromQuoted]
  rw [hends, List.getLast?_concat]

/-- What is among the references of a text is written in it, and not inside a longer word. -/
theorem exists_of_mem_references {quoted text : List Char} {inWord : Bool}
    (h : quoted ∈ references inWord text) : ∃ (w : Written) (start after : List Char),
      w.quoted = quoted ∧ text = start ++ w.before after ∧ (start = [] → inWord = false)
        ∧ ∀ c, start.getLast? = some c → isWord c = false := by
  induction inWord, text using references.induct with
  | case1 inWord =>
    rw [references] at h
    cases h
  | case2 inWord c cs found rest hmatch ih =>
    rw [dite_eq_ite] at hmatch
    rw [references_of_match hmatch] at h
    split at hmatch
    · cases hmatch
    · rename_i hoff
      obtain ⟨w, hw, htext⟩ := exists_written_of_reference? hmatch
      rcases List.mem_cons.1 h with rfl | h
      · exact ⟨w, [], rest, hw, htext, fun _ => by simpa using hoff, by simp⟩
      · -- behind a match the scan starts again after its parenthesis
        obtain ⟨w', start, after, hw', rfl, -, hlast⟩ := ih h
        refine ⟨w', w.before [] ++ start, after, hw',
          htext.trans (w.before_append start (w'.before after)), ?_, fun c hc => ?_⟩
        · intro hnil
          cases (List.append_eq_nil_iff.1 hnil).1
        · rw [List.getLast?_append, w.getLast?_before, Option.or_eq_some_iff] at hc
          rcases hc with hc | ⟨-, hc⟩
          · exact hlast c hc
          · obtain rfl := Option.some.inj hc
            decide
  | case3 inWord c cs hmatch ih =>
    rw [dite_eq_ite] at hmatch
    rw [references_of_no_match hmatch] at h
    obtain ⟨w, start, after, hw, rfl, hnone, hlast⟩ := ih h
    refine ⟨w, [c] ++ start, after, hw, rfl, nofun, fun c' hc' => ?_⟩
    rw [List.getLast?_append, Option.or_eq_some_iff] at hc'
    rcases hc' with hc' | ⟨hempty, hc'⟩
    · exact hlast c' hc'
    · obtain rfl := Option.some.inj hc'
      exact hnone (List.getLast?_eq_none_iff.1 hempty)

/-! ### The names of a text -/

theorem mem_foldr_insertSorted {name : List Char} {names : List (List Char)} :
    name ∈ names.foldr insertSorted [] ↔ name ∈ names := by
  induction names with
  | nil => rfl
  | cons other names ih => rw [List.foldr_cons, mem_insertSorted, ih, List.mem_cons]

theorem mem_refNames_iff {text name : String} :
    name ∈ refNames text ↔ ∃ quoted ∈ references false text.toList, trim quoted = name.toList := by
  rw [refNames, List.mem_map]
  simp only [mem_foldr_insertSorted, List.mem_map]
  constructor
  · rintro ⟨_, ⟨quoted, hquoted, rfl⟩, rfl⟩
    exact ⟨quoted, hquoted, by simp⟩
  · rintro ⟨quoted, hquoted, heq⟩
    exact ⟨_, ⟨quoted, hquoted, rfl⟩, by rw [heq, String.ofList_toList]⟩

theorem mem_refNames_of_refersTo {text name : String}
    (hname : Identifier.isName name.toList = true) (h : RefersTo text name) :
    name ∈ refNames text := by
  obtain ⟨w, start, after, hquoted, htext, hlast⟩ := h
  rw [← hquoted] at hname
  exact mem_refNames_iff.2 ⟨_, mem_references hname after htext (fun _ => rfl) hlast, hquoted⟩

theorem refersTo_of_mem_refNames {text name : String} (h : name ∈ refNames text) :
    RefersTo text name := by
  obtain ⟨quoted, hmem, hquoted⟩ := mem_refNames_iff.1 h
  obtain ⟨w, start, after, rfl, htext, -, hlast⟩ := exists_of_mem_references hmem
  exact ⟨w, start, after, hquoted, htext, hlast⟩

/-- A text in which nothing is called refers to nothing. -/
theorem refNames_callless {text : String} (h : '(' ∉ text.toList) : refNames text = [] := by
  rw [List.eq_nil_iff_forall_not_mem]
  intro name hname
  obtain ⟨w, start, after, -, htext, -⟩ := refersTo_of_mem_refNames hname
  refine h ?_
  rw [htext]
  simp [Written.before, Written.toQuoted]

/-- A text that is trimmed and passes as a name is one, without the newline that is overlooked. -/
theorem isName_of_trim {quoted : List Char} {name : String} (hvalid : Identifier.isValid name = true)
    (h : trim quoted = name.toList) : Identifier.isName name.toList = true := by
  obtain ⟨core, hcore, heq | heq⟩ := Identifier.of_isValid hvalid
  · rwa [heq]
  · -- what has been trimmed does not end with a newline
    have hright : trimRight (trim quoted) = trim quoted := trimRight_trimRight _
    have hlength := congrArg List.length hright
    rw [h, heq, trimRight, List.reverse_append, List.reverse_singleton, List.singleton_append,
      List.dropWhile_cons, if_pos (by decide)] at hlength
    have hle := (List.dropWhile_sublist isBlank (l := core.reverse)).length_le
    simp only [List.length_reverse, List.length_append, List.length_singleton] at hlength hle
    omega

/-- **The names that a text refers to are exactly those that stand in references somewhere in it,**
    wherever other matches start, in the order of their code points and each once. -/
theorem refNames_exactly (text : String) :
    (∀ name, Identifier.isValid name = true → (name ∈ refNames text ↔ RefersTo text name))
      ∧ (refNames text).Pairwise (· < ·) ∧ (refNames text).Nodup := by
  have hsorted := refNames_pairwise text
  refine ⟨fun name hvalid => ⟨refersTo_of_mem_refNames, fun h => ?_⟩, hsorted, ?_⟩
  · obtain ⟨w, -, -, hquoted, -⟩ := id h
    exact mem_refNames_of_refersTo (isName_of_trim hvalid hquoted) h
  · refine hsorted.imp fun {a b} hlt heq => ?_
    rw [heq] at hlt
    exact String.lt_irrefl b hlt

/-- A reference that stands inside the quotes of another that is not closed, and a longer word. -/
def entangled : String := "ref('x ref( \" orders \t\" ) href('payments')"

theorem refNames_exactly_entangled :
    Identifier.isValid "orders" = true ∧ refNames entangled = ["orders"]
      ∧ RefersTo entangled "orders" ∧ ¬ RefersTo entangled "payments" := by
  have hnames : refNames entangled = ["orders"] := by cbv
  obtain ⟨hmem, -, -⟩ := refNames_exactly entangled
  refine ⟨by decide, hnames, (hmem "orders" (by decide)).1 (by rw [hnames]; decide), ?_⟩
  rw [← hmem "payments" (by decide), hnames]
  decide

/-! ### References that are written out -/

/-- A reference to a name as it can be written out: the word `ref`, and between parentheses the
    name between quotes, with white space around each part. -/
structure Literal where
  name : List Char
  opening : Char
  closing : Char
  gap₁ : List Char                      -- behind the word
  gap₂ : List Char                      -- in front of the name
  gap₃ : List Char                      -- behind the name
  isName : Identifier.isName name = true
  isQuote_opening : isQuote opening = true
  isQuote_closing : isQuote closing = true
  blanks : ∀ c ∈ gap₁ ++ gap₂ ++ gap₃, isBlank c = true

namespace Literal

variable (literal : Literal)

/-- The name and what is behind it. -/
def fromName (after : List Char) : List Char :=
  literal.name ++ literal.closing :: (literal.gap₃ ++ ')' :: after)

/-- What is behind the word, in front of the name. -/
def toName (rest : List Char) : List Char :=
  literal.gap₁ ++ '(' :: (literal.gap₂ ++ literal.opening :: rest)

/-- The whole reference, in front of a text. -/
def before (after : List Char) : List Char :=
  'r' :: 'e' :: 'f' :: literal.toName (literal.fromName after)

/-- A name has no quotes in it. -/
def written : Written where
  quoted := literal.name
  opening := literal.opening
  closing := literal.closing
  gap₁ := literal.gap₁
  gap₂ := literal.gap₂
  gap₃ := literal.gap₃
  isQuote_opening := literal.isQuote_opening
  isQuote_closing := literal.isQuote_closing
  quoteless c hc := isQuote_of_isPart (Identifier.isPart_of_mem literal.isName c hc)
  blanks := literal.blanks

end Literal

end SqlPipeline.RefScan
