/-
  SqlPipeline/Proofs/Text/Cut.lean
  ================================
  **Trimming texts, cutting them and putting the pieces together.**

  Trimming takes blanks off both ends and nothing else, so what is left starts and ends with a
  visible character where the text did behind its blanks.  The pieces of a text are what stands
  between two cuts, and with the separators between them they are the text again.
-/
import SqlPipeline.Text.CharSet
import SqlPipeline.Text.Search
import Mathlib.Data.List.DropRight
import Mathlib.Data.List.TakeWhile

namespace SqlPipeline.Text

/-- What is tested of each item of a list holds of all.  A statement about the characters in a list
    is otherwise decided by trying all characters that there are. -/
theorem forall_of_all {α : Type} {P : α → Prop} [DecidablePred P] {xs : List α}
    (h : xs.all (fun x => decide (P x)) = true) : ∀ x ∈ xs, P x :=
  fun x hx => of_decide_eq_true (List.all_eq_true.1 h x hx)

variable {s gap piece : List Char} {c : Char} {p : Char → Bool}

/-! ### Trimming -/

theorem trimLeft_append (h : ∀ c ∈ gap, isBlank c = true) (hc : isBlank c = false)
    (rest : List Char) : trimLeft (gap ++ c :: rest) = c :: rest := by
  rw [trimLeft, List.dropWhile_append_of_pos h, List.dropWhile_cons, hc]
  rfl

/-- What is trimmed off the start is blank. -/
theorem exists_append_trimLeft (s : List Char) :
    ∃ gap, (∀ c ∈ gap, isBlank c = true) ∧ s = gap ++ trimLeft s :=
  ⟨s.takeWhile isBlank, fun _ hc => List.mem_takeWhile_imp hc,
    (List.takeWhile_append_dropWhile).symm⟩

theorem isBlank_of_trimLeft_eq_cons {rest : List Char} (h : trimLeft s = c :: rest) :
    isBlank c = false := by
  have hne : s.dropWhile isBlank ≠ [] := by
    rw [← trimLeft, h]
    exact List.cons_ne_nil _ _
  have hhead : (s.dropWhile isBlank).head hne = c := by
    simp only [← trimLeft.eq_1, h, List.head_cons]
  exact hhead ▸ List.head_dropWhile_not isBlank hne

/-- A text is blank, or it has a visible character behind some blanks. -/
theorem blank_or_visible (s : List Char) : (∀ c ∈ s, isBlank c = true)
    ∨ ∃ gap c rest, (∀ a ∈ gap, isBlank a = true) ∧ isBlank c = false ∧ s = gap ++ c :: rest := by
  obtain ⟨gap, hgap, hs⟩ := exists_append_trimLeft s
  cases hvisible : trimLeft s with
  | nil =>
    rw [hvisible, List.append_nil] at hs
    exact Or.inl (hs ▸ hgap)
  | cons c rest =>
    exact Or.inr ⟨gap, c, rest, hgap, isBlank_of_trimLeft_eq_cons hvisible, hvisible ▸ hs⟩

/-- The gaps in front of a visible character are as long as each other. -/
theorem gap_unique {gap gap' rest rest' : List Char} {c c' : Char}
    (h : ∀ a ∈ gap, isBlank a = true) (h' : ∀ a ∈ gap', isBlank a = true)
    (hc : isBlank c = false) (hc' : isBlank c' = false)
    (heq : gap ++ c :: rest = gap' ++ c' :: rest') : gap = gap' ∧ c :: rest = c' :: rest' := by
  have hrest : c :: rest = c' :: rest' := by
    rw [← trimLeft_append h hc rest, heq, trimLeft_append h' hc' rest']
  rw [hrest] at heq
  exact ⟨List.append_cancel_right heq, hrest⟩

/-- What is trimmed off the end is blank. -/
theorem exists_append_trimRight (s : List Char) :
    ∃ gap, (∀ c ∈ gap, isBlank c = true) ∧ s = trimRight s ++ gap := by
  obtain ⟨gap, hgap, hs⟩ := exists_append_trimLeft s.reverse
  refine ⟨gap.reverse, fun c hc => hgap c (List.mem_reverse.1 hc), ?_⟩
  rw [trimRight, ← List.reverse_append, ← trimLeft, ← hs, List.reverse_reverse]

/-- Trimming the end goes no further than to a visible character. -/
theorem trimRight_append (before : List Char) (hc : isBlank c = false) (after : List Char) :
    trimRight (before ++ c :: after) = before ++ c :: trimRight after := by
  have hreverse : (before ++ c :: after).reverse = after.reverse ++ c :: before.reverse := by simp
  rw [trimRight, trimRight, hreverse, List.dropWhile_append]
  split
  · rename_i hempty
    rw [List.isEmpty_iff.1 hempty, List.dropWhile_cons, hc]
    simp
  · simp

/-- Trimming a text that has something visible in it trims what is on both sides of that. -/
theorem trim_append_cons (before : List Char) (hc : isBlank c = false) (after : List Char) :
    trim (before ++ c :: after) = trimLeft before ++ c :: trimRight after := by
  have hleft : trimLeft (before ++ c :: after) = trimLeft before ++ c :: after := by
    rw [trimLeft, trimLeft, List.dropWhile_append]
    split
    · rename_i hempty
      rw [List.isEmpty_iff.1 hempty, List.dropWhile_cons, hc]
      rfl
    · rfl
  rw [trim, hleft, trimRight_append _ hc]

theorem trim_trimLeft (s : List Char) : trim (trimLeft s) = trim s := by
  rw [trim, trim, trimLeft, trimLeft, List.dropWhile_idempotent]

theorem trimRight_of_blank (h : ∀ c ∈ s, isBlank c = true) : trimRight s = [] := by
  have hreverse : ∀ c ∈ s.reverse, isBlank c = true := fun c hc => h c (List.mem_reverse.1 hc)
  rw [trimRight, List.dropWhile_eq_nil_iff.2 hreverse, List.reverse_nil]

theorem trimRight_trimRight (s : List Char) : trimRight (trimRight s) = trimRight s := by
  rw [trimRight, trimRight, List.reverse_reverse, List.dropWhile_idempotent]

theorem trim_trimRight (s : List Char) : trim (trimRight s) = trim s := by
  rcases blank_or_visible s with hblank | ⟨gap, c, rest, hgap, hc, rfl⟩
  · obtain ⟨gap, -, hs⟩ := exists_append_trimLeft s
    have hleft : ∀ c ∈ trimLeft s, isBlank c = true := fun c hc =>
      hblank c (hs ▸ List.mem_append_right _ hc)
    rw [trimRight_of_blank hblank, trim_nil, trim, trimRight_of_blank hleft]
  · have hvisible : trimRight (c :: rest) = c :: trimRight rest := trimRight_append [] hc rest
    rw [trimRight_append _ hc, trim, trim, trimLeft_append hgap hc, trimLeft_append hgap hc,
      ← hvisible, trimRight_trimRight]

theorem trim_sublist (s : List Char) : (trim s).Sublist s := by
  rw [trim, trimRight, trimLeft]
  refine List.Sublist.trans ?_ (List.dropWhile_sublist isBlank)
  have hdrop := (List.dropWhile_sublist isBlank (l := (List.dropWhile isBlank s).reverse)).reverse
  rwa [List.reverse_reverse] at hdrop

/-- A text that is not empty and that trimming leaves as it is. -/
def IsTight (s : List Char) : Prop :=
  s ≠ [] ∧ trim s = s

instance (s : List Char) : Decidable (IsTight s) :=
  inferInstanceAs (Decidable (_ ∧ _))

theorem IsTight.trimLeft (h : IsTight s) : trimLeft s = s :=
  (List.dropWhile_sublist isBlank).eq_of_length_le <| by
    obtain ⟨gap, -, hgap⟩ := exists_append_trimRight (Text.trimLeft s)
    have hlength := congrArg List.length hgap
    rw [← trim, h.2, List.length_append] at hlength
    change s.length ≤ (Text.trimLeft s).length
    omega

/-- Such a text has a visible character at both of its ends. -/
theorem isTight_iff : IsTight s ↔ (∃ c rest, isBlank c = false ∧ s = c :: rest)
    ∧ ∃ before c, isBlank c = false ∧ s = before ++ [c] := by
  constructor
  · intro h
    have hright : trimRight s = s := by
      have htrim := h.2
      rwa [trim, h.trimLeft] at htrim
    obtain ⟨c, rest, rfl⟩ := List.exists_cons_of_ne_nil h.1
    refine ⟨⟨c, rest, isBlank_of_trimLeft_eq_cons h.trimLeft, rfl⟩, ?_⟩
    obtain ⟨before, last, hlast⟩ : ∃ before last, c :: rest = before ++ [last] :=
      ⟨_, _, (List.dropLast_concat_getLast h.1).symm⟩
    refine ⟨before, last, ?_, hlast⟩
    have hreverse : Text.trimLeft (c :: rest).reverse = (c :: rest).reverse :=
      List.reverse_eq_iff.1 hright
    rw [hlast, List.reverse_append] at hreverse
    exact isBlank_of_trimLeft_eq_cons hreverse
  · rintro ⟨⟨c, rest, hc, rfl⟩, before, last, hlast, hs⟩
    refine ⟨List.cons_ne_nil _ _, ?_⟩
    have hleft : Text.trimLeft (c :: rest) = c :: rest := by
      rw [Text.trimLeft, List.dropWhile_cons, hc]
      rfl
    rw [trim, hleft, hs, trimRight_append before hlast]
    rfl

theorem IsTight.all_isBlank (h : IsTight s) : s.all isBlank = false := by
  obtain ⟨⟨c, rest, hc, rfl⟩, -⟩ := isTight_iff.1 h
  simp [hc]

/-- Between tight texts anything may stand. -/
theorem IsTight.append {t : List Char} (hs : IsTight s) (ht : IsTight t) (between : List Char) :
    IsTight (s ++ (between ++ t)) := by
  obtain ⟨⟨c, rest, hc, rfl⟩, -⟩ := isTight_iff.1 hs
  obtain ⟨-, before, last, hlast, rfl⟩ := isTight_iff.1 ht
  exact isTight_iff.2 ⟨⟨c, rest ++ (between ++ (before ++ [last])), hc, rfl⟩,
    c :: rest ++ (between ++ before), last, hlast, by simp⟩

theorem trim_cons_blank {c : Char} (hc : isBlank c = true) (s : List Char) :
    trim (c :: s) = trim s := by
  rw [trim, trim, Text.trimLeft, Text.trimLeft, List.dropWhile_cons, if_pos hc]

theorem isTight_trim (h : trim s ≠ []) : IsTight (trim s) := by
  refine ⟨h, ?_⟩
  have htrim : trim s = trimRight (Text.trimLeft s) := rfl
  rw [htrim, trim_trimRight, trim_trimLeft]
  exact htrim

/-- Blanks behind a text are trimmed off. -/
theorem IsTight.trim_append (h : IsTight s) {gap : List Char} (hgap : ∀ c ∈ gap, isBlank c = true) :
    trim (s ++ gap) = s := by
  obtain ⟨-, before, last, hlast, rfl⟩ := isTight_iff.1 h
  have hsame := h.2
  rw [trim_append_cons before hlast] at hsame
  have hjoin : (before ++ [last]) ++ gap = before ++ last :: gap := by simp
  rw [hjoin, trim_append_cons before hlast, trimRight_of_blank hgap]
  exact hsame

/-! ### Patterns -/

theorem dropPattern?_eq_some_iff {pattern rest : List Char} :
    dropPattern? pattern s = some rest ↔ s = pattern ++ rest := by
  induction pattern generalizing s with
  | nil => simp [dropPattern?, eq_comm]
  | cons p ps ih =>
    cases s with
    | nil => simp [dropPattern?]
    | cons c cs =>
      rw [dropPattern?]
      by_cases hpc : p = c
      · simp [hpc, ih]
      · simp [hpc, Ne.symm hpc]

theorem startsWith_iff {pattern : List Char} :
    startsWith pattern s = true ↔ ∃ rest, s = pattern ++ rest := by
  simp only [startsWith, Option.isSome_iff_exists, dropPattern?_eq_some_iff]

/-- A trimmed text starts with a pattern just if the text does behind some blanks, where the
    pattern itself has a visible character at both of its ends. -/
theorem startsWith_trim_iff {first last : Char} {middle : List Char}
    (hfirst : isBlank first = false) (hlast : isBlank last = false) :
    startsWith (first :: middle ++ [last]) (trim s) = true ↔ ∃ gap rest,
      (∀ c ∈ gap, isBlank c = true) ∧ s = gap ++ (first :: middle ++ [last]) ++ rest := by
  rw [startsWith_iff]
  constructor
  · rintro ⟨rest, hrest⟩
    obtain ⟨gap, hgap, hs⟩ := exists_append_trimLeft s
    obtain ⟨ending, -, hleft⟩ := exists_append_trimRight (trimLeft s)
    rw [← trim, hrest] at hleft
    refine ⟨gap, rest ++ ending, hgap, ?_⟩
    rw [List.append_assoc, ← List.append_assoc _ rest, ← hleft, ← hs]
  · rintro ⟨gap, rest, hgap, rfl⟩
    refine ⟨trimRight rest, ?_⟩
    have hleft : trimLeft (gap ++ (first :: middle ++ [last]) ++ rest)
        = first :: middle ++ last :: rest := by
      rw [List.append_assoc, List.cons_append, List.cons_append, trimLeft_append hgap hfirst,
        List.append_assoc, List.singleton_append, List.cons_append]
    rw [trim, hleft, trimRight_append _ hlast, List.append_assoc, List.singleton_append]

theorem cutAt?_append {sep : Char} {before : List Char} (h : sep ∉ before) (after : List Char) :
    cutAt? [sep] (before ++ sep :: after) = some (before, after) := by
  induction before with
  | nil => simp [cutAt?, dropPattern?]
  | cons c before ih =>
    obtain ⟨hc, hbefore⟩ := not_or.1 (mt List.mem_cons.2 h)
    simp [cutAt?, dropPattern?, hc, ih hbefore]

theorem cutAt?_of_notMem {sep : Char} (h : sep ∉ s) : cutAt? [sep] s = none := by
  induction s with
  | nil => rfl
  | cons c s ih =>
    obtain ⟨hc, hs⟩ := not_or.1 (mt List.mem_cons.2 h)
    simp [cutAt?, dropPattern?, hc, ih hs]

theorem cutAt?_of_not_infix {pattern : List Char} (hne : pattern ≠ []) (h : ¬ pattern <:+: s) :
    cutAt? pattern s = none := by
  induction s with
  | nil => rw [cutAt?, if_neg (by simpa using hne)]
  | cons c s ih =>
    have hdrop : dropPattern? pattern (c :: s) = none := by
      rw [Option.eq_none_iff_forall_not_mem]
      intro rest hrest
      exact h (dropPattern?_eq_some_iff.1 hrest ▸ (List.prefix_append _ _).isInfix)
    rw [cutAt?, hdrop, ih fun hthere => h (hthere.trans (List.suffix_cons c s).isInfix)]
    rfl

/-! ### Pieces -/

/-- A piece of a text is left when other characters are left out. -/
theorem sublist_of_mem_splitWhere (h : piece ∈ splitWhere p s) : piece.Sublist s := by
  induction s generalizing piece with
  | nil =>
    rw [splitWhere, List.mem_singleton] at h
    subst h
    exact List.Sublist.refl _
  | cons c cs ih =>
    rw [splitWhere] at h
    split at h
    · rcases List.mem_cons.1 h with rfl | hrest
      · exact List.nil_sublist _
      · exact (ih hrest).cons c
    · split at h
      · obtain rfl := List.mem_singleton.1 h
        exact (List.nil_sublist cs).cons_cons c
      · rename_i first rest hpieces
        rcases List.mem_cons.1 h with rfl | hrest
        · exact (ih (by rw [hpieces]; exact List.mem_cons_self)).cons_cons c
        · exact (ih (by rw [hpieces]; exact List.mem_cons_of_mem _ hrest)).cons c

theorem splitWhere_ne_nil (p : Char → Bool) (s : List Char) : splitWhere p s ≠ [] := by
  cases s with
  | nil => simp [splitWhere]
  | cons c cs =>
    rw [splitWhere]
    split
    · simp
    · split <;> simp

/-- There is no cut inside a piece. -/
theorem forall_of_mem_splitWhere (h : piece ∈ splitWhere p s) : ∀ c ∈ piece, p c = false := by
  induction s generalizing piece with
  | nil =>
    rw [splitWhere, List.mem_singleton] at h
    simp [h]
  | cons c cs ih =>
    rw [splitWhere] at h
    split at h
    · rcases List.mem_cons.1 h with rfl | hrest
      · simp
      · exact ih hrest
    · rename_i hc
      rw [Bool.not_eq_true] at hc
      split at h
      · obtain rfl := List.mem_singleton.1 h
        simpa using hc
      · rename_i first rest hpieces
        rcases List.mem_cons.1 h with rfl | hrest
        · exact List.forall_mem_cons.2 ⟨hc, ih (by rw [hpieces]; exact List.mem_cons_self)⟩
        · exact ih (by rw [hpieces]; exact List.mem_cons_of_mem _ hrest)

/-- A text that does not start with the separator starts its first piece. -/
theorem exists_splitAt_cons {sep c : Char} (h : c ≠ sep) (s : List Char) :
    ∃ piece pieces, splitAt sep (c :: s) = (c :: piece) :: pieces := by
  obtain ⟨piece, pieces, hpieces⟩ := List.exists_cons_of_ne_nil (splitWhere_ne_nil (· == sep) s)
  refine ⟨piece, pieces, ?_⟩
  rw [splitAt, splitWhere, if_neg (by simpa using h), hpieces]

theorem splitWhere_eq_splitOnP (p : Char → Bool) (s : List Char) :
    splitWhere p s = s.splitOnP p := by
  induction s with
  | nil => rfl
  | cons c s ih =>
    obtain ⟨first, rest, hpieces⟩ := List.exists_cons_of_ne_nil (splitWhere_ne_nil p s)
    rw [splitWhere, List.splitOnP_cons_eq_if_modifyHead, ← ih, hpieces]
    rfl

/-- With the separator between them the pieces are the text. -/
theorem intercalate_splitAt (sep : Char) (s : List Char) :
    [sep].intercalate (splitAt sep s) = s := by
  rw [splitAt, splitWhere_eq_splitOnP]
  exact List.intercalate_splitOn sep

/-- Texts without the separator are what a text is cut into that has it between them. -/
theorem splitAt_intercalate {sep : Char} {pieces : List (List Char)}
    (h : ∀ piece ∈ pieces, sep ∉ piece) (hne : pieces ≠ []) :
    splitAt sep ([sep].intercalate pieces) = pieces := by
  rw [splitAt, splitWhere_eq_splitOnP]
  exact List.splitOn_intercalate sep h hne

theorem splitAt_of_notMem {sep : Char} (h : sep ∉ s) : splitAt sep s = [s] := by
  rw [splitAt, splitWhere_eq_splitOnP]
  exact List.splitOn_eq_singleton h

/-- The pieces on the two sides of a separator are cut apart from each other. -/
theorem splitAt_append_cons (sep : Char) (before after : List Char) :
    splitAt sep (before ++ sep :: after) = splitAt sep before ++ splitAt sep after := by
  simp only [splitAt, splitWhere_eq_splitOnP]
  exact List.splitOn_append_cons_self before after

/-- A text without the separator that follows another one follows its last piece. -/
theorem exists_splitAt_append {sep : Char} {t : List Char} (h : sep ∉ t) (s : List Char) :
    ∃ front last, splitAt sep s = front ++ [last] ∧ splitAt sep (s ++ t) = front ++ [last ++ t] := by
  induction s with
  | nil => exact ⟨[], [], rfl, splitAt_of_notMem h⟩
  | cons c s ih =>
    obtain ⟨front, last, hs, hst⟩ := ih
    by_cases hc : c = sep
    · subst hc
      refine ⟨[] :: front, last, ?_, ?_⟩
      · exact (splitAt_append_cons c [] s).trans (congrArg _ hs)
      · exact (splitAt_append_cons c [] (s ++ t)).trans (congrArg _ hst)
    · rw [splitAt] at hs hst
      rw [splitAt, splitAt, List.cons_append, splitWhere, splitWhere, hs, hst]
      simp only [beq_iff_eq, if_neg hc]
      cases front with
      | nil => exact ⟨[], c :: last, rfl, rfl⟩
      | cons first front => exact ⟨(c :: first) :: front, last, rfl, rfl⟩

theorem notMem_of_mem_splitAt {sep : Char} (h : piece ∈ splitAt sep s) : sep ∉ piece :=
    fun hsep => by
  simpa using forall_of_mem_splitWhere h sep hsep

theorem IsTight.intercalate {pieces : List (List Char)} (sep : List Char) (hne : pieces ≠ [])
    (h : ∀ piece ∈ pieces, IsTight piece) : IsTight (sep.intercalate pieces) := by
  induction pieces with
  | nil => exact absurd rfl hne
  | cons piece pieces ih =>
    obtain ⟨hpiece, hpieces⟩ := List.forall_mem_cons.1 h
    cases pieces with
    | nil => rwa [List.intercalate_singleton]
    | cons next others =>
      rw [List.intercalate_cons_cons, List.append_assoc]
      exact hpiece.append (ih (by simp) hpieces) sep

theorem notMem_intercalate {α : Type} {c : α} {sep : List α} {pieces : List (List α)}
    (hsep : c ∉ sep) (h : ∀ piece ∈ pieces, c ∉ piece) : c ∉ sep.intercalate pieces := by
  induction pieces with
  | nil => simp
  | cons piece pieces ih =>
    obtain ⟨hpiece, hpieces⟩ := List.forall_mem_cons.1 h
    cases pieces with
    | nil => rwa [List.intercalate_singleton]
    | cons next others =>
      rw [List.intercalate_cons_cons]
      simp [hsep, hpiece, ih hpieces]

/-- What is joined with a separator and a blank is there again when it is cut at the separator and
    trimmed. -/
theorem map_trim_splitAt {sep : Char} {pieces : List (List Char)} (hne : pieces ≠ [])
    (hsep : ∀ piece ∈ pieces, sep ∉ piece) (htrim : ∀ piece ∈ pieces, trim piece = piece)
    (hspace : sep ≠ ' ') : (splitAt sep ([sep, ' '].intercalate pieces)).map trim = pieces := by
  obtain ⟨first, others, rfl⟩ := List.exists_cons_of_ne_nil hne
  have hjoined : [sep, ' '].intercalate (first :: others)
      = [sep].intercalate (first :: others.map (' ' :: ·)) := by
    clear hne hsep htrim
    induction others generalizing first with
    | nil => rfl
    | cons next others ih =>
      rw [List.intercalate_cons_cons, ih, List.map_cons, List.intercalate_cons_cons]
      cases others <;> simp
  have hpieces : ∀ piece ∈ first :: others.map (' ' :: ·), sep ∉ piece := by
    simpa [hspace] using hsep
  have hcut := splitAt_intercalate hpieces (by simp)
  rw [hjoined, hcut]
  have hblank : trim ∘ (' ' :: ·) = trim := funext (trim_cons_blank (by decide))
  rw [List.map_cons, List.map_map, hblank, ← List.map_cons]
  exact (List.map_congr_left htrim).trans (List.map_id _)

end SqlPipeline.Text
