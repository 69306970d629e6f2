/-
  SqlPipeline/Proofs/Console/Escape.lean
  ======================================
  **What is shown of a text whose marks have been escaped.**

  Escaping puts backslashes before marks, one more than twice as many as there are.  A text is cut
  at the characters behind its backslashes and at its marks (`Cut`), and each step of escaping and
  of taking the escaped text apart again is a step of that cut.  An escaped text can be followed
  whatever is in it (`Legible.escaped`), and it is shown as it is (`Shows.escaped`), but for a
  backslash before an opening bracket that is no mark, and for backslashes at its end: they belong
  to a mark that follows.
-/
import SqlPipeline.Proofs.Console.Markup
import SqlPipeline.Proofs.Text.Cut
import Mathlib.Data.List.Infix
import Mathlib.Data.List.TakeWhile

namespace SqlPipeline.Console.Markup

variable {s t text after rest before : List Char} {b position : Nat} {c : Char}
  {opened opened' : List String}

/-! ### Cutting behind backslashes -/

theorem unmarked_run (h : ∀ b, mark? (List.replicate b '\\' ++ c :: after) = none) (b : Nat) :
    Unmarked (List.replicate b '\\' ++ [c]) after := by
  intro t hne ht
  obtain ⟨j, rfl⟩ : ∃ j, t = List.replicate j '\\' ++ [c] := by
    induction b with
    | zero =>
      rcases List.suffix_cons_iff.1 ht with rfl | ht
      · exact ⟨0, rfl⟩
      · exact absurd (List.suffix_nil.1 ht) hne
    | succ b ih =>
      rcases List.suffix_cons_iff.1 ht with rfl | ht
      · exact ⟨b + 1, rfl⟩
      · exact ih ht
  rw [List.append_assoc]
  exact h j

/-- A text cut at the characters that stand behind its backslashes, and at its marks. -/
inductive Cut : List Char → Prop
  | backslashes (b : Nat) : Cut (List.replicate b '\\')
  | other (b : Nat) {c : Char} {rest : List Char} : c ≠ '[' → c ≠ '\\' → Cut rest →
      Cut (List.replicate b '\\' ++ c :: rest)
  | bracket (b : Nat) {rest : List Char} : ¬ Opens rest → Cut rest →
      Cut (List.replicate b '\\' ++ '[' :: rest)
  | mark (b : Nat) {text rest : List Char} : IsMarkText text → Cut rest →
      Cut (List.replicate b '\\' ++ '[' :: (text ++ ']' :: rest))

theorem exists_run (s : List Char) : ∃ b, s = List.replicate b '\\'
    ∨ ∃ c rest, c ≠ '\\' ∧ s = List.replicate b '\\' ++ c :: rest := by
  induction s with
  | nil => exact ⟨0, .inl rfl⟩
  | cons c s ih =>
    by_cases hc : c = '\\'
    · obtain ⟨b, rfl | ⟨c', rest, hc', rfl⟩⟩ := ih
      · exact ⟨b + 1, .inl (by rw [hc]; rfl)⟩
      · exact ⟨b + 1, .inr ⟨c', rest, hc', by rw [hc]; rfl⟩⟩
    · exact ⟨0, .inr ⟨c, s, hc, rfl⟩⟩

/-- Every text can be cut so. -/
theorem cut (s : List Char) : Cut s := by
  induction hlength : s.length using Nat.strong_induction_on generalizing s with
  | _ n ih =>
    obtain ⟨b, rfl | ⟨c, rest, hc, rfl⟩⟩ := exists_run s
    · exact .backslashes b
    · by_cases hbracket : c = '['
      · subst hbracket
        by_cases hopens : Opens rest
        · obtain ⟨text, rest, htext, rfl⟩ := hopens
          refine .mark b htext (ih rest.length ?_ rest rfl)
          simp [← hlength]
          omega
        · refine .bracket b hopens (ih rest.length ?_ rest rfl)
          simp [← hlength]
          omega
      · refine .other b hbracket hc (ih rest.length ?_ rest rfl)
        simp [← hlength]
        omega

/-! ### The steps of escaping and of cutting into pieces -/

theorem escapeChars_append (h : Unmarked s after) :
    escapeChars 0 (s ++ after) = s ++ escapeChars 0 after := by
  induction s with
  | nil => rfl
  | cons c s ih =>
    obtain ⟨hnone, hs⟩ := h.of_cons
    rw [List.cons_append, escapeChars, if_neg (Nat.lt_irrefl 0), hnone]
    exact congrArg (c :: ·) (ih hs)

theorem unmarked_backslashes (b : Nat) : Unmarked (List.replicate b '\\') [] := by
  intro t _ ht
  rw [List.append_nil]
  refine mark?_of_notMem fun hmem => ?_
  cases List.eq_of_mem_replicate (ht.subset hmem)

theorem escapeChars_backslashes (b : Nat) :
    escapeChars 0 (List.replicate b '\\') = List.replicate b '\\' := by
  have happend := escapeChars_append (unmarked_backslashes b)
  rwa [List.append_nil, escapeChars, List.append_nil] at happend

theorem unmarked_other (b : Nat) (hbracket : c ≠ '[') (hbackslash : c ≠ '\\') (rest : List Char) :
    Unmarked (List.replicate b '\\' ++ [c]) rest :=
  unmarked_run (fun b => mark?_of_ne b hbracket hbackslash rest) b

theorem unmarked_bracket (b : Nat) (h : ¬ Opens rest) :
    Unmarked (List.replicate b '\\' ++ ['[']) rest :=
  unmarked_run (fun b => mark?_of_not_opens b h) b

theorem escapeChars_run (h : Unmarked (List.replicate b '\\' ++ [c]) rest) :
    escapeChars 0 (List.replicate b '\\' ++ c :: rest)
      = List.replicate b '\\' ++ c :: escapeChars 0 rest := by
  have happend := escapeChars_append h
  rwa [List.append_assoc, List.append_assoc] at happend

theorem pieces_run (h : Unmarked (List.replicate b '\\' ++ [c]) rest) (position : Nat)
    (before : List Char) :
    pieces position 0 before (List.replicate b '\\' ++ c :: rest)
      = pieces (position + (b + 1)) 0 (c :: (List.replicate b '\\' ++ before)) rest := by
  have happend := pieces_append h position before
  rw [List.append_assoc] at happend
  simpa using happend

theorem escapeChars_skip (taken rest : List Char) :
    escapeChars taken.length (taken ++ rest) = escapeChars 0 rest := by
  induction taken with
  | nil => rfl
  | cons c taken ih =>
    have hskip : (c :: taken).length > 0 := Nat.succ_pos _
    rw [List.cons_append, escapeChars, if_pos hskip]
    exact ih

theorem escapeChars_mark (b : Nat) (h : IsMarkText text) (rest : List Char) :
    escapeChars 0 (List.replicate b '\\' ++ '[' :: (text ++ ']' :: rest))
      = List.replicate (2 * b + 1) '\\' ++ '[' :: (text ++ ']' :: escapeChars 0 rest) := by
  obtain ⟨c, taken, hlength, hsplit⟩ := exists_marked b text
  have hmark := mark?_of_isMarkText b h rest
  rw [hsplit] at hmark ⊢
  rw [escapeChars, if_neg (Nat.lt_irrefl 0), hmark]
  dsimp only
  rw [← hlength, escapeChars_skip]
  simp

/-! ### What escaping leaves as it is -/

/-- The number of backslashes at the end of a text. -/
def trailing (s : List Char) : Nat :=
  (s.reverse.takeWhile (· == '\\')).length

theorem trailing_replicate (b : Nat) : trailing (List.replicate b '\\') = b := by
  have hall : (List.replicate b '\\').takeWhile (· == '\\') = List.replicate b '\\' :=
    List.takeWhile_eq_self_iff.2 fun c hc => by rw [List.eq_of_mem_replicate hc]; rfl
  rw [trailing, List.reverse_replicate, hall, List.length_replicate]

theorem trailing_append_cons (hc : c ≠ '\\') (s rest : List Char) :
    trailing (s ++ c :: rest) = trailing rest := by
  have hreverse : (s ++ c :: rest).reverse = rest.reverse ++ c :: s.reverse := by simp
  rw [trailing, trailing, hreverse, List.takeWhile_append]
  split
  · rename_i hall
    simp [hall, hc]
  · rfl

theorem trailing_mark (s text rest : List Char) :
    trailing (s ++ '[' :: (text ++ ']' :: rest)) = trailing rest := by
  have hsplit : s ++ '[' :: (text ++ ']' :: rest) = (s ++ '[' :: text) ++ ']' :: rest := by simp
  rw [hsplit, trailing_append_cons (by decide)]

theorem trailing_escapeChars (s : List Char) : trailing (escapeChars 0 s) = trailing s := by
  induction cut s with
  | backslashes b => rw [escapeChars_backslashes]
  | other b hbracket hbackslash _ ih =>
    rw [escapeChars_run (unmarked_other b hbracket hbackslash _), trailing_append_cons hbackslash,
      trailing_append_cons hbackslash, ih]
  | bracket b hopens _ ih =>
    rw [escapeChars_run (unmarked_bracket b hopens), trailing_append_cons (by decide),
      trailing_append_cons (by decide), ih]
  | mark b htext _ ih => rw [escapeChars_mark b htext, trailing_mark, trailing_mark, ih]

theorem find?_isBracket_replicate (b : Nat) : (List.replicate b '\\').find? isBracket = none :=
  List.find?_eq_none.2 fun c hc => by rw [List.eq_of_mem_replicate hc]; decide

/-- The first bracket of a text is the first behind escaping, too. -/
theorem find?_escapeChars (s after : List Char) :
    (escapeChars 0 s ++ after).find? isBracket = (s ++ after).find? isBracket := by
  have hrun := find?_isBracket_replicate
  induction cut s with
  | backslashes b => rw [escapeChars_backslashes]
  | @other b c rest hbracket hbackslash _ ih =>
    rw [escapeChars_run (unmarked_other b hbracket hbackslash _)]
    simp only [List.append_assoc, List.cons_append, List.find?_append, List.find?_cons, hrun]
      at ih ⊢
    rw [ih]
  | bracket b hopens _ ih =>
    rw [escapeChars_run (unmarked_bracket b hopens)]
    simp [List.find?_append, hrun, isBracket]
  | mark b htext _ ih =>
    rw [escapeChars_mark b htext]
    simp [List.find?_append, hrun, isBracket]

theorem startsMark_of_escapeChars (hs : s ≠ [])
    (h : ((escapeChars 0 s ++ after).head?.map startsMark).getD false = true) :
    (s.head?.map startsMark).getD false = true := by
  cases s with
  | nil => exact absurd rfl hs
  | cons c s =>
    rw [escapeChars, if_neg (Nat.lt_irrefl 0)] at h
    split at h
    · exact absurd (show startsMark '\\' = true from h) (by decide)
    · exact h

/-- Behind a bracket that is no mark, escaping makes none. -/
theorem not_opens_escapeChars (hs : ¬ Opens s) (hafter : after.find? isBracket ≠ some ']') :
    ¬ Opens (escapeChars 0 s ++ after) := by
  intro h
  obtain ⟨hstarts, hclosed⟩ := opens_iff.1 h
  rw [find?_escapeChars, List.find?_append] at hclosed
  have hfound : s.find? isBracket = some ']' :=
    (Option.or_eq_some_iff.1 hclosed).resolve_right fun h => hafter h.2
  have hne : s ≠ [] := by
    rintro rfl
    cases hfound
  exact hs (opens_iff.2 ⟨startsMark_of_escapeChars hne hstarts, hfound⟩)

/-! ### Escaped texts are legible -/

/-- A text is escaped so that its marks have no meaning: it can be followed if what stands behind
    it can, whatever the backslashes at its end come to there. -/
theorem Legible.escaped (s : List Char) (hafter : after.find? isBracket ≠ some ']')
    (h : ∀ b, Legible opened (List.replicate b '\\' ++ after)) :
    Legible opened (escapeChars 0 s ++ after) := by
  induction cut s with
  | backslashes b =>
    rw [escapeChars_backslashes]
    exact h b
  | @other b c rest hbracket hbackslash _ ih =>
    rw [escapeChars_run (unmarked_other b hbracket hbackslash _), List.append_assoc,
      List.cons_append]
    intro position before
    rw [pieces_run (unmarked_other b hbracket hbackslash _)]
    exact ih _ _
  | @bracket b rest hopens _ ih =>
    rw [escapeChars_run (unmarked_bracket b hopens), List.append_assoc, List.cons_append]
    intro position before
    rw [pieces_run (unmarked_bracket b (not_opens_escapeChars hopens hafter))]
    exact ih _ _
  | @mark b text rest htext _ ih =>
    rw [escapeChars_mark b htext]
    intro position before
    obtain ⟨t, ht⟩ := ih (position + (2 * b + 1 + text.length + 2)) []
    simp only [List.append_assoc, List.cons_append]
    rw [pieces_mark _ htext, plainOf_escaped (by omega), ht]
    exact ⟨_, rfl⟩

/-! ### What is shown -/

/-- What stands before in a piece, read backwards, when no backslash in it is lost. -/
structure Settled (before : List Char) : Prop where
  last : before.head? ≠ some '\\'
  pairs : ¬ ['[', '\\'] <:+: before

theorem Settled.nil : Settled [] := ⟨by simp, by simp⟩

theorem Settled.pairs_run (h : Settled before) (b : Nat) :
    ¬ ['[', '\\'] <:+: List.replicate b '\\' ++ before := by
  induction b with
  | zero => exact h.pairs
  | succ b ih =>
    rw [List.replicate_succ, List.cons_append, List.infix_cons_iff]
    rintro (hhead | hpair)
    · exact absurd (List.cons_prefix_cons.1 hhead).1 (by decide)
    · exact ih hpair

theorem Settled.run (h : Settled before) (hc : c ≠ '\\') (hb : c = '[' → b = 0) :
    Settled (c :: (List.replicate b '\\' ++ before)) := by
  refine ⟨by simpa using hc, ?_⟩
  rw [List.infix_cons_iff]
  rintro (hhead | hpair)
  · obtain ⟨hbracket, hhead⟩ := List.cons_prefix_cons.1 hhead
    obtain rfl := hb hbracket.symm
    cases before with
    | nil => cases List.prefix_nil.1 hhead
    | cons x before => exact h.last (congrArg some (List.cons_prefix_cons.1 hhead).1.symm)
  · exact h.pairs_run b hpair

theorem withoutEscapes_of_not_infix (h : ¬ ['\\', '['] <:+: s) : withoutEscapes s = s := by
  have hcut : Text.cutAt? ['\\', '['] s = none := Text.cutAt?_of_not_infix (by simp) h
  have hsplit : ∀ limit, Text.splitOnPattern ['\\', '['] limit s = [s] := by
    intro limit
    cases limit with
    | zero => rfl
    | succ limit => rw [Text.splitOnPattern, hcut]
  rw [withoutEscapes, Text.replaceFirst, hsplit]
  simp [List.intercalate]

theorem withoutEscapes_reverse (h : ¬ ['[', '\\'] <:+: before) :
    withoutEscapes before.reverse = before.reverse :=
  withoutEscapes_of_not_infix fun hpair => h (by simpa using List.reverse_infix.2 hpair)

/-- What is shown of a text when some styles are open. -/
def Shows (opened : List String) (s t : List Char) : Prop :=
  ∀ position before, Settled before →
    plainOf opened (pieces position 0 before s).2 (pieces position 0 before s).1
      = .ok (before.reverse ++ t)

/-- That a backslash stands before an opening bracket only in front of a mark.  Any other
    backslash there is lost. -/
def KeepsBackslashes (s : List Char) : Prop :=
  ∀ t ∈ s.tails, ['\\', '['] <+: t → (mark? t).isSome

instance (s : List Char) : Decidable (KeepsBackslashes s) :=
  inferInstanceAs (Decidable (∀ t ∈ s.tails, ['\\', '['] <+: t → (mark? t).isSome))

theorem KeepsBackslashes.of_suffix (h : KeepsBackslashes s) (ht : t <:+ s) : KeepsBackslashes t :=
  fun u hu => h u ((List.mem_tails _ _).2 (((List.mem_tails _ _).1 hu).trans ht))

theorem KeepsBackslashes.opens (h : KeepsBackslashes (List.replicate (b + 1) '\\' ++ '[' :: rest)) :
    Opens rest := by
  by_contra hopens
  have hsuffix : List.replicate 1 '\\' ++ '[' :: rest
      <:+ List.replicate (b + 1) '\\' ++ '[' :: rest :=
    ⟨List.replicate b '\\', by rw [← List.append_assoc, ← List.replicate_add]⟩
  have hmark := h _ ((List.mem_tails _ _).2 hsuffix) (List.prefix_append ['\\', '['] rest)
  rw [mark?_of_not_opens 1 hopens] at hmark
  cases hmark

/-- **An escaped text is shown as it is.** -/
theorem Shows.escaped (hs : KeepsBackslashes s) (hafter : after.find? isBracket ≠ some ']')
    (h : Shows opened (List.replicate (trailing s) '\\' ++ after)
      (List.replicate (trailing s) '\\' ++ t)) :
    Shows opened (escapeChars 0 s ++ after) (s ++ t) := by
  induction cut s with
  | backslashes b =>
    rw [trailing_replicate] at h
    rw [escapeChars_backslashes]
    exact h
  | @other b c rest hbracket hbackslash _ ih =>
    rw [trailing_append_cons hbackslash] at h
    have hrest := hs.of_suffix ((List.suffix_cons c rest).trans (List.suffix_append _ _))
    rw [escapeChars_run (unmarked_other b hbracket hbackslash _), List.append_assoc,
      List.cons_append]
    intro position before hbefore
    rw [pieces_run (unmarked_other b hbracket hbackslash _),
      ih hrest h _ _ (hbefore.run hbackslash fun heq => absurd heq hbracket)]
    simp
  | @bracket b rest hopens _ ih =>
    rw [trailing_append_cons (by decide)] at h
    obtain rfl : b = 0 := by
      cases b with
      | zero => rfl
      | succ b => exact absurd hs.opens hopens
    have hrest := hs.of_suffix ((List.suffix_cons '[' rest).trans (List.suffix_append _ _))
    rw [escapeChars_run (unmarked_bracket 0 hopens), List.append_assoc, List.cons_append]
    intro position before hbefore
    rw [pieces_run (unmarked_bracket 0 (not_opens_escapeChars hopens hafter)),
      ih hrest h _ _ (hbefore.run (by decide) fun _ => rfl)]
    simp
  | @mark b text rest htext _ ih =>
    rw [trailing_mark] at h
    have hsuffix : rest <:+ List.replicate b '\\' ++ '[' :: (text ++ ']' :: rest) :=
      ⟨List.replicate b '\\' ++ '[' :: (text ++ [']']), by simp⟩
    rw [escapeChars_mark b htext]
    intro position before hbefore
    have hhalf : (2 * b + 1) / 2 = b := by omega
    have hrest := ih (hs.of_suffix hsuffix) h (position + (2 * b + 1 + text.length + 2)) [] .nil
    simp only [List.append_assoc, List.cons_append]
    rw [pieces_mark _ htext, plainOf_escaped (by omega), hhalf, hrest,
      withoutEscapes_reverse hbefore.pairs]
    simp [Except.map]

/-! ### Putting together what is shown -/

theorem Settled.bare (h : Settled before) (htext : Bare text) :
    Settled (text.reverse ++ before) := by
  induction text generalizing before with
  | nil => exact h
  | cons c text ih =>
    have hbracket : c ≠ '[' := fun heq => htext.bracket (heq ▸ List.mem_cons_self)
    have hbackslash : c ≠ '\\' := fun heq => htext.backslash (heq ▸ List.mem_cons_self)
    rw [List.reverse_cons, List.append_assoc]
    exact ih (h.run hbackslash fun _ => rfl : Settled (c :: (List.replicate 0 '\\' ++ before)))
      ⟨fun h => htext.bracket (List.mem_cons_of_mem _ h),
        fun h => htext.backslash (List.mem_cons_of_mem _ h)⟩

theorem Shows.bare (hs : Shows opened s t) (htext : Bare text) :
    Shows opened (text ++ s) (text ++ t) := by
  intro position before hbefore
  rw [pieces_append (htext.unmarked s), hs _ _ (hbefore.bare htext)]
  simp

theorem Shows.mark (hs : Shows opened' s t) (htext : IsMarkText text)
    (hafter : ∀ position, afterMark opened text position = .ok opened') :
    Shows opened ('[' :: (text ++ ']' :: s)) t := by
  intro position before hbefore
  have hpieces := pieces_mark 0 htext position before s
  rw [List.replicate_zero, List.nil_append] at hpieces
  rw [hpieces, plainOf_mark rfl (hafter position), hs _ _ .nil,
    withoutEscapes_reverse hbefore.pairs]
  simp [Except.map]

theorem Shows.styled {style : List Char} (hs : Shows opened s t) (hstyle : IsStyle style)
    (htext : Bare text) :
    Shows opened ('[' :: (style ++ ']' :: (text ++ '[' :: ('/' :: style ++ ']' :: s))))
      (text ++ t) := by
  refine Shows.mark ?_ hstyle.isMarkText (hstyle.afterMark opened)
  refine Shows.bare ?_ htext
  exact Shows.mark hs hstyle.isMarkText_closing (hstyle.afterMark_closing opened)

theorem shows_backslashes (b : Nat) (opened : List String) :
    Shows opened (List.replicate b '\\') (List.replicate b '\\') := by
  intro position before hbefore
  have hbracket : '[' ∉ List.replicate b '\\' := fun h => by cases List.eq_of_mem_replicate h
  have hreverse : before.reverse ++ List.replicate b '\\'
      = (List.replicate b '\\' ++ before).reverse := by simp
  rw [pieces_of_notMem hbracket, hreverse, plainOf_nil,
    withoutEscapes_reverse (hbefore.pairs_run b)]

theorem plain_of_shows {line : String} (h : Shows [] line.toList t) :
    plain line = .ok (.ofList t) := by
  have hshown := h 0 [] .nil
  by_cases hbracket : '[' ∈ line.toList
  · have hcontains : line.toList.contains '[' = true := by simpa using hbracket
    rw [plain_eq, if_pos hcontains, hshown]
    rfl
  · rw [pieces_of_notMem hbracket, plainOf_nil] at hshown
    have hnone : withoutEscapes line.toList = line.toList :=
      withoutEscapes_of_not_infix fun h => hbracket (h.subset (by simp))
    have hline : line.toList = t := hnone ▸ Except.ok.inj hshown
    rw [plain_of_notMem hbracket, ← hline, String.ofList_toList]

/-! ### Messages in a line -/

/-- The backslashes that escaping puts behind a text. -/
def doubling (s : List Char) : Nat :=
  if trailing s = 1 then 1 else 0

theorem toList_escape (message : String) : (escape message).toList
    = escapeChars 0 message.toList ++ List.replicate (doubling message.toList) '\\' := by
  rw [doubling, ← trailing_escapeChars, trailing]
  unfold escape
  dsimp only
  generalize escapeChars 0 message.toList = cs
  split
  · rename_i h
    rw [h]
    simp
  · rename_i rest hpair h
    have hnone : rest.takeWhile (· == '\\') = [] := by
      cases rest with
      | nil => rfl
      | cons c rest =>
        have hc : c ≠ '\\' := fun heq => hpair rest (congrArg (· :: rest) heq)
        simp [hc]
    rw [h]
    simp [hnone]
  · rename_i hnone
    have hzero : cs.reverse.takeWhile (· == '\\') = [] := by
      cases hreverse : cs.reverse with
      | nil => rfl
      | cons c rest =>
        have hc : c ≠ '\\' := fun heq => hnone rest (heq ▸ hreverse)
        simp [hc]
    rw [hzero]
    simp

/-- A text in a style. -/
def inStyle (style s : List Char) : List Char :=
  '[' :: (style ++ ']' :: (s ++ '[' :: ('/' :: style ++ [']'])))

theorem legible_closing {style : List Char} (hstyle : IsStyle style) (opened : List String)
    (b : Nat) :
    Legible (nameOf style :: opened) (List.replicate b '\\' ++ '[' :: ('/' :: style ++ [']'])) := by
  intro position before
  rw [pieces_mark b hstyle.isMarkText_closing, pieces]
  rcases Nat.mod_two_eq_zero_or_one b with heven | hodd
  · rw [plainOf_mark heven (hstyle.afterMark_closing opened _), plainOf_nil]
    exact ⟨_, rfl⟩
  · rw [plainOf_escaped hodd, plainOf_nil]
    exact ⟨_, rfl⟩

theorem shows_closing {style : List Char} (hstyle : IsStyle style) (opened : List String)
    (b : Nat) :
    Shows (nameOf style :: opened)
      (List.replicate (2 * b) '\\' ++ '[' :: ('/' :: style ++ [']'])) (List.replicate b '\\') := by
  intro position before hbefore
  have hhalf : 2 * b / 2 = b := by omega
  have hnone : withoutEscapes [] = [] := withoutEscapes_of_not_infix (by simp)
  rw [pieces_mark _ hstyle.isMarkText_closing, pieces,
    plainOf_mark (by omega) (hstyle.afterMark_closing opened _), plainOf_nil, hhalf,
    withoutEscapes_reverse hbefore.pairs, List.reverse_nil, hnone, Except.map, List.append_nil]

theorem find?_isBracket_closing (b : Nat) (s : List Char) :
    (List.replicate b '\\' ++ '[' :: s).find? isBracket ≠ some ']' := by
  rw [List.find?_append, find?_isBracket_replicate, List.find?_cons_of_pos (by decide)]
  decide

theorem find?_isBracket_backslashes (b : Nat) :
    (List.replicate b '\\').find? isBracket ≠ some ']' := by
  rw [find?_isBracket_replicate]
  decide

/-- **A message that is escaped can be printed in a style, whatever is in it.** -/
theorem legible_inStyle {style : List Char} (hstyle : IsStyle style) (message : String) :
    Legible [] (inStyle style (escape message).toList) := by
  rw [inStyle, toList_escape, List.append_assoc]
  refine Legible.mark ?_ hstyle.isMarkText (hstyle.afterMark [])
  refine Legible.escaped _ (find?_isBracket_closing _ _) fun b => ?_
  rw [← List.append_assoc, ← List.replicate_add]
  exact legible_closing hstyle [] _

theorem legible_escape (message : String) (opened : List String) :
    Legible opened (escape message).toList := by
  rw [toList_escape]
  refine Legible.escaped _ (find?_isBracket_backslashes _) fun b => ?_
  rw [← List.replicate_add]
  exact legible_of_notMem (fun h => by cases List.eq_of_mem_replicate h) opened

/-- It is shown as it is if no backslash in it is lost and it does not end in two of them. -/
theorem shows_inStyle_escape {style : List Char} (hstyle : IsStyle style) {message : String}
    (hkeeps : KeepsBackslashes message.toList) (hend : trailing message.toList ≤ 1) :
    Shows [] (inStyle style (escape message).toList) message.toList := by
  have hdoubling : trailing message.toList + doubling message.toList
      = 2 * trailing message.toList := by
    rw [doubling]
    split <;> omega
  have hshows : Shows [nameOf style]
      (escapeChars 0 message.toList ++ (List.replicate (doubling message.toList) '\\'
        ++ '[' :: ('/' :: style ++ [']']))) (message.toList ++ []) := by
    refine Shows.escaped hkeeps (find?_isBracket_closing _ _) ?_
    rw [← List.append_assoc, ← List.replicate_add, hdoubling, List.append_nil]
    exact shows_closing hstyle [] _
  rw [inStyle, toList_escape, List.append_assoc]
  rw [List.append_nil] at hshows
  exact hshows.mark hstyle.isMarkText (hstyle.afterMark [])

theorem shows_escape {message : String} (hkeeps : KeepsBackslashes message.toList)
    (opened : List String) :
    Shows opened (escape message).toList
      (message.toList ++ List.replicate (doubling message.toList) '\\') := by
  rw [toList_escape]
  refine Shows.escaped hkeeps (find?_isBracket_backslashes _) ?_
  rw [← List.replicate_add]
  exact shows_backslashes _ opened

/-! ### Messages that are not escaped -/

/-- That no mark starts anywhere in a text. -/
def HasNoMark (s : List Char) : Prop :=
  ∀ t ∈ s.tails, mark? t = none

instance (s : List Char) : Decidable (HasNoMark s) :=
  inferInstanceAs (Decidable (∀ t ∈ s.tails, mark? t = none))

theorem HasNoMark.escapeChars_eq (h : HasNoMark s) : escapeChars 0 s = s := by
  have hunmarked : Unmarked s [] := fun t _ ht => by
    rw [List.append_nil]
    exact h t ((List.mem_tails _ _).2 ht)
  have happend := escapeChars_append hunmarked
  rwa [List.append_nil, escapeChars, List.append_nil] at happend

/-- A text without marks is shown in a style as it is if it does not end in a backslash. -/
theorem shows_inStyle {style : List Char} (hstyle : IsStyle style) (hmarks : HasNoMark s)
    (hkeeps : KeepsBackslashes s) (hend : trailing s = 0) : Shows [] (inStyle style s) s := by
  have hshows : Shows [nameOf style] (escapeChars 0 s ++ '[' :: ('/' :: style ++ [']']))
      (s ++ []) := by
    refine Shows.escaped hkeeps (find?_isBracket_closing 0 _) ?_
    rw [hend]
    exact shows_closing hstyle [] 0
  rw [hmarks.escapeChars_eq, List.append_nil] at hshows
  exact hshows.mark hstyle.isMarkText (hstyle.afterMark [])

theorem shows_unmarked (hmarks : HasNoMark s) (hkeeps : KeepsBackslashes s)
    (opened : List String) : Shows opened s s := by
  have hshows : Shows opened (escapeChars 0 s ++ []) (s ++ []) := by
    refine Shows.escaped hkeeps (find?_isBracket_backslashes 0) ?_
    rw [List.append_nil]
    exact shows_backslashes _ opened
  rwa [List.append_nil, List.append_nil, hmarks.escapeChars_eq] at hshows

end SqlPipeline.Console.Markup
