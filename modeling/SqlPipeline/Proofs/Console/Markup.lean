/-
  SqlPipeline/Proofs/Console/Markup.lean
  ======================================
  **Texts whose marks can be followed.**

  A mark is an opening bracket, behind any number of backslashes, and a text that starts as a mark
  does and has no other bracket before one that closes it (`opens_iff`).  A text is printed only if
  none of its marks closes what is not open.  That is so piece by piece: what has no bracket and no
  backslash does no harm in front (`Legible.bare`), a mark leads from the styles that are open to
  others (`Legible.mark`), and behind the last mark anything may stand that has no opening bracket
  (`legible_of_notMem`).

  What is printed of a text then is the text itself, but for characters that would move the
  cursor and for tabs (`printed_of_steady`).
-/
import SqlPipeline.Console.Layout
import SqlPipeline.Console.Markup
import Mathlib.Data.List.Infix
import Mathlib.Data.List.TakeWhile

namespace SqlPipeline.Console.Emoji

/-! ### Names of pictures -/

variable {table : Table} {s t written : List Char}

theorem exists_of_between? (h : between? s = some written) : ∃ rest, s = written ++ ':' :: rest := by
  induction s generalizing written with
  | nil => cases h
  | cons c s ih =>
    rw [between?] at h
    by_cases hcolon : (c == ':') = true
    · rw [if_pos hcolon] at h
      obtain rfl := Option.some.inj h
      exact ⟨s, congrArg (· :: s) (beq_iff_eq.1 hcolon)⟩
    · rw [if_neg hcolon] at h
      split at h
      · cases h
      · obtain ⟨inner, hinner, rfl⟩ := Option.map_eq_some_iff.1 h
        obtain ⟨rest, rfl⟩ := ih hinner
        exact ⟨rest, rfl⟩

theorem between?_append (h : between? s = some written) (more : List Char) :
    between? (s ++ more) = some written := by
  induction s generalizing written with
  | nil => cases h
  | cons c s ih =>
    rw [between?] at h
    rw [List.cons_append, between?]
    by_cases hcolon : (c == ':') = true
    · rw [if_pos hcolon] at h ⊢
      exact h
    · rw [if_neg hcolon] at h ⊢
      split at h
      · cases h
      · rename_i hblank
        obtain ⟨inner, hinner, rfl⟩ := Option.map_eq_some_iff.1 h
        rw [if_neg hblank, ih hinner, Option.map_some]

theorem between?_of_notMem (h : ':' ∉ s) : between? s = none := by
  by_contra hsome
  obtain ⟨written, hwritten⟩ := Option.ne_none_iff_exists'.1 hsome
  obtain ⟨rest, rfl⟩ := exists_of_between? hwritten
  simp at h

theorem between?_append_of_notMem (h : between? s = none) (ht : ':' ∉ t) :
    between? (s ++ t) = none := by
  induction s with
  | nil => exact between?_of_notMem ht
  | cons c s ih =>
    rw [between?] at h
    rw [List.cons_append, between?]
    split at h
    · cases h
    · rename_i hcolon
      rw [if_neg hcolon]
      split at h
      · rename_i hblank
        rw [if_pos hblank]
      · rename_i hblank
        rw [if_neg hblank, ih (Option.map_eq_none_iff.1 h), Option.map_none]

/-- The picture whose name stands at the start of a text. -/
def pictureAt? (table : Table) : List Char → Option (List Char)
  | [] => none
  | c :: cs => if c == ':' then (between? cs).bind (picture? table) else none

/-- That no name of a picture stands anywhere in a text. -/
def HasNoPicture (table : Table) (s : List Char) : Prop :=
  ∀ t ∈ s.tails, pictureAt? table t = none

instance (table : Table) (s : List Char) : Decidable (HasNoPicture table s) :=
  inferInstanceAs (Decidable (∀ t ∈ s.tails, pictureAt? table t = none))

theorem pictureAt?_append {picture : List Char} (h : pictureAt? table s = some picture)
    (more : List Char) : pictureAt? table (s ++ more) = some picture := by
  cases s with
  | nil => cases h
  | cons c s =>
    rw [pictureAt?] at h
    rw [List.cons_append, pictureAt?]
    by_cases hcolon : (c == ':') = true
    · rw [if_pos hcolon] at h ⊢
      obtain ⟨written, hwritten, hpicture⟩ := Option.bind_eq_some_iff.1 h
      rw [between?_append hwritten more, Option.bind_some, hpicture]
    · rw [if_neg hcolon] at h
      cases h

theorem HasNoPicture.of_infix (h : HasNoPicture table s) (ht : t <:+: s) : HasNoPicture table t := by
  obtain ⟨before, after, rfl⟩ := ht
  intro u hu
  obtain ⟨front, rfl⟩ := (List.mem_tails _ _).1 hu
  have hsuffix : u ++ after <:+ before ++ (front ++ u) ++ after := ⟨before ++ front, by simp⟩
  by_contra hsome
  obtain ⟨picture, hpicture⟩ := Option.ne_none_iff_exists'.1 hsome
  have hnone := h _ ((List.mem_tails _ _).2 hsuffix)
  rw [pictureAt?_append hpicture] at hnone
  cases hnone

theorem hasNoPicture_of_notMem (h : ':' ∉ s) : HasNoPicture table s := by
  intro t ht
  cases t with
  | nil => rfl
  | cons c t =>
    have hc : c ≠ ':' := by
      rintro rfl
      exact h (((List.mem_tails _ _).1 ht).subset List.mem_cons_self)
    rw [pictureAt?, if_neg (by simpa using hc)]

theorem HasNoPicture.cons (h : HasNoPicture table s) {c : Char}
    (hc : pictureAt? table (c :: s) = none) : HasNoPicture table (c :: s) := by
  intro t ht
  rw [List.mem_tails, List.suffix_cons_iff, ← List.mem_tails] at ht
  rcases ht with rfl | ht
  · exact hc
  · exact h t ht

theorem HasNoPicture.append (h : HasNoPicture table t) (hs : ':' ∉ s) :
    HasNoPicture table (s ++ t) := by
  induction s with
  | nil => exact h
  | cons c s ih =>
    rw [List.mem_cons, not_or] at hs
    refine (ih hs.2).cons ?_
    rw [pictureAt?, if_neg (by simpa using Ne.symm hs.1)]

/-- A colon in front of a space begins no name. -/
theorem HasNoPicture.behindColon (h : HasNoPicture table s) :
    HasNoPicture table (':' :: ' ' :: s) :=
  (h.append (s := [' ']) (by decide)).cons rfl

/-- What has no colon brings no name to its end. -/
theorem HasNoPicture.append_notMem (h : HasNoPicture table s) (ht : ':' ∉ t) :
    HasNoPicture table (s ++ t) := by
  induction s with
  | nil => exact hasNoPicture_of_notMem ht
  | cons c s ih =>
    refine (ih (h.of_infix (List.suffix_cons c s).isInfix)).cons ?_
    have hat := h _ ((List.mem_tails _ _).2 List.suffix_rfl)
    rw [pictureAt?] at hat ⊢
    by_cases hcolon : (c == ':') = true
    · rw [if_pos hcolon] at hat ⊢
      cases hwritten : between? s with
      | some written =>
        rw [hwritten] at hat
        rw [between?_append hwritten t]
        exact hat
      | none => rw [between?_append_of_notMem hwritten ht, Option.bind_none]
    · rw [if_neg hcolon]

/-- A text without names of pictures stays as it is. -/
theorem replace_eq (h : HasNoPicture table s) (skip : Nat) : replace table skip s = s.drop skip := by
  induction s generalizing skip with
  | nil => rw [replace, List.drop_nil]
  | cons c s ih =>
    have hs : HasNoPicture table s := h.of_infix (List.suffix_cons c s).isInfix
    rw [replace]
    cases skip with
    | succ skip => rw [if_pos (Nat.succ_pos _), Nat.add_sub_cancel, ih hs, List.drop_succ_cons]
    | zero =>
      rw [if_neg (Nat.lt_irrefl 0), List.drop_zero]
      by_cases hcolon : (c == ':') = true
      · obtain rfl := beq_iff_eq.1 hcolon
        have hat := h _ ((List.mem_tails _ _).2 List.suffix_rfl)
        rw [pictureAt?, if_pos hcolon] at hat
        rw [if_pos hcolon]
        cases hwritten : between? s with
        | none =>
          dsimp only
          rw [ih hs, List.drop_zero]
        | some written =>
          obtain ⟨rest, rfl⟩ := exists_of_between? hwritten
          rw [hwritten, Option.bind_some] at hat
          dsimp only
          rw [hat, Option.getD_none, ih hs]
          simp
      · rw [if_neg hcolon, ih hs, List.drop_zero]

end SqlPipeline.Console.Emoji

namespace SqlPipeline.Console.Markup

variable {opened opened' : List String} {s text after rest : List Char} {c : Char}

/-- A text that no mark starts in, and that is part of none behind it. -/
structure Bare (s : List Char) : Prop where
  bracket : '[' ∉ s
  backslash : '\\' ∉ s

theorem Bare.append {s t : List Char} (hs : Bare s) (ht : Bare t) : Bare (s ++ t) where
  bracket h := (List.mem_append.1 h).elim hs.bracket ht.bracket
  backslash h := (List.mem_append.1 h).elim hs.backslash ht.backslash

/-! ### Marks behind backslashes -/

/-- What stands in a mark: a text that starts like one and has no bracket. -/
structure IsMarkText (text : List Char) : Prop where
  starts : (text.head?.map startsMark).getD false = true
  opening : '[' ∉ text
  closing : ']' ∉ text

/-- That what follows an opening bracket makes it a mark. -/
def Opens (s : List Char) : Prop :=
  ∃ text rest, IsMarkText text ∧ s = text ++ ']' :: rest

def isBracket (c : Char) : Bool :=
  c == '[' || c == ']'

theorem find?_isBracket_eq_none (h : IsMarkText text) : text.find? isBracket = none := by
  refine List.find?_eq_none.2 fun c hc hbracket => ?_
  rcases Bool.or_eq_true _ _ ▸ hbracket with heq | heq
  · exact h.opening (beq_iff_eq.1 heq ▸ hc)
  · exact h.closing (beq_iff_eq.1 heq ▸ hc)

/-- A mark starts like one, and the first bracket in it closes it. -/
theorem opens_iff : Opens s
    ↔ (s.head?.map startsMark).getD false = true ∧ s.find? isBracket = some ']' := by
  constructor
  · rintro ⟨text, rest, htext, rfl⟩
    refine ⟨?_, ?_⟩
    · cases text with
      | nil => cases htext.starts
      | cons c text => exact htext.starts
    · rw [List.find?_append, find?_isBracket_eq_none htext]
      rfl
  · rintro ⟨hstarts, hclosed⟩
    obtain ⟨-, text, rest, rfl, hnone⟩ := List.find?_eq_some_iff_append.1 hclosed
    refine ⟨text, rest, ⟨?_, fun h => ?_, fun h => ?_⟩, rfl⟩
    · cases text with
      | nil => exact absurd (show startsMark ']' = true from hstarts) (by decide)
      | cons c text => exact hstarts
    · simpa [isBracket] using hnone _ h
    · simpa [isBracket] using hnone _ h

/-- There is a mark only where the backslashes are followed by a bracket. -/
theorem mark?_eq_none (h : ∀ rest, s.drop (s.takeWhile (· == '\\')).length ≠ '[' :: rest) :
    mark? s = none := by
  dsimp only [mark?]
  split
  case h_1 rest hrest => exact absurd hrest (h rest)
  case h_2 => rfl

theorem mark?_of_notMem (h : '[' ∉ s) : mark? s = none := by
  refine mark?_eq_none fun rest hrest => h ?_
  have hmem : '[' ∈ s.drop (s.takeWhile (· == '\\')).length := hrest ▸ List.mem_cons_self
  exact List.mem_of_mem_drop hmem

theorem takeWhile_backslashes (b : Nat) (h : s.head? ≠ some '\\') :
    (List.replicate b '\\' ++ s).takeWhile (· == '\\') = List.replicate b '\\' := by
  rw [List.takeWhile_append_of_pos fun c hc => by rw [List.eq_of_mem_replicate hc]; rfl]
  cases s with
  | nil => simp
  | cons c s =>
    have hc : c ≠ '\\' := fun heq => h (congrArg some heq)
    simp [hc]

theorem mark?_backslashes (b : Nat) (rest : List Char) :
    mark? (List.replicate b '\\' ++ '[' :: rest)
      = if ((rest.takeWhile fun c => c != '[' && c != ']').head?.map startsMark).getD false
          && rest[(rest.takeWhile fun c => c != '[' && c != ']').length]? == some ']' then
        some ⟨b, rest.takeWhile fun c => c != '[' && c != ']'⟩
      else none := by
  have hhead : ('[' :: rest).head? ≠ some '\\' := by simp
  rw [mark?, takeWhile_backslashes b hhead, List.length_replicate,
    List.drop_left' List.length_replicate]
  rfl

theorem mark?_of_ne (b : Nat) (hbracket : c ≠ '[') (hbackslash : c ≠ '\\') (rest : List Char) :
    mark? (List.replicate b '\\' ++ c :: rest) = none := by
  have hhead : (c :: rest).head? ≠ some '\\' := by simpa using hbackslash
  refine mark?_eq_none fun rest' hrest => hbracket ?_
  rw [takeWhile_backslashes b hhead, List.drop_left'] at hrest
  · exact (List.cons.inj hrest).1
  · rfl

theorem mark?_of_not_opens (b : Nat) (h : ¬ Opens rest) :
    mark? (List.replicate b '\\' ++ '[' :: rest) = none := by
  rw [mark?_backslashes, if_neg]
  intro hmark
  rw [Bool.and_eq_true, beq_iff_eq] at hmark
  obtain ⟨hstarts, hclosed⟩ := hmark
  have hsplit := List.takeWhile_append_dropWhile (p := fun c => c != '[' && c != ']') (l := rest)
  have hinside : ∀ c ∈ rest.takeWhile (fun c => c != '[' && c != ']'), c ≠ '[' ∧ c ≠ ']' :=
    fun c hc => by simpa using List.mem_takeWhile_imp hc
  generalize rest.takeWhile (fun c => c != '[' && c != ']') = text at hstarts hclosed hsplit hinside
  generalize rest.dropWhile (fun c => c != '[' && c != ']') = behind at hsplit
  subst hsplit
  rw [List.getElem?_append_right (Nat.le_refl _), Nat.sub_self] at hclosed
  obtain ⟨rest, rfl⟩ : ∃ rest, behind = ']' :: rest := by
    cases behind with
    | nil => cases hclosed
    | cons c rest => exact ⟨rest, by rw [Option.some.inj hclosed]⟩
  refine h ⟨text, rest, ⟨hstarts, fun hmem => ?_, fun hmem => ?_⟩, rfl⟩
  · exact (hinside _ hmem).1 rfl
  · exact (hinside _ hmem).2 rfl

theorem mark?_of_isMarkText (b : Nat) (h : IsMarkText text) (rest : List Char) :
    mark? (List.replicate b '\\' ++ '[' :: (text ++ ']' :: rest)) = some ⟨b, text⟩ := by
  have htake : (text ++ ']' :: rest).takeWhile (fun c => c != '[' && c != ']') = text := by
    rw [List.takeWhile_append_of_pos]
    · simp
    · intro c hc
      have hopening : c ≠ '[' := fun heq => h.opening (heq ▸ hc)
      have hclosing : c ≠ ']' := fun heq => h.closing (heq ▸ hc)
      simp [hopening, hclosing]
  have hget : (text ++ ']' :: rest)[text.length]? = some ']' := by simp
  rw [mark?_backslashes, htake, if_pos]
  rw [h.starts, hget]
  rfl

/-! ### Texts without marks -/

/-- That no mark starts in a text that others follow. -/
def Unmarked (s after : List Char) : Prop :=
  ∀ t, t ≠ [] → t <:+ s → mark? (t ++ after) = none

theorem Unmarked.of_cons (h : Unmarked (c :: s) after) :
    mark? (c :: (s ++ after)) = none ∧ Unmarked s after :=
  ⟨h _ (List.cons_ne_nil c s) List.suffix_rfl,
    fun t hne ht => h t hne (ht.trans (List.suffix_cons c s))⟩

theorem pieces_append (h : Unmarked s after) (position : Nat) (before : List Char) :
    pieces position 0 before (s ++ after)
      = pieces (position + s.length) 0 (s.reverse ++ before) after := by
  induction s generalizing position before with
  | nil => rfl
  | cons c s ih =>
    obtain ⟨hnone, hs⟩ := h.of_cons
    rw [List.cons_append, pieces, if_neg (Nat.lt_irrefl 0), hnone]
    simp [ih hs, Nat.add_assoc, Nat.add_comm 1]

theorem Bare.unmarked (h : Bare s) (after : List Char) : Unmarked s after := by
  intro t hne ht
  obtain ⟨c, t, rfl⟩ := List.exists_cons_of_ne_nil hne
  have hc : c ∈ s := ht.subset List.mem_cons_self
  exact mark?_of_ne 0 (fun heq => h.bracket (heq ▸ hc)) (fun heq => h.backslash (heq ▸ hc)) _

/-! ### Cutting at marks -/

theorem pieces_of_notMem (h : '[' ∉ s) (position : Nat) (before : List Char) :
    pieces position 0 before s = ([], before.reverse ++ s) := by
  induction s generalizing position before with
  | nil => simp [pieces]
  | cons c s ih =>
    have hs : '[' ∉ s := fun hmem => h (List.mem_cons_of_mem _ hmem)
    rw [pieces, if_neg (Nat.lt_irrefl 0), mark?_of_notMem h]
    simp [ih hs]

theorem pieces_skip (position : Nat) (before taken rest : List Char) :
    pieces position taken.length before (taken ++ rest)
      = pieces (position + taken.length) 0 before rest := by
  induction taken generalizing position with
  | nil => rfl
  | cons c taken ih =>
    have hskip : (c :: taken).length > 0 := Nat.succ_pos _
    rw [List.cons_append, pieces, if_pos hskip]
    simp [ih, Nat.add_assoc, Nat.add_comm 1]

/-- A mark with its backslashes and brackets, as its first character and the others. -/
theorem exists_marked (b : Nat) (text : List Char) : ∃ c taken,
    taken.length = (⟨b, text⟩ : Mark).length - 1
      ∧ ∀ rest, List.replicate b '\\' ++ '[' :: (text ++ ']' :: rest) = c :: (taken ++ rest) := by
  cases b with
  | zero => exact ⟨'[', text ++ [']'], by simp [Mark.length], by simp⟩
  | succ b =>
    refine ⟨'\\', List.replicate b '\\' ++ '[' :: (text ++ [']']), ?_, ?_⟩
    · simp [Mark.length]
      omega
    · simp [List.replicate_succ]

theorem pieces_mark (b : Nat) (h : IsMarkText text) (position : Nat) (before rest : List Char) :
    pieces position 0 before (List.replicate b '\\' ++ '[' :: (text ++ ']' :: rest))
      = ((before.reverse, position, ⟨b, text⟩)
            :: (pieces (position + (b + text.length + 2)) 0 [] rest).1,
          (pieces (position + (b + text.length + 2)) 0 [] rest).2) := by
  obtain ⟨c, taken, hlength, hsplit⟩ := exists_marked b text
  have hmark := mark?_of_isMarkText b h rest
  rw [hsplit] at hmark ⊢
  rw [pieces, if_neg (Nat.lt_irrefl 0), hmark]
  dsimp only
  rw [← hlength, pieces_skip, hlength]
  simp [Mark.length, Nat.add_assoc, Nat.add_comm 1]

/-! ### Text without its marks -/

/-- The text of pieces, where no names of pictures are looked for. -/
def plainOf (opened : List String) (last : List Char) (marked : List (List Char × Nat × Mark)) :
    Except MarkupError (List Char) :=
  (partsOf opened last marked).map List.flatten

/-- The text without its marks, where no names of pictures are looked for. -/
def plain (s : String) : Except MarkupError String :=
  (parts s).map fun parts => .ofList parts.flatten

section

variable {position b : Nat} {before last : List Char} {marked : List (List Char × Nat × Mark)}

theorem plainOf_nil : plainOf opened last [] = .ok (withoutEscapes last) := by
  rw [plainOf, partsOf, Except.map, List.flatten_singleton]

theorem plainOf_escaped (hodd : b % 2 = 1) :
    plainOf opened last ((before, position, ⟨b, text⟩) :: marked)
      = (plainOf opened last marked).map fun t =>
          withoutEscapes before ++ (List.replicate (b / 2) '\\' ++ '[' :: (text ++ ']' :: t)) := by
  rw [plainOf, partsOf, if_pos (beq_iff_eq.2 hodd), plainOf]
  cases partsOf opened last marked with
  | error e => rfl
  | ok parts => simp [bind, Except.bind, pure, Except.pure, Except.map]

theorem plainOf_mark (heven : b % 2 = 0)
    (hafter : afterMark opened text (position + b) = .ok opened') :
    plainOf opened last ((before, position, ⟨b, text⟩) :: marked)
      = (plainOf opened' last marked).map fun t =>
          withoutEscapes before ++ (List.replicate (b / 2) '\\' ++ t) := by
  have hodd : ¬ (b % 2 == 1) = true := by
    rw [beq_iff_eq, heven]
    decide
  rw [plainOf, partsOf, if_neg hodd, hafter, plainOf]
  dsimp only [bind, Except.bind]
  cases partsOf opened' last marked with
  | error e => rfl
  | ok parts => simp [pure, Except.pure, Except.map]

end

/-! ### Legible texts -/

/-- That the marks of a text can be followed when some styles are open. -/
def Legible (opened : List String) (s : List Char) : Prop :=
  ∀ position before, ∃ t,
    plainOf opened (pieces position 0 before s).2 (pieces position 0 before s).1 = .ok t

theorem legible_of_notMem (h : '[' ∉ s) (opened : List String) : Legible opened s := by
  intro position before
  rw [pieces_of_notMem h]
  exact ⟨_, plainOf_nil⟩

theorem Legible.bare (hs : Legible opened s) (htext : Bare text) : Legible opened (text ++ s) := by
  intro position before
  rw [pieces_append (htext.unmarked s)]
  exact hs _ _

theorem Legible.mark (hs : Legible opened' s) (htext : IsMarkText text)
    (hafter : ∀ position, afterMark opened text position = .ok opened') :
    Legible opened ('[' :: (text ++ ']' :: s)) := by
  intro position before
  obtain ⟨t, ht⟩ := hs (position + (0 + text.length + 2)) []
  have hpieces := pieces_mark 0 htext position before s
  rw [List.replicate_zero, List.nil_append] at hpieces
  rw [hpieces, plainOf_mark rfl (hafter position), ht]
  exact ⟨_, rfl⟩

/-- The name by which the style that a mark opens is compared. -/
def nameOf (style : List Char) : String :=
  (styleName (nameIn style)).toOption.getD ""

/-- The name of a style, as a mark that opens it has it. -/
structure IsStyle (style : List Char) : Prop where
  starts : (style.head?.map startsMark).getD false = true
  opens : style.head? ≠ some '/'
  opening : '[' ∉ style
  closing : ']' ∉ style
  named : (Text.trim (nameIn style)).isEmpty = false
  told : (styleName (nameIn style)).isOk = true

theorem IsStyle.styleName_eq {style : List Char} (h : IsStyle style) :
    styleName (nameIn style) = .ok (nameOf style) := by
  have htold := h.told
  rw [nameOf]
  cases hname : styleName (nameIn style) with
  | ok name => rfl
  | error e =>
    rw [hname] at htold
    cases htold

theorem IsStyle.isMarkText {style : List Char} (h : IsStyle style) : IsMarkText style :=
  ⟨h.starts, h.opening, h.closing⟩

theorem IsStyle.isMarkText_closing {style : List Char} (h : IsStyle style) :
    IsMarkText ('/' :: style) where
  starts := rfl
  opening := List.not_mem_cons_of_ne_of_not_mem (by decide) h.opening
  closing := List.not_mem_cons_of_ne_of_not_mem (by decide) h.closing

theorem IsStyle.afterMark {style : List Char} (h : IsStyle style) (opened : List String)
    (position : Nat) : Markup.afterMark opened style position = .ok (nameOf style :: opened) := by
  unfold Markup.afterMark
  split
  case h_1 closing _ => exact absurd rfl h.opens
  case h_2 => rw [h.styleName_eq]

theorem IsStyle.afterMark_closing {style : List Char} (h : IsStyle style) (opened : List String)
    (position : Nat) :
    Markup.afterMark (nameOf style :: opened) ('/' :: style) position = .ok opened := by
  simp [Markup.afterMark, h.named, h.styleName_eq, closeNamed?]

theorem isStyle_red : IsStyle "red".toList := ⟨rfl, by decide, by decide, by decide, rfl, rfl⟩

theorem isStyle_green : IsStyle "green".toList := ⟨rfl, by decide, by decide, by decide, rfl, rfl⟩

theorem isStyle_bold : IsStyle "bold".toList := ⟨rfl, by decide, by decide, by decide, rfl, rfl⟩

theorem isStyle_dim : IsStyle "dim".toList := ⟨rfl, by decide, by decide, by decide, rfl, rfl⟩

/-- A text in a style, in front of what is legible. -/
theorem Legible.styled {style : List Char} (hs : Legible opened s) (hstyle : IsStyle style)
    (htext : Bare text) :
    Legible opened ('[' :: (style ++ ']' :: (text ++ '[' :: ('/' :: style ++ ']' :: s)))) := by
  refine Legible.mark ?_ hstyle.isMarkText (hstyle.afterMark opened)
  refine Legible.bare ?_ htext
  exact Legible.mark hs hstyle.isMarkText_closing (hstyle.afterMark_closing opened)

theorem plain_eq (s : String) : plain s
    = if s.toList.contains '[' then
        (plainOf [] (pieces 0 0 [] s.toList).2 (pieces 0 0 [] s.toList).1).map String.ofList
      else .ok s := by
  rw [plain, parts]
  dsimp only
  split
  · rw [plainOf]
    cases partsOf [] (pieces 0 0 [] s.toList).2 (pieces 0 0 [] s.toList).1 <;> rfl
  · rw [Except.map, List.flatten_singleton, String.ofList_toList]

theorem exists_plain_of_legible {s : String} (h : Legible [] s.toList) : ∃ t, plain s = .ok t := by
  rw [plain_eq]
  split
  · obtain ⟨t, ht⟩ := h 0 []
    rw [ht]
    exact ⟨.ofList t, rfl⟩
  · exact ⟨s, rfl⟩

theorem plain_of_notMem {s : String} (h : '[' ∉ s.toList) : plain s = .ok s := by
  have hnone : ¬ s.toList.contains '[' = true := by simpa using h
  rw [plain_eq, if_neg hnone]

/-- Pictures do not decide whether a text can be printed. -/
theorem exists_shown_of_plain {line t : String} (pictures : Emoji.Table) (h : plain line = .ok t) :
    ∃ u, shown pictures line = .ok u := by
  rw [plain] at h
  rw [shown]
  cases hparts : parts line with
  | ok parts => exact ⟨_, rfl⟩
  | error e =>
    rw [hparts] at h
    cases h

theorem shown_of_plain_error {line : String} {e : MarkupError} (pictures : Emoji.Table)
    (h : plain line = .error e) : shown pictures line = .error e := by
  rw [plain] at h
  rw [shown]
  cases hparts : parts line with
  | ok parts =>
    rw [hparts] at h
    cases h
  | error e' =>
    rw [hparts] at h
    cases h
    rfl

/-- A text in which there are no names of pictures is shown without its marks. -/
theorem shown_of_plain {line t : String} {pictures : Emoji.Table} (h : plain line = .ok t)
    (hnone : Emoji.HasNoPicture pictures t.toList) : shown pictures line = .ok t := by
  rw [plain] at h
  rw [shown]
  cases hparts : parts line with
  | error e =>
    rw [hparts] at h
    cases h
  | ok parts =>
    rw [hparts] at h
    obtain rfl : String.ofList parts.flatten = t := Except.ok.inj h
    rw [String.toList_ofList] at hnone
    have hsame : parts.map (Emoji.replace pictures 0) = parts := by
      refine (List.map_congr_left ?_).trans (List.map_id parts)
      intro part hpart
      obtain ⟨before, after, rfl⟩ := List.append_of_mem hpart
      have hinfix : part <:+: (before ++ part :: after).flatten :=
        ⟨before.flatten, after.flatten, by simp⟩
      exact (Emoji.replace_eq (hnone.of_infix hinfix) 0).trans (List.drop_zero)
    rw [Except.map, List.flatMap_def, hsame]

theorem isDigit_of_mem_toString {c : Char} {n : Nat} (h : c ∈ (toString n).toList) :
    c.isDigit = true :=
  Nat.isDigit_of_mem_toDigits (b := 10) (n := n) (by decide) (by decide) (by simpa using h)

end SqlPipeline.Console.Markup

namespace SqlPipeline.Console

/-! ### Lines -/

/-- That the characters of a text stay as they are when it is printed. -/
def IsSteady (s : List Char) : Prop :=
  ∀ c ∈ s, isControl c = false ∧ c ≠ '\t'

theorem isSteady_iff_all {s : List Char} :
    IsSteady s ↔ s.all (fun c => !isControl c && c != '\t') = true := by
  simp [IsSteady]

theorem expandTabs_of_notMem {s : List Char} (h : '\t' ∉ s) (column : Nat) :
    expandTabs column s = s := by
  induction s generalizing column with
  | nil => rfl
  | cons c s ih =>
    rw [List.mem_cons, not_or] at h
    by_cases hend : c = '\n'
    · rw [hend, expandTabs, ih h.2]
    · rw [expandTabs, ih h.2]
      · exact hend
      · exact Ne.symm h.1

theorem printed_of_steady {s : String} (h : IsSteady s.toList) : printed s = s := by
  have hfilter : s.toList.filter (!isControl ·) = s.toList :=
    List.filter_eq_self.2 fun c hc => by simp [(h c hc).1]
  rw [printed, hfilter, expandTabs_of_notMem fun hmem => (h _ hmem).2 rfl, String.ofList_toList]

theorem isSteady_toString (n : Nat) : IsSteady (toString n).toList := by
  intro c hc
  have hdigit := Markup.isDigit_of_mem_toString hc
  simp only [Char.isDigit, Bool.and_eq_true, decide_eq_true_eq, ge_iff_le,
    UInt32.le_iff_toNat_le] at hdigit
  refine ⟨?_, ?_⟩
  · have hlow : 48 ≤ c.toNat := hdigit.1
    simp only [isControl, Bool.or_eq_false_iff, Bool.and_eq_false_iff, beq_eq_false_iff_ne,
      decide_eq_false_iff_not]
    omega
  · rintro rfl
    exact absurd hdigit.1 (by decide)

theorem IsSteady.append {s t : List Char} (hs : IsSteady s) (ht : IsSteady t) : IsSteady (s ++ t) :=
  fun c hc => (List.mem_append.1 hc).elim (hs c) (ht c)

end SqlPipeline.Console
