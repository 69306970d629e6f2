/-
  SqlPipeline/Proofs/Sql/Pieces.lean
  ==================================
  **A text of statements and the pieces that it splits into.**

  Splitting cuts a text at every semicolon, trims the pieces and drops those that are blank.
  What comes of it is described without the cutting: the pieces stand in the text in their
  order, each of them tight and without a semicolon, and around them there are gaps of blanks
  and semicolons (`Laid`).  A text is laid out in one way only (`laid_iff`), and everything
  else is read off the layout: nothing that can be seen is lost, and pieces that are joined
  with semicolons come apart again (`splits`).
-/
import SqlPipeline.Proofs.Text.Cut
import SqlPipeline.Sql.Leading

namespace SqlPipeline.Sql

open Text

/-! ### Layouts -/

/-- What is sent as one statement: there is nothing to trim of it, and no semicolon in it. -/
structure IsStatement (piece : List Char) : Prop where
  tight : IsTight piece
  noSemicolon : ';' ∉ piece

/-- Blanks and semicolons, as they stand around pieces. -/
def IsGap (gap : List Char) : Prop :=
  ∀ c ∈ gap, isBlank c = true ∨ c = ';'

/-- That a piece in front of this text does not go on in it: behind some blanks there is a
    semicolon, or nothing. -/
def EndsPiece (rest : List Char) : Prop :=
  ∃ blanks, (∀ c ∈ blanks, isBlank c = true)
    ∧ (rest = blanks ∨ ∃ after, rest = blanks ++ ';' :: after)

/-- That a text consists of these pieces, in this order, with gaps around them. -/
inductive Laid : List (List Char) → List Char → Prop
  | gap {gap : List Char} : IsGap gap → Laid [] gap
  | piece {gap piece rest : List Char} {pieces : List (List Char)} : IsGap gap → IsStatement piece →
      EndsPiece rest → Laid pieces rest → Laid (piece :: pieces) (gap ++ (piece ++ rest))

variable {s t gap piece rest : List Char} {pieces others : List (List Char)}

theorem isGap_nil : IsGap [] := by
  simp [IsGap]

theorem IsGap.append (hs : IsGap s) (ht : IsGap t) : IsGap (s ++ t) := by
  intro c hc
  rcases List.mem_append.1 hc with hc | hc
  · exact hs c hc
  · exact ht c hc

theorem isGap_of_blank (h : ∀ c ∈ gap, isBlank c = true) : IsGap gap :=
  fun c hc => Or.inl (h c hc)

theorem IsGap.semicolon (h : IsGap gap) : IsGap (gap ++ [';']) := by
  refine h.append fun c hc => Or.inr ?_
  simpa using hc

namespace Laid

/-- A gap may be put in front of what is laid out. -/
theorem prepend (h : Laid pieces s) (hgap : IsGap gap) : Laid pieces (gap ++ s) := by
  cases h with
  | gap hgap' => exact .gap (hgap.append hgap')
  | piece hgap' hpiece hends hrest =>
    rw [← List.append_assoc]
    exact .piece (hgap.append hgap') hpiece hends hrest

/-- What is laid out on the two sides of a semicolon is laid out together. -/
theorem append (hs : Laid pieces s) (ht : Laid others t) : Laid (pieces ++ others) (s ++ ';' :: t) := by
  induction hs with
  | @gap gap hgap =>
    have hlaid := ht.prepend hgap.semicolon
    simpa using hlaid
  | @piece gap piece rest pieces hgap hpiece hends hrest ih =>
    have hmore : EndsPiece (rest ++ ';' :: t) := by
      obtain ⟨blanks, hblanks, hrest | ⟨after, hafter⟩⟩ := hends
      · exact ⟨blanks, hblanks, Or.inr ⟨t, by rw [hrest]⟩⟩
      · exact ⟨blanks, hblanks, Or.inr ⟨after ++ ';' :: t, by simp [hafter]⟩⟩
    have hlaid := Laid.piece hgap hpiece hmore ih
    simpa using hlaid

theorem isStatement (h : Laid pieces s) : ∀ piece ∈ pieces, IsStatement piece := by
  induction h with
  | gap hgap => simp
  | piece hgap hpiece hends hrest ih => exact List.forall_mem_cons.2 ⟨hpiece, ih⟩

/-- What can be seen of a text is what can be seen of its pieces, semicolons apart. -/
theorem filter_eq (h : Laid pieces s) :
    s.filter (fun c => !isBlank c && c != ';') = pieces.flatten.filter (!isBlank ·) := by
  have hnothing : ∀ gap, IsGap gap → gap.filter (fun c => !isBlank c && c != ';') = [] := by
    intro gap hgap
    rw [List.filter_eq_nil_iff]
    intro c hc
    rcases hgap c hc with hblank | rfl
    · simp [hblank]
    · simp
  induction h with
  | gap hgap => simpa using hnothing _ hgap
  | @piece gap piece rest pieces hgap hpiece hends hrest ih =>
    have hsame : piece.filter (fun c => !isBlank c && c != ';') = piece.filter (!isBlank ·) := by
      apply List.filter_congr
      intro c hc
      have hne : c ≠ ';' := fun heq => hpiece.noSemicolon (heq ▸ hc)
      simp [hne]
    simp [hnothing gap hgap, hsame, ih]

end Laid

theorem laid_piece (h : IsStatement piece) : Laid [piece] piece := by
  have hlaid := Laid.piece isGap_nil h ⟨[], by simp, Or.inl rfl⟩ (.gap isGap_nil)
  simpa using hlaid

/-- Pieces with semicolons between them are laid out. -/
theorem laid_intercalate (h : ∀ piece ∈ pieces, IsStatement piece) :
    Laid pieces ([';'].intercalate pieces) := by
  induction pieces with
  | nil => exact .gap isGap_nil
  | cons piece pieces ih =>
    obtain ⟨hpiece, hpieces⟩ := List.forall_mem_cons.1 h
    cases pieces with
    | nil =>
      rw [List.intercalate_singleton]
      exact laid_piece hpiece
    | cons next pieces =>
      have hlaid := (laid_piece hpiece).append (ih hpieces)
      simpa [List.intercalate_cons_cons] using hlaid

/-! ### Cutting at semicolons -/

/-- The pieces of a text, as characters. -/
def piecesOf (s : List Char) : List (List Char) :=
  ((splitAt ';' s).map trim).filter fun piece => !piece.isEmpty

@[simp] theorem piecesOf_nil : piecesOf [] = [] := rfl

theorem splitStatements_eq (sql : String) :
    splitStatements sql = (piecesOf sql.toList).map String.ofList := by
  rw [splitStatements, piecesOf]
  induction (splitAt ';' sql.toList).map trim with
  | nil => rfl
  | cons piece pieces ih =>
    cases piece with
    | nil => simpa using ih
    | cons c piece => simpa using ih

theorem piecesOf_append_cons (s t : List Char) :
    piecesOf (s ++ ';' :: t) = piecesOf s ++ piecesOf t := by
  simp [piecesOf, splitAt_append_cons]

theorem piecesOf_of_notMem (h : ';' ∉ s) :
    piecesOf s = if (trim s).isEmpty then [] else [trim s] := by
  rw [piecesOf, splitAt_of_notMem h, List.map_singleton]
  cases trim s with
  | nil => rfl
  | cons c piece => rfl

/-- Nothing is sent of a gap in front of a text. -/
theorem piecesOf_gap (hgap : IsGap gap) (s : List Char) : piecesOf (gap ++ s) = piecesOf s := by
  induction gap with
  | nil => rfl
  | cons c gap ih =>
    obtain ⟨hc, hgap⟩ := List.forall_mem_cons.1 hgap
    rw [List.cons_append, ← ih hgap]
    rcases hc with hblank | rfl
    · have hne : c ≠ ';' := by
        rintro rfl
        exact absurd hblank (by decide)
      obtain ⟨first, others, hpieces⟩ :=
        List.exists_cons_of_ne_nil (splitWhere_ne_nil (· == ';') (gap ++ s))
      rw [piecesOf, piecesOf, splitAt, splitAt, splitWhere, if_neg (by simpa using hne), hpieces]
      simp [trim_cons_blank hblank]
    · exact piecesOf_append_cons [] (gap ++ s)

/-- The piece in front of a text that ends it is the first one. -/
theorem piecesOf_piece (hpiece : IsStatement piece) (hends : EndsPiece rest) :
    piecesOf (piece ++ rest) = piece :: piecesOf rest := by
  obtain ⟨blanks, hblanks, hrest⟩ := hends
  have hone : piecesOf (piece ++ blanks) = [piece] := by
    have hnone : ';' ∉ piece ++ blanks := by
      intro hmem
      rcases List.mem_append.1 hmem with hmem | hmem
      · exact hpiece.noSemicolon hmem
      · exact absurd (hblanks _ hmem) (by decide)
    rw [piecesOf_of_notMem hnone, hpiece.tight.trim_append hblanks, if_neg]
    simpa using hpiece.tight.1
  have hnothing : piecesOf blanks = [] := by
    have hgap := piecesOf_gap (isGap_of_blank hblanks) []
    simpa using hgap
  rcases hrest with rfl | ⟨after, rfl⟩
  · rw [hone, hnothing]
  · rw [← List.append_assoc, piecesOf_append_cons, piecesOf_append_cons, hone, hnothing]
    rfl

/-- **There is one way only in which a text can be laid out.** -/
theorem Laid.eq_piecesOf (h : Laid pieces s) : pieces = piecesOf s := by
  induction h with
  | @gap gap hgap =>
    have hnothing := piecesOf_gap hgap []
    simpa using hnothing.symm
  | piece hgap hpiece hends hrest ih =>
    rw [piecesOf_gap hgap, piecesOf_piece hpiece hends, ih]

theorem laid_of_notMem (h : ';' ∉ s) : Laid (piecesOf s) s := by
  obtain ⟨before, hbefore, hs⟩ := exists_append_trimLeft s
  obtain ⟨after, hafter, hleft⟩ := exists_append_trimRight (trimLeft s)
  rw [← trim] at hleft
  rw [hleft] at hs
  rw [piecesOf_of_notMem h]
  by_cases hempty : trim s = []
  · rw [hempty, List.nil_append] at hs
    rw [hempty, hs]
    exact .gap ((isGap_of_blank hbefore).append (isGap_of_blank hafter))
  · have hpiece : IsStatement (trim s) :=
      ⟨isTight_trim hempty, fun hmem => h ((trim_sublist s).subset hmem)⟩
    have hlaid := Laid.piece (isGap_of_blank hbefore) hpiece ⟨after, hafter, Or.inl rfl⟩
      (.gap (isGap_of_blank hafter))
    rw [← hs] at hlaid
    simpa [hempty] using hlaid

/-- **Every text is laid out in its pieces.** -/
theorem laid_piecesOf (s : List Char) : Laid (piecesOf s) s := by
  induction hn : s.length using Nat.strong_induction_on generalizing s with
  | _ n ih =>
    by_cases h : ';' ∈ s
    · obtain ⟨before, after, rfl, hbefore⟩ := List.eq_append_cons_of_mem h
      have hshorter : after.length < n := by
        simp at hn
        omega
      rw [piecesOf_append_cons]
      exact (laid_of_notMem hbefore).append (ih _ hshorter after rfl)
    · exact laid_of_notMem h

theorem laid_iff : Laid pieces s ↔ pieces = piecesOf s := by
  constructor
  · exact Laid.eq_piecesOf
  · rintro rfl
    exact laid_piecesOf s

/-- Pieces that are put together with semicolons come apart again. -/
theorem piecesOf_intercalate (s : List Char) : piecesOf ([';'].intercalate (piecesOf s)) = piecesOf s :=
  (laid_intercalate (laid_piecesOf s).isStatement).eq_piecesOf.symm

/-! ### Texts -/

/-- That a text splits into these pieces. -/
structure Splits (sql : String) (pieces : List String) : Prop where
  visible : ∀ piece ∈ pieces, isAllBlank piece = false
  trimmed : ∀ piece ∈ pieces, Text.trimmed piece = piece
  noSemicolon : ∀ piece ∈ pieces, ';' ∉ piece.toList
  -- they stand in the text in this order, and these are the only ones that do
  laid : ∀ others : List String, Laid (others.map String.toList) sql.toList ↔ others = pieces
  again : splitStatements (";".intercalate pieces) = pieces
  kept : sql.toList.filter (fun c => !isBlank c && c != ';')
    = (String.join pieces).toList.filter (!isBlank ·)

theorem map_toList_splitStatements (sql : String) :
    (splitStatements sql).map String.toList = piecesOf sql.toList := by
  simp [splitStatements_eq, Function.comp_def]

/-- **Splitting gives the statements that a text is laid out in,** and keeps all of the text that can
    be seen. -/
theorem splits (sql : String) : Splits sql (splitStatements sql) := by
  have hchars := map_toList_splitStatements sql
  have hlaid : Laid ((splitStatements sql).map String.toList) sql.toList := by
    rw [hchars]
    exact laid_piecesOf sql.toList
  have hpiece : ∀ piece ∈ splitStatements sql, IsStatement piece.toList := fun piece hmem =>
    hlaid.isStatement _ (List.mem_map_of_mem hmem)
  constructor
  case visible =>
    intro piece hmem
    exact (hpiece piece hmem).tight.all_isBlank
  case trimmed =>
    intro piece hmem
    rw [Text.trimmed, (hpiece piece hmem).tight.2, String.ofList_toList]
  case noSemicolon =>
    intro piece hmem
    exact (hpiece piece hmem).noSemicolon
  case laid =>
    intro others
    rw [laid_iff, ← hchars]
    exact (List.map_injective_iff.2 fun _ _ => String.toList_inj.1).eq_iff
  case again =>
    have hjoined : (";".intercalate (splitStatements sql)).toList
        = [';'].intercalate (piecesOf sql.toList) := by
      rw [String.toList_intercalate, hchars]
      rfl
    rw [splitStatements_eq, hjoined, piecesOf_intercalate, ← splitStatements_eq]
  case kept =>
    have hjoined : (String.join (splitStatements sql)).toList = (piecesOf sql.toList).flatten := by
      rw [String.toList_join, List.flatMap_def, hchars]
    rw [hjoined]
    exact (laid_piecesOf sql.toList).filter_eq

-- a semicolon in a literal is one like any other
example : splitStatements "INSERT INTO a VALUES (';') ;" = ["INSERT INTO a VALUES ('", "')"] := by
  decide +kernel

/-- There are no statements in white space. -/
theorem splitStatements_of_isAllBlank {sql : String} (h : isAllBlank sql = true) :
    splitStatements sql = [] :=
  (((splits sql).laid []).1 (.gap (isGap_of_blank (List.all_eq_true.1 h)))).symm

end SqlPipeline.Sql
