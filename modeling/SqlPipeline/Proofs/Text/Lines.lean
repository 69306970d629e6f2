/-
  SqlPipeline/Proofs/Text/Lines.lean
  ==================================
  **The lines of a text, whatever they end with.**

  A carriage return and a newline behind it are one end, so that the text behind a line says
  where the line ends: a lone carriage return must not have a newline behind it.  Between lines
  that are not empty this cannot happen (`splitLines_joinLines`).

  The line ends of a file are unified when it is read.  That brings nothing new into the text but
  newlines (`isInfix_of_isInfix_unifyNewlines`), and its lines stay the same
  (`splitLines_unifyNewlines`).
-/
import SqlPipeline.Text.Lines
import Mathlib.Tactic.Common

namespace SqlPipeline.Text

variable {s line acc rest marker : List Char} {c : Char}

theorem isLineBoundary_return : isLineBoundary '\r' = true := by decide

/-! ### One line -/

theorem go_cons_of_ne (hc : c ≠ '\r') (acc rest : List Char) :
    splitLines.go acc (c :: rest)
      = if isLineBoundary c then acc.reverse :: splitLines.go [] rest
        else splitLines.go (c :: acc) rest := by
  rw [splitLines.go]
  rintro rest' rfl
  exact absurd rfl hc

theorem go_return (h : rest.head? ≠ some '\n') (acc : List Char) :
    splitLines.go acc ('\r' :: rest) = acc.reverse :: splitLines.go [] rest := by
  rw [splitLines.go, if_pos isLineBoundary_return]
  rintro rest' - rfl
  exact h rfl

/-- What is no boundary belongs to the line. -/
theorem go_append (h : ∀ c ∈ line, isLineBoundary c = false) (acc rest : List Char) :
    splitLines.go acc (line ++ rest) = splitLines.go (line.reverse ++ acc) rest := by
  induction line generalizing acc with
  | nil => rfl
  | cons c line ih =>
    obtain ⟨hc, hline⟩ := List.forall_mem_cons.1 h
    have hne : c ≠ '\r' := by
      rintro rfl
      cases hc
    rw [List.cons_append, go_cons_of_ne hne, hc, if_neg Bool.false_ne_true, ih hline]
    simp

/-- What a text is made of is there in its lines. -/
theorem mem_of_mem_go (hline : line ∈ splitLines.go acc s) (hc : c ∈ line) : c ∈ acc ∨ c ∈ s := by
  fun_induction splitLines.go acc s with
  | case1 acc hempty => cases hline
  | case2 acc hempty =>
    obtain rfl := List.mem_singleton.1 hline
    exact Or.inl (List.mem_reverse.1 hc)
  | case3 acc rest ih =>
    rcases List.mem_cons.1 hline with rfl | hline
    · exact Or.inl (List.mem_reverse.1 hc)
    · rcases ih hline with h | h
      · cases h
      · exact Or.inr (List.mem_cons_of_mem _ (List.mem_cons_of_mem _ h))
  | case4 acc d rest hpair hboundary ih =>
    rcases List.mem_cons.1 hline with rfl | hline
    · exact Or.inl (List.mem_reverse.1 hc)
    · rcases ih hline with h | h
      · cases h
      · exact Or.inr (List.mem_cons_of_mem _ h)
  | case5 acc d rest hpair hboundary ih =>
    rcases ih hline with h | h
    · rcases List.mem_cons.1 h with rfl | h
      · exact Or.inr List.mem_cons_self
      · exact Or.inl h
    · exact Or.inr (List.mem_cons_of_mem _ h)

theorem mem_of_mem_splitLines (hline : line ∈ splitLines s) (hc : c ∈ line) : c ∈ s := by
  rcases mem_of_mem_go hline hc with h | h
  · cases h
  · exact h

/-! ### One kind of line end -/

/-- A text without carriage returns keeps its line ends. -/
theorem unifyNewlines_of_notMem (h : '\r' ∉ s) : unifyNewlines s = s := by
  fun_induction unifyNewlines s with
  | case1 => rfl
  | case2 rest ih => exact absurd List.mem_cons_self h
  | case3 rest hnext ih => exact absurd List.mem_cons_self h
  | case4 c rest hne hreturn ih => rw [ih fun hmem => h (List.mem_cons_of_mem c hmem)]

theorem eq_nil_of_isPrefix_newline (hmarker : '\n' ∉ marker) (h : marker <+: '\n' :: s) :
    marker = [] := by
  cases marker with
  | nil => rfl
  | cons c rest => exact absurd ((List.cons_prefix_cons.1 h).1 ▸ List.mem_cons_self) hmarker

/-- What has no newline in it and starts a text with one kind of line end starts the text. -/
theorem isPrefix_of_isPrefix_unifyNewlines (hmarker : '\n' ∉ marker)
    (h : marker <+: unifyNewlines s) : marker <+: s := by
  fun_induction unifyNewlines s generalizing marker with
  | case1 => exact h
  | case2 | case3 =>
    rw [eq_nil_of_isPrefix_newline hmarker h]
    exact List.nil_prefix
  | case4 c rest _ _ ih =>
    cases marker with
    | nil => exact List.nil_prefix
    | cons c' marker =>
      obtain ⟨rfl, hrest⟩ := List.cons_prefix_cons.1 h
      have hlater : '\n' ∉ marker := fun hmem => hmarker (List.mem_cons_of_mem _ hmem)
      exact List.cons_prefix_cons.2 ⟨rfl, ih hlater hrest⟩

theorem isInfix_of_isInfix_unifyNewlines (hmarker : '\n' ∉ marker)
    (h : marker <:+: unifyNewlines s) : marker <:+: s := by
  fun_induction unifyNewlines s with
  | case1 => exact h
  | case2 rest ih =>
    rcases List.infix_cons_iff.1 h with hstart | hrest
    · rw [eq_nil_of_isPrefix_newline hmarker hstart]
      exact List.nil_infix
    · exact List.infix_cons (List.infix_cons (ih hrest))
  | case3 rest _ ih =>
    rcases List.infix_cons_iff.1 h with hstart | hrest
    · rw [eq_nil_of_isPrefix_newline hmarker hstart]
      exact List.nil_infix
    · exact List.infix_cons (ih hrest)
  | case4 c rest hpair hreturn ih =>
    rcases List.infix_cons_iff.1 h with hstart | hrest
    · have hwhole : marker <+: unifyNewlines (c :: rest) := by
        rwa [unifyNewlines]
        · exact hpair
        · exact hreturn
      exact (isPrefix_of_isPrefix_unifyNewlines hmarker hwhole).isInfix
    · exact List.infix_cons (ih hrest)

theorem go_unifyNewlines (acc s : List Char) :
    splitLines.go acc (unifyNewlines s) = splitLines.go acc s := by
  fun_induction unifyNewlines s generalizing acc with
  | case1 => rfl
  | case2 rest ih =>
    rw [go_cons_of_ne (by decide), if_pos (by decide), ih, splitLines.go]
  | case3 rest hnext ih =>
    have hhead : rest.head? ≠ some '\n' := by
      intro hnewline
      obtain ⟨rest, rfl⟩ := List.head?_eq_some_iff.1 hnewline
      exact hnext rest rfl
    rw [go_cons_of_ne (by decide), if_pos (by decide), ih, go_return hhead]
  | case4 c rest _ hreturn ih =>
    have hne : c ≠ '\r' := fun h => hreturn h
    rw [go_cons_of_ne hne, go_cons_of_ne hne, ih, ih]

/-- **A text has the same lines whether or not its line ends are unified.** -/
theorem splitLines_unifyNewlines (s : List Char) : splitLines (unifyNewlines s) = splitLines s :=
  go_unifyNewlines [] s

/-! ### Lines with their ends -/

/-- What a line can end with. -/
inductive LineEnd where
  | boundary (c : Char) (h : isLineBoundary c = true)
  | pair                                                -- a carriage return and a newline

def LineEnd.written : LineEnd → List Char
  | boundary c _ => [c]
  | pair => ['\r', '\n']

theorem go_written (e : LineEnd) (h : rest.head? ≠ some '\n') (acc : List Char) :
    splitLines.go acc (e.written ++ rest) = acc.reverse :: splitLines.go [] rest := by
  cases e with
  | pair => rw [LineEnd.written, List.cons_append, List.singleton_append, splitLines.go]
  | boundary c hc =>
    rw [LineEnd.written, List.singleton_append]
    by_cases hreturn : c = '\r'
    · rw [hreturn, go_return h]
    · rw [go_cons_of_ne hreturn, if_pos hc]

/-- A line that is not empty and has no boundary inside. -/
structure IsLine (line : List Char) : Prop where
  ne_nil : line ≠ []
  inside : ∀ c ∈ line, isLineBoundary c = false

theorem IsLine.head?_append_ne (h : IsLine line) (rest : List Char) :
    (line ++ rest).head? ≠ some '\n' := by
  obtain ⟨c, tail, rfl⟩ := List.exists_cons_of_ne_nil h.ne_nil
  rintro ⟨⟩
  exact absurd (h.inside '\n' List.mem_cons_self) (by decide)

/-- The text that is made of lines and their ends; the last line may have none. -/
def joinLines (lines : List (List Char × LineEnd)) (last : Option (List Char)) : List Char :=
  lines.flatMap (fun line => line.1 ++ line.2.written) ++ last.getD []

theorem head?_joinLines_ne {lines : List (List Char × LineEnd)} {last : Option (List Char)}
    (hlines : ∀ line ∈ lines, IsLine line.1) (hlast : ∀ line, last = some line → IsLine line) :
    (joinLines lines last).head? ≠ some '\n' := by
  cases lines with
  | cons line lines =>
    rw [joinLines, List.flatMap_cons, List.append_assoc, List.append_assoc]
    exact (hlines line List.mem_cons_self).head?_append_ne _
  | nil =>
    cases last with
    | none => nofun
    | some line => simpa [joinLines] using (hlast line rfl).head?_append_ne []

/-- **A text is cut into the lines that it is made of,** whatever these end with. -/
theorem splitLines_joinLines {lines : List (List Char × LineEnd)} {last : Option (List Char)}
    (hlines : ∀ line ∈ lines, IsLine line.1) (hlast : ∀ line, last = some line → IsLine line) :
    splitLines (joinLines lines last) = lines.map (·.1) ++ last.toList := by
  rw [splitLines]
  induction lines with
  | cons line lines ih =>
    obtain ⟨hline, hothers⟩ := List.forall_mem_cons.1 hlines
    have hcons : joinLines (line :: lines) last
        = line.1 ++ (line.2.written ++ joinLines lines last) := by
      simp [joinLines]
    rw [hcons, go_append hline.inside, go_written _ (head?_joinLines_ne hothers hlast), ih hothers]
    simp
  | nil =>
    cases last with
    | none => rfl
    | some line =>
      have hline := hlast line rfl
      have hgo := go_append hline.inside [] []
      rw [List.append_nil, List.append_nil] at hgo
      simp [joinLines, hgo, splitLines.go, hline.ne_nil]

end SqlPipeline.Text
