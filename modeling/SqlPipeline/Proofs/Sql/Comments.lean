/-
  SqlPipeline/Proofs/Sql/Comments.lean
  ====================================
  **The settings of a text are those of its comments, unless one of them is left open.**

  The blanks around a keyword may be line ends.  So a comment with nothing behind its hyphens, or
  nothing behind its keyword, goes on with what stands below it, be that a comment or not
  (`GoesOn`).  Where no comment does, the lines of a text are read one by one
  (`settings_intercalate`) and only comments count; where one does, a line below it that is no
  comment decides on what is read (`comments_decide`).
-/
import SqlPipeline.Proofs.Sql.Header

namespace SqlPipeline.Sql

open Text

variable {s t line gap value : List Char} {setting other : Setting} {lines : List (List Char)}

/-! ### Reading line by line -/

/-- The two hyphens that a comment starts with. -/
def isComment (line : List Char) : Bool :=
  startsWith ['-', '-'] line

/-- That the reading of a comment goes on behind its end: nothing visible stands behind its
    hyphens, or behind the keyword. -/
def GoesOn (setting : Setting) (line : List Char) : Prop :=
  ∃ gap, (∀ c ∈ gap, isBlank c = true) ∧ (line = '-' :: '-' :: gap
    ∨ ∃ gap', (∀ c ∈ gap', isBlank c = true)
        ∧ line = '-' :: '-' :: (gap ++ (setting.keyword ++ gap')))

/-- A pattern without newlines is found on one line or not at all. -/
theorem dropPattern?_append_newline {pattern : List Char} (h : '\n' ∉ pattern) :
    dropPattern? pattern (s ++ '\n' :: t) = (dropPattern? pattern s).map (· ++ '\n' :: t) := by
  induction pattern generalizing s with
  | nil => rfl
  | cons p ps ih =>
    obtain ⟨hp, hps⟩ := not_or.1 (mt List.mem_cons.2 h)
    cases s with
    | nil => simp [dropPattern?, Ne.symm hp]
    | cons c cs =>
      rw [List.cons_append, dropPattern?, dropPattern?]
      split
      · exact ih hps
      · rfl

theorem Setting.newline_notMem_keyword (setting : Setting) : '\n' ∉ setting.keyword := by
  cases setting <;> decide

theorem restOfLine_of_notMem (h : '\n' ∉ s) : restOfLine s = (s, []) := by
  have hne : ∀ c ∈ s, (c != '\n') = true := fun c hc => by
    rw [bne_iff_ne]
    rintro rfl
    exact h hc
  rw [restOfLine, List.takeWhile_eq_self_iff.2 hne, List.dropWhile_eq_nil_iff.2 hne]

theorem restOfLine_append_newline (h : '\n' ∉ s) (t : List Char) :
    restOfLine (s ++ '\n' :: t) = (s, '\n' :: t) := by
  have hne : ∀ c ∈ s, (c != '\n') = true := fun c hc => by
    rw [bne_iff_ne]
    rintro rfl
    exact h hc
  rw [restOfLine, List.takeWhile_append_of_pos hne, List.dropWhile_append_of_pos hne]
  simp

/-- The value of a setting starts with the first visible character behind its colon. -/
theorem value?_append {c : Char} (hgap : ∀ a ∈ gap, isBlank a = true) (hc : isBlank c = false)
    (rest : List Char) : value? (gap ++ c :: rest) = some (restOfLine (c :: rest)) := by
  rw [value?, trimLeft_append hgap hc]

/-- On a line on which reading ends, a setting is found or not, whatever follows the line. -/
theorem settingAt?_of_not_goesOn (hline : '\n' ∉ line) (hends : ¬ GoesOn setting line)
    (t : List Char) :
    settingAt? setting line = none ∧ settingAt? setting (line ++ '\n' :: t) = none
      ∨ ∃ value, settingAt? setting line = some (value, [])
          ∧ settingAt? setting (line ++ '\n' :: t) = some (value, '\n' :: t) := by
  simp only [settingAt?, Option.bind_eq_bind]
  rw [dropPattern?_append_newline (by decide)]
  cases hhyphens : dropPattern? ['-', '-'] line with
  | none => exact Or.inl ⟨rfl, rfl⟩
  | some behind =>
    obtain rfl := dropPattern?_eq_some_iff.1 hhyphens
    rcases blank_or_visible behind with hblank | ⟨gap, c, rest, hgap, hc, rfl⟩
    · exact absurd ⟨behind, hblank, Or.inl rfl⟩ hends
    · simp only [Option.bind_some, Option.map_some, List.append_assoc, List.cons_append,
        trimLeft_append hgap hc]
      rw [← List.cons_append, dropPattern?_append_newline setting.newline_notMem_keyword]
      cases hkeyword : dropPattern? setting.keyword (c :: rest) with
      | none => exact Or.inl ⟨rfl, rfl⟩
      | some value =>
        rw [dropPattern?_eq_some_iff.1 hkeyword] at hline hends
        rcases blank_or_visible value with hblank | ⟨gap', c', rest', hgap', hc', rfl⟩
        · exact absurd ⟨gap, hgap, Or.inr ⟨value, hblank, rfl⟩⟩ hends
        · have hvalue : '\n' ∉ c' :: rest' := fun hmem => hline (by simp_all)
          refine Or.inr ⟨c' :: rest', ?_, ?_⟩
          · rw [Option.bind_some, value?_append hgap' hc', restOfLine_of_notMem hvalue]
          · rw [Option.map_some, Option.bind_some, List.append_assoc, List.cons_append,
              value?_append hgap' hc', ← List.cons_append, restOfLine_append_newline hvalue]

theorem settings_cons_of_some {c : Char} {cs rest : List Char}
    (h : settingAt? setting (c :: cs) = some (value, rest)) :
    settings setting true (c :: cs) = value :: settings setting false rest := by
  rw [settings, if_pos rfl, h]

theorem settings_cons_of_none {c : Char} {cs : List Char}
    (h : settingAt? setting (c :: cs) = none) :
    settings setting true (c :: cs) = settings setting (c == '\n') cs := by
  rw [settings, if_pos rfl, h]

theorem settings_cons_inside (c : Char) (cs : List Char) :
    settings setting false (c :: cs) = settings setting (c == '\n') cs := by
  rw [settings]
  rfl

theorem settings_inside_append (h : '\n' ∉ s) (t : List Char) :
    settings setting false (s ++ '\n' :: t) = settings setting true t := by
  induction s with
  | nil => rw [List.nil_append, settings_cons_inside]; rfl
  | cons c cs ih =>
    obtain ⟨hc, hcs⟩ := not_or.1 (mt List.mem_cons.2 h)
    have hne : (c == '\n') = false := by simpa using Ne.symm hc
    rw [List.cons_append, settings_cons_inside, hne, ih hcs]

/-- A line on which reading ends is read on its own, and then the lines behind it are. -/
theorem settings_append_newline (hline : '\n' ∉ line) (hends : ¬ GoesOn setting line)
    (t : List Char) : settings setting true (line ++ '\n' :: t)
      = settings setting true line ++ settings setting true t := by
  have hcases := settingAt?_of_not_goesOn hline hends t
  cases line with
  | nil =>
    have hnone : settingAt? setting ('\n' :: t) = none := rfl
    rw [List.nil_append, settings_cons_of_none hnone, settings, List.nil_append]
    rfl
  | cons c cs =>
    obtain ⟨hc, hcs⟩ := not_or.1 (mt List.mem_cons.2 hline)
    have hne : (c == '\n') = false := by simpa using Ne.symm hc
    rw [List.cons_append] at hcases ⊢
    rcases hcases with ⟨hown, hbefore⟩ | ⟨value, hown, hbefore⟩
    · rw [settings_cons_of_none hown, settings_cons_of_none hbefore, hne,
        settings_inside hcs, settings_inside_append hcs, List.nil_append]
    · rw [settings_cons_of_some hown, settings_cons_of_some hbefore, settings_cons_inside, settings]
      rfl

/-- Lines on which reading ends are read one by one, and then the lines behind them are. -/
theorem settings_intercalate_append (hlines : ∀ line ∈ lines, '\n' ∉ line)
    (hends : ∀ line ∈ lines, ¬ GoesOn setting line) (behind : List (List Char)) :
    settings setting true (['\n'].intercalate (lines ++ behind))
      = lines.flatMap (settings setting true)
          ++ settings setting true (['\n'].intercalate behind) := by
  induction lines with
  | nil => rfl
  | cons line lines ih =>
    obtain ⟨hline, hlines⟩ := List.forall_mem_cons.1 hlines
    obtain ⟨hend, hends⟩ := List.forall_mem_cons.1 hends
    rw [List.flatMap_cons, List.append_assoc, ← ih hlines hends, List.cons_append]
    cases lines ++ behind with
    | nil => simp [settings]
    | cons next rest =>
      rw [List.intercalate_cons_cons, List.append_assoc, List.singleton_append,
        settings_append_newline hline hend]

theorem settings_intercalate (hlines : ∀ line ∈ lines, '\n' ∉ line)
    (hends : ∀ line ∈ lines, ¬ GoesOn setting line) :
    settings setting true (['\n'].intercalate lines) = lines.flatMap (settings setting true) := by
  simpa [settings] using settings_intercalate_append hlines hends []

/-! ### Comments -/

theorem isComment_iff : isComment line = true ↔ ∃ behind, line = '-' :: '-' :: behind :=
  startsWith_iff

theorem isComment_nil : isComment [] = false := rfl

theorem GoesOn.isComment (h : GoesOn setting line) : isComment line = true := by
  obtain ⟨gap, -, rfl | ⟨gap', -, rfl⟩⟩ := h
  · exact isComment_iff.2 ⟨_, rfl⟩
  · exact isComment_iff.2 ⟨_, rfl⟩

/-- What is no comment is not read. -/
theorem settings_of_not_isComment (hline : '\n' ∉ line) (h : isComment line = false) :
    settings setting true line = [] := by
  cases line with
  | nil => rw [settings]
  | cons c cs =>
    obtain ⟨hc, hcs⟩ := not_or.1 (mt List.mem_cons.2 hline)
    have hne : (c == '\n') = false := by simpa using Ne.symm hc
    have hnone : dropPattern? ['-', '-'] (c :: cs) = none := by
      simpa [Sql.isComment, startsWith] using h
    rw [settings_cons_of_none (by rw [settingAt?, hnone]; rfl), hne, settings_inside hcs]

/-- Lines that are no comments add nothing. -/
theorem flatMap_filter_isComment (hlines : ∀ line ∈ lines, '\n' ∉ line) :
    lines.flatMap (settings setting true)
      = (lines.filter isComment).flatMap (settings setting true) := by
  induction lines with
  | nil => rfl
  | cons line lines ih =>
    obtain ⟨hline, hlines⟩ := List.forall_mem_cons.1 hlines
    rw [List.flatMap_cons, ih hlines]
    cases hcomment : Sql.isComment line with
    | true => rw [List.filter_cons_of_pos hcomment, List.flatMap_cons]
    | false =>
      rw [List.filter_cons_of_neg (by simp [hcomment]), settings_of_not_isComment hline hcomment,
        List.nil_append]

/-- The comments of a text, in their order. -/
def commentLines (sql : String) : List (List Char) :=
  (splitAt '\n' sql.toList).filter isComment

theorem commentLines_ofList (hlines : ∀ line ∈ lines, '\n' ∉ line) (hne : lines ≠ []) :
    commentLines (.ofList (['\n'].intercalate lines)) = lines.filter isComment := by
  rw [commentLines, String.toList_ofList, splitAt_intercalate hlines hne]

/-- Where no comment goes on behind its end, the settings of a text are those of its comments. -/
theorem settings_eq_flatMap_comments {sql : String}
    (hends : ∀ line ∈ commentLines sql, ¬ GoesOn setting line) :
    settings setting true sql.toList
      = (commentLines sql).flatMap (settings setting true) := by
  have hlines : ∀ line ∈ splitAt '\n' sql.toList, '\n' ∉ line := fun _ => notMem_of_mem_splitAt
  have hall : ∀ line ∈ splitAt '\n' sql.toList, ¬ GoesOn setting line := fun line hline hgoes =>
    hends line (List.mem_filter.2 ⟨hline, hgoes.isComment⟩) hgoes
  have hread := settings_intercalate hlines hall
  rw [intercalate_splitAt] at hread
  rw [hread, commentLines]
  exact flatMap_filter_isComment hlines

/-- A setting as it is read: blanks, line ends among them, may stand on both sides of its
    keyword. -/
theorem settingAt?_written (setting : Setting) {gap' : List Char} {c : Char}
    (hgap : ∀ a ∈ gap, isBlank a = true) (hgap' : ∀ a ∈ gap', isBlank a = true)
    (hc : isBlank c = false) (rest : List Char) :
    settingAt? setting ('-' :: '-' :: (gap ++ (setting.keyword ++ (gap' ++ c :: rest))))
      = some (restOfLine (c :: rest)) := by
  obtain ⟨first, middle, hfirst, hkeyword⟩ := setting.keyword_eq
  have htrim : trimLeft (gap ++ (setting.keyword ++ (gap' ++ c :: rest)))
      = setting.keyword ++ (gap' ++ c :: rest) := by
    rw [hkeyword, List.append_assoc, List.cons_append, trimLeft_append hgap hfirst]
  have hbehind := dropPattern?_eq_some_iff.2 (rfl : setting.keyword ++ (gap' ++ c :: rest) = _)
  rw [settingAt?]
  change (dropPattern? setting.keyword (trimLeft _)).bind value? = _
  rw [htrim, hbehind, Option.bind_some, value?_append hgap' hc]

/-- Behind a comment on which reading goes on, a line that is no comment can give any value. -/
theorem GoesOn.exists_settings (h : GoesOn setting line) :
    ∃ start : List Char, '\n' ∉ start ∧ (∀ c, Sql.isComment (start ++ [c]) = false)
      ∧ ∀ c t, isBlank c = false → ∃ rest,
          settings setting true (line ++ '\n' :: (start ++ c :: '\n' :: t)) = [c] :: rest := by
  have hnewline : ∀ gap : List Char, (∀ c ∈ gap, isBlank c = true) →
      ∀ c ∈ gap ++ ['\n'], isBlank c = true := fun gap hgap c hc =>
    (List.mem_append.1 hc).elim (hgap c) fun hc => List.mem_singleton.1 hc ▸ by decide
  have hvalue : ∀ c t, isBlank c = false → restOfLine (c :: '\n' :: t) = ([c], '\n' :: t) := by
    intro c t hc
    refine restOfLine_append_newline (s := [c]) ?_ t
    rw [List.mem_singleton]
    rintro rfl
    cases hc
  obtain ⟨gap, hgap, rfl | ⟨gap', hgap', rfl⟩⟩ := h
  · refine ⟨setting.keyword, setting.newline_notMem_keyword, fun c => ?_, fun c t hc => ?_⟩
    · cases setting <;> rfl
    · have hnone : ∀ c ∈ ([] : List Char), isBlank c = true := by simp
      have hread := settingAt?_written setting (hnewline gap hgap) hnone hc ('\n' :: t)
      rw [hvalue c t hc] at hread
      exact ⟨_, by simpa using settings_cons_of_some hread⟩
  · refine ⟨[], List.not_mem_nil, fun c => ?_, fun c t hc => ?_⟩
    · simp [Sql.isComment, startsWith, dropPattern?]
    · have hread := settingAt?_written setting hgap (hnewline gap' hgap') hc ('\n' :: t)
      rw [hvalue c t hc] at hread
      exact ⟨_, by simpa using settings_cons_of_some hread⟩

/-- **The settings of one kind depend on nothing but the comments of a text exactly when no
    comment goes on behind its end.** -/
theorem settings_comments_iff (sql : String) :
    (∀ sql', commentLines sql' = commentLines sql →
        settings setting true sql'.toList = settings setting true sql.toList)
      ↔ ∀ line ∈ commentLines sql, ¬ GoesOn setting line := by
  constructor
  · intro hsame line hline hgoes
    obtain ⟨hmem, -⟩ := List.mem_filter.1 hline
    classical
    obtain ⟨first, hfound⟩ := Option.isSome_iff_exists.1 (List.find?_isSome
      (p := fun line => decide (GoesOn setting line)) |>.2 ⟨line, hmem, decide_eq_true hgoes⟩)
    obtain ⟨hfirst, before, behind, hsplit, hends⟩ := List.find?_eq_some_iff_append.1 hfound
    replace hfirst : GoesOn setting first := of_decide_eq_true hfirst
    replace hends : ∀ line ∈ before, ¬ GoesOn setting line := fun line hline => by
      simpa using hends line hline
    have hlines : ∀ line ∈ splitAt '\n' sql.toList, '\n' ∉ line := fun _ =>
      notMem_of_mem_splitAt
    rw [hsplit, List.forall_mem_append, List.forall_mem_cons] at hlines
    obtain ⟨hbefore, hnewline, hbehind⟩ := hlines
    obtain ⟨start, hstart, hplain, hvalue⟩ := hfirst.exists_settings
    -- one more line, which is no comment, decides on the value of the setting
    have hread : ∀ c, isBlank c = false → ∃ rest, settings setting true sql.toList
        = before.flatMap (settings setting true) ++ [c] :: rest := by
      intro c hc
      have hextra : '\n' ∉ start ++ [c] := by
        rw [List.mem_append, List.mem_singleton]
        rintro (hmem | rfl)
        · exact hstart hmem
        · cases hc
      have hother : ∀ line ∈ before ++ first :: (start ++ [c]) :: [] :: behind, '\n' ∉ line := by
        simp only [List.forall_mem_append, List.forall_mem_cons]
        exact ⟨hbefore, hnewline, hextra, List.not_mem_nil, hbehind⟩
      have hcomments : commentLines (.ofList (['\n'].intercalate
          (before ++ first :: (start ++ [c]) :: [] :: behind))) = commentLines sql := by
        rw [commentLines_ofList hother (by simp), commentLines, hsplit]
        simp [List.filter_cons, hplain, isComment_nil]
      obtain ⟨rest, hrest⟩ := hvalue c (['\n'].intercalate ([] :: behind)) hc
      refine ⟨rest, ?_⟩
      rw [← hsame _ hcomments, String.toList_ofList, settings_intercalate_append hbefore hends,
        ← hrest]
      simp [List.intercalate_cons_cons]
    obtain ⟨rest, hzero⟩ := hread '0' (by decide)
    obtain ⟨rest', hone⟩ := hread '1' (by decide)
    have hsame := List.append_cancel_left (hzero.symm.trans hone)
    simp at hsame
  · intro hends sql' hcomments
    rw [settings_eq_flatMap_comments hends, settings_eq_flatMap_comments (hcomments ▸ hends),
      hcomments]

/-- **What a text asks for depends on nothing but its comments if none of them goes on behind
    its end.**  Lines that are no comments can be left out, replaced and added then; where a
    comment goes on, a line that is none can decide on what is read. -/
theorem comments_decide (sql : String) :
    ((∀ setting, ∀ line ∈ commentLines sql, ¬ GoesOn setting line) →
        ∀ sql', commentLines sql' = commentLines sql → options sql' = options sql
          ∧ (∀ setting, hooks setting sql' = hooks setting sql)
          ∧ materialization sql' = materialization sql)
      ∧ ∀ setting, (∀ sql', commentLines sql' = commentLines sql →
            settings setting true sql'.toList = settings setting true sql.toList)
          ↔ ∀ line ∈ commentLines sql, ¬ GoesOn setting line := by
  refine ⟨fun hends sql' hcomments => ?_, fun setting => settings_comments_iff sql⟩
  have hsame : ∀ setting, settings setting true sql'.toList = settings setting true sql.toList :=
    fun setting => (settings_comments_iff sql).2 (hends setting) sql' hcomments
  have hoptions : options sql' = options sql := by rw [options, options, hsame]
  have hhooks : ∀ setting, hooks setting sql' = hooks setting sql := fun setting => by
    rw [hooks, hooks, hsame]
  refine ⟨hoptions, hhooks, ?_⟩
  rw [materialization, materialization, hoptions, hhooks, hhooks]

/-- A hook without a statement, before a line that is no comment. -/
def openHook : String := "-- pre_hook:\nDROP TABLE x"

/-- Two texts with the same comments can ask for different hooks. -/
theorem hook_from_other_line :
    commentLines openHook = commentLines "-- pre_hook:"
      ∧ hooks .preHook openHook = ["DROP TABLE x"] ∧ hooks .preHook "-- pre_hook:" = [] := by
  decide +kernel

end SqlPipeline.Sql
