/-
  SqlPipeline/Proofs/Sql/Header.lean
  ==================================
  **Which lines are settings for the one who reads them, and for the one who takes them out.**

  A setting is read where a line starts with two hyphens and a keyword, with any blanks between
  them, and has something behind the colon.  A line is taken out of the query if it starts, once
  it is trimmed, with the hyphens, one space and the keyword.  The two agree on a line unless it
  is a setting that is indented or has nothing behind its colon, which is taken out unread, or
  one with another gap than one space behind the hyphens, which is read and stays
  (`query_settings`).
-/
import SqlPipeline.Proofs.Text.Cut
import SqlPipeline.Sql.Header

namespace SqlPipeline.Sql

open Text

variable {s line gap value : List Char} {setting other : Setting}

/-! ### Keywords -/

/-- Each keyword starts with a letter and ends with its colon. -/
theorem Setting.keyword_eq (setting : Setting) :
    ∃ first middle, isBlank first = false ∧ setting.keyword = first :: middle ++ [':'] := by
  cases setting with
  | config => exact ⟨'c', ['o', 'n', 'f', 'i', 'g'], by decide, rfl⟩
  | preHook => exact ⟨'p', ['r', 'e', '_', 'h', 'o', 'o', 'k'], by decide, rfl⟩
  | postHook => exact ⟨'p', ['o', 's', 't', '_', 'h', 'o', 'o', 'k'], by decide, rfl⟩

/-- No keyword starts another. -/
theorem Setting.keyword_append_inj {value value' : List Char}
    (h : setting.keyword ++ value = other.keyword ++ value') :
    setting = other ∧ value = value' := by
  have hconfig : config.keyword = ['c', 'o', 'n', 'f', 'i', 'g', ':'] := rfl
  have hpre : preHook.keyword = ['p', 'r', 'e', '_', 'h', 'o', 'o', 'k', ':'] := rfl
  have hpost : postHook.keyword = ['p', 'o', 's', 't', '_', 'h', 'o', 'o', 'k', ':'] := rfl
  cases setting <;> cases other <;> simp [hconfig, hpre, hpost] at h
  all_goals exact ⟨rfl, h⟩

/-- One gap, one keyword and one value belong to a setting behind blanks. -/
theorem Setting.gap_keyword_inj {gap' value' : List Char} (h : ∀ c ∈ gap, isBlank c = true)
    (h' : ∀ c ∈ gap', isBlank c = true)
    (heq : gap ++ (setting.keyword ++ value) = gap' ++ (other.keyword ++ value')) :
    gap = gap' ∧ setting = other ∧ value = value' := by
  obtain ⟨first, middle, hfirst, hkeyword⟩ := setting.keyword_eq
  obtain ⟨first', middle', hfirst', hkeyword'⟩ := other.keyword_eq
  have hgaps := heq
  rw [hkeyword, hkeyword', List.append_assoc, List.append_assoc, List.cons_append,
    List.cons_append] at hgaps
  obtain ⟨rfl, -⟩ := gap_unique h h' hfirst hfirst' hgaps
  exact ⟨rfl, keyword_append_inj (List.append_cancel_left heq)⟩

/-! ### Lines that are read -/

/-- A value is whatever stands behind the colon, but not nothing. -/
theorem exists_value?_iff (h : '\n' ∉ s) : (∃ found, value? s = some found) ↔ s ≠ [] := by
  have hlast : ∀ t : List Char, '\n' ∉ t → t ≠ [] → ∃ found, lastBlank? t = some found := by
    intro t ht hne
    induction t with
    | nil => exact absurd rfl hne
    | cons c cs ih =>
      obtain ⟨hc, hcs⟩ := not_or.1 (mt List.mem_cons.2 ht)
      rw [lastBlank?]
      cases hrest : lastBlank? cs with
      | some found => exact ⟨found, rfl⟩
      | none => exact ⟨_, if_neg (Ne.symm hc)⟩
  rw [value?]
  split
  · constructor
    · rintro ⟨found, hfound⟩ rfl
      cases hfound
    · exact hlast s h
  · rename_i hvisible
    refine iff_of_true ⟨_, rfl⟩ ?_
    rintro rfl
    exact hvisible rfl

/-- A setting as it can be written so that it is read. -/
theorem settingAt?_isSome_iff (h : '\n' ∉ line) : (settingAt? setting line).isSome = true
    ↔ ∃ gap value, (∀ c ∈ gap, isBlank c = true) ∧ value ≠ []
      ∧ line = '-' :: '-' :: (gap ++ (setting.keyword ++ value)) := by
  simp only [settingAt?, Option.bind_eq_bind, Option.isSome_iff_exists, Option.bind_eq_some_iff,
    dropPattern?_eq_some_iff]
  constructor
  · rintro ⟨found, behind, rfl, value, hvalue, hfound⟩
    obtain ⟨gap, hgap, hbehind⟩ := exists_append_trimLeft behind
    rw [hvalue] at hbehind
    subst hbehind
    refine ⟨gap, value, hgap, (exists_value?_iff ?_).1 ⟨found, hfound⟩, rfl⟩
    simp_all
  · rintro ⟨gap, value, hgap, hvalue, rfl⟩
    obtain ⟨found, hfound⟩ := (exists_value?_iff (by simp_all)).2 hvalue
    obtain ⟨first, middle, hfirst, hkeyword⟩ := setting.keyword_eq
    refine ⟨found, gap ++ (setting.keyword ++ value), rfl, value, ?_, hfound⟩
    rw [hkeyword, List.append_assoc, List.cons_append, trimLeft_append hgap hfirst]

/-- Where no line starts, nothing is read. -/
theorem settings_inside (h : '\n' ∉ s) : settings setting false s = [] := by
  induction s with
  | nil => rw [settings]
  | cons c cs ih =>
    obtain ⟨hc, hcs⟩ := not_or.1 (mt List.mem_cons.2 h)
    rw [settings]
    have hne : (c == '\n') = false := by simpa using Ne.symm hc
    simp only [hne]
    exact ih hcs

/-- That a line is read as a setting, taken on its own. -/
def IsRead (line : List Char) : Prop :=
  ∃ setting, settings setting true line ≠ []

theorem isRead_iff (h : '\n' ∉ line) : IsRead line ↔ ∃ (setting : Setting) (gap value : List Char),
    (∀ c ∈ gap, isBlank c = true) ∧ value ≠ []
      ∧ line = '-' :: '-' :: (gap ++ (setting.keyword ++ value)) := by
  refine exists_congr fun setting => ?_
  rw [← settingAt?_isSome_iff h]
  cases line with
  | nil => simp [settings, settingAt?, dropPattern?]
  | cons c cs =>
    obtain ⟨hc, hcs⟩ := not_or.1 (mt List.mem_cons.2 h)
    rw [settings]
    split
    · rename_i found hfound
      rw [if_pos rfl] at hfound
      simp [hfound]
    · rename_i hnone
      rw [if_pos rfl] at hnone
      have hne : (c == '\n') = false := by simpa using Ne.symm hc
      simp [hnone, hne, settings_inside hcs]

/-! ### Lines that are taken out -/

theorem isSettingLine_iff : isSettingLine line = true ↔
    ∃ (setting : Setting) (indent value : List Char),
    (∀ c ∈ indent, isBlank c = true)
      ∧ line = indent ++ '-' :: '-' :: ' ' :: (setting.keyword ++ value) := by
  have hmark : ∀ setting : Setting, startsWith setting.mark (trim line) = true
      ↔ ∃ indent value, (∀ c ∈ indent, isBlank c = true)
        ∧ line = indent ++ '-' :: '-' :: ' ' :: (setting.keyword ++ value) := by
    intro setting
    obtain ⟨first, middle, -, hkeyword⟩ := setting.keyword_eq
    have heq : setting.mark = '-' :: ('-' :: ' ' :: first :: middle) ++ [':'] := by
      rw [Setting.mark, hkeyword]
      rfl
    rw [heq, startsWith_trim_iff (by decide) (by decide), hkeyword]
    simp
  simp only [isSettingLine, Bool.or_eq_true, hmark]
  constructor
  · rintro ((h | h) | h)
    · exact ⟨_, h⟩
    · exact ⟨_, h⟩
    · exact ⟨_, h⟩
  · rintro ⟨setting, h⟩
    cases setting with
    | config => exact Or.inl (Or.inl h)
    | preHook => exact Or.inl (Or.inr h)
    | postHook => exact Or.inr h

/-! ### Where the two differ -/

/-- A setting that is indented, or that has nothing behind its colon. -/
def IndentedOrEmpty (line : List Char) : Prop :=
  ∃ (setting : Setting) (indent value : List Char), (∀ c ∈ indent, isBlank c = true)
    ∧ line = indent ++ '-' :: '-' :: ' ' :: (setting.keyword ++ value) ∧ (indent ≠ [] ∨ value = [])

/-- A setting with another gap than one space behind its hyphens. -/
def OtherwiseSpaced (line : List Char) : Prop :=
  ∃ (setting : Setting) (gap value : List Char), (∀ c ∈ gap, isBlank c = true) ∧ value ≠ []
    ∧ line = '-' :: '-' :: (gap ++ (setting.keyword ++ value)) ∧ gap ≠ [' ']

/-- A line that could be read and is taken out is both with one space and without
    indentation. -/
theorem eq_of_both {indent value' : List Char} (hgap : ∀ c ∈ gap, isBlank c = true)
    (hindent : ∀ c ∈ indent, isBlank c = true)
    (h : '-' :: '-' :: (gap ++ (setting.keyword ++ value))
      = indent ++ '-' :: '-' :: ' ' :: (other.keyword ++ value')) :
    indent = [] ∧ gap = [' '] ∧ value = value' := by
  have hnone : ∀ c ∈ ([] : List Char), isBlank c = true := by simp
  obtain ⟨rfl, hrest⟩ := gap_unique hnone hindent (by decide) (by decide) h
  have htail : gap ++ (setting.keyword ++ value) = [' '] ++ (other.keyword ++ value') := by
    simpa using hrest
  have hspace : ∀ c ∈ [' '], isBlank c = true := List.forall_mem_singleton.2 (by decide)
  obtain ⟨hgap, -, hvalue⟩ := Setting.gap_keyword_inj hgap hspace htail
  exact ⟨rfl, hgap, hvalue⟩

theorem indentedOrEmpty_iff (h : '\n' ∉ line) :
    IndentedOrEmpty line ↔ isSettingLine line = true ∧ ¬ IsRead line := by
  rw [isSettingLine_iff, isRead_iff h]
  constructor
  · rintro ⟨setting, indent, value, hindent, rfl, hslip⟩
    refine ⟨⟨setting, indent, value, hindent, rfl⟩, ?_⟩
    rintro ⟨other, gap, value', hgap, hne, heq⟩
    obtain ⟨rfl, -, rfl⟩ := eq_of_both hgap hindent heq.symm
    exact hslip.elim (fun h => h rfl) hne
  · rintro ⟨⟨setting, indent, value, hindent, rfl⟩, hunread⟩
    refine ⟨setting, indent, value, hindent, rfl, ?_⟩
    by_contra hplain
    obtain ⟨hnone, hvalue⟩ := not_or.1 hplain
    obtain rfl := not_not.1 hnone
    exact hunread ⟨setting, [' '], value, List.forall_mem_singleton.2 (by decide), hvalue, rfl⟩

theorem otherwiseSpaced_iff (h : '\n' ∉ line) :
    OtherwiseSpaced line ↔ IsRead line ∧ isSettingLine line = false := by
  rw [← Bool.not_eq_true, isSettingLine_iff, isRead_iff h]
  constructor
  · rintro ⟨setting, gap, value, hgap, hvalue, rfl, hspaced⟩
    refine ⟨⟨setting, gap, value, hgap, hvalue, rfl⟩, ?_⟩
    rintro ⟨other, indent, value', hindent, heq⟩
    exact hspaced (eq_of_both hgap hindent heq).2.1
  · rintro ⟨⟨setting, gap, value, hgap, hvalue, rfl⟩, hstays⟩
    refine ⟨setting, gap, value, hgap, hvalue, rfl, ?_⟩
    rintro rfl
    exact hstays ⟨setting, [], value, by simp, rfl⟩

/-- **A line is taken out of the query exactly when it is read as a setting, but for settings
    that are indented or empty, which are taken out unread, and settings that are spaced in
    another way, which are read and stay.**  All other lines are kept as they are and in their
    order; then the ends of the whole are trimmed. -/
theorem query_settings (sql : String) :
    ['\n'].intercalate (splitAt '\n' sql.toList) = sql.toList
      ∧ (query sql).toList
          = trim (['\n'].intercalate ((splitAt '\n' sql.toList).filter (!isSettingLine ·)))
      ∧ ∀ line ∈ splitAt '\n' sql.toList,
          ((isSettingLine line = true ↔ IsRead line)
              ↔ ¬ (IndentedOrEmpty line ∨ OtherwiseSpaced line))
            ∧ (IndentedOrEmpty line ↔ isSettingLine line = true ∧ ¬ IsRead line)
            ∧ (OtherwiseSpaced line ↔ IsRead line ∧ isSettingLine line = false) := by
  refine ⟨intercalate_splitAt '\n' _, ?_, fun line hline => ?_⟩
  · rw [query, String.toList_ofList]
  · have hnewline : '\n' ∉ line := fun hmem => by
      simpa using forall_of_mem_splitWhere hline '\n' hmem
    have hunread := indentedOrEmpty_iff hnewline
    have hstays := otherwiseSpaced_iff hnewline
    refine ⟨?_, hunread, hstays⟩
    rw [hunread, hstays]
    by_cases hread : IsRead line <;> simp [hread]

/-- A setting that is read and stays in the query. -/
def tightHeader : String := "--config: materialized=view\nSELECT 1"

/-- There is a text with a line that is read as a setting, taken on its own and in the text, and
    that is not taken out of the query. -/
theorem setting_left_in_query :
    ∃ line ∈ splitAt '\n' tightHeader.toList, IsRead line ∧ isSettingLine line = false
      ∧ options tightHeader = [("materialized", "view")] ∧ query tightHeader = tightHeader := by
  refine ⟨"--config: materialized=view".toList, by decide +kernel, ?_, by decide +kernel,
    by decide +kernel, by decide +kernel⟩
  exact (isRead_iff (by decide +kernel)).2
    ⟨.config, [], " materialized=view".toList, by simp, by decide +kernel, by decide +kernel⟩

end SqlPipeline.Sql
