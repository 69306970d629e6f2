/-
  SqlPipeline/Proofs/Sql/Written.lean
  ===================================
  **What a model asks for can be written into its comments.**

  A header is a line of options and a line for each hook.  The columns of a key have commas
  between them like the options themselves, so they are cut apart with the options
  (`readOptions_intercalate`), put together again one by one (`foldl_addOption_columns`), and cut
  apart a second time as names (`nameList_columns`).  Reading ends with each written line
  (`Setting.not_goesOn_line`), so hooks may hold whatever fits on a line, settings included.
-/
import SqlPipeline.Proofs.Sql.Comments
import Mathlib.Data.List.Basic

namespace SqlPipeline.Sql

open Text

/-! ### What can be written -/

/-- A statement that is to be run before a model or after it. -/
inductive Hook where
  | pre (statement : String)
  | post (statement : String)
deriving Repr, DecidableEq

namespace Hook

def setting : Hook → Setting
  | pre _ => .preHook
  | post _ => .postHook

def statement : Hook → String
  | pre statement => statement
  | post statement => statement

end Hook

/-- What a model asks for, with its hooks in the order in which they are written. -/
structure Header where
  strategy : Strategy
  uniqueKey : List String := []
  fullRefresh : Bool := false
  hooks : List Hook := []
deriving Repr

/-- A setting on a line of its own. -/
def Setting.line (setting : Setting) (value : List Char) : List Char :=
  setting.mark ++ ' ' :: value

/-- An option of a model. -/
def option (name : String) (value : String) : List Char :=
  name.toList ++ '=' :: value.toList

/-- A text that can stand between the commas of the options. -/
def IsPiece (s : List Char) : Prop :=
  IsTight s ∧ ',' ∉ s ∧ '\n' ∉ s

instance (s : List Char) : Decidable (IsPiece s) :=
  inferInstanceAs (Decidable (_ ∧ _))

namespace Header

/-- The columns of a key, the first of them as an option. -/
def keyPieces : List String → List (List Char)
  | [] => []
  | key :: keys => option "unique_key" key :: keys.map String.toList

def flag (h : Header) : String :=
  if h.fullRefresh then "true" else "false"

/-- What stands between the commas of the options. -/
def pieces (h : Header) : List (List Char) :=
  option "materialized" h.strategy.tag :: keyPieces h.uniqueKey ++ [option "full_refresh" h.flag]

/-- The lines of a header: the options first, and then one line for each hook. -/
def lines (h : Header) : List (List Char) :=
  Setting.config.line ([',', ' '].intercalate h.pieces)
    :: h.hooks.map fun hook => hook.setting.line hook.statement.toList

/-- A header with a text below it. -/
def text (h : Header) (body : String) : String :=
  .ofList (['\n'].intercalate (h.lines ++ [body.toList]))

/-- The statements of one kind of hooks. -/
def statements (h : Header) (setting : Setting) : List String :=
  (h.hooks.filter (·.setting == setting)).map Hook.statement

/-- What is asked for. -/
def materialization (h : Header) : Materialization where
  tag := some h.strategy.tag
  uniqueKey := h.uniqueKey
  fullRefresh := h.fullRefresh
  preHooks := h.statements .preHook
  postHooks := h.statements .postHook

/-- A header can be written if its columns and statements stand on one line each and start and end
    visibly, and if no column has one of the signs that options are cut at. -/
structure IsWritable (h : Header) : Prop where
  key : ∀ key ∈ h.uniqueKey, IsPiece key.toList ∧ '=' ∉ key.toList
  statement : ∀ hook ∈ h.hooks, IsTight hook.statement.toList ∧ '\n' ∉ hook.statement.toList

end Header

variable {setting other : Setting} {value : List Char} {h : Header}

/-! ### Lines that are written -/

theorem Setting.line_eq (setting : Setting) (value : List Char) :
    setting.line value = '-' :: '-' :: ([' '] ++ (setting.keyword ++ ([' '] ++ value))) := by
  simp [Setting.line, Setting.mark]

theorem Setting.newline_notMem_line (setting : Setting) (hline : '\n' ∉ value) :
    '\n' ∉ setting.line value := by
  rw [Setting.line_eq]
  simpa [hline] using setting.newline_notMem_keyword

/-- Reading ends with a line that is written. -/
theorem Setting.not_goesOn_line (htight : IsTight value) :
    ¬ GoesOn setting (other.line value) := by
  obtain ⟨⟨c, rest, hc, rfl⟩, -⟩ := isTight_iff.1 htight
  rw [Setting.line_eq]
  have hspace : ∀ c ∈ [' '], isBlank c = true := List.forall_mem_singleton.2 (by decide)
  rintro ⟨gap, hgap, heq | ⟨gap', hgap', heq⟩⟩
  · obtain ⟨first, middle, hfirst, hkeyword⟩ := other.keyword_eq
    obtain rfl := (List.cons.inj (List.cons.inj heq).2).2
    rw [hgap first (by simp [hkeyword])] at hfirst
    cases hfirst
  · obtain ⟨-, -, rfl⟩ := gap_keyword_inj hspace hgap (List.cons.inj (List.cons.inj heq).2).2
    rw [hgap' c (by simp)] at hc
    cases hc

/-- A written line is read for its own setting and for no other. -/
theorem settings_line (htight : IsTight value) (hline : '\n' ∉ value) :
    settings setting true (other.line value) = if setting = other then [value] else [] := by
  have hwhole := other.newline_notMem_line hline
  obtain ⟨⟨c, rest, hc, rfl⟩, -⟩ := isTight_iff.1 htight
  rw [Setting.line_eq] at hwhole ⊢
  have hspace : ∀ c ∈ [' '], isBlank c = true := List.forall_mem_singleton.2 (by decide)
  split
  · rename_i heq
    subst heq
    have hread := settingAt?_written setting hspace hspace hc rest
    rw [restOfLine_of_notMem hline] at hread
    rw [settings_cons_of_some hread, settings]
  · rename_i hne
    have hnone : settingAt? setting
        ('-' :: '-' :: ([' '] ++ (other.keyword ++ ([' '] ++ c :: rest)))) = none := by
      rw [← Option.not_isSome_iff_eq_none, settingAt?_isSome_iff hwhole]
      rintro ⟨gap, value, hgap, -, heq⟩
      exact hne (Setting.gap_keyword_inj hspace hgap
        (List.cons.inj (List.cons.inj heq).2).2).2.1.symm
    obtain ⟨-, hrest⟩ := not_or.1 (mt List.mem_cons.2 hwhole)
    rw [settings_cons_of_none hnone]
    exact settings_inside hrest

/-! ### Options that are written -/

theorem isTight_option {name value : String} (hname : IsTight name.toList)
    (hvalue : IsTight value.toList) : IsTight (option name value) :=
  hname.append hvalue ['=']

theorem isPiece_option {name value : String} (hname : IsPiece name.toList)
    (hvalue : IsPiece value.toList) : IsPiece (option name value) := by
  obtain ⟨htight, hcomma, hline⟩ := hname
  obtain ⟨htight', hcomma', hline'⟩ := hvalue
  exact ⟨isTight_option htight htight', by simp [option, hcomma, hcomma'],
    by simp [option, hline, hline']⟩

/-- A piece counts without the blanks around it. -/
theorem addOption_congr {piece piece' : List Char} (h : trim piece = trim piece')
    (state : Entries String × Option String) : addOption state piece = addOption state piece' := by
  simp only [addOption, h]

theorem foldl_addOption_congr {pieces pieces' : List (List Char)}
    (h : pieces.map trim = pieces'.map trim) (state : Entries String × Option String) :
    pieces.foldl addOption state = pieces'.foldl addOption state := by
  induction pieces generalizing pieces' state with
  | nil => rw [List.map_eq_nil_iff.1 h.symm]
  | cons piece pieces ih =>
    obtain ⟨piece', others, rfl, hpiece, hothers⟩ := List.map_eq_cons_iff.1 h.symm
    rw [List.foldl_cons, List.foldl_cons, addOption_congr hpiece.symm, ih hothers.symm]

/-- Pieces that are joined are read one after the other. -/
theorem readOptions_intercalate {pieces : List (List Char)} (hne : pieces ≠ [])
    (h : ∀ piece ∈ pieces, IsPiece piece) :
    readOptions ([',', ' '].intercalate pieces) = (pieces.foldl addOption ([], none)).1 := by
  have htrim : ∀ piece ∈ pieces, trim piece = piece := fun piece hpiece => (h piece hpiece).1.2
  have hcut := map_trim_splitAt hne (fun piece hpiece => (h piece hpiece).2.1) htrim (by decide)
  have hsame : pieces.map trim = pieces := (List.map_congr_left htrim).trans (List.map_id _)
  rw [readOptions, foldl_addOption_congr (hcut.trans hsame.symm)]

/-- A new option is entered under its name. -/
theorem addOption_option {name value : String} (hname : IsTight name.toList)
    (hequals : '=' ∉ name.toList) (hvalue : IsTight value.toList) (options : Entries String)
    (last : Option String) :
    addOption (options, last) (option name value)
      = (Entries.insert name value options, some name) := by
  have htight := isTight_option hname hvalue
  have hnonempty : (option name value).isEmpty = false := List.isEmpty_eq_false_iff.2 htight.1
  have hcut : cutAt? ['='] (option name value) = some (name.toList, value.toList) :=
    cutAt?_append hequals _
  simp [addOption, htight.2, hnonempty, hcut, hname.2, hvalue.2]

/-- A piece without an equals sign goes on with the value of the last option. -/
theorem addOption_column {key name value : String} {options : Entries String}
    (hkey : IsTight key.toList) (hequals : '=' ∉ key.toList) (hvalue : value ≠ "")
    (hfound : Entries.find? options name = some value) :
    addOption (options, some name) key.toList
      = (Entries.insert name (value ++ ", " ++ key) options, some name) := by
  have hnonempty : key.toList.isEmpty = false := List.isEmpty_eq_false_iff.2 hkey.1
  simp [addOption, hkey.2, hnonempty, cutAt?_of_notMem hequals, hfound, hvalue]

namespace Header

theorem isPiece_tag (strategy : Strategy) : IsPiece strategy.tag.toList := by
  cases strategy <;> decide

theorem isPiece_flag (h : Header) : IsPiece h.flag.toList := by
  rw [flag]
  cases h.fullRefresh <;> decide

theorem isPiece_keyPieces {keys : List String} (h : ∀ key ∈ keys, IsPiece key.toList) :
    ∀ piece ∈ keyPieces keys, IsPiece piece := by
  cases keys with
  | nil => exact fun _ hpiece => absurd hpiece List.not_mem_nil
  | cons key keys =>
    obtain ⟨hkey, hkeys⟩ := List.forall_mem_cons.1 h
    exact List.forall_mem_cons.2 ⟨isPiece_option (by decide) hkey, List.forall_mem_map.2 hkeys⟩

theorem IsWritable.pieces (wf : h.IsWritable) : ∀ piece ∈ h.pieces, IsPiece piece := by
  refine List.forall_mem_append.2 ⟨List.forall_mem_cons.2 ⟨?_, ?_⟩, List.forall_mem_singleton.2 ?_⟩
  · exact isPiece_option (by decide) (isPiece_tag h.strategy)
  · exact isPiece_keyPieces fun key hkey => (wf.key key hkey).1
  · exact isPiece_option (by decide) h.isPiece_flag

/-- The options together can be written on a line as well. -/
theorem IsWritable.options (wf : h.IsWritable) :
    IsTight ([',', ' '].intercalate h.pieces) ∧ '\n' ∉ [',', ' '].intercalate h.pieces :=
  ⟨IsTight.intercalate _ (by simp [Header.pieces]) fun piece hpiece => (wf.pieces piece hpiece).1,
    notMem_intercalate (by decide) fun piece hpiece => (wf.pieces piece hpiece).2.2⟩

/-- Each line of a header is that of a setting with a value that can be read. -/
theorem IsWritable.lines (wf : h.IsWritable) : ∀ line ∈ h.lines, ∃ (setting : Setting) (value : _),
    line = setting.line value ∧ IsTight value ∧ '\n' ∉ value := by
  refine List.forall_mem_cons.2 ⟨⟨_, _, rfl, wf.options⟩, fun line hline => ?_⟩
  obtain ⟨hook, hhook, rfl⟩ := List.mem_map.1 hline
  exact ⟨_, _, rfl, wf.statement hook hhook⟩

/-- The settings of a written header are the values of its lines, one by one. -/
theorem settings_text {body : String} (wf : h.IsWritable) (hbody : commentLines body = []) :
    settings setting true (h.text body).toList = h.lines.flatMap (settings setting true) := by
  have hlines : ∀ line ∈ h.lines, '\n' ∉ line := fun line hline => by
    obtain ⟨other, value, rfl, -, hvalue⟩ := wf.lines line hline
    exact other.newline_notMem_line hvalue
  have hends : ∀ line ∈ h.lines, ¬ GoesOn setting line := fun line hline => by
    obtain ⟨other, value, rfl, htight, -⟩ := wf.lines line hline
    exact Setting.not_goesOn_line htight
  have hnone : settings setting true body.toList = [] := by
    rw [settings_eq_flatMap_comments (by simp [hbody]), hbody]
    rfl
  rw [text, String.toList_ofList, settings_intercalate_append hlines hends,
    List.intercalate_singleton, hnone, List.append_nil]

/-- The columns of a key, as they are read and as they are written. -/
def columns (keys : List String) : String :=
  .ofList ([',', ' '].intercalate (keys.map String.toList))

def keyEntries (keys : List String) : Entries String :=
  if keys.isEmpty then [] else [("unique_key", columns keys)]

/-- The options of a header, as they are read. -/
def entries (h : Header) : Entries String :=
  ("materialized", h.strategy.tag) :: keyEntries h.uniqueKey ++ [("full_refresh", h.flag)]

theorem columns_cons_cons (first key : String) (keys : List String) :
    columns (first :: key :: keys) = columns ((first ++ ", " ++ key) :: keys) := by
  cases keys <;> simp [columns, List.intercalate_cons_cons]

theorem nameList_columns {keys : List String}
    (h : ∀ key ∈ keys, IsPiece key.toList) : nameList (columns keys) = keys := by
  cases keys with
  | nil => rfl
  | cons key keys =>
    have hcomma : ∀ piece ∈ (key :: keys).map String.toList, ',' ∉ piece :=
      List.forall_mem_map.2 fun key hkey => (h key hkey).2.1
    have htrim : ∀ piece ∈ (key :: keys).map String.toList, trim piece = piece :=
      List.forall_mem_map.2 fun key hkey => (h key hkey).1.2
    have hcut := map_trim_splitAt (by simp) hcomma htrim (by decide)
    rw [nameList, columns, String.toList_ofList, hcut, List.filterMap_map]
    have hname : ∀ name ∈ key :: keys, ((fun name => if name.isEmpty then none
        else some (String.ofList name)) ∘ String.toList) name = some name := by
      intro name hname
      simpa using (h name hname).1.1
    exact (List.filterMap_congr hname).trans List.filterMap_some

/-- The columns behind the first are read one by one. -/
theorem foldl_addOption_columns {tag first : String} {keys : List String} (hfirst : first ≠ "")
    (h : ∀ key ∈ keys, IsTight key.toList ∧ '=' ∉ key.toList) :
    (keys.map String.toList).foldl addOption
        ([("materialized", tag), ("unique_key", first)], some "unique_key")
      = ([("materialized", tag), ("unique_key", columns (first :: keys))], some "unique_key") := by
  induction keys generalizing first with
  | nil => simp [columns]
  | cons key keys ih =>
    obtain ⟨⟨hkey, hequals⟩, hkeys⟩ := List.forall_mem_cons.1 h
    rw [List.map_cons, List.foldl_cons, addOption_column hkey hequals hfirst rfl,
      columns_cons_cons, ← ih (by simp) hkeys]
    rfl

theorem foldl_addOption_keyPieces {keys : List String} (tag : String)
    (h : ∀ key ∈ keys, IsTight key.toList ∧ '=' ∉ key.toList) (last : Option String) :
    ∃ last', (keyPieces keys).foldl addOption ([("materialized", tag)], last)
      = (("materialized", tag) :: keyEntries keys, last') := by
  cases keys with
  | nil => exact ⟨last, rfl⟩
  | cons key keys =>
    obtain ⟨⟨hkey, -⟩, hkeys⟩ := List.forall_mem_cons.1 h
    have hnonempty : key ≠ "" := by simpa using hkey.1
    have hfirst : addOption ([("materialized", tag)], last) (option "unique_key" key)
        = ([("materialized", tag), ("unique_key", key)], some "unique_key") :=
      addOption_option (by decide) (by decide) hkey _ _
    rw [keyPieces, List.foldl_cons, hfirst, foldl_addOption_columns hnonempty hkeys]
    exact ⟨_, rfl⟩

theorem foldl_addOption_pieces (wf : h.IsWritable) :
    (h.pieces.foldl addOption ([], none)).1 = h.entries := by
  have htag : addOption ([], none) (option "materialized" h.strategy.tag)
      = ([("materialized", h.strategy.tag)], some "materialized") :=
    addOption_option (by decide) (by decide) (isPiece_tag h.strategy).1 _ _
  have hcolumns : ∀ key ∈ h.uniqueKey, IsTight key.toList ∧ '=' ∉ key.toList := fun key hkey =>
    ⟨(wf.key key hkey).1.1, (wf.key key hkey).2⟩
  obtain ⟨last, hkeys⟩ :=
    foldl_addOption_keyPieces h.strategy.tag hcolumns (some "materialized")
  rw [pieces, List.cons_append, List.foldl_cons, htag, List.foldl_append, hkeys, List.foldl_cons,
    List.foldl_nil, addOption_option (by decide) (by decide) h.isPiece_flag.1, entries]
  cases h.uniqueKey <;> rfl

/-- The options of a written header are read as they are. -/
theorem options_text {body : String} (wf : h.IsWritable) (hbody : commentLines body = []) :
    options (h.text body) = h.entries := by
  obtain ⟨htight, hline⟩ := wf.options
  have hread : options (h.text body) = readOptions ([',', ' '].intercalate h.pieces) := by
    rw [options, settings_text wf hbody, lines, List.flatMap_cons, settings_line htight hline,
      if_pos rfl, List.singleton_append]
  rw [hread, readOptions_intercalate (by simp [pieces]) wf.pieces, foldl_addOption_pieces wf]

theorem flatMap_settings_hooks {hooks : List Hook}
    (h : ∀ hook ∈ hooks, IsTight hook.statement.toList ∧ '\n' ∉ hook.statement.toList) :
    (hooks.map fun hook => hook.setting.line hook.statement.toList).flatMap (settings setting true)
      = (hooks.filter (·.setting == setting)).map (·.statement.toList) := by
  induction hooks with
  | nil => rfl
  | cons hook hooks ih =>
    obtain ⟨⟨htight, hline⟩, hhooks⟩ := List.forall_mem_cons.1 h
    rw [List.map_cons, List.flatMap_cons, settings_line htight hline, ih hhooks, List.filter_cons]
    by_cases heq : setting = hook.setting
    · simp [heq]
    · simp [heq, Ne.symm heq]

theorem hooks_text {body : String} (wf : h.IsWritable) (hbody : commentLines body = [])
    (hsetting : setting ≠ .config) : Sql.hooks setting (h.text body) = h.statements setting := by
  obtain ⟨htight, hline⟩ := wf.options
  rw [Sql.hooks, settings_text wf hbody, lines, List.flatMap_cons, settings_line htight hline,
    if_neg hsetting, List.nil_append, flatMap_settings_hooks wf.statement, List.map_map]
  refine List.map_congr_left fun hook hhook => ?_
  have htrim := (wf.statement hook (List.mem_filter.1 hhook).1).1.2
  simp [htrim]

/-- **A header that is written above a text without comments is read back:** the strategy, the
    columns of the key, the flag, and the hooks of both kinds, each in their order. -/
theorem materialization_text (h : Header) (wf : h.IsWritable) {body : String}
    (hbody : ∀ line ∈ splitAt '\n' body.toList, isComment line = false) :
    Sql.materialization (h.text body) = .ok h.materialization := by
  have hcomments : commentLines body = [] := List.filter_eq_nil_iff.2 fun line hline => by
    simp [hbody line hline]
  have hparse : Strategy.parse h.strategy.tag = .ok h.strategy := by
    cases h.strategy <;> decide
  have htag : Entries.find? h.entries "materialized" = some h.strategy.tag := rfl
  have hflag : (Entries.find? h.entries "full_refresh").getD "" = h.flag := by
    rw [entries]
    cases h.uniqueKey <;> rfl
  have hkey : (Entries.find? h.entries "unique_key").getD "" = columns h.uniqueKey := by
    rw [entries]
    cases h.uniqueKey <;> rfl
  have hon : trueValues.contains (.ofList (lower h.flag.toList)) = h.fullRefresh := by
    rw [flag]
    cases h.fullRefresh <;> decide
  have hcolumns := nameList_columns fun key hkey => (wf.key key hkey).1
  have hpre : Sql.hooks .preHook (h.text body) = h.statements .preHook :=
    hooks_text wf hcomments (by decide)
  have hpost : Sql.hooks .postHook (h.text body) = h.statements .postHook :=
    hooks_text wf hcomments (by decide)
  simp only [Sql.materialization, options_text wf hcomments, htag, hflag, hkey, Option.getD_some,
    hparse, hon, hcolumns, hpre, hpost]
  rfl

/-- A header with all that there is, among it a statement that looks like a setting. -/
def composite : Header where
  strategy := .incremental
  uniqueKey := ["tenant_id", "user_id"]
  fullRefresh := true
  hooks := [.pre "SET a = 1, b = 2", .post "-- config: materialized=view", .pre "LOAD json"]

theorem materialization_text_composite :
    composite.IsWritable ∧ (∀ line ∈ splitAt '\n' "SELECT 1\n".toList, isComment line = false)
      ∧ Sql.materialization (composite.text "SELECT 1\n") = .ok composite.materialization := by
  have wf : composite.IsWritable := ⟨by decide, by decide⟩
  have hbody : ∀ line ∈ splitAt '\n' "SELECT 1\n".toList, isComment line = false := by decide
  exact ⟨wf, hbody, materialization_text composite wf hbody⟩

example : composite.text "SELECT 1\n" =
    "-- config: materialized=incremental, unique_key=tenant_id, user_id, full_refresh=true\n"
      ++ "-- pre_hook: SET a = 1, b = 2\n-- post_hook: -- config: materialized=view\n"
      ++ "-- pre_hook: LOAD json\nSELECT 1\n" := by decide +kernel

end Header

end SqlPipeline.Sql
