/-
  SqlPipeline/Proofs/Project/Settings.lean
  ========================================
  **What the settings of a new project are read as.**

  The name stands in the settings twice and without quotes: as a value of its own, and inside the
  placeholder for the path of a database.  As a value it is read like any other plain scalar, so
  that a name that is written like a number, a truth value, a day or nothing is not read as a
  text.  Inside the placeholder it is always part of one (`read_settings`).
-/
import SqlPipeline.Project.Scaffold
import SqlPipeline.Proofs.Project.Environment
import SqlPipeline.Proofs.Yaml.Read
import Mathlib

namespace SqlPipeline.Scaffold

open Yaml

variable {c : Char} {name production : List Char} {lines : Nat}

/-! ### Names -/

theorem toNat_lt_of_isNameChar (h : isNameChar c = true) : c.toNat < 128 := by
  rw [isNameChar, Char.isAlphanum, Char.isAlpha, Char.isUpper, Char.isLower, Char.isDigit] at h
  simp only [Bool.or_eq_true, Bool.and_eq_true, decide_eq_true_eq, beq_iff_eq, ge_iff_le,
    UInt32.le_iff_toNat_le] at h
  rcases h with (((⟨-, hupper⟩ | ⟨-, hlower⟩) | ⟨-, hdigit⟩) | rfl) | rfl
  · exact Nat.lt_of_le_of_lt hupper (by decide)
  · exact Nat.lt_of_le_of_lt hlower (by decide)
  · exact Nat.lt_of_le_of_lt hdigit (by decide)
  · decide
  · decide

/-- What the characters of names are to the scanner. -/
theorem isNameChar_scans : ∀ n < 128, isNameChar (Char.ofNat n) = true →
    IsSolid (Char.ofNat n) ∧ Char.ofNat n ≠ ':'
      ∧ (Scan.StartsWord (Char.ofNat n) ∨ Char.ofNat n = '-') := by
  decide

theorem isNameChar_cases (h : isNameChar c = true) :
    IsSolid c ∧ c ≠ ':' ∧ (Scan.StartsWord c ∨ c = '-') := by
  have hscans := isNameChar_scans c.toNat (toNat_lt_of_isNameChar h)
  rw [Char.ofNat_toNat] at hscans
  exact hscans h

/-- A text of characters for names, one at least. -/
structure IsWord (name : List Char) : Prop where
  notEmpty : name ≠ []
  allowed : ∀ c ∈ name, isNameChar c = true

/-- A name is a word, or a word with the end of a line. -/
theorem isName_iff {s : String} : isName s = true ↔ ∃ base, IsWord base
    ∧ (s.toList = base ∨ s.toList = base ++ ['\n']) := by
  have hword : ∀ {base : List Char},
      (!base.isEmpty && base.all isNameChar) = true ↔ IsWord base := by
    intro base
    rw [Bool.and_eq_true, Bool.not_eq_true', List.isEmpty_eq_false_iff, List.all_eq_true]
    exact ⟨fun h => ⟨h.1, h.2⟩, fun h => ⟨h.notEmpty, h.allowed⟩⟩
  simp only [isName, hword]
  constructor
  · intro h
    split at h
    · rename_i hlast
      obtain ⟨base, hbase⟩ := List.getLast?_eq_some_iff.1 (beq_iff_eq.1 hlast)
      rw [hbase, List.dropLast_concat] at h
      exact ⟨base, h, Or.inr hbase⟩
    · exact ⟨_, h, Or.inl rfl⟩
  · rintro ⟨base, hbase, hs | hs⟩
    · have hlast : ¬ (s.toList.getLast? == some '\n') = true := fun hlast =>
        absurd (hbase.allowed '\n' (hs ▸ List.mem_of_getLast? (beq_iff_eq.1 hlast))) (by decide)
      rwa [if_neg hlast, hs]
    · rw [hs, List.getLast?_concat, List.dropLast_concat]
      exact hbase

theorem IsWord.isPlain (h : IsWord name) : IsPlain name where
  solid c hc := (isNameChar_cases (h.allowed c hc)).1
  noColon hlast := (isNameChar_cases (h.allowed ':' (List.mem_of_getLast? hlast))).2.1 rfl

/-- A lone hyphen is not a value but the start of an item. -/
theorem IsWord.fine (h : IsWord name) (hhyphen : name ≠ ['-']) : (Written.plain name).Fine := by
  obtain ⟨c, rest, rfl⟩ := List.exists_cons_of_ne_nil h.notEmpty
  refine ⟨h.isPlain, c, rest, rfl, ?_⟩
  rcases (isNameChar_cases (h.allowed c List.mem_cons_self)).2.2 with hstarts | rfl
  · exact Or.inl hstarts
  · exact Or.inr ⟨rfl, fun hnil => hhyphen (by rw [hnil])⟩

/-! ### The settings as an outline -/

/-- The setting for the path of a database. -/
def databaseAt (above : Nat) (path : List Char) (rest : Outline) : Outline :=
  .nest above "database".toList (.leaf 0 "path".toList (.plain path) .done) rest

/-- The outline of settings with a name and a path of the database for production; `lines` are
    the empty lines behind the name. -/
def outline (lines : Nat) (name production : List Char) : Outline :=
  .leaf 0 "name".toList (.plain name) <|
  .leaf lines "version".toList (.quoted "1.0".toList) <|
  databaseAt 1 "warehouse.duckdb".toList <|
  .leaf 1 "model-paths".toList (.listed "models".toList) <|
  .leaf 0 "seed-paths".toList (.listed "seeds".toList) <|
  .nest 1 "vars".toList (.leaf 0 "start_date".toList (.quoted "2024-01-01".toList) .done) <|
  .nest 1 "targets".toList
    (.nest 0 "dev".toList (databaseAt 0 "warehouse.duckdb".toList .done) <|
      .nest 0 "prod".toList (databaseAt 0 production .done) .done)
  .done

/-- The placeholder for the path of the database for production, up to the name. -/
def placeholder : String :=
  "$\x7bDAGSQL_PROD_DB:"

/-- What stands behind the name in the placeholder. -/
def ending : String :=
  "_prod.duckdb\x7d"

/-- The path of the database for production before placeholders are replaced. -/
def productionPath (name : List Char) : List Char :=
  placeholder.toList ++ (name ++ ending.toList)

theorem ahead_outline (name : List Char) :
    (outline 0 name (productionPath name)).ahead 0 {}
      = ⟨0, 0, (settings (.ofList name)).toList⟩ := by
  simp [outline, databaseAt, productionPath, placeholder, ending, Outline.ahead, settings, ofLines,
    Ahead.text, Written.text, gap]

/-- The end of a line in the name leaves the end of the placeholder on a line of its own. -/
theorem ahead_outline_newline (base : List Char) :
    (outline 1 base (placeholder.toList ++ base)).ahead 0 ⟨0, 0, ending.toList ++ ['\n']⟩
      = ⟨0, 0, (settings (.ofList (base ++ ['\n']))).toList⟩ := by
  simp [outline, databaseAt, placeholder, ending, Outline.ahead, settings, ofLines, Ahead.text,
    Written.text, gap]

theorem lines_ahead_outline (lines : Nat) (name production : List Char) (more : Ahead) :
    ((outline lines name production).ahead 0 more).lines = 0 := rfl

theorem outline_ne_done : outline lines name production ≠ .done := by
  intro h
  cases h

theorem isKey_of_cons {rest : List Char} (hbare : IsBare (c :: rest))
    (h : (Scan.StartsWord c ∧ c ≠ '.') ∧ (c :: rest).length ≤ 1024
      ∧ plainTag (.ofList (c :: rest)) = coreTag "str") : IsKey (c :: rest) :=
  ⟨hbare, ⟨c, rest, rfl, h.1⟩, h.2.1, h.2.2⟩

theorem fine_databaseAt {above : Nat} {path : List Char} {rest : Outline}
    (hpath : (Written.plain path).Fine) (hrest : rest.Fine) : (databaseAt above path rest).Fine :=
  ⟨isKey_of_cons (by decide) (by decide), by simp,
    ⟨isKey_of_cons (by decide) (by decide), hpath, trivial⟩, hrest⟩

theorem fine_outline (hname : (Written.plain name).Fine)
    (hproduction : (Written.plain production).Fine) : (outline lines name production).Fine := by
  have hwarehouse : (Written.plain "warehouse.duckdb".toList).Fine :=
    ⟨IsBare.isPlain (by decide), _, _, rfl, Or.inl (by decide)⟩
  have hmodels : (Written.listed "models".toList).Fine :=
    ⟨by decide, by decide, _, _, rfl, by decide⟩
  have hseeds : (Written.listed "seeds".toList).Fine :=
    ⟨by decide, by decide, _, _, rfl, by decide⟩
  have hversion : IsQuotable "1.0".toList := by decide
  have hstart : IsQuotable "2024-01-01".toList := by decide
  have hvars : Outline.Fine (.leaf 0 "start_date".toList (.quoted "2024-01-01".toList) .done) :=
    ⟨isKey_of_cons (by decide) (by decide), hstart, trivial⟩
  have htargets : Outline.Fine (
      .nest 0 "dev".toList (databaseAt 0 "warehouse.duckdb".toList .done) <|
      .nest 0 "prod".toList (databaseAt 0 production .done) .done) :=
    ⟨isKey_of_cons (by decide) (by decide), by simp [databaseAt],
      fine_databaseAt hwarehouse trivial, isKey_of_cons (by decide) (by decide),
      by simp [databaseAt], fine_databaseAt hproduction trivial, trivial⟩
  refine ⟨isKey_of_cons (by decide) (by decide), hname, isKey_of_cons (by decide) (by decide),
    hversion, fine_databaseAt hwarehouse ⟨isKey_of_cons (by decide) (by decide), hmodels,
      isKey_of_cons (by decide) (by decide), hseeds, ?_⟩⟩
  exact ⟨isKey_of_cons (by decide) (by decide), by simp, hvars,
    isKey_of_cons (by decide) (by decide), by simp, htargets, trivial⟩

theorem fine_placeholder {more : List Char} (hmore : ∀ c ∈ more, IsSolid c) (hne : more ≠ [])
    (hlast : more.getLast? ≠ some ':') : (Written.plain (placeholder.toList ++ more)).Fine := by
  have hfirst : ∀ c ∈ placeholder.toList, IsSolid c := isSolid_of_all (by decide)
  refine ⟨⟨fun c hc => (List.mem_append.1 hc).elim (hfirst c) (hmore c), ?_⟩, '$', _, rfl,
    Or.inl (by decide)⟩
  rw [List.getLast?_append, List.getLast?_eq_some_getLast hne, Option.some_or]
  rwa [List.getLast?_eq_some_getLast hne] at hlast

/-! ### What it is read as -/

/-- The setting for the path of a database, as data. -/
def databaseEntries (path : String) : Entries Data :=
  [("database", .ofEntries [("path", .text path)])]

/-- The entries of the settings. -/
def entries (name : Data) (production : String) : Entries Data :=
  [("name", name),
    ("version", .text "1.0"),
    ("database", .ofEntries [("path", .text "warehouse.duckdb")]),
    ("model-paths", .list [.text "models"]),
    ("seed-paths", .list [.text "seeds"]),
    ("vars", .ofEntries [("start_date", .text "2024-01-01")]),
    ("targets", .ofEntries [
      ("dev", .ofEntries (databaseEntries "warehouse.duckdb")),
      ("prod", .ofEntries (databaseEntries production))])]

theorem data_plain {word : List Char} (h : plainTag (.ofList word) = coreTag "str") :
    (Written.plain word).data = .ok (.text (.ofList word)) := by
  rw [Written.data, h]
  rfl

theorem data_databaseAt {above : Nat} {path : List Char} {rest : Outline} {more : Entries Data}
    (hpath : plainTag (.ofList path) = coreTag "str") (hrest : rest.data = .ok (Data.keyed more)) :
    (databaseAt above path rest).data
      = .ok (Data.keyed (databaseEntries (.ofList path) ++ more)) :=
  Outline.data_nest (Outline.data_leaf (data_plain hpath) rfl) (List.nodup_singleton _) hrest

theorem data_outline {d : Data} (hname : (Written.plain name).data = .ok d)
    (hproduction : plainTag (.ofList production) = coreTag "str") :
    (outline lines name production).data = .ok (Data.keyed (entries d (.ofList production))) := by
  have hwarehouse : plainTag (.ofList "warehouse.duckdb".toList) = coreTag "str" := by decide
  have hlisted : ∀ word, plainTag (.ofList word) = coreTag "str" →
      (Written.listed word).data = .ok (.list [.text (.ofList word)]) := by
    intro word hword
    rw [Written.data, hword]
    rfl
  have hstart : (Outline.leaf 0 "start_date".toList (.quoted "2024-01-01".toList) .done).data
      = .ok (Data.keyed [("start_date", .text "2024-01-01")]) := Outline.data_leaf rfl rfl
  have hone : ∀ (name : String) (d : Data), Entries.names [(name, d)] |>.Nodup :=
    fun name d => List.nodup_singleton name
  have hprod : Outline.data (.nest 0 "prod".toList (databaseAt 0 production .done) .done)
      = .ok (Data.keyed [("prod", .ofEntries (databaseEntries (.ofList production)))]) :=
    Outline.data_nest (data_databaseAt hproduction rfl) (hone _ _) rfl
  have htargets : Outline.data (
      .nest 0 "dev".toList (databaseAt 0 "warehouse.duckdb".toList .done) <|
      .nest 0 "prod".toList (databaseAt 0 production .done) .done)
      = .ok (Data.keyed [("dev", .ofEntries (databaseEntries "warehouse.duckdb")),
          ("prod", .ofEntries (databaseEntries (.ofList production)))]) :=
    Outline.data_nest (data_databaseAt hwarehouse rfl) (hone _ _) hprod
  have htwo : ["dev", "prod"].Nodup := by decide
  exact Outline.data_leaf hname <| Outline.data_leaf rfl <| data_databaseAt hwarehouse <|
    Outline.data_leaf (hlisted "models".toList (by decide)) <|
    Outline.data_leaf (hlisted "seeds".toList (by decide)) <|
    Outline.data_nest hstart (hone _ _) <| Outline.data_nest htargets htwo rfl

theorem isPlain_ending : IsPlain ending.toList := ⟨isSolid_of_all (by decide), by decide⟩

theorem fine_outline_productionPath (hname : IsWord name) (hhyphen : name ≠ ['-']) :
    (outline lines name (productionPath name)).Fine := by
  refine fine_outline (hname.fine hhyphen) (fine_placeholder ?_ ?_ ?_)
  · exact fun c hc => (List.mem_append.1 hc).elim (hname.isPlain.solid c) (isPlain_ending.solid c)
  · simp [hname.notEmpty]
  · have hlast : ending.toList.getLast? = some '\x7d' := by decide
    rw [List.getLast?_append, hlast, Option.some_or]
    decide

theorem plainTag_productionPath (name : List Char) :
    plainTag (.ofList (productionPath name)) = coreTag "str" := by
  have hcons : productionPath name = '$' :: (productionPath name).tail := rfl
  rw [hcons, plainTag_dollar]

theorem names_entries (d : Data) (production : String) : (entries d production).names
    = ["name", "version", "database", "model-paths", "seed-paths", "vars", "targets"] := rfl

/-- The settings with a word for a name are read whenever the word is, and not else. -/
theorem read_settings (hname : IsWord name) (hhyphen : name ≠ ['-']) :
    Yaml.read (settings (.ofList name)) = (Written.plain name).data.map fun d =>
      .ofEntries (entries d (.ofList (productionPath name))) := by
  have hfine : (outline 0 name (productionPath name)).Fine :=
    fine_outline_productionPath hname hhyphen
  have hread := read_outline hfine outline_ne_done (lines_ahead_outline _ _ _ _)
  rw [ahead_outline, Ahead.text_zero, String.ofList_toList] at hread
  rw [hread]
  cases hdata : (Written.plain name).data with
  | error fault =>
    rw [outline, Outline.data_leaf_of_error hdata]
    rfl
  | ok d =>
    have hnames : (entries d (.ofList (productionPath name))).names.Nodup := by
      rw [names_entries]
      decide
    rw [data_outline hdata (plainTag_productionPath name)]
    exact congrArg Except.ok (Data.map_mapOf_keyed hnames)

/-! ### Placeholders -/

/-- The name of the variable for the path of the database for production. -/
def productionVariable : String := "DAGSQL_PROD_DB"

/-- The path of the database for production that stands in the settings of a project. -/
def productionFallback (name : List Char) : List Char :=
  name ++ "_prod.duckdb".toList

/-- The placeholder for the path of the database for production. -/
def productionPlaceholder (name : List Char) : Environment.Placeholder :=
  ⟨productionVariable.toList, some (productionFallback name)⟩

theorem isValid_productionPlaceholder (hname : IsWord name) :
    (productionPlaceholder name).IsValid where
  name_ne_nil := List.cons_ne_nil _ _
  isWord_of_mem := List.all_eq_true.1 (by decide : productionVariable.toList.all Text.isWord = true)
  notMem_fallback := by
    -- the name holds no brace, so that the first one is that of the placeholder
    intro fallback hfallback
    obtain rfl := Option.some.inj hfallback
    rw [productionFallback, List.mem_append, not_or]
    exact ⟨fun hbrace => absurd (hname.allowed _ hbrace) (by decide), by decide⟩

theorem written_productionPlaceholder (name : List Char) :
    (productionPlaceholder name).written = productionPath name := by
  have hending : ending.toList = "_prod.duckdb".toList ++ ['\x7d'] := rfl
  rw [productionPath, hending, ← List.append_assoc name]
  rfl

theorem expandText_productionPath (env : Environment) (hname : IsWord name) :
    env.expandText (.ofList (productionPath name))
      = (Entries.find? env productionVariable).getD (.ofList (productionFallback name)) := by
  have hvariable : String.ofList (productionPlaceholder name).name = productionVariable := rfl
  rw [← written_productionPlaceholder,
    Environment.expandText_written env (isValid_productionPlaceholder hname),
    Environment.Piece.expanded, hvariable]
  cases Entries.find? env productionVariable with
  | none => rfl
  | some value => exact String.ofList_toList

theorem expand_entries (env : Environment) (d : Data) (production : String) :
    env.expand (.ofEntries (entries d production))
      = .ofEntries (entries (env.expand d) (env.expandText production)) := by
  have htext : ∀ s ∈ ["1.0", "warehouse.duckdb", "models", "seeds", "2024-01-01"],
      env.expandText s = s := by
    intro s hs
    apply Environment.expandText_of_notMem
    revert s
    decide
  simp [Data.expand_ofEntries, entries, databaseEntries, Environment.expand,
    Environment.expandAll, htext]

/-! ### The project -/

/-- A target with a database of its own. -/
def databaseTarget (path : String) : Target :=
  { database := [("path", .text path)] }

/-- The project that settings with a name and a path of the database for production stand for. -/
def project (directory : Path) (name production : String) : Project :=
  { name := name
    vars := [("start_date", .text "2024-01-01")]
    targets := [("dev", databaseTarget "warehouse.duckdb"), ("prod", databaseTarget production)]
    directory := directory }

theorem ofData_databaseEntries (path : String) :
    Target.ofData (.ofEntries (databaseEntries path)) = .ok (databaseTarget path) := by
  rw [Data.ofEntries_eq, Target.ofData, ← Data.ofEntries_eq]
  simp only [databaseEntries, Checked.field_cons, Checked.field_nil, Entries.find?_cons,
    Entries.find?_nil]
  rfl

/-- What a check makes of the entries: the project, if the name is a text. -/
theorem ofData_entries (directory : Path) (d : Data) (production : String) :
    Project.ofData directory (.ofEntries (entries d production))
      = (Checked.under (.name "name") (Checked.text d)).map fun name =>
          project directory name production := by
  have hdatabase : Project.databaseOf "warehouse.duckdb"
      (.ofEntries [("path", .text "warehouse.duckdb")]) = .ok "warehouse.duckdb" :=
    Checked.field_cons "path" [] Checked.text "warehouse.duckdb"
      [("path", .text "warehouse.duckdb")]
  have hvars : Checked.mapOf Checked.any (.ofEntries [("start_date", .text "2024-01-01")])
      = .ok [("start_date", .text "2024-01-01")] := rfl
  have hnames : (Entries.names [("dev", "warehouse.duckdb"), ("prod", production)]).Nodup :=
    (by decide : ["dev", "prod"].Nodup)
  have htargets : Checked.mapOf Target.ofData (.ofEntries
      ([("dev", "warehouse.duckdb"), ("prod", production)].map fun entry =>
        (entry.1, .ofEntries (databaseEntries entry.2))))
      = .ok ([("dev", "warehouse.duckdb"), ("prod", production)].map fun entry =>
        (entry.1, databaseTarget entry.2)) :=
    Checked.mapOf_ofEntries hnames fun _ path _ => ofData_databaseEntries path
  simp only [List.map_cons, List.map_nil] at htargets
  rw [Project.ofData]
  simp only [Checked.field_cons, Checked.field_nil, entries, Entries.find?_cons, Entries.find?_nil]
  simp [hvars, htargets, hdatabase]
  cases Checked.text d with
  | error e => rfl
  | ok name => rfl

end SqlPipeline.Scaffold
