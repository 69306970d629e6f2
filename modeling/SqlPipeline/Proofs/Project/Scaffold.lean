/-
  SqlPipeline/Proofs/Project/Scaffold.lean
  ========================================
  **Which new projects can be loaded.**

  A new project can be loaded just if its name comes back from its settings
  (`loads_iff_comesBack`).  Most names do.  Three kinds do not, although a project is made for
  them: a name that is written like a number, a truth value, a day or nothing; a lone hyphen,
  which starts an item of a list; and a name with the end of a line behind it, which breaks the
  placeholder for the database in two.
-/
import SqlPipeline.Proofs.Project.Made
import SqlPipeline.Proofs.Project.Settings

namespace SqlPipeline.Scaffold

open Yaml FileTree

variable {files : FileTree} {env : Environment} {directory : Path} {asked : Option String}
  {name production : String} {base : List Char} {place : List String}

/-! ### Reading the settings -/

/-- A name that is read from the settings as it was given. -/
def ComesBack (name : String) : Prop :=
  plainTag name = coreTag "str" ∧ name ≠ "-" ∧ '\n' ∉ name.toList

instance (name : String) : Decidable (ComesBack name) :=
  inferInstanceAs (Decidable (_ ∧ _ ∧ _))

theorem settingsOf_settings {path : Path} (hname : IsWord name.toList)
    (hhyphen : name.toList ≠ ['-']) :
    Project.settingsOf path env (settings name)
      = ((Written.plain name.toList).data.mapError (.yaml path)).map fun d =>
          Data.keyed (entries (env.expand d)
            (env.expandText (.ofList (productionPath name.toList)))) := by
  have hread := read_settings hname hhyphen
  rw [String.ofList_toList] at hread
  rw [Project.settingsOf, hread]
  cases (Written.plain name.toList).data with
  | error fault => rfl
  | ok d =>
    have hexpand := expand_entries env d (.ofList (productionPath name.toList))
    rw [Data.ofEntries_eq (entries (env.expand d) _)] at hexpand
    have htruthy : (Data.ofEntries
        (entries d (.ofList (productionPath name.toList)))).isTruthy = true := rfl
    simp only [Except.map, Except.mapError, bind, Except.bind, htruthy, hexpand]
    rfl

/-- The path of the database for production: the variable for it, or the one in the settings. -/
def productionOf (env : Environment) (name : String) : String :=
  (Entries.find? env productionVariable).getD (name ++ "_prod.duckdb")

/-- Neither a new project nor one of its targets has a schema. -/
theorem schemas_of_activated {path : Path} {p : Project}
    (h : (project directory name production).activated path asked = .ok p) :
    p.schema = "" ∧ p.seedSchema = "" := by
  have htargets : ∀ {target : String} {t : Target},
      (project directory name production).targets.find? target = some t → t.schema = none := by
    intro target t ht
    simp only [project, Entries.find?_cons, Entries.find?_nil] at ht
    split at ht
    · cases ht
      rfl
    · split at ht
      · cases ht
        rfl
      · cases ht
  rw [Project.activated, Project.activate] at h
  split at h
  · cases h
    exact ⟨rfl, rfl⟩
  · split at h
    · rename_i target t ht
      cases h
      exact ⟨by rw [Project.withTarget, htargets ht]; rfl, rfl⟩
    · cases h

/-- What is left to do once the settings have been read. -/
theorem ofText_of_data {d : Data} (hname : IsWord name.toList) (hhyphen : name.toList ≠ ['-'])
    (hd : (Written.plain name.toList).data = .ok d) :
    Project.ofText directory env asked (settings name) = (do
      let found ← (Checked.under (.name "name") (Checked.text (env.expand d))).mapError
        (.mismatches (Project.fileIn directory))
      (project directory found (productionOf env name)).activated (Project.fileIn directory)
        asked) := by
  have hproduction :
      env.expandText (.ofList (productionPath name.toList)) = productionOf env name := by
    rw [expandText_productionPath env hname, productionFallback, String.ofList_append,
      String.ofList_toList, String.ofList_toList, productionOf]
  have hnamed : Project.named directory
        (Data.keyed (entries (env.expand d) (productionOf env name)))
      = .ofEntries (entries (env.expand d) (productionOf env name)) := by
    rw [Project.named, Data.find?_keyed]
    rfl
  rw [Project.ofText, settingsOf_settings hname hhyphen, hd, hproduction]
  dsimp only [Except.mapError, Except.map, bind, Except.bind]
  rw [hnamed, ofData_entries]
  cases Checked.under (.name "name") (Checked.text (env.expand d)) with
  | error found => rfl
  | ok found =>
    dsimp only [Except.map]
    cases hactive : (project directory found (productionOf env name)).activated
      (Project.fileIn directory) asked with
    | error e => rfl
    | ok p =>
      obtain ⟨hschema, hseeds⟩ := schemas_of_activated hactive
      dsimp only
      rw [hschema, hseeds]
      rfl

theorem isWord_of_comesBack (hname : isName name = true) (h : ComesBack name) :
    IsWord name.toList := by
  obtain ⟨base, hbase, hs | hs⟩ := isName_iff.1 hname
  · exact hs ▸ hbase
  · exact absurd (hs ▸ List.mem_append_right base List.mem_cons_self) h.2.2

theorem toList_ne_of_ne (h : name ≠ "-") : name.toList ≠ ['-'] :=
  fun hs => h (String.toList_injective hs)

theorem ofText_of_comesBack (hname : isName name = true) (h : ComesBack name) :
    Project.ofText directory env asked (settings name)
      = (project directory name (productionOf env name)).activated (Project.fileIn directory)
          asked := by
  have hword := isWord_of_comesBack hname h
  have hdata : (Written.plain name.toList).data = .ok (.text name) := by
    rw [data_plain (by rw [String.ofList_toList]; exact h.1), String.ofList_toList]
  have hdollar : '$' ∉ name.toList := fun hmem => absurd (hword.allowed _ hmem) (by decide)
  rw [ofText_of_data hword (toList_ne_of_ne h.2.1) hdata, Environment.expand,
    Environment.expandText_of_notMem env hdollar]
  rfl

/-! ### Names that do not come back -/

theorem ofText_ne_of_read {text : String} {fault : Fault} (h : Yaml.read text = .error fault)
    (p : Project) :
    Project.ofText directory env asked text ≠ .ok p := by
  rw [Project.ofText, Project.settingsOf, h]
  exact nofun

/-- A hyphen starts the item of a list where a name should be, with an end of line behind it or
    without one. -/
theorem isOk_read_hyphen : (Yaml.read (settings (.ofList ['-']))).isOk = false
    ∧ (Yaml.read (settings (.ofList (['-'] ++ ['\n'])))).isOk = false := by
  have hplain : ((outline 0 ['-'] (productionPath ['-'])).ahead 0 {}).body
      = (settings (.ofList ['-'])).toList := by rw [ahead_outline]
  have hnewline : ((outline 1 ['-'] (placeholder.toList ++ ['-'])).ahead 0
        ⟨0, 0, ending.toList ++ ['\n']⟩).body
      = (settings (.ofList (['-'] ++ ['\n']))).toList := by rw [ahead_outline_newline]
  rw [Yaml.read, Yaml.read, Node.ofText, Node.ofText, ← hplain, ← hnewline]
  decide +kernel

/-- The end of a line in the name leaves a word that is no YAML where it stands. -/
theorem read_newline (hbase : IsWord base) (hhyphen : base ≠ ['-']) :
    Yaml.read (settings (.ofList (base ++ ['\n']))) = .error .malformed := by
  have hfine : (outline 1 base (placeholder.toList ++ base)).Fine :=
    fine_outline (hbase.fine hhyphen)
      (fine_placeholder hbase.isPlain.solid hbase.notEmpty hbase.isPlain.noColon)
  have hread := read_looseWord hfine outline_ne_done (lines_ahead_outline _ _ _ _) isPlain_ending
    ⟨'_', _, rfl, by decide, by decide⟩
  rwa [ahead_outline_newline, Ahead.text_zero, String.ofList_toList] at hread

theorem text_expand_of_notText {d : Data} (h : NotText d) :
    Checked.text (env.expand d) = Checked.mismatch .text := by
  cases d with
  | null | bool | int | float | date | moment => rfl
  | _ => cases h

theorem ofText_ne_of_plainTag (hname : IsWord name.toList) (hhyphen : name.toList ≠ ['-'])
    (htag : plainTag name ≠ coreTag "str") (p : Project) :
    Project.ofText directory env asked (settings name) ≠ .ok p := by
  cases hdata : (Written.plain name.toList).data with
  | error fault =>
    have hread := read_settings hname hhyphen
    rw [String.ofList_toList, hdata] at hread
    exact ofText_ne_of_read hread p
  | ok d =>
    rw [ofText_of_data hname hhyphen hdata]
    rw [Written.data, String.ofList_toList] at hdata
    rw [text_expand_of_notText (GivesNoText.toData htag d hdata)]
    intro hok
    cases hok

theorem ofText_ne_of_not_comesBack (hname : isName name = true) (h : ¬ ComesBack name)
    (p : Project) :
    Project.ofText directory env asked (settings name) ≠ .ok p := by
  have hread : (Yaml.read (settings name)).isOk = false →
      Project.ofText directory env asked (settings name) ≠ .ok p := by
    intro hnot
    cases hread : Yaml.read (settings name) with
    | error fault => exact ofText_ne_of_read hread p
    | ok d =>
      rw [hread] at hnot
      cases hnot
  obtain ⟨base, hbase, hs | hs⟩ := isName_iff.1 hname
  · by_cases hhyphen : name = "-"
    · exact hread (hhyphen ▸ isOk_read_hyphen.1)
    · refine ofText_ne_of_plainTag (hs ▸ hbase) (toList_ne_of_ne hhyphen) (fun htag => h ?_) p
      refine ⟨htag, hhyphen, fun hmem => ?_⟩
      exact absurd (hbase.allowed '\n' (hs ▸ hmem)) (by decide)
  · obtain rfl : name = .ofList (base ++ ['\n']) :=
      String.toList_injective (by rw [hs, String.toList_ofList])
    by_cases hhyphen : base = ['-']
    · subst hhyphen
      exact hread isOk_read_hyphen.2
    · exact ofText_ne_of_read (read_newline hbase hhyphen) p

/-! ### The files -/

theorem settings_variablesFile :
    Environment.settings variablesFile = [] ∧ '\r' ∉ variablesFile.toList := by
  decide +kernel

theorem notMem_ofLines {c : Char} {lines : List String} (hc : c ≠ '\n')
    (h : ∀ line ∈ lines, c ∉ line.toList) : c ∉ (ofLines lines).toList := by
  induction lines with
  | nil => exact List.not_mem_nil
  | cons line lines ih =>
    obtain ⟨hline, hlines⟩ := List.forall_mem_cons.1 h
    have hcons : ofLines (line :: lines) = line ++ "\n" ++ ofLines lines := by
      rw [ofLines, List.map_cons, String.join_cons]
      rfl
    have hnewline : c ∉ "\n".toList := fun hmem => hc (List.mem_singleton.1 hmem)
    rw [hcons, String.toList_append, String.toList_append]
    simp only [List.mem_append, not_or]
    exact ⟨⟨hline, hnewline⟩, ih hlines⟩

theorem return_notMem_settings (hname : isName name = true) : '\r' ∉ (settings name).toList := by
  have hreturn : '\r' ∉ name.toList := by
    intro hmem
    obtain ⟨base, hbase, hs | hs⟩ := isName_iff.1 hname
    · exact absurd (hbase.allowed _ (hs ▸ hmem)) (by decide)
    · rcases List.mem_append.1 (hs ▸ hmem) with hmem | hmem
      · exact absurd (hbase.allowed _ hmem) (by decide)
      · exact absurd hmem (by decide)
  apply notMem_ofLines (by decide)
  simp [hreturn]

/-- The file of variables of a new project sets none. -/
theorem load_variablesFile (h : files.Holds (Environment.fileIn directory) place variablesFile) :
    env.load files directory = (env, .ok []) := by
  rw [Environment.load, h.contains]
  dsimp only
  rw [h.readText settings_variablesFile.2]
  dsimp only
  rw [settings_variablesFile.1]
  rfl

theorem load_of_holds {other : List String} {text : String}
    (hsettings : files.Holds (Project.fileIn directory) place text) (htext : '\r' ∉ text.toList)
    (hvariables : files.Holds (Environment.fileIn directory) other variablesFile) :
    Project.load files env directory asked = (env, Project.ofText directory env asked text) := by
  rw [Project.load, load_variablesFile hvariables]
  dsimp only
  rw [hsettings.contains, hsettings.readText htext]
  rfl

/-! ### New projects -/

theorem activated_project {path : Path} (hasked : asked = none ∨ asked = some "prod") :
    (project directory name production).activated path asked
      = .ok ((project directory name production).withTarget (asked.getD Project.usualTarget)
          (databaseTarget (if asked = none then "warehouse.duckdb" else production))) := by
  rcases hasked with rfl | rfl <;> rfl

section

variable {δ : Type} {desk : Desk δ} {given : Option Path} {empty force : Bool}

/-- Loading a new project is reading its settings. -/
theorem load_of_makeProject
    (hmade : (Task.perform (Task.makeProject name given empty force) desk).1 = .ok ())
    (hfresh : desk.files.IsFresh (Task.directoryFor desk name given)) :
    Project.load (Task.perform (Task.makeProject name given empty force) desk).2.files env
        (Task.directoryFor desk name given) asked
      = (env, Project.ofText (Task.directoryFor desk name given) env asked (settings name)) := by
  obtain ⟨hname, htake⟩ := Task.take_of_makeProject hmade
  obtain ⟨place, hsettings, hvariables⟩ := holds_of_take_steps hfresh htake
  exact load_of_holds hsettings (return_notMem_settings hname) hvariables

/-- **A new project can be loaded just if its name comes back, and then with that name.** -/
theorem loads_iff_comesBack
    (hmade : (Task.perform (Task.makeProject name given empty force) desk).1 = .ok ())
    (hfresh : desk.files.IsFresh (Task.directoryFor desk name given))
    (hasked : asked = none ∨ asked = some "prod") (env : Environment) :
    let (after, loaded) := Project.load
      (Task.perform (Task.makeProject name given empty force) desk).2.files env
      (Task.directoryFor desk name given) asked
    ((∃ p, loaded = .ok p) ↔ ComesBack name) ∧ after = env
      ∧ ∀ p, loaded = .ok p → p.name = name
        ∧ p.activeTarget = some (asked.getD Project.usualTarget)
        ∧ (asked = some "prod" →
          p.database = (Entries.find? env "DAGSQL_PROD_DB").getD (name ++ "_prod.duckdb")) := by
  obtain ⟨hname, -⟩ := Task.take_of_makeProject hmade
  rw [load_of_makeProject hmade hfresh]
  dsimp only
  by_cases hback : ComesBack name
  · rw [ofText_of_comesBack hname hback, activated_project hasked]
    refine ⟨⟨fun _ => hback, fun _ => ⟨_, rfl⟩⟩, rfl, fun p hp => ?_⟩
    obtain rfl := Except.ok.inj hp
    refine ⟨rfl, rfl, ?_⟩
    rintro rfl
    rfl
  · have hne : ∀ p, Project.ofText (Task.directoryFor desk name given) env asked (settings name)
        ≠ .ok p := ofText_ne_of_not_comesBack hname hback
    exact ⟨⟨fun ⟨p, hp⟩ => absurd hp (hne p), fun h => absurd h hback⟩, rfl,
      fun p hp => absurd hp (hne p)⟩

end

/-! ### A project made -/

/-- The path of the working directory. -/
def here : Path := ⟨"", []⟩

/-- A desk with nothing on it but an empty working directory. -/
def emptyDesk : Desk Unit :=
  { files := ⟨[], ["home"]⟩, connection := { driver := () } }

theorem list_emptyDesk : emptyDesk.files.list here = .ok [] := by
  rw [FileTree.list, locate_eq]
  rfl

theorem exists_take_emptyDesk (name : String) :
    ∃ files, emptyDesk.files.take (steps here name true) = (files, none) := by
  let models : FileTree := ⟨[(["home", "models"], .directory)], ["home"]⟩
  let seeds := models.put ["home", "seeds"] .directory
  let named := seeds.put ["home", "project.yml"] (.file (settings name).toUTF8.toList)
  let ignoring := named.put ["home", ".gitignore"] (.file ignored.toUTF8.toList)
  let done := ignoring.put ["home", ".env"] (.file variablesFile.toUTF8.toList)
  have hmodels : FileStep.take emptyDesk.files (.directory (here.child "models")) = .ok models := by
    rw [FileStep.take, ensureDirectory, ensureDirectoryWithin, makeDirectory, locate_eq]
    rfl
  have hseeds : FileStep.take models (.directory (here.child "seeds")) = .ok seeds := by
    rw [FileStep.take, ensureDirectory, ensureDirectoryWithin, makeDirectory, locate_eq]
    rfl
  have hnamed : FileStep.take seeds (.file (Project.fileIn here) (settings name)) = .ok named := by
    rw [FileStep.take, writeText, writeBytes, locate_eq]
    rfl
  have hignoring :
      FileStep.take named (.file (here.child ".gitignore") ignored) = .ok ignoring := by
    rw [FileStep.take, writeText, writeBytes, locate_eq]
    rfl
  have hdone :
      FileStep.take ignoring (.newFile (Environment.fileIn here) variablesFile) = .ok done := by
    rw [FileStep.take, FileTree.contains, find?, FileTree.lookup, writeText, writeBytes, locate_eq]
    rfl
  refine ⟨done, ?_⟩
  have hsteps : steps here name true
      = [.directory (here.child "models"), .directory (here.child "seeds"),
        .file (Project.fileIn here) (settings name), .file (here.child ".gitignore") ignored,
        .newFile (Environment.fileIn here) variablesFile] := rfl
  rw [hsteps, take_cons_of_ok hmodels, take_cons_of_ok hseeds, take_cons_of_ok hnamed,
    take_cons_of_ok hignoring, take_cons_of_ok hdone, FileTree.take]

theorem makeProject_emptyDesk (name : String) (hname : isName name = true)
    (htold : (Console.Markup.plain
      s!"[green]Project '{name}' created at {here.text}[/green]").isOk = true) :
    (Task.perform (Task.makeProject name (some here) true false) emptyDesk).1 = .ok () := by
  obtain ⟨files, htake⟩ := exists_take_emptyDesk name
  have hfree : Task.holdsSomething emptyDesk.files here = .ok false := by
    rw [Task.holdsSomething, list_emptyDesk, FileTree.contains, find?, FileTree.lookup, locate_eq]
    rfl
  have hplace : Task.directoryFor emptyDesk name (some here) = here := rfl
  exact Task.makeProject_succeeds hname hplace hfree htake htold rfl

theorem loads_iff_comesBack_shop :
    (Task.perform (Task.makeProject "shop" (some here) true false) emptyDesk).1 = .ok ()
      ∧ emptyDesk.files.IsFresh (Task.directoryFor emptyDesk "shop" (some here))
      ∧ ComesBack "shop"
      ∧ ∃ p, (Project.load
          (Task.perform (Task.makeProject "shop" (some here) true false) emptyDesk).2.files []
          (Task.directoryFor emptyDesk "shop" (some here)) (some "prod")).2 = .ok p
        ∧ p.name = "shop" ∧ p.activeTarget = some "prod" ∧ p.database = "shop_prod.duckdb" := by
  have hmade := makeProject_emptyDesk "shop" rfl rfl
  have hfresh : emptyDesk.files.IsFresh here := isFresh_of_list list_emptyDesk
  have hback : ComesBack "shop" := by decide
  obtain ⟨hiff, -, hall⟩ := loads_iff_comesBack hmade hfresh (Or.inr rfl) []
  obtain ⟨p, hp⟩ := hiff.2 hback
  obtain ⟨hname, htarget, hdatabase⟩ := hall p hp
  exact ⟨hmade, hfresh, hback, p, hp, hname, htarget, hdatabase rfl⟩

/-- A project is made under a name that is a number, and then cannot be loaded. -/
theorem made_but_not_loaded :
    (Task.perform (Task.makeProject "123" (some here) true false) emptyDesk).1 = .ok ()
      ∧ emptyDesk.files.IsFresh (Task.directoryFor emptyDesk "123" (some here))
      ∧ ∀ p, (Project.load
          (Task.perform (Task.makeProject "123" (some here) true false) emptyDesk).2.files []
          (Task.directoryFor emptyDesk "123" (some here)) none).2 ≠ .ok p := by
  have hmade := makeProject_emptyDesk "123" rfl rfl
  have hfresh : emptyDesk.files.IsFresh here := isFresh_of_list list_emptyDesk
  refine ⟨hmade, hfresh, ?_⟩
  rw [load_of_makeProject hmade hfresh]
  exact ofText_ne_of_not_comesBack (by decide) (by decide)

end SqlPipeline.Scaffold
