/-
  SqlPipeline/Proofs/Project/Names.lean
  =====================================
  **Every name that gets into a statement has been checked.**

  Names come from four places: the files of models, the files of seeds, and the two schemas in
  the settings of a project.  All of them go through one check, the schemas behind whatever a
  target puts in their place (`namesChecked`).  The check lets names through, and names with a
  newline at the end, and nothing else (`isValid_iff`).
-/
import SqlPipeline.Project.Load
import SqlPipeline.Proofs.Identifier
import SqlPipeline.Proofs.Model.Compile
import SqlPipeline.Seed.Load
import Mathlib

namespace SqlPipeline

/-! ### What the check lets through -/

namespace Identifier

/-- A letter of ASCII, or an underscore. -/
def IsLetter (c : Char) : Prop :=
  (65 ≤ c.toNat ∧ c.toNat ≤ 90) ∨ (97 ≤ c.toNat ∧ c.toNat ≤ 122) ∨ c.toNat = 95

def IsDigit (c : Char) : Prop :=
  48 ≤ c.toNat ∧ c.toNat ≤ 57

/-- A text that is not empty, starts with a letter or an underscore, and holds nothing but letters,
    digits and underscores. -/
structure Proper (s : String) : Prop where
  starts : ∃ c rest, s.toList = c :: rest ∧ IsLetter c
  allowed : ∀ c ∈ s.toList, IsLetter c ∨ IsDigit c

/-- Such a text, or one with a newline behind it. -/
def Passes (s : String) : Prop :=
  Proper s ∨ ∃ name, Proper name ∧ s = name ++ "\n"

theorem isStart_iff {c : Char} : isStart c = true ↔ IsLetter c := by
  have hunder : c = '_' ↔ c.toNat = 95 := ⟨fun h => h ▸ rfl, fun h => Char.toNat_inj.1 h⟩
  have hupper : 'A' ≤ c ∧ c ≤ 'Z' ↔ 65 ≤ c.toNat ∧ c.toNat ≤ 90 := Iff.rfl
  have hlower : 'a' ≤ c ∧ c ≤ 'z' ↔ 97 ≤ c.toNat ∧ c.toNat ≤ 122 := Iff.rfl
  simp only [isStart, Text.isAsciiLetter, Bool.or_eq_true, Bool.and_eq_true, decide_eq_true_eq,
    beq_iff_eq, IsLetter, hunder, hupper, hlower]
  omega

theorem isPart_iff {c : Char} : isPart c = true ↔ IsLetter c ∨ IsDigit c := by
  have hdigit : Text.isAsciiDigit c = true ↔ IsDigit c := by
    simp only [Text.isAsciiDigit, Bool.and_eq_true, decide_eq_true_eq]
    exact Iff.rfl
  rw [← isStart_iff, ← hdigit, isStart, isPart, Bool.or_eq_true, Bool.or_eq_true, Bool.or_eq_true,
    or_right_comm]

theorem isName_iff {s : String} : isName s.toList = true ↔ Proper s := by
  constructor
  · intro h
    refine ⟨?_, fun c hc => isPart_iff.1 (isPart_of_mem h c hc)⟩
    cases hs : s.toList with
    | nil =>
      rw [hs] at h
      cases h
    | cons c rest =>
      rw [hs, isName, Bool.and_eq_true] at h
      exact ⟨c, rest, rfl, isStart_iff.1 h.1⟩
  · rintro ⟨⟨c, rest, hs, hc⟩, hallowed⟩
    rw [hs] at hallowed ⊢
    rw [isName, Bool.and_eq_true, List.all_eq_true]
    exact ⟨isStart_iff.2 hc, fun x hx => isPart_iff.2 (hallowed x (List.mem_cons_of_mem _ hx))⟩

theorem withoutFinalNewline_append (s : List Char) : withoutFinalNewline (s ++ ['\n']) = s := by
  rw [withoutFinalNewline, List.reverse_append]
  exact List.reverse_reverse s

theorem withoutFinalNewline_of_notMem {s : List Char} (h : '\n' ∉ s) :
    withoutFinalNewline s = s := by
  rw [withoutFinalNewline]
  split
  · rename_i rest hreverse
    have hmem : '\n' ∈ s.reverse := by
      rw [hreverse]
      exact List.mem_cons_self
    exact absurd (List.mem_reverse.1 hmem) h
  · rfl

theorem Proper.newline_notMem {s : String} (h : Proper s) : '\n' ∉ s.toList := by
  intro hmem
  rcases h.allowed _ hmem with hletter | hdigit
  · exact absurd hletter (by unfold IsLetter; decide)
  · exact absurd hdigit (by unfold IsDigit; decide)

/-- **The check accepts names, with at most a newline behind them, and no other text.** -/
theorem isValid_iff {s : String} : isValid s = true ↔ Passes s := by
  constructor
  · intro h
    obtain ⟨name, hname, hs | hs⟩ := of_isValid h
    · exact Or.inl (isName_iff.1 (hs ▸ hname))
    · refine Or.inr ⟨.ofList name, isName_iff.1 (by rwa [String.toList_ofList]), ?_⟩
      apply String.toList_injective
      rw [hs, String.toList_append, String.toList_ofList]
      rfl
  · rintro (hs | ⟨name, hname, rfl⟩)
    · rw [isValid, withoutFinalNewline_of_notMem hs.newline_notMem]
      exact isName_iff.2 hs
    · have hnewline : "\n".toList = ['\n'] := rfl
      rw [isValid, String.toList_append, hnewline, withoutFinalNewline_append]
      exact isName_iff.2 hname

end Identifier

open Identifier (Passes)

/-! ### Files -/

section Files

variable {files : FileTree} {earlier : Entries String} {paths directories : List Path}

theorem Model.exists_ofFile_of_mem_ofFiles {models : List Model}
    (h : Model.ofFiles files earlier paths = .ok models) :
    ∀ m ∈ models, ∃ earlier path, Model.ofFile files earlier path = .ok m := by
  induction paths generalizing earlier models with
  | nil =>
    obtain rfl := Except.ok.inj h
    simp
  | cons path paths ih =>
    obtain ⟨first, hfirst, h⟩ := bind_eq_ok_iff.1 h
    obtain ⟨rest, hrest, h⟩ := bind_eq_ok_iff.1 h
    obtain rfl := Except.ok.inj h
    exact List.forall_mem_cons.2 ⟨⟨earlier, path, hfirst⟩, ih hrest⟩

theorem Model.exists_ofFile_of_mem_ofDirectories {models : List Model}
    (h : (Model.ofDirectories files earlier directories).1 = .ok models) :
    ∀ m ∈ models, ∃ earlier path, Model.ofFile files earlier path = .ok m := by
  induction directories generalizing earlier models with
  | nil =>
    obtain rfl := Except.ok.inj h
    simp
  | cons directory directories ih =>
    rw [Model.ofDirectories] at h
    split at h
    case h_1 => cases h
    case h_2 => exact ih h
    case h_3 =>
      split at h
      case h_1 => cases h
      case h_2 found hfound =>
        -- what is found here stands in front of what is found in the other directories
        cases hrest : (Model.ofDirectories files
            (Entries.overlay earlier (found.map fun m => (m.id, m.path))) directories).1 with
        | error e =>
          simp only [hrest] at h
          cases h
        | ok rest =>
          simp only [hrest] at h
          obtain rfl := Except.ok.inj h
          intro m hm
          rcases List.mem_append.1 hm with hm | hm
          · exact Model.exists_ofFile_of_mem_ofFiles hfound m hm
          · exact ih hrest m hm

/-- Every model that is discovered has a name that has been checked. -/
theorem Model.isValid_of_discover {models : List Model}
    (h : (Model.discover files directories).1 = .ok models) :
    ∀ m ∈ models, Identifier.isValid m.id = true := by
  have hmodels : (Model.ofDirectories files [] directories).1 = .ok models := by
    rw [Model.discover] at h
    split at h
    · rename_i found notes hfound
      rw [hfound]
      exact h
    · cases h
  intro m hm
  obtain ⟨earlier, path, hfile⟩ := Model.exists_ofFile_of_mem_ofDirectories hmodels m hm
  obtain ⟨-, -, hvalid, -, -, -, rfl⟩ := Model.ofFile_eq_ok_iff.1 hfile
  exact hvalid

variable {schema : String} {seeds : List Seed}

theorem Seed.ofFile_eq_ok_iff {path : Path} {s : Seed} :
    Seed.ofFile schema path = .ok s
      ↔ Identifier.isValid path.stem = true ∧ s = ⟨path, path.stem, schema⟩ := by
  constructor
  · intro h
    obtain ⟨name, hname, h⟩ := bind_eq_ok_iff.1 h
    obtain ⟨hvalid, rfl⟩ := Identifier.validate_eq_ok_iff.1 (mapError_eq_ok_iff.1 hname)
    exact ⟨hvalid, (Except.ok.inj h).symm⟩
  · rintro ⟨hvalid, rfl⟩
    exact bind_eq_ok_iff.2
      ⟨_, mapError_eq_ok_iff.2 (Identifier.validate_eq_ok_iff.2 ⟨hvalid, rfl⟩), rfl⟩

/-- Every seed that is discovered has a name that has been checked, and the schema that is given. -/
theorem Seed.isValid_of_discover (h : Seed.discover files schema directories = .ok seeds) :
    ∀ s ∈ seeds, Identifier.isValid s.name = true ∧ s.schema = schema := by
  induction directories generalizing seeds with
  | nil =>
    obtain rfl := Except.ok.inj h
    simp
  | cons directory directories ih =>
    obtain ⟨there, -, h⟩ := bind_eq_ok_iff.1 h
    cases there with
    | false => exact ih h
    | true =>
      obtain ⟨here, hhere, h⟩ := bind_eq_ok_iff.1 h
      obtain ⟨rest, hrest, h⟩ := bind_eq_ok_iff.1 h
      obtain rfl := Except.ok.inj h
      intro s hs
      rcases List.mem_append.1 hs with hs | hs
      · obtain ⟨path, -, hpath⟩ := exists_of_mem_mapM hhere s hs
        obtain ⟨hvalid, rfl⟩ := Seed.ofFile_eq_ok_iff.1 hpath
        exact ⟨hvalid, rfl⟩
      · exact ih hrest s hs

end Files

/-! ### Settings -/

namespace Project

variable {files : FileTree} {environment : Environment} {directory path : Path}
  {target : Option String} {p q : Project}

theorem checkSchema_eq_ok_iff {label schema : String} :
    checkSchema label schema = .ok () ↔ schema = "" ∨ Identifier.isValid schema = true := by
  rw [checkSchema]
  by_cases hempty : schema = ""
  · simp [hempty]
  · rw [if_neg (by simpa using hempty)]
    cases hvalid : Identifier.isValid schema with
    | true =>
      have hok : Identifier.validate schema label = .ok schema :=
        Identifier.validate_eq_ok_iff.2 ⟨hvalid, rfl⟩
      simp [hok, Except.mapError, Except.map]
    | false => simp [Identifier.validate, hvalid, Except.mapError, Except.map, hempty]

/-- The schemas of a project are empty, or they have been checked. -/
structure SchemasChecked (p : Project) : Prop where
  schema : p.schema = "" ∨ Identifier.isValid p.schema = true
  seedSchema : p.seedSchema = "" ∨ Identifier.isValid p.seedSchema = true

theorem SchemasChecked.schemaOfSeeds (h : SchemasChecked p) :
    p.schemaOfSeeds = "" ∨ Identifier.isValid p.schemaOfSeeds = true := by
  rw [Project.schemaOfSeeds]
  split
  · exact h.schema
  · exact h.seedSchema

/-- A project without a file of settings has no targets, so none replaces its empty schemas. -/
theorem activated_of_noTargets (htargets : p.targets = []) (h : p.activated path target = .ok q) :
    q = p := by
  have hactivate := mapError_eq_ok_iff.1 h
  rw [activate] at hactivate
  split at hactivate
  · exact (Except.ok.inj hactivate).symm
  · rw [htargets] at hactivate
    cases hactivate

theorem schemasChecked_of_ofText {text : String}
    (h : ofText directory environment target text = .ok p) : SchemasChecked p := by
  -- the schemas are checked last, on the project that is given back
  obtain ⟨entries, -, h⟩ := bind_eq_ok_iff.1 h
  obtain ⟨plain, -, h⟩ := bind_eq_ok_iff.1 h
  obtain ⟨active, -, h⟩ := bind_eq_ok_iff.1 h
  obtain ⟨⟨⟩, hschema, h⟩ := bind_eq_ok_iff.1 h
  obtain ⟨⟨⟩, hseedSchema, h⟩ := bind_eq_ok_iff.1 h
  obtain rfl := Except.ok.inj h
  exact ⟨checkSchema_eq_ok_iff.1 hschema, checkSchema_eq_ok_iff.1 hseedSchema⟩

/-- **The schemas of a project that is loaded have been checked,** whatever its target. -/
theorem schemasChecked_of_load (h : (load files environment directory target).2 = .ok p) :
    SchemasChecked p := by
  rw [load] at h
  split at h
  · cases h
  · obtain ⟨there, -, h⟩ := bind_eq_ok_iff.1 h
    cases there with
    | true =>
      obtain ⟨text, -, h⟩ := bind_eq_ok_iff.1 h
      exact schemasChecked_of_ofText h
    | false =>
      obtain rfl := activated_of_noTargets rfl h
      exact ⟨Or.inl rfl, Or.inl rfl⟩

end Project

/-! ### All names -/

/-- **Ids, names of seeds and schemas are what the check lets through,** and that is exactly names,
    and names with a newline behind them. -/
theorem namesChecked (value label schema : String) (files : FileTree) (directories : List Path)
    (environment : Environment) (directory : Path) (target : Option String) :
    (∀ name, Identifier.validate value label = .ok name ↔ name = value ∧ Passes value)
      ∧ ('\n' ∉ value.toList →
          ((∃ name, Identifier.validate value label = .ok name) ↔ Identifier.Proper value))
      ∧ (∀ models, (Model.discover files directories).1 = .ok models →
          ∀ m ∈ models, Passes m.id)
      ∧ (∀ seeds, Seed.discover files schema directories = .ok seeds →
          ∀ s ∈ seeds, Passes s.name)
      ∧ (∀ project, (Project.load files environment directory target).2 = .ok project →
          (project.schema = "" ∨ Passes project.schema)
            ∧ (project.seedSchema = "" ∨ Passes project.seedSchema)) := by
  have hvalidate : ∀ name,
      Identifier.validate value label = .ok name ↔ name = value ∧ Passes value := by
    intro name
    rw [Identifier.validate_eq_ok_iff, Identifier.isValid_iff, and_comm]
  refine ⟨hvalidate, ?_, ?_, ?_, ?_⟩
  · intro hnewline
    simp only [hvalidate, exists_eq_left]
    constructor
    · rintro (hproper | ⟨name, -, rfl⟩)
      · exact hproper
      · refine absurd ?_ hnewline
        rw [String.toList_append]
        exact List.mem_append_right _ List.mem_cons_self
    · exact Or.inl
  · intro models h m hm
    exact Identifier.isValid_iff.1 (Model.isValid_of_discover h m hm)
  · intro seeds h s hs
    exact Identifier.isValid_iff.1 (Seed.isValid_of_discover h s hs).1
  · intro project h
    obtain ⟨hschema, hseedSchema⟩ := Project.schemasChecked_of_load h
    exact ⟨hschema.imp_right Identifier.isValid_iff.1,
      hseedSchema.imp_right Identifier.isValid_iff.1⟩

/-- Settings whose target replaces the schema. -/
def martSettings : String :=
  "schema: base\ntargets:\n  dev:\n    schema: mart\n"

def martProject : FileTree where
  nodes := [(["p"], .directory),
    (["p", "project.yml"], .file (martSettings.toList.map (·.toUInt8)))]
  home := []

theorem load_martProject :
    ∃ project, (Project.load martProject [] ⟨"/", ["p"]⟩ (some "dev")).2 = .ok project
      ∧ project.schema = "mart" := by
  have hvariables : martProject.contains ⟨"/", ["p", ".env"]⟩ = .ok false := by cbv
  have hthere : martProject.contains ⟨"/", ["p", "project.yml"]⟩ = .ok true := by cbv
  have htext : martProject.readText ⟨"/", ["p", "project.yml"]⟩ = .ok martSettings := by cbv
  have hload : (Project.load martProject [] ⟨"/", ["p"]⟩ (some "dev")).2
      = Project.ofText ⟨"/", ["p"]⟩ [] (some "dev") martSettings := by
    simp only [Project.load, Environment.load, Environment.fileIn, Project.fileIn, Project.fileName,
      Path.child, List.singleton_append, hvariables, hthere, htext, Except.mapError, bind,
      Except.bind, if_true]
  have hschema : (Project.ofText ⟨"/", ["p"]⟩ [] (some "dev") martSettings).toOption.map (·.schema)
      = some "mart" := by decide +kernel
  rw [hload]
  cases hread : Project.ofText ⟨"/", ["p"]⟩ [] (some "dev") martSettings with
  | error e =>
    rw [hread] at hschema
    cases hschema
  | ok project =>
    rw [hread] at hschema
    exact ⟨project, rfl, Option.some.inj hschema⟩

/-- A model, and a seed whose file has a newline in its name. -/
def newlineInName : FileTree where
  nodes := [(["m"], .directory), (["m", "a.sql"], .file []),
    (["s"], .directory), (["s", "raw\n.csv"], .file [])]
  home := []

theorem models_newlineInName :
    (Model.discover newlineInName [⟨"/", ["m"]⟩]).1
      = .ok [⟨"a", "/m/a.sql", "", "", {}, [], []⟩] := by
  have hthere : newlineInName.contains ⟨"/", ["m"]⟩ = .ok true := by cbv
  have hbelow : newlineInName.allBelow Model.suffix ⟨"/", ["m"]⟩ = [⟨"/", ["m", "a.sql"]⟩] := by
    cbv
  have htext : newlineInName.readText ⟨"/", ["m", "a.sql"]⟩ = .ok "" := by cbv
  have hfile : Model.ofFile newlineInName [] ⟨"/", ["m", "a.sql"]⟩
      = .ok ⟨"a", "/m/a.sql", "", "", {}, [], []⟩ :=
    Model.ofFile_eq_ok_iff.2
      ⟨"", {}, by decide +kernel, by decide +kernel, htext, by decide +kernel, rfl⟩
  rw [Model.discover, Model.ofDirectories, hthere, hbelow, Model.ofFiles, hfile]
  rfl

theorem seeds_newlineInName :
    Seed.discover newlineInName "mart" [⟨"/", ["s"]⟩]
      = .ok [⟨⟨"/", ["s", "raw\n.csv"]⟩, "raw\n", "mart"⟩] := by
  cbv

theorem namesChecked_newlineInName :
    Passes "a" ∧ Passes "raw\n" ∧ Passes "mart"
      ∧ (Model.discover newlineInName [⟨"/", ["m"]⟩]).1
        = .ok [⟨"a", "/m/a.sql", "", "", {}, [], []⟩]
      ∧ Seed.discover newlineInName "mart" [⟨"/", ["s"]⟩]
        = .ok [⟨⟨"/", ["s", "raw\n.csv"]⟩, "raw\n", "mart"⟩]
      ∧ ∃ project, (Project.load martProject [] ⟨"/", ["p"]⟩ (some "dev")).2 = .ok project
        ∧ project.schema = "mart" := by
  have hchecked := fun files directories =>
    namesChecked "raw\n" "identifier" "mart" files directories [] ⟨"/", ["p"]⟩ (some "dev")
  obtain ⟨-, -, hmodels, -, -⟩ := hchecked newlineInName [⟨"/", ["m"]⟩]
  obtain ⟨-, -, -, hseeds, -⟩ := hchecked newlineInName [⟨"/", ["s"]⟩]
  obtain ⟨-, -, -, -, hprojects⟩ := hchecked martProject []
  obtain ⟨project, hload, hschema⟩ := load_martProject
  have hmart := (hprojects project hload).1
  rw [hschema] at hmart
  exact ⟨hmodels _ models_newlineInName _ List.mem_cons_self,
    hseeds _ seeds_newlineInName _ List.mem_cons_self, hmart.resolve_left (by decide),
    models_newlineInName, seeds_newlineInName, project, hload, hschema⟩

/-- **A name with a newline behind it is let through.** -/
theorem newline_passes :
    Identifier.validate "raw\n" "identifier" = .ok "raw\n" ∧ ¬ Identifier.Proper "raw\n" := by
  refine ⟨by decide, fun h => h.newline_notMem ?_⟩
  decide

end SqlPipeline
