/-
  SqlPipeline/Proofs/Model/Files.lean
  ===================================
  **Which models the files of a project define, and what goes unreported.**

  What is found below a directory is everything whose name has the suffix, at whatever depth
  (`mem_allBelow`), and it comes in the order of paths (`pairwise_allBelow`).  Each of those
  paths has to lead to a file: then it defines one model, and the models come in the order of
  the directories (`ofDirectories_isDefinedBy`).  An error is reported unless it is one of the
  file system.  There are two of those when every file holds a text, a directory whose own name
  ends like a file's, and a name that is too long to be looked for (`discover_exactly`).
-/
import SqlPipeline.Proofs.FileTree.Keeps
import SqlPipeline.Proofs.Model.Compile
import SqlPipeline.Proofs.RefScan
import Mathlib

namespace SqlPipeline

/-! ### Paths in order -/

namespace Path

/-- Parts are put in order like words of words. -/
theorem leParts_iff {xs ys : List (List Char)} : leParts xs ys = true ↔ xs = ys ∨ xs < ys := by
  induction xs generalizing ys with
  | nil =>
    cases ys with
    | nil => simp [leParts]
    | cons y ys => simp [leParts]
  | cons x xs ih =>
    cases ys with
    | nil => simp [leParts]
    | cons y ys =>
      rw [leParts, List.cons_lt_cons_iff]
      by_cases heq : x = y
      · subst heq
        simp [ih]
      · rw [if_neg (by simpa using heq), RefScan.leChars_iff]
        simp [heq]

theorem le_iff {p q : Path} : le p q = true ↔ p.sortKey ≤ q.sortKey := by
  rw [le_iff_eq_or_lt]
  exact leParts_iff

/-- What comes last below a path that goes on. -/
theorem name_append (root : String) (parts : List String) {below : List String} (h : below ≠ []) :
    name ⟨root, parts ++ below⟩ = below.getLast?.getD "" := by
  rw [name, List.getLast?_append_of_ne_nil _ h]

end Path

/-! ### What is found below a directory -/

namespace FileTree

variable {t : FileTree} {suffix : String} {d p : Path}

theorem pairwise_allBelow : (t.allBelow suffix d).Pairwise fun p q => p.sortKey ≤ q.sortKey := by
  rw [allBelow]
  split
  · exact .nil
  · split
    · exact .nil
    · dsimp only
      refine (List.pairwise_mergeSort ?_ ?_ _).imp Path.le_iff.1
      · intro p q r hpq hqr
        exact Path.le_iff.2 ((Path.le_iff.1 hpq).trans (Path.le_iff.1 hqr))
      · intro p q
        rw [Bool.or_eq_true, Path.le_iff, Path.le_iff]
        exact le_total _ _

theorem mem_nodesBelow {place below : List String} {node : FileNode} :
    (below, node) ∈ t.nodesBelow place ↔ below ≠ [] ∧ (place ++ below, node) ∈ t.nodes := by
  rw [nodesBelow, List.mem_filterMap]
  constructor
  · rintro ⟨⟨q, node'⟩, hq, hbelow⟩
    dsimp only at hbelow
    split at hbelow
    · rename_i hin
      simp only [Bool.and_eq_true, decide_eq_true_eq, List.isPrefixOf_iff_prefix] at hin
      obtain ⟨hlength, rest, rfl⟩ := hin
      rw [List.drop_left] at hbelow
      obtain ⟨rfl, rfl⟩ := Prod.mk.inj (Option.some.inj hbelow)
      refine ⟨?_, hq⟩
      rintro rfl
      simp at hlength
    · cases hbelow
  · rintro ⟨hne, hmem⟩
    have hlength := List.length_pos_iff.2 hne
    exact ⟨_, hmem, by simp [hlength]⟩

/-- That a path leads to an entry of a directory, or of a directory in it, and so on. -/
def IsBelow (t : FileTree) (d p : Path) : Prop :=
  ∃ place below node, t.LeadsTo d place ∧ below ≠ [] ∧ (place ++ below, node) ∈ t.nodes
    ∧ p = ⟨d.root, d.parts ++ below⟩

/-- **Below a directory everything is found whose name has the suffix,** at whatever depth, be it
    a file or a directory. -/
theorem mem_allBelow :
    p ∈ t.allBelow suffix d ↔ t.IsBelow d p ∧ hasSuffix suffix p.name = true := by
  rw [allBelow]
  split
  · rename_i hplace
    constructor
    · intro hmem
      cases hmem
    · rintro ⟨⟨place, below, node, ⟨hlocate, -⟩, -⟩, -⟩
      rw [hplace] at hlocate
      cases hlocate
  · rename_i place hplace
    split
    · rename_i hnode
      have hno : t.node? place ≠ some .directory := by simpa using hnode
      constructor
      · intro hmem
        cases hmem
      · rintro ⟨⟨place', below, node, ⟨hlocate, hdirectory⟩, -⟩, -⟩
        rw [hplace] at hlocate
        obtain rfl := Except.ok.inj hlocate
        exact absurd hdirectory hno
    · rename_i hnode
      have hdirectory : t.node? place = some .directory := by simpa using hnode
      dsimp only
      rw [List.mem_mergeSort, List.mem_filterMap]
      constructor
      · rintro ⟨⟨below, node⟩, hbelow, hp⟩
        obtain ⟨hne, hmem⟩ := mem_nodesBelow.1 hbelow
        split at hp
        · rename_i hsuffix
          obtain rfl := Option.some.inj hp
          rw [Path.name_append _ _ hne]
          exact ⟨⟨place, below, node, ⟨hplace, hdirectory⟩, hne, hmem, rfl⟩, hsuffix⟩
        · cases hp
      · rintro ⟨⟨place', below, node, ⟨hlocate, -⟩, hne, hmem, rfl⟩, hsuffix⟩
        rw [hplace] at hlocate
        obtain rfl := Except.ok.inj hlocate
        rw [Path.name_append _ _ hne] at hsuffix
        exact ⟨(below, node), mem_nodesBelow.2 ⟨hne, hmem⟩, if_pos hsuffix⟩

/-- Where there is nothing, nothing is found. -/
theorem allBelow_of_contains_eq_false (h : t.contains d = .ok false) :
    t.allBelow suffix d = [] := by
  rw [List.eq_nil_iff_forall_not_mem]
  intro p hp
  obtain ⟨⟨place, -, -, hplace, -⟩, -⟩ := mem_allBelow.1 hp
  have hthere : t.contains d = .ok true := contains_eq_true.2 ⟨_, hplace.lookup⟩
  rw [h] at hthere
  cases hthere

/-- Only a name that is too long cannot be looked for. -/
theorem exists_nameTooLong {e : FileError} (h : t.contains d = .error e) :
    ∃ path, e = .nameTooLong path := by
  rw [contains, find?] at h
  cases hlookup : t.lookup d with
  | ok n =>
    rw [hlookup] at h
    cases h
  | error fault =>
    rw [hlookup] at h
    cases fault with
    | nameTooLong path => exact ⟨path, (Except.error.inj h).symm⟩
    | _ => cases h

/-- The text of what is a directory cannot be read. -/
theorem readText_of_directory (h : t.lookup p = .ok .directory) :
    t.readText p = .error (.isADirectory p.text) := by
  rw [readText, readBytes, h]
  rfl

end FileTree

/-- Whether an error is one of the files' names and settings, and not one of reading them. -/
def FilesError.IsReported : FilesError → Prop
  | .file _ => False
  | _ => True

namespace Model

variable {files : FileTree} {earlier : Entries String} {paths directories : List Path}
  {path : Path} {m : Model} {models : List Model} {e : FilesError}

/-! ### One file after the other -/

/-- That a model is what a file defines. -/
structure IsDefinedBy (files : FileTree) (path : Path) (m : Model) : Prop where
  file : ∃ bytes, files.lookup path = .ok (.file bytes)
  text : ∃ text, files.readText path = .ok text
    ∧ Sql.materialization text = .ok m.materialization ∧ m.template = Sql.query text
  id : m.id = path.stem
  path : m.path = path.text
  independent : m.dependencies = []

theorem ofFile_isDefinedBy (h : ofFile files earlier path = .ok m) : IsDefinedBy files path m := by
  obtain ⟨text, materialization, -, -, htext, hmaterialization, rfl⟩ := ofFile_eq_ok_iff.1 h
  exact ⟨FileTree.exists_file_of_readText htext, ⟨text, htext, hmaterialization, rfl⟩, rfl, rfl, rfl⟩

theorem ofFiles_isDefinedBy (h : ofFiles files earlier paths = .ok models) :
    List.Forall₂ (IsDefinedBy files) paths models := by
  induction paths generalizing earlier models with
  | nil =>
    obtain rfl := Except.ok.inj h
    exact .nil
  | cons path paths ih =>
    obtain ⟨m, hm, h⟩ := bind_eq_ok_iff.1 h
    obtain ⟨rest, hrest, h⟩ := bind_eq_ok_iff.1 h
    obtain rfl := Except.ok.inj h
    exact .cons (ofFile_isDefinedBy hm) (ih hrest)

/-- **Every file defines one model,** directory by directory. -/
theorem ofDirectories_isDefinedBy (h : (ofDirectories files earlier directories).1 = .ok models) :
    List.Forall₂ (IsDefinedBy files) (directories.flatMap (files.allBelow suffix)) models := by
  induction directories generalizing earlier models with
  | nil =>
    obtain rfl := Except.ok.inj h
    exact .nil
  | cons directory directories ih =>
    rw [ofDirectories] at h
    rw [List.flatMap_cons]
    cases hthere : files.contains directory with
    | error e =>
      rw [hthere] at h
      cases h
    | ok there =>
      cases there with
      | false =>
        rw [hthere] at h
        rw [FileTree.allBelow_of_contains_eq_false hthere]
        exact ih h
      | true =>
        rw [hthere] at h
        cases hfound : ofFiles files earlier (files.allBelow suffix directory) with
        | error e =>
          rw [hfound] at h
          cases h
        | ok found =>
          simp only [hfound] at h
          cases hrest : (ofDirectories files
              (Entries.overlay earlier (found.map fun m => (m.id, m.path))) directories).1 with
          | error e =>
            rw [hrest] at h
            cases h
          | ok rest =>
            rw [hrest] at h
            obtain rfl := Except.ok.inj h
            exact List.rel_append (ofFiles_isDefinedBy hfound) (ih hrest)

/-! ### Errors -/

/-- That nothing handles an error: a name is too long to be looked for, or what is found is a
    directory. -/
inductive Escapes (files : FileTree) (directories : List Path) : FilesError → Prop where
  | nameTooLong {d : Path} {path : String} (hd : d ∈ directories)
      (hlong : files.contains d = .error (.nameTooLong path)) :
      Escapes files directories (.file (.nameTooLong path))
  | directory {d p : Path} (hd : d ∈ directories) (hp : p ∈ files.allBelow suffix d)
      (hdirectory : files.lookup p = .ok .directory) :
      Escapes files directories (.file (.isADirectory p.text))

/-- An error of a file that is not reported is one of reading it. -/
theorem ofFile_error (h : ofFile files earlier path = .error e) :
    e.IsReported ∨ ∃ fault, files.readText path = .error fault ∧ e = .file fault := by
  rcases bind_eq_error_iff.1 h with hname | ⟨id, hid, h⟩
  · cases hvalid : Identifier.validate path.stem s!"model name for {path.name}" with
    | ok id =>
      rw [hvalid] at hname
      cases hname
    | error invalid =>
      rw [hvalid] at hname
      obtain rfl := Except.error.inj hname
      exact Or.inl trivial
  · cases hfind : Entries.find? earlier id with
    | some first =>
      simp only [hfind] at h
      obtain rfl := Except.error.inj h
      exact Or.inl trivial
    | none =>
      simp only [hfind] at h
      rcases bind_eq_error_iff.1 h with htext | ⟨text, -, h⟩
      · cases hread : files.readText path with
        | ok text =>
          rw [hread] at htext
          cases htext
        | error fault =>
          rw [hread] at htext
          exact Or.inr ⟨fault, rfl, (Except.error.inj htext).symm⟩
      · rcases bind_eq_error_iff.1 h with hsettings | ⟨materialization, -, h⟩
        · cases hmaterialization : Sql.materialization text with
          | ok materialization =>
            rw [hmaterialization] at hsettings
            cases hsettings
          | error invalid =>
            rw [hmaterialization] at hsettings
            obtain rfl := Except.error.inj hsettings
            exact Or.inl trivial
        · cases h

/-- The files end with an error only where one of them does. -/
theorem exists_of_ofFiles_error (h : ofFiles files earlier paths = .error e) :
    ∃ path ∈ paths, ∃ earlier, ofFile files earlier path = .error e := by
  induction paths generalizing earlier with
  | nil => cases h
  | cons path paths ih =>
    rcases bind_eq_error_iff.1 h with hpath | ⟨m, -, h⟩
    · exact ⟨path, List.mem_cons_self, earlier, hpath⟩
    · rcases bind_eq_error_iff.1 h with hrest | ⟨rest, -, h⟩
      · obtain ⟨other, hother, herror⟩ := ih hrest
        exact ⟨other, List.mem_cons_of_mem _ hother, herror⟩
      · cases h

/-- The directories end with an error only where one cannot be looked for or one of the files
    found in it ends with the error. -/
theorem exists_of_ofDirectories_error
    (h : (ofDirectories files earlier directories).1 = .error e) :
    ∃ d ∈ directories, (∃ fault, files.contains d = .error fault ∧ e = .file fault)
      ∨ ∃ path ∈ files.allBelow suffix d, ∃ earlier, ofFile files earlier path = .error e := by
  induction directories generalizing earlier with
  | nil => cases h
  | cons directory directories ih =>
    have hlater : ∀ earlier, (ofDirectories files earlier directories).1 = .error e →
        ∃ d ∈ directory :: directories, (∃ fault, files.contains d = .error fault ∧ e = .file fault)
          ∨ ∃ path ∈ files.allBelow suffix d, ∃ earlier, ofFile files earlier path = .error e := by
      intro earlier hrest
      obtain ⟨d, hd, herror⟩ := ih hrest
      exact ⟨d, List.mem_cons_of_mem _ hd, herror⟩
    rw [ofDirectories] at h
    cases hthere : files.contains directory with
    | error fault =>
      rw [hthere] at h
      exact ⟨directory, List.mem_cons_self, Or.inl ⟨fault, hthere, (Except.error.inj h).symm⟩⟩
    | ok there =>
      cases there with
      | false =>
        rw [hthere] at h
        exact hlater _ h
      | true =>
        rw [hthere] at h
        cases hfound : ofFiles files earlier (files.allBelow suffix directory) with
        | error fault =>
          rw [hfound] at h
          obtain rfl := Except.error.inj h
          exact ⟨directory, List.mem_cons_self, Or.inr (exists_of_ofFiles_error hfound)⟩
        | ok found =>
          simp only [hfound] at h
          cases hrest : (ofDirectories files
              (Entries.overlay earlier (found.map fun m => (m.id, m.path))) directories).1 with
          | ok rest =>
            rw [hrest] at h
            cases h
          | error fault =>
            rw [hrest] at h
            obtain rfl := Except.error.inj h
            exact hlater _ hrest

/-- Where every file found holds a text, an error is reported or escapes. -/
theorem isReported_or_escapes
    (hreadable : ∀ d ∈ directories, ∀ p ∈ files.allBelow suffix d,
      files.lookup p = .ok .directory ∨ ∃ text, files.readText p = .ok text)
    (h : (ofDirectories files earlier directories).1 = .error e) :
    e.IsReported ∨ Escapes files directories e := by
  obtain ⟨d, hd, ⟨fault, hcontains, rfl⟩ | ⟨path, hpath, earlier, hfile⟩⟩ :=
    exists_of_ofDirectories_error h
  · obtain ⟨long, rfl⟩ := FileTree.exists_nameTooLong hcontains
    exact Or.inr (.nameTooLong hd hcontains)
  · rcases ofFile_error hfile with hreported | ⟨fault, hread, rfl⟩
    · exact Or.inl hreported
    · rcases hreadable d hd path hpath with hdirectory | ⟨text, htext⟩
      · rw [FileTree.readText_of_directory hdirectory] at hread
        obtain rfl := Except.error.inj hread
        exact Or.inr (.directory hd hpath hdirectory)
      · rw [htext] at hread
        cases hread

/-! ### All models -/

theorem discover_fst (files : FileTree) (directories : List Path) :
    (discover files directories).1 = (ofDirectories files [] directories).1 := by
  rw [discover]
  split
  · rename_i h
    rw [h]
  · rename_i h
    rw [h]

/-- **The models of some directories,** where what is found in them is a directory or holds a
    text.  Every path that is below one of the directories and whose name has the suffix is that
    of a file and defines one model, in the order of the directories and of the paths in each, and
    no two models have an id in common; or there is an error, which is reported or one of the two
    that escape. -/
theorem discover_exactly (files : FileTree) (directories : List Path)
    (hreadable : ∀ d ∈ directories, ∀ p ∈ files.allBelow suffix d,
      files.lookup p = .ok .directory ∨ ∃ text, files.readText p = .ok text) :
    (∀ d, (files.allBelow suffix d).Pairwise (fun p q => p.sortKey ≤ q.sortKey)
        ∧ ∀ p, p ∈ files.allBelow suffix d
          ↔ files.IsBelow d p ∧ FileTree.hasSuffix suffix p.name = true)
      ∧ match (discover files directories).1 with
        | .ok models =>
            List.Forall₂ (IsDefinedBy files) (directories.flatMap (files.allBelow suffix)) models
              ∧ (models.map (·.id)).Nodup
        | .error e => e.IsReported ∨ Escapes files directories e := by
  refine ⟨fun d => ⟨FileTree.pairwise_allBelow, fun p => FileTree.mem_allBelow⟩, ?_⟩
  rw [discover_fst]
  cases h : (ofDirectories files [] directories).1 with
  | ok models => exact ⟨ofDirectories_isDefinedBy h, (ofDirectories_ok h).nodup_ids⟩
  | error e => exact isReported_or_escapes hreadable h

/-- A model in a directory, and one in a directory below it. -/
def nestedModels : FileTree where
  nodes := [(["m"], .directory), (["m", "b.sql"], .file []), (["m", "a"], .directory),
    (["m", "a", "c.sql"], .file [])]
  home := []

theorem discover_exactly_nested :
    (∀ d ∈ [(⟨"/", ["m"]⟩ : Path)], ∀ p ∈ nestedModels.allBelow suffix d,
        nestedModels.lookup p = .ok .directory ∨ ∃ text, nestedModels.readText p = .ok text)
      ∧ ∃ models, (discover nestedModels [⟨"/", ["m"]⟩]).1 = .ok models
        ∧ List.Forall₂ (IsDefinedBy nestedModels)
            [⟨"/", ["m", "a", "c.sql"]⟩, ⟨"/", ["m", "b.sql"]⟩] models
        ∧ (models.map (·.id)).Nodup := by
  have hthere : nestedModels.contains ⟨"/", ["m"]⟩ = .ok true := by cbv
  have hbelow : nestedModels.allBelow suffix ⟨"/", ["m"]⟩
      = [⟨"/", ["m", "a", "c.sql"]⟩, ⟨"/", ["m", "b.sql"]⟩] := by cbv
  have hfirst : nestedModels.readText ⟨"/", ["m", "a", "c.sql"]⟩ = .ok "" := by cbv
  have hsecond : nestedModels.readText ⟨"/", ["m", "b.sql"]⟩ = .ok "" := by cbv
  have hreadable : ∀ d ∈ [(⟨"/", ["m"]⟩ : Path)], ∀ p ∈ nestedModels.allBelow suffix d,
      nestedModels.lookup p = .ok .directory ∨ ∃ text, nestedModels.readText p = .ok text := by
    intro d hd p hp
    obtain rfl := List.mem_singleton.1 hd
    rw [hbelow, List.mem_cons, List.mem_singleton] at hp
    rcases hp with rfl | rfl
    · exact Or.inr ⟨"", hfirst⟩
    · exact Or.inr ⟨"", hsecond⟩
  obtain ⟨models, hmodels⟩ : ∃ models, (discover nestedModels [⟨"/", ["m"]⟩]).1 = .ok models := by
    have hc : ofFile nestedModels [] ⟨"/", ["m", "a", "c.sql"]⟩
        = .ok ⟨"c", "/m/a/c.sql", "", "", {}, [], []⟩ :=
      ofFile_eq_ok_iff.2
        ⟨"", {}, by decide +kernel, by decide +kernel, hfirst, by decide +kernel, rfl⟩
    have hb : ofFile nestedModels [("c", "/m/a/c.sql")] ⟨"/", ["m", "b.sql"]⟩
        = .ok ⟨"b", "/m/b.sql", "", "", {}, [], []⟩ :=
      ofFile_eq_ok_iff.2
        ⟨"", {}, by decide +kernel, by decide +kernel, hsecond, by decide +kernel, rfl⟩
    refine ⟨[⟨"c", "/m/a/c.sql", "", "", {}, [], []⟩, ⟨"b", "/m/b.sql", "", "", {}, [], []⟩], ?_⟩
    rw [discover_fst, ofDirectories, hthere, hbelow, ofFiles, hc]
    dsimp only [bind, Except.bind]
    rw [Entries.insert, ofFiles, hb]
    rfl
  have hexactly := (discover_exactly nestedModels [⟨"/", ["m"]⟩] hreadable).2
  rw [hmodels, List.flatMap_singleton, hbelow] at hexactly
  exact ⟨hreadable, models, hmodels, hexactly⟩

/-- A directory whose name ends like that of a file. -/
def directoryNamedSql : FileTree where
  nodes := [(["m"], .directory), (["m", "x.sql"], .directory)]
  home := []

/-- A directory is read as if it were a file, and nothing reports that it cannot be. -/
theorem directory_taken_for_file :
    (∀ p ∈ directoryNamedSql.allBelow suffix ⟨"/", ["m"]⟩,
        directoryNamedSql.lookup p = .ok .directory)
      ∧ ∃ e, (discover directoryNamedSql [⟨"/", ["m"]⟩]).1 = .error e ∧ ¬ e.IsReported := by
  have hbelow : directoryNamedSql.allBelow suffix ⟨"/", ["m"]⟩ = [⟨"/", ["m", "x.sql"]⟩] := by cbv
  have hdirectory : directoryNamedSql.lookup ⟨"/", ["m", "x.sql"]⟩ = .ok .directory := by cbv
  have hfile : ofFile directoryNamedSql [] ⟨"/", ["m", "x.sql"]⟩
      = .error (.file (.isADirectory "/m/x.sql")) := by
    unfold ofFile
    rw [Identifier.validate_eq_ok_iff.2 ⟨by decide +kernel, rfl⟩,
      FileTree.readText_of_directory hdirectory]
    rfl
  refine ⟨fun p hp => ?_, .file (.isADirectory "/m/x.sql"), ?_, not_false⟩
  · rw [hbelow] at hp
    rw [List.mem_singleton.1 hp]
    exact hdirectory
  · have hthere : directoryNamedSql.contains ⟨"/", ["m"]⟩ = .ok true := by cbv
    rw [discover_fst, ofDirectories, hthere, hbelow, ofFiles, hfile]
    rfl

end Model

end SqlPipeline
