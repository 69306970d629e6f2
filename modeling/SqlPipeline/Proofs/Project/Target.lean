/-
  SqlPipeline/Proofs/Project/Target.lean
  ======================================
  **What a target puts in place of a project's settings, and what it leaves.**

  A target is activated by changing the project one setting after the other, so that an error
  could leave it half changed.  The one error there is comes first, and it leaves the project as
  it is (`run_activation`).  The settings that a target can replace are not looked for alike: a
  schema that is null counts as absent, but a path that is null is a path, and its text is what
  nothing is shown as (`null_path_taken`).  Variables are found by name in both maps, which works
  since no name stands twice in a map that has been read (`IsRead.nodup_vars`).
-/
import SqlPipeline.Project.Load
import SqlPipeline.Proofs.Data

namespace SqlPipeline

namespace Project

/-! ### Activating in place -/

/-- Puts the settings of a target in place of those of the project, one after the other. -/
def replaceSettings (name : String) (t : Target) : ExceptT ProjectError (StateM Project) Unit := do
  if let some value := Entries.find? t.database "path" then
    modify fun p => { p with database := value.plain }
  if let some schema := t.schema then
    modify fun p => { p with schema := schema }
  modify fun p => { p with vars := Entries.overlay p.vars t.vars }
  modify fun p => { p with activeTarget := some name }

/-- Looks for the target among those of a project, and then changes the project. -/
def activationOf (asked : Option String) (path : Path) (p : Project) :
    ExceptT ProjectError (StateM Project) Unit :=
  match p.targetFor asked with
  | none => return ()
  | some name =>
      match p.targets.find? name with
      | some t => replaceSettings name t
      | none =>
          throw (.unknownTarget name path
            (p.targets.names.mergeSort fun a b => Path.leChars a.toList b.toList))

/-- Activating a target in place: what has been changed before an error would stay changed. -/
def activation (asked : Option String) (path : Path) :
    ExceptT ProjectError (StateM Project) Unit := do
  activationOf asked path (← get)

theorem run_replaceSettings (p : Project) (name : String) (t : Target) :
    (replaceSettings name t).run.run p = (.ok (), p.withTarget name t) := by
  rw [replaceSettings, withTarget]
  cases Entries.find? t.database "path" with
  | none => cases t.schema <;> rfl
  | some value => cases t.schema <;> rfl

/-- **Activating in place comes to the project that activating gives,** and leaves the project as it
    is where that gives an error. -/
theorem run_activation (p : Project) (asked : Option String) (path : Path) :
    (activation asked path).run.run p
      = match p.activated path asked with
        | .ok p' => (.ok (), p')
        | .error e => (.error e, p) := by
  rw [activation, run_get_bind, activationOf, activated, activate]
  cases p.targetFor asked with
  | none => rfl
  | some name =>
    dsimp only
    cases p.targets.find? name with
    | none => rfl
    | some t => exact run_replaceSettings p name t

/-! ### Projects that have been read -/

/-- That a project was read from settings, or that it is the one of a directory without any. -/
inductive IsRead : Project → Prop
  | settings {directory : Path} {d : Data} {p : Project} (h : ofData directory d = .ok p) : IsRead p
  | usual (name : String) (directory : Path) : IsRead { name := name, directory := directory }

end Project

theorem Target.nodup_vars {t : Target} {d : Data} (h : Target.ofData d = .ok t) :
    t.vars.names.Nodup := by
  cases d with
  | map entries =>
    obtain ⟨⟨database, schema, vars⟩, hfields, hmade⟩ := bind_eq_ok_iff.1 h
    obtain rfl := Except.ok.inj hmade
    obtain ⟨-, hfields⟩ := Checked.both_eq_ok_iff.1 hfields
    obtain ⟨-, hvars⟩ := Checked.both_eq_ok_iff.1 hfields
    rcases Checked.eq_default_or_exists hvars with rfl | ⟨d', hd⟩
    · exact List.nodup_nil
    · exact (Checked.mapOf_ok hd).1
  | _ => cases h

namespace Project

variable {p : Project} {t : Target} {name : String}

theorem IsRead.nodup_vars (hp : p.IsRead) (ht : p.targets.find? name = some t) :
    t.vars.names.Nodup := by
  cases hp with
  | usual => cases ht
  | @settings directory d p h =>
    obtain ⟨⟨_, _, _, _, targets, _⟩, hfields, hmade⟩ := bind_eq_ok_iff.1 h
    obtain rfl := Except.ok.inj hmade
    obtain ⟨-, hfields⟩ := Checked.both_eq_ok_iff.1 hfields
    obtain ⟨-, hfields⟩ := Checked.both_eq_ok_iff.1 hfields
    obtain ⟨-, hfields⟩ := Checked.both_eq_ok_iff.1 hfields
    obtain ⟨-, hfields⟩ := Checked.both_eq_ok_iff.1 hfields
    obtain ⟨htargets, -⟩ := Checked.both_eq_ok_iff.1 hfields
    rcases Checked.eq_default_or_exists htargets with rfl | ⟨d', hd⟩
    · cases ht
    · obtain ⟨hnames, hpassed⟩ := Checked.mapOf_ok hd
      obtain ⟨d'', ht'⟩ := hpassed name t ((Entries.find?_eq_some_iff hnames).1 ht)
      exact Target.nodup_vars ht'

end Project

/-! ### What a target replaces -/

/-- The path that a target gives for the database; a null path is none. -/
def Target.path? (t : Target) : Option String :=
  match Entries.find? t.database "path" with
  | none | some .null => none
  | some d => some d.plain

namespace Project

variable {p : Project} {t : Target} {name : String}

/-- The target that counts is the one that is asked for, or else the usual one if there is such. -/
theorem targetFor_eq (p : Project) (asked : Option String) :
    p.targetFor asked = asked.or (if "dev" ∈ p.targets.names then some "dev" else none) := by
  cases asked with
  | some name => rfl
  | none =>
    rw [targetFor, Option.none_or]
    simp only [Entries.find?_isSome_iff]
    rfl

/-- What a project is like after a target of it has been activated.  A setting that the target
    gives is replaced and any other is kept, but for the path of the database: where the target has
    a null path, that is replaced too. -/
structure Activated (p : Project) (name : String) (t : Target) (p' : Project) : Prop where
  activeTarget : p'.activeTarget = some name
  schema : p'.schema = t.schema.getD p.schema
  database : Entries.find? t.database "path" ≠ some .null → p'.database = t.path?.getD p.database
  database_null : Entries.find? t.database "path" = some .null → p'.database = "None"
  vars : ∀ key, p'.vars.find? key = (t.vars.find? key).or (p.vars.find? key)
  others : p' = { p with
    activeTarget := p'.activeTarget
    schema := p'.schema
    database := p'.database
    vars := p'.vars }

theorem activated_withTarget (hvars : t.vars.names.Nodup) :
    Activated p name t (p.withTarget name t) where
  activeTarget := rfl
  schema := rfl
  database hpath := by
    rw [withTarget, Target.path?]
    cases hfind : Entries.find? t.database "path" with
    | none => rfl
    | some d =>
      cases d with
      | null => exact absurd hfind hpath
      | _ => rfl
  database_null hpath := by
    rw [withTarget, hpath]
    rfl
  vars _ := Entries.find?_overlay_of_nodup hvars
  others := rfl

/-- **Activating a target replaces what the target gives and nothing else,** and without a target
    to activate, or with one that is unknown, the project stays as it is. -/
theorem activation_exactly (hp : p.IsRead) (asked : Option String) (path : Path) :
    let effective := asked.or (if "dev" ∈ p.targets.names then some "dev" else none)
    let run := (activation asked path).run.run p
    run = (match p.activated path asked with
      | .ok p' => (.ok (), p')
      | .error e => (.error e, p))
    ∧ match effective with
      | none => run = (.ok (), p)
      | some name =>
          match p.targets.find? name with
          | none => ∃ e : ProjectError, e.isConfiguration = true ∧ run = (.error e, p)
          | some t => ∃ p', run = (.ok (), p') ∧ Activated p name t p' := by
  intro effective run
  refine ⟨run_activation p asked path, ?_⟩
  have hrun : run = match p.activated path asked with
      | .ok p' => (.ok (), p')
      | .error e => (.error e, p) := run_activation p asked path
  have htarget : p.targetFor asked = effective := targetFor_eq p asked
  rw [activated, activate, htarget] at hrun
  cases heffective : effective with
  | none =>
    rw [heffective] at hrun
    exact hrun
  | some name =>
    rw [heffective] at hrun
    dsimp only at hrun ⊢
    cases hfind : p.targets.find? name with
    | none =>
      rw [hfind] at hrun
      exact ⟨_, rfl, hrun⟩
    | some t =>
      rw [hfind] at hrun
      exact ⟨_, hrun, activated_withTarget (hp.nodup_vars hfind)⟩

/-- A target with a path and a variable. -/
def prodWith (path : Data) : Target :=
  { database := [("path", path)], vars := [("limit", .int 500)] }

/-- A project with this target alone. -/
def shopWith (path : Data) : Project :=
  { directory := ⟨"", ["shop"]⟩
    vars := [("limit", .int 10), ("region", .text "eu")]
    targets := [("prod", prodWith path)] }

/-- The settings of the project. -/
def shopSettings (path : Data) : Data :=
  .ofEntries [
    ("vars", .ofEntries [("limit", .int 10), ("region", .text "eu")]),
    ("targets", .ofEntries [("prod", .ofEntries [
      ("database", .ofEntries [("path", path)]), ("vars", .ofEntries [("limit", .int 500)])])])]

theorem isRead_shopWith (path : Data) : (shopWith path).IsRead := by
  have htarget : Target.ofData (.ofEntries [
      ("database", .ofEntries [("path", path)]), ("vars", .ofEntries [("limit", .int 500)])])
      = .ok (prodWith path) := by
    rw [Data.ofEntries_eq, Target.ofData, ← Data.ofEntries_eq]
    simp only [Checked.field_cons, Checked.field_nil, Entries.find?_cons, Entries.find?_nil]
    rfl
  have htargets : Checked.mapOf Target.ofData (.ofEntries [("prod", .ofEntries [
      ("database", .ofEntries [("path", path)]), ("vars", .ofEntries [("limit", .int 500)])])])
      = .ok [("prod", prodWith path)] := by
    rw [Data.ofEntries_eq, Checked.mapOf]
    simp only [Data.keyed, List.map_cons, List.map_nil, Checked.entry, htarget]
    rfl
  refine @IsRead.settings ⟨"", ["shop"]⟩ (shopSettings path) _ ?_
  rw [ofData]
  simp only [Checked.field_cons, Checked.field_nil, shopSettings, Entries.find?_cons,
    Entries.find?_nil]
  simp [htargets]
  rfl

theorem activation_exactly_prod :
    ∃ p', (activation (some "prod") ⟨"", ["shop", "project.yml"]⟩).run.run
        (shopWith (.text "prod.duckdb")) = (.ok (), p')
      ∧ Activated (shopWith (.text "prod.duckdb")) "prod" (prodWith (.text "prod.duckdb")) p' :=
  (activation_exactly (isRead_shopWith _) (some "prod") _).2

/-- A null path is taken for the text that nothing is shown as, and the database of the project is
    given up. -/
theorem null_path_taken :
    (shopWith .null).IsRead ∧ (shopWith .null).targets.find? "prod" = some (prodWith .null)
    ∧ (prodWith .null).path? = none ∧ (shopWith .null).database = "warehouse.duckdb"
    ∧ ((activation (some "prod") ⟨"", ["shop", "project.yml"]⟩).run.run
        (shopWith .null)).2.database = "None" :=
  ⟨isRead_shopWith _, rfl, rfl, rfl, rfl⟩

end Project

end SqlPipeline
