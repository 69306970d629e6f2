/-
  SqlPipeline/Project/Settings.lean
  =================================
  **The settings of a project.**

  Most settings have a default.  A project may have targets, each of which replaces some
  settings; at most one of them is active.
-/
import SqlPipeline.Project.Checked
import SqlPipeline.Context
import SqlPipeline.Path

namespace SqlPipeline

/-- Settings that replace those of the project while the target is active. -/
structure Target where
  database : Entries Data := []        -- of which only the path counts
  schema : Option String := none
  vars : Entries Data := []
deriving Inhabited

structure Project where
  name : String := "default"
  version : String := "1.0"
  schema : String := ""
  database : String := "warehouse.duckdb"        -- the path, seen from the project
  modelPaths : List String := ["models"]
  seedPaths : List String := ["seeds"]
  seedSchema : String := ""
  vars : Entries Data := []
  config : Entries Data := []
  sources : Entries (Entries String) := []       -- full names of tables, by source and table
  targets : Entries Target := []
  activeTarget : Option String := none
  directory : Path
deriving Inhabited

/-! ### From data -/

namespace Target

def ofData (d : Data) : Checked Target :=
  match d with
  | .map _ => do
      let (database, schema, vars) ← Checked.both
        (Checked.field ["database"] (Checked.mapOf Checked.any) [] d)
        (Checked.both
          (Checked.field ["schema", "schema_name"] Checked.text? none d)
          (Checked.field ["vars"] (Checked.mapOf Checked.any) [] d))
      return ⟨database, schema, vars⟩
  | _ => Checked.mismatch (.record "TargetConfig")

end Target

namespace Project

def databaseOf (default : String) (d : Data) : Checked String :=
  match d with
  | .map _ => Checked.field ["path"] Checked.text default d
  | _ => Checked.mismatch (.record "DatabaseConfig")

/-- Reads the settings of the project in a directory; names and defaults are those of
    `Project`. -/
def ofData (directory : Path) (d : Data) : Checked Project := do
  let base : Project := { directory := directory }
  let text (names : List String) (default : String) := Checked.field names Checked.text default d
  let texts (names : List String) (default : List String) :=
    Checked.field names (Checked.listOf Checked.text) default d
  let values (names : List String) := Checked.field names (Checked.mapOf Checked.any) [] d
  let ((name, version, schema, database, modelPaths, seedPaths, seedSchema), vars, config, sources,
      targets, activeTarget) ←
    Checked.both
      (Checked.both (text ["name"] base.name) <|
        Checked.both (text ["version"] base.version) <|
        Checked.both (text ["schema", "schema_name"] base.schema) <|
        Checked.both (Checked.field ["database"] (databaseOf base.database) base.database d) <|
        Checked.both (texts ["model-paths", "model_paths"] base.modelPaths) <|
        Checked.both (texts ["seed-paths", "seed_paths"] base.seedPaths)
          (text ["seed-schema", "seed_schema"] base.seedSchema))
      (Checked.both (values ["vars"]) <|
        Checked.both (values ["config", "config_values"]) <|
        Checked.both
          (Checked.field ["sources"] (Checked.mapOf (Checked.mapOf Checked.text)) [] d) <|
        Checked.both (Checked.field ["targets"] (Checked.mapOf Target.ofData) [] d)
          (Checked.field ["active_target"] Checked.text? none d))
  return ⟨name, version, schema, database, modelPaths, seedPaths, seedSchema, vars, config, sources,
    targets, activeTarget, directory⟩

/-! ### Targets -/

def usualTarget : String := "dev"

/-- The target to activate: the one that is asked for, else the usual one if there is such. -/
def targetFor (p : Project) (asked : Option String) : Option String :=
  match asked with
  | some name => some name
  | none => if (p.targets.find? usualTarget).isSome then some usualTarget else none

def withTarget (p : Project) (name : String) (t : Target) : Project :=
  { p with
    database := match Entries.find? t.database "path" with
      | some path => path.plain
      | none => p.database
    schema := t.schema.getD p.schema
    vars := Entries.overlay p.vars t.vars
    activeTarget := some name }

/-- Activates a target; fails with its name when there is no such target. -/
def activate (p : Project) (asked : Option String) : Except String Project :=
  match p.targetFor asked with
  | none => .ok p
  | some name =>
      match p.targets.find? name with
      | some t => .ok (p.withTarget name t)
      | none => .error name

/-! ### Places -/

def modelDirectories (p : Project) : List Path :=
  p.modelPaths.map fun s => p.directory.join (.ofText s)

def seedDirectories (p : Project) : List Path :=
  p.seedPaths.map fun s => p.directory.join (.ofText s)

/-- The schema of seed tables: their own, else that of the project. -/
def schemaOfSeeds (p : Project) : String :=
  if p.seedSchema.isEmpty then p.schema else p.seedSchema

/-- The path of the database; a database in memory and an absolute path stay as they are. -/
def databasePath (p : Project) : String :=
  if p.database == ":memory:" || (Path.ofText p.database).isAbsolute then p.database
  else (p.directory.join (.ofText p.database)).text

def context (p : Project) (seeds : Entries String) : Context :=
  { schema := p.schema
    vars := p.vars
    config := p.config
    sources := p.sources
    seeds := seeds }

end Project

end SqlPipeline
