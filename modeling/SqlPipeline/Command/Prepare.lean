/-
  SqlPipeline/Command/Prepare.lean
  ================================
  **What the commands for a project begin with: finding, loading and compiling it.**
-/
import SqlPipeline.Command.Basic
import SqlPipeline.Command.Desk

namespace SqlPipeline

namespace Task

variable {δ : Type}

def projectDirectory (place : Command.Place) : Task δ Path := do
  let files := (← get).files
  match place.project with
  | some directory =>
      if ← orRaise .file (files.contains (Project.fileIn directory)) then return directory
      else giveUp s!"No {Project.fileName} found in {directory.text}"
  | none =>
      match ← orRaise .file (Project.directoryFrom? files files.homePath) with
      | some directory => return directory
      | none => giveUp s!"No {Project.fileName} found in {files.homePath.text} or its parents"

/-- Loads the project that is meant; this sets variables. -/
def loadProject (place : Command.Place) : Task δ Project := do
  let directory ← projectDirectory place
  let desk ← get
  let (environment, result) := Project.load desk.files desk.environment directory place.target
  set { desk with environment := environment }
  match result with
  | .ok project => return project
  | .error e => if e.isConfiguration then giveUp e.message else throw (.raised (.project e))

/-- The selected models, compiled, and the settings as their templates leave them. -/
def compiled (files : FileTree) (environment : Environment) (project : Project)
    (select : Option String) (fullRefresh : Bool) (found : Except FilesError (List Model)) :
    Except Problem (List Model × Context) := do
  let seeds ← (Seed.discover files project.schemaOfSeeds project.seedDirectories).mapError .seeds
  let context := project.context (Seed.tableNames seeds)
  let models ← found.mapError .models
  let (models, context) ← (Model.compileAll models context environment fullRefresh).mapError .compile
  match select with
  | none | some "" => return (models, context)
  | some names =>
      let names := (Text.splitAt ',' names.toList).map String.ofList
      return (← (Model.select models names).mapError .selection, context)

def compileProject (project : Project) (select : Option String) (fullRefresh : Bool) :
    Task δ (List Model × Context) := do
  let desk ← get
  let (found, notes) := Model.discover desk.files project.modelDirectories
  note notes
  blamingModels (compiled desk.files desk.environment project select fullRefresh found)

def sayNoModels : Task δ Unit :=
  say "[yellow]No models found in model paths[/yellow]"

end Task

end SqlPipeline
