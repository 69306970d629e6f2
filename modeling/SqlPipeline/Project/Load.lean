/-
  SqlPipeline/Project/Load.lean
  =============================
  **Loading a project from its directory.**

  The file `.env` sets variables, and after that placeholders for variables are replaced
  in the settings of `project.yml`.  Without that file the project has its defaults.
-/
import SqlPipeline.FileTree
import SqlPipeline.Identifier
import SqlPipeline.Project.Environment
import SqlPipeline.Project.Settings
import SqlPipeline.Yaml.Read

namespace SqlPipeline

open Text

/-- Why a project cannot be loaded. -/
inductive ProjectError where
  | file (e : FileError)
  | environment (e : EnvironmentError)
  | yaml (path : Path) (fault : Yaml.Fault)
  | noMap (path : Path)
  | mismatches (path : Path) (found : List Mismatch)
  | unknownTarget (name : String) (path : Path) (available : List String)
  | schema (e : Identifier.Invalid)

namespace ProjectError

def message : ProjectError → String
  | file e => e.message
  | environment e => e.message
  | yaml path .malformed => "invalid YAML in " ++ path.text
  | yaml _ fault => fault.message
  | noMap path => path.text ++ " must contain a mapping"
  | mismatches path _ => "invalid configuration in " ++ path.text
  | unknownTarget name path available =>
      let names := if available.isEmpty then "none defined" else ", ".intercalate available
      s!"unknown target {quoted name} in {path.text} (available: {names})"
  | schema e => e.message

/-- Whether the settings are to blame, and not the files or the variables. -/
def isConfiguration : ProjectError → Bool
  | file _ | environment _ => false
  | yaml _ .malformed => true
  | yaml _ _ => false
  | noMap _ | mismatches _ _ | unknownTarget _ _ _ | schema _ => true

end ProjectError

namespace Environment

def fileIn (directory : Path) : Path :=
  directory.child ".env"

/-- Sets the variables of the file in a directory, if there is one; gives them, each with the
    last of its values. -/
def load (files : FileTree) (directory : Path) (env : Environment) :
    Environment × Except ProjectError (Entries String) :=
  match files.contains (fileIn directory) with
  | .error e => (env, .error (.file e))
  | .ok false => (env, .ok [])
  | .ok true =>
      match files.readText (fileIn directory) with
      | .error e => (env, .error (.file e))
      | .ok text =>
          match env.setAll (settings text) with
          | (env, .ok ()) => (env, .ok (Entries.overlay [] (settings text)))
          | (env, .error e) => (env, .error (.environment e))

end Environment

namespace Project

def fileName : String := "project.yml"

def fileIn (directory : Path) : Path :=
  directory.child fileName

/-- The first directory with a project file, from a place upward. -/
def directoryFrom? (files : FileTree) (start : Path) : Except FileError (Option Path) :=
  upward (files.resolve start).parts.length (files.resolve start)
where
  upward : Nat → Path → Except FileError (Option Path)
    | levels, p => do
        if ← files.contains (fileIn p) then return some p
        match levels with
        | 0 => return none
        | levels + 1 => upward levels p.parent

/-! ### Settings -/

/-- Settings with a name: the name of the directory where they give none. -/
def named (directory : Path) (entries : List (Data × Data)) : Data :=
  if (Data.find? entries (.text "name")).isSome then .map entries
  else .map (entries ++ [(.text "name", .text directory.name)])

def settingsOf (path : Path) (env : Environment) (text : String) :
    Except ProjectError (List (Data × Data)) := do
  let data ← (Yaml.read text).mapError (.yaml path)
  if !data.isTruthy then return []
  match env.expand data with
  | .map entries => return entries
  | _ => throw (.noMap path)

/-- Activates a target of the project whose settings come from a file. -/
def activated (p : Project) (path : Path) (asked : Option String) : Except ProjectError Project :=
  (p.activate asked).mapError fun name =>
    .unknownTarget name path
      ((p.targets.names.mergeSort fun a b => Path.leChars a.toList b.toList))

def checkSchema (label schema : String) : Except ProjectError Unit :=
  if schema.isEmpty then .ok ()
  else (Identifier.validate schema label).mapError .schema |>.map fun _ => ()

def ofText (directory : Path) (env : Environment) (target : Option String) (text : String) :
    Except ProjectError Project := do
  let path := fileIn directory
  let entries ← settingsOf path env text
  let p ← (ofData directory (named directory entries)).mapError (.mismatches path)
  let p ← p.activated path target
  checkSchema "schema" p.schema
  checkSchema "seed-schema" p.seedSchema
  return p

/-- Loads the project in a directory; variables are set even when that fails. -/
def load (files : FileTree) (env : Environment) (directory : Path) (target : Option String) :
    Environment × Except ProjectError Project :=
  match env.load files directory with
  | (env, .error e) => (env, .error e)
  | (env, .ok _) =>
      let path := fileIn directory
      (env, do
        if ← (files.contains path).mapError .file then
          let text ← (files.readText path).mapError .file
          ofText directory env target text
        else
          let p : Project := { name := directory.name, directory := directory }
          p.activated path target)

end Project

end SqlPipeline
