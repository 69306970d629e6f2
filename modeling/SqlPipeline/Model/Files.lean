/-
  SqlPipeline/Model/Files.lean
  ============================
  **The models that the files of a project define.**

  Every file below a model directory whose name ends in `.sql` is a model, named by the
  file.  Its leading comments hold its settings, and the rest is its template.
-/
import SqlPipeline.FileTree
import SqlPipeline.Identifier
import SqlPipeline.Model
import SqlPipeline.Sql.Header
import SqlPipeline.Log

namespace SqlPipeline

open Text

/-- Why the files do not define models. -/
inductive FilesError where
  | name (e : Identifier.Invalid)
  | duplicate (id first second : String)         -- the paths of two files
  | settings (path : Path) (e : MaterializationError)
  | file (e : FileError)
deriving Repr

def FilesError.message : FilesError → String
  | name e => e.message
  | duplicate id first second => s!"duplicate model {quoted id}: {first} and {second}"
  | settings path e => s!"invalid config in {path.text}: {e.message}"
  | file e => e.message

namespace FileTree

def hasSuffix (suffix : String) (name : String) : Bool :=
  suffix.toList.isSuffixOf name.toList

/-- Everything below a directory, at any depth, whose name has a suffix, in the order of
    paths; nothing where there is no directory. -/
def allBelow (t : FileTree) (suffix : String) (directory : Path) : List Path :=
  match t.locate directory with
  | .error _ => []
  | .ok parts =>
      if t.node? parts != some .directory then []
      else
        let found := (t.nodesBelow parts).filterMap fun (below, _) =>
          if hasSuffix suffix (below.getLast?.getD "") then
            some (⟨directory.root, directory.parts ++ below⟩ : Path)
          else none
        found.mergeSort Path.le

def allIn (t : FileTree) (suffix : String) (directory : Path) : List Path :=
  (t.allBelow suffix directory).filter fun p => p.parts.length == directory.parts.length + 1

end FileTree

namespace Model

def suffix : String := ".sql"

/-- The model that a file defines; `earlier` are the paths of the models before it. -/
def ofFile (files : FileTree) (earlier : Entries String) (path : Path) : Except FilesError Model := do
  let id ← (Identifier.validate path.stem s!"model name for {path.name}").mapError .name
  match earlier.find? id with
  | some first => throw (.duplicate id first path.text)
  | none => pure ()
  let text ← (files.readText path).mapError .file
  let materialization ← (Sql.materialization text).mapError (.settings path)
  return { id := id
           path := path.text
           sql := ""
           template := Sql.query text
           materialization := materialization
           dependencies := []
           metadata := [] }

def ofFiles (files : FileTree) (earlier : Entries String) : List Path → Except FilesError (List Model)
  | [] => .ok []
  | path :: rest => do
      let m ← ofFile files earlier path
      return m :: (← ofFiles files (Entries.insert m.id m.path earlier) rest)

def note (message : String) : Log.Entry :=
  ⟨.debug, "dagsql.compiler", message⟩

/-- The models of some directories, those that are not there being skipped with a note. -/
def ofDirectories (files : FileTree) (earlier : Entries String) :
    List Path → Except FilesError (List Model) × List Log.Entry
  | [] => (.ok [], [])
  | directory :: rest =>
      match files.contains directory with
      | .error e => (.error (.file e), [])
      | .ok false =>
          let (result, notes) := ofDirectories files earlier rest
          (result, note s!"Model directory {directory.text} does not exist, skipping" :: notes)
      | .ok true =>
          match ofFiles files earlier (files.allBelow suffix directory) with
          | .error e => (.error e, [])
          | .ok models =>
              let paths := models.map fun m => (m.id, m.path)
              let (result, notes) := ofDirectories files (Entries.overlay earlier paths) rest
              (result.map (models ++ ·), notes)

def discover (files : FileTree) (directories : List Path) :
    Except FilesError (List Model) × List Log.Entry :=
  match ofDirectories files [] directories with
  | (.ok models, notes) => (.ok models, notes ++ [note s!"Discovered {models.length} model(s)"])
  | (.error e, notes) => (.error e, notes)

end Model

end SqlPipeline
