/-
  SqlPipeline/Command/Desk.lean
  =============================
  **Where commands are carried out: files, variables, a database and a console.**

  What can go wrong in the parts of the program comes together as a problem.  A command is a
  task.  It changes the desk, and it ends by itself, or before its end with an exit code or a
  problem.
-/
import SqlPipeline.Command.Usage
import SqlPipeline.Console.Layout
import SqlPipeline.Console.Markup
import SqlPipeline.FileTree
import SqlPipeline.Graph.Basic
import SqlPipeline.Log.Setup
import SqlPipeline.Model.Compile
import SqlPipeline.Model.Select
import SqlPipeline.Project.Load
import SqlPipeline.Seed.Load

namespace SqlPipeline

open Storage

/-! ### Problems -/

/-- What can go wrong while a command is carried out. -/
inductive Problem where
  | project (e : ProjectError)
  | seeds (e : SeedError)
  | models (e : FilesError)
  | compile (e : CompileError)
  | selection (e : NoSuchModel)
  | graph (e : GraphError)
  | store (f : Storage.Fault)
  | file (e : FileError)
  | markup (e : Console.MarkupError)     -- in a text that is to be printed
  | level (e : Log.NoLevel)

namespace Problem

def message : Problem → String
  | project e => e.message
  | seeds e => e.message
  | models e => e.message
  | compile e => e.message
  | selection e => e.message
  | graph e => e.message
  | store f => f.message
  | file e => e.message
  | markup e => e.message
  | level e => e.message

def ofSeedFault : SeedFault → Problem
  | .store f => store f
  | .file e => file e

/-- Whether the models of a project or the files that define them are to blame; then the
    message is told, and the command ends in good order. -/
def isFaultOfModels : Problem → Bool
  | seeds (.name _) => true
  | seeds (.file e) | models (.file e) => !e.isSystem
  | models _ | selection _ => true
  | compile e => e.isReported
  | _ => false

end Problem

/-! ### Tasks -/

/-- What a command sees and changes. -/
structure Desk (δ : Type) where
  files : FileTree
  environment : Environment := []
  connection : Connection δ
  pictures : Console.Emoji.Table := fun _ => none
  printed : List String := []        -- each followed by the end of a line
  log : List Log.Entry := []
  logging : Log.Setup := {}

/-- Why a command ends before its end. -/
inductive Stop where
  | exit (code : Nat)
  | usage (notice : Usage)
  | raised (problem : Problem)

def Stop.code : Stop → Nat
  | exit code => code
  | usage notice => notice.code
  | raised _ => 1

abbrev Task (δ α : Type) := ExceptT Stop (StateM (Desk δ)) α

namespace Task

variable {δ α : Type}

def orRaise {ε : Type} (problem : ε → Problem) : Except ε α → Task δ α
  | .ok a => return a
  | .error e => throw (.raised (problem e))

/-! ### The console -/

def sayPlain (s : String) : Task δ Unit :=
  modify fun desk => { desk with printed := desk.printed ++ [Console.printed s] }

def say (s : String) : Task δ Unit := do
  let desk ← get
  let shown ← orRaise .markup (Console.Markup.shown desk.pictures s)
  sayPlain shown

def sayError (message : String) : Task δ Unit :=
  say ("[red]" ++ message ++ "[/red]")

/-- Prints an error message in which brackets have no meaning. -/
def sayErrorAsIs (message : String) : Task δ Unit :=
  sayError (Console.Markup.escape message)

def sayTable (t : Console.Table) : Task δ Unit :=
  sayPlain ("\n".intercalate t.lines)

def note (entries : List Log.Entry) : Task δ Unit :=
  modify fun desk => { desk with log := desk.log ++ entries }

def giveUp (message : String) : Task δ α := do
  sayError message
  throw (.exit 1)

def blamingModels (result : Except Problem α) : Task δ α :=
  match result with
  | .ok a => return a
  | .error problem =>
      if problem.isFaultOfModels then giveUp problem.message else throw (.raised problem)

/-! ### Files -/

/-- Takes steps; where one fails, the command ends. -/
def changeFiles (steps : List FileStep) : Task δ Unit := do
  let desk ← get
  let (files, failure) := desk.files.take steps
  set { desk with files := files }
  match failure with
  | none => return ()
  | some e => throw (.raised (.file e))

/-! ### The database -/

def withConnection {ε : Type} (problem : ε → Problem) (op : ExceptT ε (StateM (Connection δ)) α) :
    Task δ α := do
  let desk ← get
  let (result, connection) := op.run.run desk.connection
  set { desk with connection := connection }
  orRaise problem result

/-- Goes through with a task on an open connection to the database at a path, and closes it
    afterwards, also when the task fails. -/
def whileOpen (d : Driver δ) (path : String) (body : Task δ α) : Task δ α := do
  modify fun desk => { desk with connection := { path := path, driver := desk.connection.driver } }
  withConnection .store (Connection.connect d)
  let result ← Connection.settled body
  withConnection .store (Connection.close d)
  match result with
  | .ok a => return a
  | .error stop => throw stop

/-- Goes through with a task; where the store refuses something, tells so and gives `instead`. -/
def unlessRefused (instead : α) (body : Task δ α) : Task δ α := do
  match ← (Connection.settled body : Task δ (Except Stop α)) with
  | .ok a => return a
  | .error (.raised (.store (.storage message))) =>
      sayErrorAsIs message
      return instead
  | .error stop => throw stop

end Task

end SqlPipeline
