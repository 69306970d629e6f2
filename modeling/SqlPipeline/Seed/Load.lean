/-
  SqlPipeline/Seed/Load.lean
  ==========================
  **Seeds: files of comma-separated values that are loaded into tables.**

  A seed is loaded in place of what its table held.
-/
import SqlPipeline.Model.Files
import SqlPipeline.Sql.Literal
import SqlPipeline.Storage.Connection

namespace SqlPipeline

open Storage

/-! ### Finding seeds -/

/-- A file that is loaded into a table. -/
structure Seed where
  path : Path
  name : String
  schema : String := ""
deriving Repr, DecidableEq

/-- Why the files do not define seeds. -/
inductive SeedError where
  | name (e : Identifier.Invalid)
  | file (e : FileError)
deriving Repr

def SeedError.message : SeedError → String
  | name e => e.message
  | file e => e.message

namespace Seed

def fullName (s : Seed) : String :=
  qualify s.schema s.name

def suffix : String := ".csv"

def ofFile (schema : String) (path : Path) : Except SeedError Seed := do
  let name ← (Identifier.validate path.stem s!"seed name for {path.name}").mapError .name
  return ⟨path, name, schema⟩

/-- The seeds of some directories, those that are not there being skipped. -/
def discover (files : FileTree) (schema : String) : List Path → Except SeedError (List Seed)
  | [] => .ok []
  | directory :: rest => do
      if ← (files.contains directory).mapError .file then
        let seeds ← (files.allIn suffix directory).mapM (ofFile schema)
        return seeds ++ (← discover files schema rest)
      else discover files schema rest

/-- The full names of tables by the names of their seeds; of two with a name the later
    counts. -/
def tableNames (seeds : List Seed) : Entries String :=
  seeds.foldl (fun acc s => Entries.insert s.name s.fullName acc) []

end Seed

/-! ### Loading seeds -/

/-- Why a seed cannot be loaded. -/
inductive SeedFault where
  | store (f : Fault)
  | file (e : FileError)

def SeedFault.message : SeedFault → String
  | store f => f.message
  | file e => e.message

namespace Seed

variable {δ : Type}

def query (s : Seed) : String :=
  "SELECT * FROM read_csv_auto(" ++ Sql.Literal.write s.path.text ++ ", header=true, all_varchar=false)"

/-- The number of rows as the first row of an answer gives it. -/
def countIn (rows : List (List Data)) : Except Escape Data :=
  match rows with
  | [] => .ok (.int 0)
  | (count :: _) :: _ => .ok count
  | [] :: _ => .error .noColumn

/-- Loads a seed; gives the number of rows.  A file of nothing but white space has no
    columns, so its table gets one that stands for that. -/
def load (d : Driver δ) (files : FileTree) (s : Seed) : ExceptT SeedFault (StateM (Connection δ)) Data := do
  let send (sql : String) : ExceptT SeedFault (StateM (Connection δ)) Unit :=
    (Connection.executeStatement d sql).adapt .store
  if !s.schema.isEmpty then send ("CREATE SCHEMA IF NOT EXISTS " ++ s.schema)
  send ("DROP TABLE IF EXISTS " ++ s.fullName)
  match files.readTextLossy s.path with
  | .error e => throw (.file e)
  | .ok text =>
      if Text.isAllBlank text then
        send ("CREATE TABLE " ++ s.fullName ++ " (empty_file BOOLEAN)")
        return .int 0
      else
        (Connection.createTableAs d s.fullName s.query).adapt .store
        let counted ← (Connection.query d ("SELECT COUNT(*) FROM " ++ s.fullName) []).adapt .store
        match countIn counted.rows with
        | .ok count => return count
        | .error e => throw (.store (.escaped e))

/-- A number of rows with a comma after every three digits. -/
def countText (count : Data) : Except Escape String :=
  match count with
  | .int n => .ok (Decimal.groupedText (Decimal.intText n))
  | .bool b => .ok (Decimal.intText (Data.boolNumber b))
  | .float x => .ok (Decimal.groupedText (Decimal.floatText x))
  | .text _ => .error (.wrongShape "Cannot specify ',' with 's'.")
  | .date _ | .moment _ => .ok ","
  | other => .error (.wrongKind s!"unsupported format string passed to {other.kindName}.__format__")

end Seed

end SqlPipeline
