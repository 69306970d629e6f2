/-
  SqlPipeline/Storage/Connection.lean
  ===================================
  **A connection to a database, which is open or not.**

  Nothing but connecting and closing changes whether it is open.  Errors of the driver
  are wrapped in the words of the operation, except those of closing.
-/
import SqlPipeline.Storage.Adapter
import SqlPipeline.Identifier
import SqlPipeline.Decimal.Arithmetic

namespace SqlPipeline.Storage

/-- A connection, with the driver's state. -/
structure Connection (δ : Type) where
  path : String := ":memory:"
  readOnly : Bool := false
  isOpen : Bool := false
  driver : δ

abbrev Operation (δ α : Type) := ExceptT Fault (StateM (Connection δ)) α

namespace Connection

variable {δ α : Type}

/-! ### Calls of the driver -/

/-- Calls the driver; `wrap` turns its error into a fault. -/
def callDriver (wrap : String → Fault) (call : Call δ α) : Operation δ α := do
  let c ← get
  let (result, driver) := call.run.run c.driver
  set { c with driver := driver }
  match result with
  | .ok a => return a
  | .error (.error message) => throw (wrap message)
  | .error (.crash message) => throw (.escaped (.crash message))

def failing (what : String) (message : String) : Fault :=
  .storage ("failed to " ++ what ++ ": " ++ message)

/-- Fails unless the connection is open. -/
def requireOpen : Operation δ Unit := do
  if (← get).isOpen then return () else throw (.storage "database is not connected")

/-- Goes through with an operation and gives its result, be it a failure or not. -/
def settled {σ ε ε' : Type} (op : ExceptT ε (StateM σ) α) : ExceptT ε' (StateM σ) (Except ε α) :=
  ExceptT.mk do return .ok (← op.run)

/-! ### Opening and closing -/

/-- What is executed as soon as a connection has been opened: progress would be shown
    between the lines of the program. -/
def firstStatement : String :=
  "SET enable_progress_bar = false"

/-- Opens the connection, unless it is open. -/
def connect (d : Driver δ) : Operation δ Unit := do
  let c ← get
  if c.isOpen then return ()
  else
    let wrap := failing ("open database " ++ c.path)
    callDriver wrap (d.connect c.path c.readOnly)
    let _ ← callDriver wrap (d.execute firstStatement none)
    modify fun c => { c with isOpen := true }

def close (d : Driver δ) : Operation δ Unit := do
  if (← get).isOpen then
    callDriver (fun message => .escaped (.driver message)) d.close
    modify fun c => { c with isOpen := false }
  else return ()

/-- Goes through with an operation on an open connection, and closes it afterwards, also
    when the operation fails. -/
def whileOpen (d : Driver δ) (body : Operation δ α) : Operation δ α := do
  connect d
  let result ← settled body
  close d
  match result with
  | .ok a => return a
  | .error fault => throw fault

/-! ### Statements -/

def executeStatement (d : Driver δ) (sql : String) : Operation δ Unit := do
  requireOpen
  let _ ← callDriver (failing "execute DDL") (d.execute sql none)
  return ()

def parameters (args : List Data) : Option (List Data) :=
  if args.isEmpty then none else some args

/-- Rows of a query with the names of their columns. -/
structure QueryResult where
  columns : List String := []
  rows : List (List Data) := []
  affected : Nat := 0

def query (d : Driver δ) (sql : String) (args : List Data) : Operation δ QueryResult := do
  requireOpen
  let cursor ← callDriver (failing "execute query") (d.execute sql (parameters args))
  return ⟨cursor.columns.getD [], cursor.rows, cursor.rows.length⟩

def createTableAs (d : Driver δ) (table select : String) : Operation δ Unit :=
  executeStatement d ("CREATE TABLE " ++ table ++ " AS " ++ select)

def createView (d : Driver δ) (view select : String) : Operation δ Unit :=
  executeStatement d ("CREATE VIEW " ++ view ++ " AS " ++ select)

/-- Creates the schemas that are missing; empty names are passed over. -/
def ensureSchemas (d : Driver δ) : List String → Operation δ Unit
  | [] => return ()
  | schema :: rest => do
      if !schema.isEmpty then executeStatement d ("CREATE SCHEMA IF NOT EXISTS " ++ schema)
      ensureSchemas d rest

/-! ### What is there -/

/-- A condition that picks one table of the current database, with its parameters; a name
    without a schema means the current schema. -/
def tableFilter (table : String) : String × List Data :=
  let (schema, name) := splitQualified table
  let condition := "table_name = ? AND table_catalog = current_database()"
  if schema.isEmpty then (condition ++ " AND table_schema = current_schema()", [.text name])
  else (condition ++ " AND table_schema = ?", [.text name, .text schema])

def isPositive (count : Data) : Except Escape Bool :=
  match count with
  | .int n => .ok (0 < n)
  | .bool b => .ok b
  | .float x => .ok (0.0 < x)
  | other =>
      .error (.wrongKind s!"'>' not supported between instances of '{other.kindName}' and 'int'")

/-- Whether the rows of a count say that there is something. -/
def countedSome : List (List Data) → Except Escape Bool
  | [] => .ok false
  | [] :: _ => .ok false
  | (count :: _) :: _ => isPositive count

def tableExists (d : Driver δ) (table : String) : Operation δ Bool := do
  let (condition, args) := tableFilter table
  requireOpen
  let cursor ← callDriver (failing "check table existence")
    (d.execute ("SELECT COUNT(*) FROM information_schema.tables WHERE " ++ condition
      ++ " AND table_type = 'BASE TABLE'") (some args))
  match countedSome cursor.rows with
  | .ok b => return b
  | .error e => throw (.escaped e)

structure Column where
  name : Data
  type : Data
  nullable : Bool := true
  primaryKey : Bool := false

structure TableSchema where
  table : String
  columns : List Column := []

def TableSchema.names (t : TableSchema) : List Data :=
  t.columns.map (·.name)

def columnOf (row : List Data) : Except Escape Column :=
  match row with
  | [name, type, nullable] => .ok ⟨name, type, Data.same nullable (.text "YES"), false⟩
  | row =>
      if row.length < 3 then
        .error (.wrongShape s!"not enough values to unpack (expected 3, got {row.length})")
      else .error (.wrongShape "too many values to unpack (expected 3)")

def tableSchema (d : Driver δ) (table : String) : Operation δ TableSchema := do
  if ← tableExists d table then
    let (condition, args) := tableFilter table
    let cursor ← callDriver (failing "get table schema")
      (d.execute ("SELECT column_name, data_type, is_nullable FROM information_schema.columns WHERE "
        ++ condition ++ " ORDER BY ordinal_position") (some args))
    match cursor.rows.mapM columnOf with
    | .ok columns => return ⟨table, columns⟩
    | .error e => throw (.escaped e)
  else throw (.storage ("table " ++ Text.quoted table ++ " does not exist"))

/-! ### The connection as a store -/

def perform (op : Operation δ α) (c : Connection δ) : Except Fault α × Connection δ :=
  op.run.run c

def statementNote (sql : String) : Log.Entry :=
  ⟨.debug, "dagsql.database", "Executing: " ++ sql⟩

def adapter (d : Driver δ) : Adapter (Connection δ) where
  execute sql c := perform (executeStatement d sql) c
  tableExists name c := perform (tableExists d name) c
  notes sql := [statementNote sql]

end Connection

end SqlPipeline.Storage
