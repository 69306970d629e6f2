/-
  SqlPipeline/Materialization.lean
  ================================
  **How the result of a query is kept in the database.**

  A query is kept as a view, as a table, or as a table that grows: rows whose keys are
  among the new ones are deleted, and then all new rows are inserted.  A strategy turns
  a query into the statements that do this; nothing is executed here.
-/
import SqlPipeline.Identifier
import SqlPipeline.Text.CharSet
import SqlPipeline.Text.Case

namespace SqlPipeline

open Text

/-- The ways to keep the result of a query. -/
inductive Strategy where
  | view
  | table
  | incremental
deriving Repr, DecidableEq

/-- Why a query cannot be kept. -/
inductive MaterializationError where
  | blankName
  | blankQuery
  | missingKey
  | unknownTag (tag : String)
deriving Repr, DecidableEq

def MaterializationError.message : MaterializationError → String
  | blankName => "model name cannot be empty"
  | blankQuery => "compiled SQL cannot be empty"
  | missingKey => "unique key is required for incremental materialization"
  | unknownTag tag => "unknown materialization type: " ++ quoted tag

namespace Strategy

def tag : Strategy → String
  | view => "view"
  | table => "table"
  | incremental => "incremental"

def ofTag? (tag : String) : Option Strategy :=
  [view, table, incremental].find? fun strategy => strategy.tag == tag

theorem ofTag?_tag (strategy : Strategy) : ofTag? strategy.tag = some strategy := by
  cases strategy <;> decide

theorem tag_of_ofTag? {tag : String} {strategy : Strategy} (h : ofTag? tag = some strategy) :
    strategy.tag = tag := by
  have := List.find?_some h
  simpa using this

def ofTag (tag : String) : Except MaterializationError Strategy :=
  match ofTag? tag with
  | some strategy => .ok strategy
  | none => .error (.unknownTag tag)

def parse (written : String) : Except MaterializationError Strategy :=
  match ofTag? (.ofList (lower (trim written.toList))) with
  | some strategy => .ok strategy
  | none => .error (.unknownTag written)

end Strategy

structure Materialization where
  tag : Option String := some Strategy.table.tag   -- nothing and the empty text mean a table
  uniqueKey : List String := []                    -- columns that identify a row
  fullRefresh : Bool := false                      -- build an incremental table from scratch
  preHooks : List String := []
  postHooks : List String := []
deriving Repr, DecidableEq, Inhabited

namespace Materialization

def isIncremental (m : Materialization) : Bool :=
  m.tag == some Strategy.incremental.tag

/-- Whether a run adds to what is there and does not build from scratch. -/
def isIncrementalRun (m : Materialization) : Bool :=
  m.isIncremental && !m.fullRefresh

def tagName (m : Materialization) : String :=
  match m.tag with
  | none => Strategy.table.tag
  | some tag => if tag.isEmpty then Strategy.table.tag else tag

def strategy (m : Materialization) : Except MaterializationError Strategy :=
  Strategy.ofTag m.tagName

end Materialization

/-! ### Statements -/

/-- A statement that a strategy makes. -/
inductive Statement where
  | dropView (name : String)
  | createView (name query : String)
  | dropTable (name : String)
  | createTable (name query : String)
  | stage (temp query : String)                     -- a temporary table from a query
  | createLike (name temp : String)                 -- an empty table of the same columns, if absent
  | deleteMatching (name temp : String) (key : List String)
  | insertAll (name temp : String)
  | dropStage (temp : String)
deriving Repr, DecidableEq

namespace Statement

def keysMatch (name temp : String) (key : List String) : String :=
  " AND ".intercalate (key.map fun column => s!"{name}.{column} = {temp}.{column}")

def text : Statement → String
  | dropView name => s!"DROP VIEW IF EXISTS {name}"
  | createView name query => s!"CREATE VIEW {name} AS {query}"
  | dropTable name => s!"DROP TABLE IF EXISTS {name}"
  | createTable name query => s!"CREATE TABLE {name} AS {query}"
  | stage temp query => s!"CREATE OR REPLACE TEMP TABLE {temp} AS {query}"
  | createLike name temp => s!"CREATE TABLE IF NOT EXISTS {name} AS SELECT * FROM {temp} WHERE 1=0"
  | deleteMatching name temp key =>
      s!"DELETE FROM {name} WHERE EXISTS (SELECT 1 FROM {temp} WHERE " ++ keysMatch name temp key ++ ")"
  | insertAll name temp => s!"INSERT INTO {name} SELECT * FROM {temp}"
  | dropStage temp => s!"DROP TABLE {temp}"

end Statement

namespace Strategy

/-- What is put behind a table's own name to name its temporary table, which has no schema. -/
def stageSuffix : String := "__tmp"

def stageName (name : String) : String :=
  (splitQualified name).2 ++ stageSuffix

def rebuild (name query : String) : List Statement :=
  [.dropTable name, .createTable name query]

/-- Replaces the rows that have a key among the new ones, and adds the others. -/
def merge (name query : String) (key : List String) : List Statement :=
  let temp := stageName name
  [.stage temp query, .createLike name temp, .deleteMatching name temp key, .insertAll name temp,
    .dropStage temp]

/-- The statements that keep the result of `query` under `name`. -/
def plan (strategy : Strategy) (name query : String) (m : Materialization) :
    Except MaterializationError (List Statement) :=
  if isAllBlank name then .error .blankName
  else if isAllBlank query then .error .blankQuery
  else
    match strategy with
    | view => .ok [.dropView name, .createView name query]
    | table => .ok (rebuild name query)
    | incremental =>
        if m.uniqueKey.isEmpty then .error .missingKey
        else if m.fullRefresh then .ok (rebuild name query)
        else .ok (merge name query m.uniqueKey)

def statements (strategy : Strategy) (name query : String) (m : Materialization) :
    Except MaterializationError (List String) :=
  (strategy.plan name query m).map (·.map Statement.text)

end Strategy

end SqlPipeline
