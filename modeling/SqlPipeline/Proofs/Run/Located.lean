/-
  SqlPipeline/Proofs/Run/Located.lean
  ===================================
  **The table that is asked for is the table that is written.**

  The name of a model's table is put together once, from the schema and the model's id, and is
  taken apart in two other places: where the catalogue is asked for the table, and where the
  temporary table of a merge is named.  An id has no dot, so the parts are always the schema
  and the id, however many dots there are in the schema (`located`).

  The query for the catalogue is a list of conditions on its columns, written one after the
  other, with the values that are given handed over beside the text in the order of their
  question marks.  Read as conditions it picks one table (`meets_pickingTable_iff`), and it is
  all that the driver gets when a connection is asked for that table (`perform_tableExists`).
-/
import SqlPipeline.Proofs.Run.Apart
import SqlPipeline.Proofs.Storage.Client
import SqlPipeline.Sql.Literal

namespace SqlPipeline

namespace Storage

namespace Catalogue

/-! ### Conditions -/

/-- A table as a catalogue lists it. -/
structure Row where
  name : String
  database : String
  schema : String
  type : String

/-- The database and the schema that a session is in. -/
structure Place where
  database : String
  schema : String

inductive Column where
  | name
  | database
  | schema
  | type

/-- What a column is compared with. -/
inductive Operand where
  | given (s : String)           -- a parameter, which is handed over beside the text
  | currentDatabase
  | currentSchema
  | constant (s : String)

/-- That a column has a value. -/
structure Condition where
  column : Column
  operand : Operand

def Column.text : Column → String
  | name => "table_name"
  | database => "table_catalog"
  | schema => "table_schema"
  | type => "table_type"

def Column.of : Column → Row → String
  | name, r => r.name
  | database, r => r.database
  | schema, r => r.schema
  | type, r => r.type

def Operand.text : Operand → String
  | given _ => "?"
  | currentDatabase => "current_database()"
  | currentSchema => "current_schema()"
  | constant s => Sql.Literal.write s

def Operand.value (here : Place) : Operand → String
  | given s => s
  | currentDatabase => here.database
  | currentSchema => here.schema
  | constant s => s

def Operand.parameter? : Operand → Option Data
  | given s => some (.text s)
  | _ => none

/-- The conditions as they are written, and their parameters in the order of the question marks. -/
def filterOf (conditions : List Condition) : String × List Data :=
  (" AND ".intercalate (conditions.map fun k => k.column.text ++ " = " ++ k.operand.text),
    conditions.filterMap (·.operand.parameter?))

/-- A condition that is put behind others. -/
theorem filterOf_concat {conditions : List Condition} (h : conditions ≠ []) (k : Condition) :
    filterOf (conditions ++ [k])
      = ((filterOf conditions).1 ++ " AND " ++ (k.column.text ++ " = " ++ k.operand.text),
          (filterOf conditions).2 ++ k.operand.parameter?.toList) := by
  have htexts : conditions.map (fun k => k.column.text ++ " = " ++ k.operand.text) ≠ [] := by
    simpa using h
  have hlast : [k].filterMap (·.operand.parameter?) = k.operand.parameter?.toList := by
    cases hparameter : k.operand.parameter? <;> simp [hparameter]
  rw [filterOf, List.map_append, List.map_singleton, List.filterMap_append, hlast,
    String.intercalate_append_of_ne_nil htexts (List.cons_ne_nil _ _), String.intercalate_singleton]
  rfl

/-- That a table meets the conditions. -/
def Meets (here : Place) (conditions : List Condition) (r : Row) : Prop :=
  ∀ k ∈ conditions, k.column.of r = k.operand.value here

/-- The conditions that pick a table: its name, in the current database, and its schema, that of
    the session if there is none. -/
def picking (schema name : String) : List Condition :=
  [⟨.name, .given name⟩, ⟨.database, .currentDatabase⟩,
    ⟨.schema, if schema = "" then .currentSchema else .given schema⟩]

/-- The same for a table that is not a view. -/
def pickingTable (schema name : String) : List Condition :=
  picking schema name ++ [⟨.type, .constant "BASE TABLE"⟩]

theorem meets_picking_iff {here : Place} {schema name : String} {r : Row} :
    Meets here (picking schema name) r
      ↔ r.name = name ∧ r.database = here.database
        ∧ r.schema = if schema = "" then here.schema else schema := by
  by_cases hschema : schema = ""
  · simp [Meets, picking, hschema, Column.of, Operand.value]
  · simp [Meets, picking, hschema, Column.of, Operand.value]

theorem meets_append_iff {here : Place} {conditions others : List Condition} {r : Row} :
    Meets here (conditions ++ others) r ↔ Meets here conditions r ∧ Meets here others r :=
  List.forall_mem_append

/-- **A table meets these conditions just if it is the one that its parts name.** -/
theorem meets_pickingTable_iff {here : Place} {schema name : String} {r : Row} :
    Meets here (pickingTable schema name) r
      ↔ r.name = name ∧ r.database = here.database
        ∧ (r.schema = if schema = "" then here.schema else schema) ∧ r.type = "BASE TABLE" := by
  have htype : Meets here [⟨.type, .constant "BASE TABLE"⟩] r ↔ r.type = "BASE TABLE" := by
    simp [Meets, Column.of, Operand.value]
  rw [pickingTable, meets_append_iff, meets_picking_iff, htype]
  simp only [and_assoc]

/-- The query that counts the tables that meet some conditions. -/
def count (conditions : List Condition) : Script.Received :=
  .execute ("SELECT COUNT(*) FROM information_schema.tables WHERE " ++ (filterOf conditions).1)
    (some (filterOf conditions).2)

end Catalogue

/-! ### Asking for a table -/

namespace Connection

open Catalogue

variable {δ : Type}

/-- A table is picked by the parts of its name. -/
theorem tableFilter_eq (table : String) :
    tableFilter table = filterOf (picking (splitQualified table).1 (splitQualified table).2) := by
  rcases hsplit : splitQualified table with ⟨schema, name⟩
  rw [tableFilter, hsplit]
  by_cases hschema : schema = ""
  · subst hschema
    rfl
  · have hnonempty : schema.isEmpty = false := by simpa using hschema
    simp only [hnonempty, filterOf, picking, hschema]
    rfl

theorem filterOf_pickingTable (table : String) :
    filterOf (pickingTable (splitQualified table).1 (splitQualified table).2)
      = ((tableFilter table).1 ++ " AND table_type = 'BASE TABLE'", (tableFilter table).2) := by
  have hpicking : picking (splitQualified table).1 (splitQualified table).2 ≠ [] :=
    List.cons_ne_nil _ _
  have htext : " AND " ++ ("table_type" ++ " = " ++ Sql.Literal.write "BASE TABLE")
      = " AND table_type = 'BASE TABLE'" := by decide +kernel
  rw [pickingTable, filterOf_concat hpicking, ← tableFilter_eq, Column.text, Operand.text,
    String.append_assoc, htext]
  exact congrArg (Prod.mk _) (List.append_nil _)

/-- **Asking for a table is one query,** with the conditions that pick it. -/
theorem perform_tableExists (d : Driver δ) (table : String) {c : Connection (δ × List Noted)}
    (hopen : c.isOpen = true) :
    ∃ x refusal, (perform (tableExists d.noting table) c).2
      = c.after x ⟨count (pickingTable (splitQualified table).1 (splitQualified table).2),
          refusal⟩ := by
  have hquery : count (pickingTable (splitQualified table).1 (splitQualified table).2)
      = .execute ("SELECT COUNT(*) FROM information_schema.tables WHERE " ++ (tableFilter table).1
          ++ " AND table_type = 'BASE TABLE'") (some (tableFilter table).2) := by
    rw [count, filterOf_pickingTable, String.append_assoc]
  rw [hquery, tableExists]
  obtain ⟨condition, args⟩ := tableFilter table
  dsimp only
  rw [perform_bind_of_ok (perform_requireOpen_of_open hopen)]
  rcases hcall : (d.execute ("SELECT COUNT(*) FROM information_schema.tables WHERE " ++ condition
    ++ " AND table_type = 'BASE TABLE'") (some args)).run.run c.driver.1 with ⟨result, x⟩
  cases result with
  | error r =>
    refine ⟨x, some r, ?_⟩
    rw [Driver.noting, perform_bind_of_error (perform_noting_of_error hcall)]
  | ok cursor =>
    refine ⟨x, none, ?_⟩
    rw [Driver.noting, perform_bind_of_ok (perform_noting_of_ok hcall)]
    -- counting the rows asks nothing
    cases countedSome cursor.rows with
    | ok b => rfl
    | error e => rfl

end Connection

end Storage

namespace Run.Engine

open Storage

variable {σ : Type}

/-! ### The table of a model -/

/-- That the name of a model's table is read wherever it is as it has been put together. -/
structure Located (e : Engine σ) (m : Model) : Prop where
  split : splitQualified (e.targetName m) = (e.schema, m.id)
  -- no other table is asked for
  asked : ∀ s name, .tableExists name ∈ e.modelRequests m s → name = e.targetName m
  -- all that the driver gets then is one query, which picks this table
  queried : ∀ {δ : Type} (d : Driver δ) (c : Connection (δ × List Noted)), c.isOpen = true →
    ∃ x refusal, ((Connection.adapter d.noting).tableExists (e.targetName m) c).2
      = c.after x ⟨Catalogue.count (Catalogue.pickingTable e.schema m.id), refusal⟩
  picked : ∀ here r, Catalogue.Meets here (Catalogue.pickingTable e.schema m.id) r
    ↔ r.name = m.id ∧ r.database = here.database
      ∧ (r.schema = if e.schema = "" then here.schema else e.schema) ∧ r.type = "BASE TABLE"
  -- a merge goes through a table that is named after the id
  merged : ∀ query materialization texts, materialization.fullRefresh = false →
    Strategy.incremental.statements (e.targetName m) query materialization = .ok texts →
    texts = ([.stage (m.id ++ "__tmp") query, .createLike (e.targetName m) (m.id ++ "__tmp"),
      .deleteMatching (e.targetName m) (m.id ++ "__tmp") materialization.uniqueKey,
      .insertAll (e.targetName m) (m.id ++ "__tmp"),
      .dropStage (m.id ++ "__tmp")] : List Statement).map Statement.text

/-- **A name that is put behind a schema is taken apart again, and so the table of a model is found
    where it is written.** -/
theorem located :
    (∀ schema name : String, '.' ∉ name.toList →
        splitQualified (qualify schema name) = (schema, name))
      ∧ ∀ {σ : Type} (e : Engine σ) (m : Model), '.' ∉ m.id.toList → Located e m := by
  refine ⟨fun schema name => splitQualified_qualify schema, fun e m hm => ?_⟩
  have hsplit : splitQualified (e.targetName m) = (e.schema, m.id) :=
    splitQualified_qualify e.schema hm
  constructor
  case split => exact hsplit
  case asked => exact fun s name => name_of_mem_modelRequests
  case queried =>
    intro δ d c hopen
    have hquery := Connection.perform_tableExists d (e.targetName m) hopen
    rwa [hsplit] at hquery
  case picked => exact fun here r => Catalogue.meets_pickingTable_iff
  case merged =>
    intro query materialization texts hrefresh htexts
    rw [Strategy.incremental_statements_eq hrefresh htexts, Strategy.merge, targetName,
      Strategy.stageName_qualify e.schema hm]
    rfl

/-- A schema with a dot in it, and a table behind it. -/
theorem located_orders : '.' ∉ "orders".toList
    ∧ splitQualified "lake.mart.orders" = ("lake.mart", "orders")
    ∧ Located { obliging with schema := "lake.mart" } growing := by
  have hname : '.' ∉ "orders".toList := by decide
  exact ⟨hname, located.1 "lake.mart" "orders" hname, located.2 _ growing hname⟩

end Run.Engine

end SqlPipeline
