/-
  SqlPipeline/Storage/Adapter.lean
  ================================
  **Database drivers, and stores of tables as the program sees them.**

  Both are state machines.  A driver opens and closes connections, executes statements with
  parameters, and begins and ends transactions; each call may be refused.  An operation of a
  store gives a result or a fault, and the next state.  A fault is either one that the program
  expects and reports, or one that no part of the program handles.
-/
import SqlPipeline.Data
import SqlPipeline.Log
import SqlPipeline.Template.Fault

namespace SqlPipeline.Storage

/-! ### Drivers -/

inductive Refusal where
  | error (message : String)
  | crash (message : String)         -- a fault of another kind
deriving Repr, DecidableEq

structure Cursor where
  columns : Option (List String)
  rows : List (List Data)
deriving Inhabited

/-- A call of a driver in state `δ`; what it has done stays done when it is refused. -/
abbrev Call (δ α : Type) := ExceptT Refusal (StateM δ) α

/-- A driver whose state is `δ`. -/
structure Driver (δ : Type) where
  connect : (path : String) → (readOnly : Bool) → Call δ Unit
  execute : (sql : String) → (parameters : Option (List Data)) → Call δ Cursor
  start : Call δ Unit                -- of a transaction
  commit : Call δ Unit
  rollback : Call δ Unit
  close : Call δ Unit

/-! ### Stores -/

inductive Escape where
  | driver (message : String)          -- an error of the driver that has not been wrapped
  | crash (message : String)           -- a fault inside the driver
  | wrongKind (message : String)       -- an answer of the wrong kind
  | wrongShape (message : String)      -- an answer with the wrong number of columns
  | noColumn                           -- a row without the column that was asked for
  | oversight (o : Template.Oversight)
deriving Repr, DecidableEq

def Escape.message : Escape → String
  | driver message | crash message | wrongKind message | wrongShape message => message
  | noColumn => "tuple index out of range"
  | oversight o => o.message

/-- Why an operation gives no result. -/
inductive Fault where
  | storage (message : String)
  | escaped (e : Escape)
deriving Repr, DecidableEq

def Fault.message : Fault → String
  | storage message => message
  | escaped e => e.message

/-- The part of a store that running models needs. -/
structure Adapter (σ : Type) where
  execute : String → σ → Except Fault Unit × σ         -- a statement that gives no rows
  tableExists : String → σ → Except Fault Bool × σ
  notes : String → List Log.Entry                      -- what is noted before a statement

end SqlPipeline.Storage
