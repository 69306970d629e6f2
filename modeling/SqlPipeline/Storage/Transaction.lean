/-
  SqlPipeline/Storage/Transaction.lean
  ====================================
  **Transactions: statements that take effect together or not at all.**

  A transaction that has begun is ended by exactly one further call: it is committed when
  its body succeeds, and rolled back when the body fails.
-/
import SqlPipeline.Storage.Connection

namespace SqlPipeline.Storage.Transaction

open Connection

variable {δ ε α : Type}

def start (d : Driver δ) : Operation δ Unit := do
  requireOpen
  callDriver (failing "begin transaction") d.start

def commit (d : Driver δ) : Operation δ Unit :=
  callDriver (failing "commit transaction") d.commit

def rollback (d : Driver δ) : Operation δ Unit :=
  callDriver (failing "roll back transaction") d.rollback

def execute (d : Driver δ) (sql : String) (args : List Data) : Operation δ Unit := do
  let _ ← callDriver (failing "execute statement in transaction") (d.execute sql (parameters args))
  return ()

/-- Goes through with a body within a transaction; a body may fail in ways of its own,
    among which `lift` counts the faults of the connection. -/
def within (d : Driver δ) (lift : Fault → ε) (body : ExceptT ε (StateM (Connection δ)) α) :
    ExceptT ε (StateM (Connection δ)) α := do
  (start d).adapt lift
  let result : Except ε α ← settled body
  match result with
  | .ok a =>
      (commit d).adapt lift
      return a
  | .error e =>
      (rollback d).adapt lift
      throw e

end SqlPipeline.Storage.Transaction
