/-
  SqlPipeline/Storage/Script.lean
  ===============================
  **A driver that answers by rules and keeps the calls that it gets.**

  For each call the first rule that fits decides.  Where none does, the call succeeds and
  gives no rows.
-/
import SqlPipeline.Storage.Adapter
import SqlPipeline.Text.Search

namespace SqlPipeline.Storage.Script

inductive Event where
  | connect
  | execute
  | start
  | commit
  | rollback
  | close
deriving Repr, DecidableEq

inductive Reply where
  | refuse (r : Refusal)
  | give (cursor : Cursor)

/-- A rule: the calls that it fits, and its answer. -/
structure Rule where
  event : Event := .execute
  pattern : String := ""                        -- a part of the statement, or of the path
  parameters : Option (List Data) := none       -- exactly these, if given
  reply : Reply

/-- A call as it is kept. -/
inductive Received where
  | connect (path : String) (readOnly : Bool)
  | execute (sql : String) (parameters : Option (List Data))
  | plain (event : Event)

/-- The rules, and the calls so far. -/
structure State where
  rules : List Rule := []
  calls : List Received := []

def Rule.fits (r : Rule) (event : Event) (text : String) (parameters : List Data) : Bool :=
  r.event == event && Text.isInfix r.pattern.toList text.toList
    && (match r.parameters with
      | some wanted => Data.sameAll wanted parameters
      | none => true)

def answer (event : Event) (text : String) (parameters : List Data) (received : Received) :
    Call State Cursor := do
  let s ← get
  set { s with calls := s.calls ++ [received] }
  match s.rules.find? (·.fits event text parameters) with
  | none => return ⟨none, []⟩
  | some rule =>
      match rule.reply with
      | .refuse r => throw r
      | .give cursor => return cursor

def plainCall (event : Event) : Call State Unit := do
  let _ ← answer event "" [] (.plain event)
  return ()

def driver : Driver State where
  connect path readOnly := do
    let _ ← answer .connect path [] (.connect path readOnly)
    return ()
  execute sql parameters := answer .execute sql (parameters.getD []) (.execute sql parameters)
  start := plainCall .start
  commit := plainCall .commit
  rollback := plainCall .rollback
  close := plainCall .close

end SqlPipeline.Storage.Script
