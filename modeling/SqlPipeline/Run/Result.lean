/-
  SqlPipeline/Run/Result.lean
  ===========================
  **Outcomes of running models.**

  The outcome of one model holds the statements that were executed for it, in order.
  The outcome of a batch holds those of its models in the order in which they ran, and
  a status that is settled when the batch is complete.
-/
import SqlPipeline.Decimal.Binary

namespace SqlPipeline.Run

inductive Status where
  | pending
  | running
  | success
  | failed
deriving Repr, DecidableEq

def Status.tag : Status → String
  | pending => "pending"
  | running => "running"
  | success => "success"
  | failed => "failed"

/-- Seconds in a span of microseconds; zero when there is no span. -/
def seconds : (micros : Option Int) → Float
  | none => 0.0
  | some micros => Decimal.toFloat (micros < 0) micros.natAbs (-6)

structure Outcome where
  modelId : String
  status : Status := .running
  error : String := ""
  statements : List String := []     -- those that were executed
  micros : Option Int := none        -- from the start to the end, once it has ended
deriving Repr, DecidableEq

namespace Outcome

def finish (o : Outcome) (status : Status) (error : String := "") : Outcome :=
  { o with status := status, error := error, micros := some 0 }

def hasEnded (o : Outcome) : Bool :=
  o.micros.isSome

def duration (o : Outcome) : Float :=
  seconds o.micros

end Outcome

structure Batch where
  status : Status := .running
  outcomes : List Outcome := []
  micros : Option Int := none        -- from the start to the end, once it has ended
deriving Repr, DecidableEq

namespace Batch

def add (b : Batch) (o : Outcome) : Batch :=
  { b with outcomes := b.outcomes ++ [o] }

def count (b : Batch) (status : Status) : Nat :=
  b.outcomes.countP (·.status == status)

def successes (b : Batch) : Nat :=
  b.count .success

def failures (b : Batch) : Nat :=
  b.count .failed

/-- Ends the batch: it failed when one of its models did. -/
def complete (b : Batch) : Batch :=
  { b with status := if b.failures = 0 then .success else .failed, micros := some 0 }

def find? (b : Batch) (modelId : String) : Option Outcome :=
  b.outcomes.find? (·.modelId == modelId)

def hasEnded (b : Batch) : Bool :=
  b.micros.isSome

def duration (b : Batch) : Float :=
  seconds b.micros

end Batch

end SqlPipeline.Run
