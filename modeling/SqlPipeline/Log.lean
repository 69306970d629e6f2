/-
  SqlPipeline/Log.lean
  ====================
  **What the parts of the program note while they work.**
-/
namespace SqlPipeline.Log

inductive Level where
  | debug
  | info
  | warning
  | error
deriving Repr, DecidableEq

namespace Level

def name : Level → String
  | debug => "DEBUG"
  | info => "INFO"
  | warning => "WARNING"
  | error => "ERROR"

def number : Level → Nat
  | debug => 10
  | info => 20
  | warning => 30
  | error => 40

end Level

/-- A note and the part of the program that makes it. -/
structure Entry where
  level : Level
  source : String
  message : String
deriving Repr, DecidableEq

def Entry.line (e : Entry) : String :=
  e.level.name ++ " " ++ e.source ++ ": " ++ e.message

def atLeast (number : Nat) (entries : List Entry) : List Entry :=
  entries.filter fun e => number ≤ e.level.number

end SqlPipeline.Log
