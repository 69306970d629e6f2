/-
  SqlPipeline/Log/Setup.lean
  ==========================
  **Which notes are shown, and how.**

  A level is asked for by its name in any case; a name that is none asks for the usual
  one.  The output is set up once, and later requests change the level alone.
-/
import SqlPipeline.Log
import SqlPipeline.Text.Case
import SqlPipeline.Text.Quoted

namespace SqlPipeline.Log

structure Setup where
  threshold : Nat := 0               -- notes below this are not shown
  format : Option String := none     -- of the lines of the output; nothing before it is set up
deriving Repr, DecidableEq

/-- A name of something that is no level. -/
structure NoLevel where
  value : String
deriving Repr, DecidableEq

def NoLevel.message (e : NoLevel) : String :=
  "Unknown level: " ++ Text.quoted e.value

namespace Setup

def levels : List (String × Nat) :=
  [("CRITICAL", 50), ("FATAL", 50), ("ERROR", 40), ("WARNING", 30), ("WARN", 30), ("INFO", 20),
    ("DEBUG", 10), ("NOTSET", 0)]

/-- The number of the level that is used where none is named. -/
def usualLevel : Nat := 20

def lineFormat : String := "%(asctime)s [%(levelname)s] %(name)s: %(message)s"

/-- The format of a program that has none of its own; its name is taken for that of a level,
    but it is none. -/
def bareFormat : String := "%(levelname)s:%(name)s:%(message)s"

def levelOf (name : String) : Except NoLevel Nat :=
  let name := String.ofList (Text.upper name.toList)
  if name == "BASIC_FORMAT" then .error ⟨bareFormat⟩
  else .ok ((levels.lookup name).getD usualLevel)

def request (s : Setup) (name : String) : Except NoLevel Setup := do
  let number ← levelOf name
  return { s with threshold := number, format := some (s.format.getD lineFormat) }

def outputs (s : Setup) : Nat :=
  if s.format.isSome then 1 else 0

end Setup

end SqlPipeline.Log
