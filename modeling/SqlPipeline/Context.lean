/-
  SqlPipeline/Context.lean
  ========================
  **What a template is told about the model that it renders and the project around it.**
-/
import SqlPipeline.Data

namespace SqlPipeline

/-- What comes to a program from outside by chance. -/
structure Outside where
  numbers : Nat → Nat := fun _ => 0                -- that are still to be drawn, in order
  places : String → Nat := fun _ => 0              -- of things in the computer's memory
deriving Inhabited

namespace Outside

/-- The next number, as one below `count`. -/
def next (o : Outside) (count : Nat) : Nat :=
  o.numbers 0 % max 1 count

def rest (o : Outside) : Outside :=
  { o with numbers := fun i => o.numbers (i + 1) }

end Outside

/-- The context of a rendering; a blank one says nothing. -/
structure Context where
  currentModel : String := ""
  schema : String := ""
  isIncremental : Bool := false
  table : String := ""                             -- of the current model, without a schema
  vars : Entries Data := []
  config : Entries Data := []
  sources : Entries (Entries String) := []         -- full names of tables, by source and table
  seeds : Entries String := []                     -- full names of seed tables
  outside : Outside := {}                          -- which no template is told of
deriving Inhabited

namespace Context

def forModel (c : Context) (id : String) (isIncremental : Bool := false) : Context :=
  { c with currentModel := id, table := id, isIncremental := isIncremental }

def withSettingsOf (c other : Context) : Context :=
  { c with vars := other.vars, config := other.config, outside := other.outside }

end Context

end SqlPipeline
