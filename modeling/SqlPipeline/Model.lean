/-
  SqlPipeline/Model.lean
  ======================
  **Models: named SQL queries that depend on each other.**

  A model has an id, the file it comes from, the text of its template, the SQL that the
  template was last rendered to, and the ids of the models it reads.
-/
import SqlPipeline.Materialization
import SqlPipeline.Data

namespace SqlPipeline

/-- Why there is no such model. -/
inductive ModelError where
  | emptyId
  | emptyPath
deriving Repr, DecidableEq

def ModelError.message : ModelError → String
  | emptyId => "model ID cannot be empty"
  | emptyPath => "model path cannot be empty"

structure Model where
  id : String
  path : String
  sql : String                      -- the rendered query
  template : String
  materialization : Materialization
  dependencies : List String        -- each once, in the order in which they were added
  metadata : Entries Data
deriving Inhabited

namespace Model

/-- Adds a dependency, unless it is there already. -/
def addDependency (m : Model) (id : String) : Model :=
  if m.dependencies.contains id then m else { m with dependencies := m.dependencies ++ [id] }

def addDependencies (m : Model) (ids : List String) : Model :=
  ids.foldl addDependency m

def make (id path : String) (materialization : Materialization) : Except ModelError Model :=
  if id.isEmpty then .error .emptyId
  else if path.isEmpty then .error .emptyPath
  else .ok ⟨id, path, "", "", materialization, [], []⟩

def isIncremental (m : Model) : Bool :=
  m.materialization.isIncremental

def setMetadata (m : Model) (key : String) (value : Data) : Model :=
  { m with metadata := Entries.insert key value m.metadata }

theorem mem_addDependency {m : Model} {id other : String} :
    other ∈ (m.addDependency id).dependencies ↔ other = id ∨ other ∈ m.dependencies := by
  unfold addDependency
  split
  · rename_i h
    constructor
    · exact Or.inr
    · rintro (rfl | h')
      · simpa using h
      · exact h'
  · simp [or_comm]

end Model

end SqlPipeline
