/-
  SqlPipeline/Collector.lean
  ==========================
  **Which models a model refers to, as its template says when it is rendered.**

  References are kept in the order in which they were first made, each once.  A template
  may refer to something that is no name of a model; it is kept as it is.
-/
import SqlPipeline.Data

namespace SqlPipeline

/-- References by the model that makes them. -/
structure Collector where
  references : Entries (List Data) := []
deriving Inhabited

namespace Collector

/-- Adds a reference to a list of them, unless it is there already. -/
def addTo (references : List Data) (reference : Data) : List Data :=
  if references.any (Data.same reference) then references else references ++ [reference]

def get (c : Collector) (model : String) : List Data :=
  (Entries.find? c.references model).getD []

/-- Looks for a reference among others, from the first on; what has no value cannot be compared
    with any. -/
def seek (reference : Data) : List Data → Except String Bool
  | [] => .ok false
  | .undefined message :: _ => .error message
  | r :: rest =>
      match reference with
      | .undefined message => .error message
      | _ => if Data.same reference r then .ok true else seek reference rest

def add (c : Collector) (model : String) (reference : Data) : Collector :=
  ⟨Entries.insert model (addTo (c.get model) reference) c.references⟩

/-- Notes what models refer to; only what is noted under a name can be a model. -/
def addNotes (c : Collector) (notes : List (Data × Data)) : Collector :=
  notes.foldl (fun c (model, reference) =>
    match model with
    | .text model => c.add model reference
    | _ => c) c

/-- Notes all references of a rendering; one without a model is not noted. -/
def addAll (c : Collector) (model : String) (references : List Data) : Collector :=
  if model.isEmpty then c else references.foldl (fun c r => c.add model r) c

/-- A note about one model leaves what others refer to alone. -/
theorem get_add (c : Collector) (model other : String) (reference : Data) :
    (c.add model reference).get other
      = if other = model then addTo (c.get model) reference else c.get other := by
  simp only [get, add, Entries.find?_insert]
  split <;> rfl

end Collector

end SqlPipeline
