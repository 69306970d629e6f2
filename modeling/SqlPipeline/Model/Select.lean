/-
  SqlPipeline/Model/Select.lean
  =============================
  **Selecting models by name, together with everything that they depend on.**
-/
import SqlPipeline.Model
import SqlPipeline.Text.CharSet

namespace SqlPipeline

open Text

/-- A name that no model has. -/
structure NoSuchModel where
  name : String
deriving Repr, DecidableEq

def NoSuchModel.message (e : NoSuchModel) : String :=
  "model not found: " ++ e.name

namespace Model

def lastNamed? (models : List Model) (id : String) : Option Model :=
  models.reverse.find? (·.id == id)

def without (id : String) (models : List Model) : List Model :=
  models.filter (·.id != id)

theorem length_without_lt {id : String} {models : List Model} {m : Model}
    (h : lastNamed? models id = some m) : (without id models).length < models.length := by
  have hm : m ∈ models := List.mem_reverse.1 (List.mem_of_find?_eq_some h)
  have hid : (m.id != id) = false := by
    have := List.find?_some h
    simpa using this
  rcases Nat.lt_or_eq_of_le (List.length_filter_le (fun m : Model => m.id != id) models) with h' | h'
  · exact h'
  · have := List.length_filter_eq_length_iff.1 h' m hm
    simp [hid] at this

/-- The ids that are reached from those on a stack through dependencies; `rest` are the models
    that have not been reached before. -/
def reached (rest : List Model) : (stack : List String) → List String
  | [] => []
  | id :: stack =>
      match _h : lastNamed? rest id with
      | none => reached rest stack
      | some m => id :: reached (without id rest) (m.dependencies ++ stack)
termination_by stack => (rest.length, stack.length)
decreasing_by
  · exact Prod.Lex.right _ (Nat.lt_succ_self _)
  · exact Prod.Lex.left _ _ (length_without_lt _h)

/-- The names that are asked for, blank ones left out; each has to be that of a model. -/
def askedFor (models : List Model) : List String → Except NoSuchModel (List String)
  | [] => .ok []
  | name :: rest => do
      let name := trimmed name
      if name.isEmpty then askedFor models rest
      else if models.any (·.id == name) then return name :: (← askedFor models rest)
      else throw ⟨name⟩

def select (models : List Model) (names : List String) : Except NoSuchModel (List Model) := do
  let wanted := reached models (← askedFor models names)
  return models.filter fun m => wanted.contains m.id

end Model

end SqlPipeline
