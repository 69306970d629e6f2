/-
  SqlPipeline/Template/Enter.lean
  ===============================
  **Entering scopes and assigning to targets.**

  When a scope is entered, each of its names gets its first value from where the scope
  says it comes from.  After that the scope is the place where its names are assigned.
-/
import SqlPipeline.Template.Iterate

namespace SqlPipeline.Template

open Eval

/-! ### Scopes -/

def firstValue (env : Env) (given : Entries Value) (name : String) : Origin → Eval (Option Value)
  | .parameter => return Entries.find? given name
  | .outer => do return (← inFrames name env.frames).getD none
  | .context => lookUpVariable env.vars name
  | .unset => return none

def enter (env : Env) (scope : Scope) (given : Entries Value) : Eval Env := do
  let frame ← scope.origins.mapM fun (name, origin) => do
    return (name, ← firstValue env given name origin)
  return { env with frames := (← newFrame frame) :: env.frames, isTop := false }

/-- Enters a scope that is made knowing which names the scopes around it hold. -/
def enterWith (env : Env) (scope : (String → Bool) → Scope) (given : Entries Value) : Eval Env := do
  enter env (scope (← framesHold env.frames)) given

def loadName (env : Env) (name : String) : Eval Value := do
  match ← inFrames name env.frames with
  | some found => return found.getD (undefinedName name)
  | none => return (← lookUpVariable env.vars name).getD (undefinedName name)

/-- The variables that a block sees when it takes over the names around it. -/
def visibleVariables (env : Env) : Eval Variables := do
  let s ← get
  let base : Entries Value := match s.vars[env.vars]? with
    | some vars => Entries.overlay vars.given vars.assigned
    | none => []
  let names := env.frames.reverse.flatMap fun i => s.frames[i]?.getD []
  let held := names.filterMap fun (name, v?) => v?.map fun v => (name, v)
  return ⟨Entries.overlay base held, []⟩

/-! ### Targets -/

/-- Gives a name of the current scope a value; at the top of a template the blocks see it too. -/
def assignName (env : Env) (name : String) (v : Value) : Eval Unit := do
  match env.frames with
  | i :: _ => assignIn i name v
  | [] => return ()
  if env.isTop then publish env.vars name v

/-- Fails unless a name stands for a namespace. -/
def requireSpace (env : Env) (name : String) : Eval Unit := do
  match ← loadName env name with
  | .object a =>
      match ← object? a with
      | some (.space _) => return ()
      | _ => fail .runtime "cannot assign attribute on non-namespace object"
  | _ => fail .runtime "cannot assign attribute on non-namespace object"

def assignField (env : Env) (name key : String) (v : Value) : Eval Unit := do
  let owner ← loadName env name
  let refuse : Eval Unit := do typeError s!"'{← kindName owner}' object does not support item assignment"
  match owner with
  | .object a =>
      match ← object? a with
      | some (.space fields) => update a (.space (Entries.insert key v fields))
      | some (.map entries) => update a (.map (insertKey (.text key) v entries))
      | some (.list _) => typeError "list indices must be integers or slices, not str"
      | _ => refuse
  | _ => refuse

/-- Exactly `n` items of a value. -/
def unpack (m : Machine) (n : Nat) (v : Value) : Eval (List Value) := do
  let it ← match v with
    | .undefined message => fail .undefined message
    | .null | .bool _ | .int _ | .float _ | .date _ | .moment _ | .slice _ _ _ | .context _ | .inner _
    | .function _ | .method _ _ | .self | .blockOf _ => typeError s!"cannot unpack non-iterable {← kindName v} object"
    | .object a =>
        match ← object? a with
        | some (.space _) | some (.cycler _ _) | some (.joiner _ _) | some (.routine _) =>
            typeError s!"cannot unpack non-iterable {← kindName v} object"
        | _ => iterate v
    | v => iterate v
  let items ← take it n
  if items.length < n then
    valueError s!"not enough values to unpack (expected {n}, got {items.length})"
  else
    match ← m.pull it with
    | some _ => valueError s!"too many values to unpack (expected {n})"
    | none => return items
where
  take (it : Address) : Nat → Eval (List Value)
    | 0 => return []
    | n + 1 => do
        match ← m.pull it with
        | some x => return x :: (← take it n)
        | none => return []

mutual

def assign (m : Machine) (env : Env) (v : Value) : Target → Eval Unit
  | .name name _ => assignName env name v
  | .field space key => assignField env space key v
  | .tuple targets => do assignAll m env (← unpack m targets.length v) targets

def assignAll (m : Machine) (env : Env) : List Value → List Target → Eval Unit
  | v :: vs, t :: ts => do
      assign m env v t
      assignAll m env vs ts
  | _, _ => return ()

end

mutual

def reload (env : Env) : Target → Eval Value
  | .name name _ => loadName env name
  | .field space _ => loadName env space
  | .tuple targets => do return .tuple (← reloadAll env targets)

def reloadAll (env : Env) : List Target → Eval (List Value)
  | [] => return []
  | t :: ts => do
      let v ← reload env t
      return v :: (← reloadAll env ts)

end

end SqlPipeline.Template
