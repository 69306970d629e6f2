/-
  SqlPipeline/Template/Execute.lean
  =================================
  **Rendering statements.**

  A statement gives pieces of output.  There is no store of other templates, so whatever
  asks for one fails.
-/
import SqlPipeline.Template.Evaluate

namespace SqlPipeline.Template

open Eval

def noLoader {α : Type} : Eval α :=
  typeError "no loader for this environment specified"

/-- Asks for a template that is to be inserted, under one name or the first of several. -/
def requestTemplate (m : Machine) (v : Value) : Eval Unit := do
  match v with
  | .undefined _ | .absent _ => noLoader
  | v =>
      if v.text?.isSome then noLoader
      else if !(← truth v) then fail .missingTemplate "Tried to select from an empty list of templates."
      else
        match ← m.pull (← iterate v) with
        | some _ => noLoader
        | none => fail .missingTemplate "none of the templates given were found: "

def renderPiece (m : Machine) (env : Env) : Piece → Eval String
  | .data text => return text
  | .expr e => do outputOf m env.escape (← m.eval env e)

/-- Assigns the bindings of a body, whose values are seen from outside. -/
def assignBindings (m : Machine) (env inside : Env) : List (Target × Expr) → Eval Unit
  | [] => return ()
  | (target, e) :: rest => do
      assign m inside (← m.eval env e) target
      assignBindings m env inside rest

/-- The first branch whose test holds; none when all fail. -/
def chooseBranch (m : Machine) (env : Env) : List (Expr × List Stmt) → Eval (Option (List Stmt))
  | [] => return none
  | (test, body) :: rest => do
      if ← truth (← m.eval env test) then return some body else chooseBranch m env rest

/-- Calls a macro or function with a macro for the body that stands under the call. -/
def callWithBody (m : Machine) (env : Env) (body : Routine) (call : Expr) : Eval Value := do
  let caller := Value.object (← alloc (.routine body))
  match call with
  | .call f args => do
      let g ← m.eval env f
      let (args, named) ← evalArguments m env args
      m.call g args (named ++ [("caller", caller)])
  | e => m.eval env e

def requireText (v : Value) : Eval String := do
  match v.text? with
  | some s => return s
  | none => typeError s!"sequence item 0: expected str instance, {← kindName v} found"

def renderStmt (m : Machine) (env : Env) : Stmt → Eval (List String)
  | .output pieces => pieces.mapM (renderPiece m env)
  | .assign target e => do
      target.spaces.forM (requireSpace env)
      assign m env (← m.eval env e) target
      return []
  | .capture target filter body => do
      let inside ← enterWith env (fun outer => Scope.ofBody outer [] body) []
      let captured := outputValue env.escape (← m.render inside body)
      let v ← match filter with
        | none => pure captured
        | some e => do
            let filtered ← applyFilters m inside captured e
            if env.escape then pure (.markup (← m.written filtered)) else pure filtered
      assign m env v target
      return []
  | .loop target source test recursive body otherwise => do
      let v ← m.eval env source
      (⟨target, source, test, recursive, body, otherwise⟩ : LoopStmt).render m env v 0
  | .branch test body others otherwise => do
      match ← chooseBranch m env ((test, body) :: others) with
      | some chosen => m.render env chosen
      | none => m.render env otherwise
  | .routine name _ params defaults body => do
      let r := Routine.make env (some name) params defaults body
      assignName env name (.object (← alloc (.routine r)))
      return []
  | .callWith _ params defaults call body => do
      let v ← callWithBody m env (Routine.make env none params defaults body) call
      return [← requireText v]
  | .filtered filter body => do
      let inside ← enterWith env (fun outer => Scope.ofFiltered outer filter body) []
      let captured := outputValue env.escape (← m.render inside body)
      return [← requireText (← applyFilters m inside captured filter)]
  | .bind bindings body => do
      let inside ← enterWith env (fun outer => Scope.ofBindings outer (bindings.map (·.1)) body) []
      assignBindings m env inside bindings
      m.render inside body
  | .escaping mode body => do
      let inside ← enterWith env (fun outer => Scope.ofEscaping outer mode body) []
      let escape ← truth (← m.eval inside mode)
      m.render { inside with escape := escape } body
  | .block name _ inherits required body => do
      if required then fail .runtime ("Required block " ++ Text.quoted name ++ " not found")
      let vars ← if inherits then do
          let visible ← visibleVariables env
          let s ← get
          set { s with vars := s.vars.push visible }
          pure s.vars.size
        else pure env.vars
      renderBlock m vars ⟨name, 0, inherits, body⟩
  | .extend e _ => do
      let _ ← m.eval env e
      noLoader
  | .insertFile e ignoreMissing => do
      let v ← m.eval env e
      try requestTemplate m v
      catch failure =>
        if failure.kind == .missingTemplate && ignoreMissing then pure () else throw failure
      return []
  | .importAll e _ => do
      let _ ← m.eval env e
      noLoader
  | .importFrom e _ => do
      let _ ← m.eval env e
      noLoader

def renderAll (m : Machine) (env : Env) : List Stmt → Eval (List String)
  | [] => return []
  | s :: rest => do
      let pieces ← renderStmt m env s
      return pieces ++ (← renderAll m env rest)

/-! ### The machine -/

def Machine.exhausted (scene : Scene) : Machine :=
  let stop {α : Type} : Eval α := fail .recursion "maximum recursion depth exceeded"
  { scene := scene, bound := 0, eval := fun _ _ => stop, render := fun _ _ => stop, call := fun _ _ _ => stop,
    pull := fun _ => stop, filter := fun _ _ _ _ _ => stop, written := fun _ => stop, shown := fun _ => stop,
    same := fun _ _ => stop, less := fun _ _ => stop }

/-- A machine that can go `depth` calls deep into itself. -/
def Machine.ofDepth (scene : Scene) : (depth : Nat) → Machine
  | 0 => exhausted scene
  | depth + 1 =>
      { scene := scene
        bound := Nat.pow 2 60
        eval := fun env e => evalExpr (ofDepth scene depth) env e
        render := fun env stmts => renderAll (ofDepth scene depth) env stmts
        call := fun f args named => callValue (ofDepth scene depth) f args named
        pull := fun a => pullItem (ofDepth scene depth) a
        filter := fun escape name v args named => callFilter (ofDepth scene depth) escape name v args named
        written := fun v => writtenValue (ofDepth scene depth) v
        shown := fun v => shownValue (ofDepth scene depth) v
        same := fun v w => sameValue (ofDepth scene depth) v w
        less := fun v w => order (ofDepth scene depth) .lt v w }

end SqlPipeline.Template
