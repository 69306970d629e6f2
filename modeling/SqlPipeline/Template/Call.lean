/-
  SqlPipeline/Template/Call.lean
  ==============================
  **Calling values: functions, methods, macros, blocks and loops.**

  A macro gives the text that its body puts out.  A loop that may be called renders its
  body for other items, one level deeper.
-/
import SqlPipeline.Template.Stream

namespace SqlPipeline.Template

open Eval

/-- Text that a body has put out, as a value: escaped where output is. -/
def outputValue (escape : Bool) (pieces : List String) : Value :=
  if escape then .markup (String.join pieces) else .text (String.join pieces)

/-! ### Macros -/

namespace Routine

def make (env : Env) (name : Option String) (params : List String) (defaults : List Expr) (body : List Stmt) :
    Routine :=
  let mentions := mentionsOfAll body
  { name := name, params := params, defaults := defaults, body := body, env := env
    takesCaller := usesFree "caller" mentions
    takesNamed := usesFree "kwargs" mentions && !params.contains "kwargs"
    takesRest := usesFree "varargs" mentions && !params.contains "varargs"
    callerPosition := params.idxOf? "caller" }

def shownName (r : Routine) : String :=
  match r.name with
  | some n => Text.quoted n
  | none => "None"

/-- The names that a body finds without being told of them. -/
def specialNames (r : Routine) : List String :=
  (if r.takesCaller && r.callerPosition.isNone then ["caller"] else [])
    ++ (if r.takesNamed then ["kwargs"] else []) ++ (if r.takesRest then ["varargs"] else [])

/-- Binds arguments; parameters without one are left out. -/
def bind (r : Routine) (args : List Value) (named : Entries Value) : Eval (Entries Value) := do
  let given := r.params.zip args
  let open_ := r.params.drop args.length
  let later := open_.filterMap fun n => (Entries.find? named n).map fun v => (n, v)
  let left := named.filter fun (n, _) => !open_.contains n
  let foundCaller := if open_.isEmpty then r.callerPosition.isSome else open_.contains "caller"
  let wantsCaller := r.takesCaller && !foundCaller
  let caller : Entries Value :=
    if wantsCaller then [("caller", (Entries.find? left "caller").getD (.undefined "No caller defined"))] else []
  let left := if wantsCaller then left.filter fun (n, _) => n != "caller" else left
  let rest := args.drop r.params.length
  let namedCell ← match r.takesNamed, left with
    | true, left => pure [("kwargs", ← newMap (namedEntries left))]
    | false, [] => pure []
    | false, (n, _) :: _ =>
        if (Entries.find? left "caller").isSome then
          typeError (s!"macro {r.shownName} was invoked with two values for the special caller argument. "
            ++ "This is most likely a bug.")
        else typeError (s!"macro {r.shownName} takes no keyword argument " ++ Text.quoted n)
  let restCell ← if r.takesRest then pure [("varargs", Value.tuple rest)]
    else if rest.isEmpty then pure []
    else typeError s!"macro {r.shownName} takes not more than {r.params.length} argument(s)"
  return given ++ later ++ caller ++ namedCell ++ restCell

/-- Gives the parameters that have no argument their defaults; `before` is the number of
    parameters without a default. -/
def fillDefaults (m : Machine) (env : Env) (r : Routine) : Eval Unit := do
  let before := r.params.length - r.defaults.length
  r.params.zipIdx.forM fun (name, i) => do
    match ← inFrames name env.frames with
    | some (some _) => return ()
    | _ =>
        match if i < before then none else r.defaults[i - before]? with
        | some e => assignName env name (← m.eval env e)
        | none => assignName env name (.undefined ("parameter " ++ Text.quoted name ++ " was not provided"))

def call (m : Machine) (r : Routine) (args : List Value) (named : Entries Value) : Eval Value := do
  let given ← r.bind args named
  let env ← enterWith r.env
    (fun outer => Scope.ofRoutine outer r.params r.specialNames r.defaults r.body) given
  r.fillDefaults m env
  return outputValue r.env.escape (← m.render env r.body)

end Routine

/-! ### Blocks -/

def renderBlock (m : Machine) (vars : Nat) (b : Block) : Eval (List String) := do
  let mentions := mentionsOfAll b.body
  let given : Entries Value :=
    (if usesFree "self" mentions then [("self", Value.self)] else [])
      ++ (if usesFree "super" mentions then
          [("super", Value.undefined ("there is no parent block called " ++ Text.quoted b.name ++ "."))] else [])
  let env : Env := ⟨[], vars, false, false⟩
  let inside ← enterWith env (fun outer => Scope.ofBody outer (given.map (·.1)) b.body) given
  m.render inside b.body

/-! ### Loops -/

structure LoopStmt where
  target : Target
  source : Expr
  test : Option Expr
  recursive : Bool
  body : List Stmt
  otherwise : List Stmt

namespace LoopStmt

def isExtended (l : LoopStmt) : Bool :=
  l.recursive || usesFree "loop" (mentionsOfAll l.body) || (blocksOfAll l.body).any (·.inherits)

def stmt (l : LoopStmt) : Stmt :=
  .loop l.target l.source l.test l.recursive l.body l.otherwise

/-- Renders the body for each item that comes; tells whether there was one.  `n` bounds
    the number of items. -/
def repeatBody (m : Machine) (env : Env) (l : LoopStmt) (scope : Scope) (given : Entries Value)
    (next : Eval (Option Value)) : (n : Nat) → (ran : Bool) → List (List String) →
    Eval (Bool × List String)
  | 0, ran, acc => return (ran, acc.reverse.flatten)
  | n + 1, ran, acc => do
      match ← next with
      | none => return (ran, acc.reverse.flatten)
      | some v =>
          let inside ← enter env scope given
          assign m inside v l.target
          repeatBody m env l scope given next n true ((← m.render inside l.body) :: acc)

def render (m : Machine) (env : Env) (l : LoopStmt) (subject : Value) (depth : Nat) : Eval (List String) := do
  let it ← iterate subject
  let (subject, it) ← match l.test with
    | some test => do
        let a ← alloc (.iterator (.filtered it l.target test env))
        pure (Value.object a, a)
    | none => pure (subject, it)
  let outer ← framesHold env.frames
  let (ran, pieces) ← if l.isExtended then do
      let recur := if l.recursive then some (l.stmt, env) else none
      let a ← alloc (.loop ⟨subject, it, 0, none, none, none, none, depth, none, recur⟩)
      let scope := Scope.ofLoop outer ["loop"] l.target l.body
      repeatBody m env l scope [("loop", .object a)] (advanceLoop m a) m.bound false []
    else
      repeatBody m env l (Scope.ofLoop outer [] l.target l.body) [] (m.pull it) m.bound false []
  if ran || l.otherwise.isEmpty then return pieces
  else
    let inside ← enter env (Scope.ofBody outer [] l.otherwise) []
    return pieces ++ (← m.render inside l.otherwise)

end LoopStmt

def callLoop (m : Machine) (state : LoopState) (args : List Value) (named : Entries Value) : Eval Value := do
  let s : Signature :=
    { name := "LoopContext.__call__", hidden := ["self"], params := ["iterable"], required := 1 }
  let b ← s.bind args named
  match state.recur with
  | some (.loop target source test recursive body otherwise, env) =>
      let l : LoopStmt := ⟨target, source, test, recursive, body, otherwise⟩
      return outputValue env.escape (← l.render m env (b.arg 0) (state.depth + 1))
  | _ => typeError "The loop must have the 'recursive' marker to be called recursively."

/-! ### Calls -/

def callValue (m : Machine) (f : Value) (args : List Value) (named : Entries Value) : Eval Value := do
  let refuse : Eval Value := do typeError s!"'{← kindName f}' object is not callable"
  match f with
  | .undefined message | .absent message => fail .undefined message
  | .context g => callContext m g args named
  | .function g => callGlobal m g args named
  | .inner (.code g) =>
      match args with
      | .inner .scope :: args => callContext m g args named
      | v :: _ => fail .member s!"'{← kindName v}' object has no attribute 'context'"
      | [] => typeError s!"{g.name}() missing 1 required positional argument: 'scope'"
  | .method (.inner .collector) name => callCollector name args named
  | .method v name => callMethod m v name args named
  | .blockOf name =>
      match m.scene.blocks.find? (·.name == name) with
      | some b => return .text (String.join (← renderBlock m 0 b))
      | none => refuse
  | .object a =>
      match ← object? a with
      | some (.routine r) => r.call m args named
      | some (.loop state) => callLoop m state args named
      | some (.joiner separator used) => useJoiner a separator used
      | _ => refuse
  | _ => refuse

end SqlPipeline.Template
