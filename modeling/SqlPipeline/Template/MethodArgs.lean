/-
  SqlPipeline/Template/MethodArgs.lean
  ====================================
  **The arguments that methods of values take, and what is said about wrong ones.**
-/
import SqlPipeline.Template.Braces

namespace SqlPipeline.Template

open Eval

structure MethodCall where
  kind : String                -- the kind of the value, for messages
  name : String
  args : List Value
  named : Entries Value

namespace MethodCall

def fullName (c : MethodCall) : String :=
  c.kind ++ "." ++ c.name ++ "()"

def refuseNamed (c : MethodCall) : Eval Unit :=
  if c.named.isEmpty then return () else typeError (c.fullName ++ " takes no keyword arguments")

def noArgs (c : MethodCall) : Eval Unit := do
  c.refuseNamed
  if c.args.isEmpty then return ()
  else typeError (c.fullName ++ s!" takes no arguments ({c.args.length} given)")

def one (c : MethodCall) : Eval Value := do
  c.refuseNamed
  match c.args with
  | [v] => return v
  | args => typeError (c.fullName ++ s!" takes exactly one argument ({args.length} given)")

def countText (n : Nat) : String :=
  s!"{n} argument" ++ if n == 1 then "" else "s"

/-- Between `least` and `most` arguments. -/
def between (c : MethodCall) (least most : Nat) : Eval (List Value) := do
  c.refuseNamed
  let n := c.args.length
  if least == most && n != least then
    typeError (c.name ++ " expected " ++ countText least ++ s!", got {n}")
  else if n < least then typeError (c.name ++ " expected at least " ++ countText least ++ s!", got {n}")
  else if n > most then typeError (c.name ++ " expected at most " ++ countText most ++ s!", got {n}")
  else return c.args

def mixed (c : MethodCall) (names : List String) : Eval (List (Option Value)) := do
  let n := c.args.length + c.named.length
  if n > names.length then
    let sort := if c.args.isEmpty then "keyword " else ""
    let plural := if names.length == 1 then "" else "s"
    typeError (c.name ++ s!"() takes at most {names.length} {sort}argument{plural} ({n} given)")
  match (names.take c.args.length).zipIdx.find? fun (name, _) => (Entries.find? c.named name).isSome with
  | some (name, i) =>
      typeError s!"argument for {c.name}() given by name ('{name}') and position ({i + 1})"
  | none => pure ()
  match List.find? (fun (entry : String × Value) => !names.contains entry.1) c.named with
  | some (name, _) => typeError s!"'{name}' is an invalid keyword argument for {c.name}()"
  | none => pure ()
  return (names.zipIdx).map fun (name, i) =>
    match c.args[i]? with
    | some v => some v
    | none => Entries.find? c.named name

end MethodCall

def asIndex (v : Value) : Eval Int := do
  match v with
  | .undefined message => fail .undefined message
  | v =>
      match v.int? with
      | some n => return n
      | none => typeError s!"'{← kindName v}' object cannot be interpreted as an integer"

/-- The part of a text between two indices that may be missing or negative. -/
def window (s : List Char) (args : List Value) : Eval (Nat × List Char × Bool) := do
  let start ← sliceBound (args[0]?.getD .null)
  let stop ← sliceBound (args[1]?.getD .null)
  let (a, b) := sliceRange s.length start stop 1
  let beyond := (start.map fun i => decide ((s.length : Int) < i)).getD false
  return (a.toNat, (s.drop a.toNat).take (b - a).toNat, beyond || b < a)

/-- A text argument; `message` is what is said of another kind. -/
def asTextArg (v : Value) (message : String → String) : Eval (List Char) := do
  match v with
  | .undefined e => fail .undefined e
  | v =>
      match v.text? with
      | some s => return s.toList
      | none => typeError (message (← kindName v))

/-- An argument of a method that must be a text; `which` stands in front of its number or
    name, if it is not the only one. -/
def textArgument (c : MethodCall) (which : String) (v : Value) : Eval (List Char) :=
  asTextArg v fun kind =>
    let kind := if kind == "NoneType" then "None" else kind
    c.name ++ "() argument " ++ which ++ s!"must be str, not {kind}"

def requiredBound (v : Value) : Eval Int := do
  match v with
  | .undefined message => fail .undefined message
  | v =>
      match v.int? with
      | some n => return n
      | none => typeError "slice indices must be integers or have an __index__ method"

/-- Arguments that search a text: a pattern, and two indices that may be missing. -/
def MethodCall.search (c : MethodCall) : Eval (Value × List Value) := do
  c.refuseNamed
  match c.args with
  | [] => typeError (c.name ++ "() takes at least 1 argument (0 given)")
  | v :: rest =>
      if rest.length > 2 then typeError (c.name ++ s!"() takes at most 3 arguments ({c.args.length} given)")
      else return (v, rest)

end SqlPipeline.Template
