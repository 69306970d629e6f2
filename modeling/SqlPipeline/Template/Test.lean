/-
  SqlPipeline/Template/Test.lean
  ==============================
  **Tests: what can be asked about a value with `is`.**

  Whether a filter exists can be asked as well, so all of them are known here.

  Only few tests accept a value that is undefined; the others fail with its message as
  any use of it does.
-/
import SqlPipeline.Template.Filter.Text
import SqlPipeline.Template.Filter.Number
import SqlPipeline.Template.Filter.Sequence
import SqlPipeline.Template.Filter.Json
import SqlPipeline.Template.Filter.Pretty
import SqlPipeline.Template.Filter.Address

namespace SqlPipeline.Template

open Eval

/-! ### The filters that exist -/

def filterTable : List (String × FilterRun) :=
  TextFilter.all ++ NumberFilter.all ++ SequenceFilter.all ++ AddressFilter.all
    ++ [("tojson", JsonFilter.run), ("pprint", PrettyFilter.run)]

def isFilter (name : String) : Bool :=
  (filterTable.lookup name).isSome

/-! ### Tests -/

/-- What a test does; the value that is tested is the first argument. -/
abbrev TestRun := Machine → List Value → Entries Value → Eval Bool

namespace TestRun

def ofParams (name : String) (params : List String) (f : Machine → Bound → Eval Bool) : TestRun :=
  fun m args named => do
    let s : Signature := { name := name, params := params, required := params.length }
    f m (← s.bind args named)

def ofValue (name : String) (f : Value → Eval Bool) : TestRun :=
  ofParams name ["value"] fun _ b => f (b.arg 0)

def ofOperator (name : String) (f : Machine → Value → Value → Eval Bool) : TestRun :=
  fun m args named =>
    match named, args with
    | _ :: _, _ => typeError s!"{name}() takes no keyword arguments"
    | [], [v, w] => f m v w
    | [], args => typeError s!"{name} expected 2 arguments, got {args.length}"

def ofOrder (name : String) (op : OrderOp) : TestRun :=
  ofOperator name fun m v w => order m op v w

end TestRun

namespace Test

/-- Whether the remainder of a division by two is `n`. -/
def hasParity (m : Machine) (v : Value) (n : Int) : Eval Bool := do
  sameValue m (← operate m .mod v (.int 2)) (.int n)

def isMap (v : Value) : Eval Bool := do
  match v with
  | .object a =>
      match ← object? a with
      | some (.map _) => return true
      | _ => return false
  | _ => return false

def isIterable (v : Value) : Eval Bool := do
  match v with
  | .undefined message => fail .undefined message
  | .absent _ | .text _ | .markup _ | .bytes _ | .tuple _ | .group _ _ | .range _ _ _ | .view _ _ => return true
  | .object a =>
      match ← object? a with
      | some (.list _) | some (.map _) | some (.set _) | some (.iterator _) | some (.loop _) => return true
      | _ => return false
  | _ => return false

/-- Whether a value has a length and items under indices or keys. -/
def isSequence (v : Value) : Eval Bool := do
  match v with
  | .absent _ | .text _ | .markup _ | .bytes _ | .tuple _ | .group _ _ | .range _ _ _ => return true
  | .object a =>
      match ← object? a with
      | some (.list _) | some (.map _) => return true
      | _ => return false
  | _ => return false

def isCallable (v : Value) : Eval Bool := do
  match v with
  | .undefined _ | .absent _ | .context _ | .inner (.code _) | .function _ | .method _ _ | .blockOf _ =>
      return true
  | .object a =>
      match ← object? a with
      | some (.joiner _ _) | some (.loop _) | some (.routine _) => return true
      | _ => return false
  | _ => return false

def isSame (v w : Value) : Bool :=
  match v, w with
  | .undefined a, .undefined b => a == b
  | .bool a, .bool b => a == b
  | .int a, .int b => a == b
  | .float a, .float b => a == b
  | .text a, .text b => a == b
  | .null, .null => true
  | .object a, .object b => a == b
  | .function a, .function b => a == b
  | .context a, .context b => a == b
  | .inner a, .inner b => a == b
  | _, _ => false

def hasCase (name : String) (p : List Char → Bool) : TestRun :=
  .ofParams name ["value"] fun m b => do return p (← m.written (b.arg 0)).toList

def callable : TestRun := fun _ args named =>
  match named, args with
  | [], [v] => isCallable v
  | _ :: _, _ => typeError "callable() takes no keyword arguments"
  | [], args => typeError s!"callable() takes exactly one argument ({args.length} given)"

def isNameOf (name : String) (p : String → Bool) : TestRun := fun _ args named => do
  let s : Signature := { name := name, hidden := ["env"], params := ["value"], required := 1 }
  let v := (← s.bind args named).arg 0
  requireHashable v
  return (v.text?.map p).getD false

end Test

/-- All tests but those about filters and tests themselves. -/
def plainTests : List (String × TestRun) :=
  let equal : TestRun := .ofOperator "eq" fun m v w => m.same v w
  let unequal : TestRun := .ofOperator "ne" fun m v w => do return !(← m.same v w)
  [("odd", TestRun.ofParams "test_odd" ["value"] fun m b => Test.hasParity m (b.arg 0) 1),
    ("even", TestRun.ofParams "test_even" ["value"] fun m b => Test.hasParity m (b.arg 0) 0),
    ("divisibleby", TestRun.ofParams "test_divisibleby" ["value", "num"] fun m b => do
      sameValue m (← operate m .mod (b.arg 0) (b.arg 1)) (.int 0)),
    ("defined", TestRun.ofValue "test_defined" fun v => return match v with
      | .undefined _ | .absent _ => false
      | _ => true),
    ("undefined", TestRun.ofValue "test_undefined" fun v => return match v with
      | .undefined _ | .absent _ => true
      | _ => false),
    ("none", TestRun.ofValue "test_none" fun v => return match v with
      | .null => true
      | _ => false),
    ("boolean", TestRun.ofValue "test_boolean" fun v => return match v with
      | .bool _ => true
      | _ => false),
    ("false", TestRun.ofValue "test_false" fun v => return match v with
      | .bool b => !b
      | _ => false),
    ("true", TestRun.ofValue "test_true" fun v => return match v with
      | .bool b => b
      | _ => false),
    ("integer", TestRun.ofValue "test_integer" fun v => return match v with
      | .int _ => true
      | _ => false),
    ("float", TestRun.ofValue "test_float" fun v => return match v with
      | .float _ => true
      | _ => false),
    ("number", TestRun.ofValue "test_number" fun v => return match v with
      | .bool _ | .int _ | .float _ => true
      | _ => false),
    ("string", TestRun.ofValue "test_string" fun v => return v.text?.isSome),
    ("lower", Test.hasCase "test_lower" Text.isLowerText),
    ("upper", Test.hasCase "test_upper" Text.isUpperText),
    ("mapping", TestRun.ofValue "test_mapping" Test.isMap),
    ("iterable", TestRun.ofValue "test_iterable" Test.isIterable),
    ("sequence", TestRun.ofValue "test_sequence" Test.isSequence),
    ("callable", Test.callable),
    ("sameas", TestRun.ofParams "test_sameas" ["value", "other"] fun _ b => return Test.isSame (b.arg 0) (b.arg 1)),
    ("escaped", TestRun.ofValue "test_escaped" fun v => return match v with
      | .markup _ => true
      | _ => false),
    ("in", TestRun.ofParams "test_in" ["value", "seq"] fun m b => contains m (b.arg 1) (b.arg 0)),
    ("==", equal), ("eq", equal), ("equalto", equal), ("!=", unequal), ("ne", unequal),
    (">", TestRun.ofOrder "gt" .gt), ("gt", TestRun.ofOrder "gt" .gt), ("greaterthan", TestRun.ofOrder "gt" .gt),
    (">=", TestRun.ofOrder "ge" .ge), ("ge", TestRun.ofOrder "ge" .ge),
    ("<", TestRun.ofOrder "lt" .lt), ("lt", TestRun.ofOrder "lt" .lt), ("lessthan", TestRun.ofOrder "lt" .lt),
    ("<=", TestRun.ofOrder "le" .le), ("le", TestRun.ofOrder "le" .le)]

def isTest (name : String) : Bool :=
  name == "filter" || name == "test" || (plainTests.lookup name).isSome

def testTable : List (String × TestRun) :=
  plainTests ++ [("filter", Test.isNameOf "test_filter" isFilter), ("test", Test.isNameOf "test_test" isTest)]

def callTest (m : Machine) (name : String) (args : List Value) (named : Entries Value) : Eval Bool :=
  match testTable.lookup name with
  | some run => run m args named
  | none => fail .runtime ("No test named " ++ Text.quoted name ++ ".")

end SqlPipeline.Template
