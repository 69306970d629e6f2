/-
  SqlPipeline/Template/Operate.lean
  =================================
  **What the operators do.**

  Whole numbers stay whole except under division, and become doubles beside a double;
  truth values count as zero and one.  Texts and sequences of one kind can be joined, and
  repeated by a whole number.
-/
import SqlPipeline.Template.Percent
import SqlPipeline.Template.Compare

namespace SqlPipeline.Template

open Eval

inductive Number where
  | whole (n : Int)
  | real (x : Float)

def Value.number? : Value → Option Number
  | .float x => some (.real x)
  | v => v.int?.map .whole

/-- The double nearest to a whole number that is not too large. -/
def wholeToFloat (n : Int) : Eval Float := do
  let x := Decimal.ofInt n
  if x.isInf then fail .overflow "int too large to convert to float" else return x

def Number.toFloat : Number → Eval Float
  | .whole n => wholeToFloat n
  | .real x => return x

def zeroDivision {α : Type} (message : String) : Eval α :=
  fail .zeroDivision message

/-! ### Numbers -/

/-- A power of doubles; too large a result is a failure. -/
def floatPower (x y : Float) : Eval Value := do
  if x == 0.0 && y < 0.0 then zeroDivision "0.0 cannot be raised to a negative power"
  else
    let z := x.pow y
    if z.isInf && x.isFinite && y.isFinite then
      fail .overflow "(34, 'Numerical result out of range')"
    else return .float z

def wholePower (a b : Int) : Eval Value := do
  if 0 ≤ b then return .int (Int.pow a b.toNat)
  else if a == 0 then zeroDivision "0.0 cannot be raised to a negative power"
  else floatPower (← wholeToFloat a) (← wholeToFloat b)

def wholeOperation (op : BinaryOp) (a b : Int) : Eval Value := do
  match op with
  | .add => return .int (a + b)
  | .sub => return .int (a - b)
  | .mul => return .int (a * b)
  | .div =>
      if b == 0 then zeroDivision "division by zero"
      else
        let q := Decimal.quotient a b
        if q.isInf then fail .overflow "integer division result too large for a float"
        else return .float q
  | .floorDiv =>
      if b == 0 then zeroDivision "integer division or modulo by zero" else return .int (Int.fdiv a b)
  | .mod => if b == 0 then zeroDivision "integer modulo by zero" else return .int (Int.fmod a b)
  | .pow => wholePower a b

def realOperation (op : BinaryOp) (x y : Float) : Eval Value := do
  match op with
  | .add => return .float (x + y)
  | .sub => return .float (x - y)
  | .mul => return .float (x * y)
  | .div => if y == 0.0 then zeroDivision "float division by zero" else return .float (x / y)
  | .floorDiv =>
      if y == 0.0 then zeroDivision "float floor division by zero"
      else return .float (Decimal.floatFloorDiv x y)
  | .mod => if y == 0.0 then zeroDivision "float modulo" else return .float (Decimal.floatMod x y)
  | .pow => floatPower x y

def numberOperation (op : BinaryOp) : Number → Number → Eval Value
  | .whole a, .whole b => wholeOperation op a b
  | a, b => do realOperation op (← a.toFloat) (← b.toFloat)

/-! ### Sequences -/

def unsupported {α : Type} (op : BinaryOp) (v w : Value) : Eval α := do
  let sign := if op == .pow then "** or pow()" else op.sign
  typeError s!"unsupported operand type(s) for {sign}: '{← kindName v}' and '{← kindName w}'"

/-- Joins two texts; beside escaped text the other one is escaped. -/
def joinTexts : Value → Value → Option Value
  | .markup s, .markup t => some (.markup (s ++ t))
  | .markup s, .text t => some (.markup (s ++ escapeText t))
  | .text s, .markup t => some (.markup (escapeText s ++ t))
  | .text s, .text t => some (.text (s ++ t))
  | _, _ => none

def listAt? (v : Value) : Eval (Option (Array Value)) := do
  match v with
  | .object a =>
      match ← object? a with
      | some (.list items) => return some items
      | _ => return none
  | _ => return none

def setAt? (v : Value) : Eval (Option (List Value)) := do
  match v with
  | .object a =>
      match ← object? a with
      | some (.set items) => return some items
      | _ => return none
  | _ => return none

def Value.tuple? : Value → Option (List Value)
  | .tuple items => some items
  | .group k items => some [k, items]
  | _ => none

def join (v w : Value) : Eval Value := do
  match joinTexts v w with
  | some joined => return joined
  | none =>
      match v.tuple?, w.tuple?, ← listAt? v, ← listAt? w with
      | some xs, some ys, _, _ => return .tuple (xs ++ ys)
      | _, _, some xs, some ys => newList (xs ++ ys).toList
      | _, _, _, _ =>
          if v.text?.isSome then typeError s!"can only concatenate str (not \"{← kindName w}\") to str"
          else if v.tuple?.isSome then
            typeError s!"can only concatenate tuple (not \"{← kindName w}\") to tuple"
          else if (← listAt? v).isSome then
            typeError s!"can only concatenate list (not \"{← kindName w}\") to list"
          else unsupported .add v w

def repeated {α : Type} (xs : List α) (n : Nat) : List α :=
  (List.replicate n xs).flatten

/-- Repeats a sequence; none when the value is no sequence. -/
def repeat? (v : Value) (n : Nat) : Eval (Option Value) := do
  match v with
  | .text s => return some (.text (.ofList (repeated s.toList n)))
  | .markup s => return some (.markup (.ofList (repeated s.toList n)))
  | .tuple items => return some (.tuple (repeated items n))
  | .group k items => return some (.tuple (repeated [k, items] n))
  | v =>
      match ← listAt? v with
      | some items => return some (← newList (repeated items.toList n))
      | none => return none

def isSequence (v : Value) : Eval Bool := do
  return v.text?.isSome || v.tuple?.isSome || (← listAt? v).isSome

/-- Multiplies two values of which at least one is no number. -/
def multiply (v w : Value) : Eval Value := do
  if ← isSequence v then
    match w.int? with
    | some n => return (← repeat? v n.toNat).getD .null
    | none => typeError s!"can't multiply sequence by non-int of type '{← kindName w}'"
  else if ← isSequence w then
    match v.int? with
    | some n => return (← repeat? w n.toNat).getD .null
    | none => typeError s!"can't multiply sequence by non-int of type '{← kindName v}'"
  else unsupported .mul v w

def subtract (v w : Value) : Eval Value := do
  match ← setAt? v, ← setAt? w with
  | some xs, some ys => return .object (← alloc (.set (xs.filter fun x => !ys.any (sameKey x))))
  | _, _ => unsupported .sub v w

def operate (m : Machine) (op : BinaryOp) (v w : Value) : Eval Value := do
  match v, w, op with
  | .undefined message, _, _ | .absent message, _, _ => fail .undefined message
  | .text s, w, .mod => return .text (← Percent.format m false s w)
  | .markup s, w, .mod => return .markup (← Percent.format m true s w)
  | _, .undefined message, _ | _, .absent message, _ => fail .undefined message
  | v, w, op =>
      match v.number?, w.number? with
      | some a, some b => numberOperation op a b
      | _, _ =>
          match op with
          | .add => join v w
          | .mul => multiply v w
          | .sub => subtract v w
          | op => unsupported op v w

def negate (v : Value) : Eval Value := do
  match v with
  | .undefined message | .absent message => fail .undefined message
  | v =>
      match v.number? with
      | some (.whole n) => return .int (-n)
      | some (.real x) => return .float (-x)
      | none => typeError s!"bad operand type for unary -: '{← kindName v}'"

def positive (v : Value) : Eval Value := do
  match v with
  | .undefined message | .absent message => fail .undefined message
  | v =>
      match v.number? with
      | some (.whole n) => return .int n
      | some (.real x) => return .float x
      | none => typeError s!"bad operand type for unary +: '{← kindName v}'"

/-- Joins values as texts; when one of them needs no escaping and `escape` is on, the
    others are escaped. -/
def concatenate (m : Machine) (escape : Bool) (values : List Value) : Eval Value := do
  let texts ← values.mapM (asText m)
  let anyMarkup := texts.any fun | .markup _ => true | _ => false
  if escape && anyMarkup then
    return .markup (String.join (texts.map fun
      | .markup s => s
      | v => escapeText (v.text?.getD "")))
  else return .text (String.join (texts.map fun v => v.text?.getD ""))

end SqlPipeline.Template
