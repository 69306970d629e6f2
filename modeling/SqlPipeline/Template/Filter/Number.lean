/-
  SqlPipeline/Template/Filter/Number.lean
  =======================================
  **Filters that read and round numbers.**

  A value that is no number, and no text of one, gives the default.
-/
import SqlPipeline.Template.Filter.Basic
import SqlPipeline.Decimal.Read

namespace SqlPipeline.Template

open Eval

namespace NumberFilter

/-! ### Reading -/

def readFloat (v : Value) : Eval (Option Float) := do
  match v with
  | .undefined message | .absent message => fail .undefined message
  | .float x => return some x
  | .text s | .markup s => return Decimal.readFloat? s.toList
  | v =>
      match v.int? with
      | some n => return some (← wholeToFloat n)
      | none => return none

/-- The whole part of a double; none when it has none. -/
def wholeOf (x : Float) : Option Int :=
  (Decimal.Binary.ofFloat x).truncate?

def readWhole (base : Int) (s : String) : Option Int :=
  if base == 0 then Decimal.readMarkedInt? s.toList
  else if 2 ≤ base && base ≤ 36 then Decimal.readInt? base.toNat s.toList
  else none

def toInt : FilterRun :=
  .ofParams "do_int" ["value", "default", "base"] 1 fun _m _ b => do
    let direct : Option Int ← match b.arg 0 with
      | .undefined message | .absent message => fail .undefined message
      | .text s | .markup s => pure ((b.arg 2 (.int 10)).int?.bind fun base => readWhole base s)
      | .float x =>
          if x.isInf then fail .overflow "cannot convert float infinity to integer" else pure (wholeOf x)
      | v => pure v.int?
    match direct with
    | some n => return .int n
    | none =>
        match (← readFloat (b.arg 0)).bind wholeOf with
        | some n => return .int n
        | none => return b.arg 1 (.int 0)

def toFloat : FilterRun :=
  .ofParams "do_float" ["value", "default"] 1 fun _m _ b => do
    match ← readFloat (b.arg 0) with
    | some x => return .float x
    | none => return b.arg 1 (.float 0.0)

/-! ### Rounding -/

/-- A whole number rounded at a decimal place before the point, halves to the even side. -/
def roundWhole (n : Int) (places : Int) : Int :=
  if 0 ≤ places then n
  else
    let unit := Nat.pow 10 (-places).toNat
    let rounded := Decimal.roundDiv n.natAbs unit * unit
    if n < 0 then -(rounded : Int) else rounded

def wholeBeside (upward : Bool) (x : Float) : Eval Int := do
  match Decimal.Binary.ofFloat x with
  | .undefined => valueError "cannot convert float NaN to integer"
  | .infinite _ => fail .overflow "cannot convert float infinity to integer"
  | b =>
      let n := b.truncate?.getD 0
      if b.isWhole then return n
      else if upward then return if x > 0.0 then n + 1 else n
      else return if x < 0.0 then n - 1 else n

def roundNearest (v precision : Value) : Eval Value := do
  match v with
  | .undefined _ => typeError s!"type {← kindName v} doesn't define __round__ method"
  | v =>
      match v.number?, precision with
      | some (.whole n), .null => return .int n
      | some (.real x), .null =>
          match Decimal.Binary.ofFloat x with
          | .undefined => valueError "cannot convert float NaN to integer"
          | .infinite _ => fail .overflow "cannot convert float infinity to integer"
          | _ => return .int ((wholeOf (Decimal.roundFloat x 0)).getD 0)
      | some (.whole n), p => return .int (roundWhole n (← asIndex p))
      | some (.real x), p => return .float (Decimal.roundFloat x (← asIndex p))
      | none, _ => typeError s!"type {← kindName v} doesn't define __round__ method"

def round : FilterRun :=
  .ofParams "do_round" ["value", "precision", "method"] 1 fun m _ b => do
    let precision := b.arg 1 (.int 0)
    let way := b.arg 2 (.text "common")
    requireHashable way
    match way.text? with
    | some "common" => roundNearest (b.arg 0) precision
    | some "ceil" | some "floor" =>
        let unit ← operate m .pow (.int 10) precision
        let scaled ← operate m .mul (b.arg 0) unit
        let upward := way.text? == some "ceil"
        let whole ← match scaled.number? with
          | some (.whole n) => pure n
          | some (.real x) => wholeBeside upward x
          | none => typeError s!"must be real number, not {← kindName scaled}"
        operate m .div (.int whole) (← operate m .pow (.int 10) precision)
    | _ => fail .filterArgument "method must be common, ceil or floor"

def magnitude : FilterRun :=
  .ofOne "abs" fun _ _ v => do
    match v with
    | .undefined _ => typeError s!"bad operand type for abs(): '{← kindName v}'"
    | v =>
        match v.number? with
        | some (.whole n) => return .int n.natAbs
        | some (.real x) => return .float x.abs
        | none => typeError s!"bad operand type for abs(): '{← kindName v}'"

/-! ### Sizes of files -/

def sizeUnits (binary : Bool) : List String :=
  if binary then ["KiB", "MiB", "GiB", "TiB", "PiB", "EiB", "ZiB", "YiB"]
  else ["kB", "MB", "GB", "TB", "PB", "EB", "ZB", "YB"]

def sizeText (base : Nat) (size : Float) : (power : Nat) → List String → String
  | _, [] => ""
  | power, unit :: rest =>
      let limit := Decimal.ofInt (Nat.pow base power)
      if size < limit || rest.isEmpty then
        let shown := Decimal.ofInt base * size / limit
        ({ type := some 'f', precision := some 1 } : Layout).floatText shown ++ " " ++ unit
      else sizeText base size (power + 1) rest

def fileSize : FilterRun :=
  .ofParams "do_filesizeformat" ["value", "binary"] 1 fun m _ b => do
    let size ← match ← readFloat (b.arg 0) with
      | some x => pure x
      | none =>
          match b.arg 0 with
          | .text s | .markup s => valueError ("could not convert string to float: " ++ Text.quoted s)
          | v => typeError s!"float() argument must be a string or a real number, not '{← kindName v}'"
    let binary ← truth (b.arg 1 (.bool false))
    let base : Nat := if binary then 1024 else 1000
    if size == 1.0 then return .text "1 Byte"
    else if size < Decimal.ofInt base then
      match wholeOf size with
      | some n => return .text ((← m.written (.int n)) ++ " Bytes")
      | none => fail .overflow "cannot convert float infinity to integer"
    else return .text (sizeText base size 2 (sizeUnits binary))

def all : List (String × FilterRun) :=
  [("int", toInt), ("float", toFloat), ("round", round), ("abs", magnitude), ("filesizeformat", fileSize)]

end NumberFilter

end SqlPipeline.Template
