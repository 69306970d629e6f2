/-
  SqlPipeline/Template/Layout/Read.lean
  =====================================
  **Reading how a field between braces is laid out, and laying it out.**

  The parts of a layout follow each other in one order, and most can be left out.  Some do
  not go together, and some do not fit what is laid out.
-/
import SqlPipeline.Template.Layout
import SqlPipeline.Text.Word

namespace SqlPipeline.Template

open Decimal Text

/-- Why something cannot be laid out. -/
inductive LayoutError where
  | manyDigits                                       -- in a width or a precision
  | noPrecision
  | excess (spec kind : String)                      -- characters behind the notation
  | bothMarks
  | mark (grouping notation_ : Char)                 -- groups of digits in another notation
  | notation_ (c : Char) (kind : String)
  | forbidden (part kind : String)
  | code                                             -- of a character
  | longCode
  | noFloat                                          -- for a whole number that is too large
deriving Repr, DecidableEq

namespace LayoutError

def shownNotation (c : Char) : String :=
  if 32 < c.toNat && c.toNat < 128 then .ofList [c] else "\\x" ++ Layout.digitsIn 16 c.toNat

def message : LayoutError → String
  | manyDigits => "Too many decimal digits in format string"
  | noPrecision => "Format specifier missing precision"
  | excess spec kind => s!"Invalid format specifier '{spec}' for object of type '{kind}'"
  | bothMarks => "Cannot specify both ',' and '_'."
  | mark grouping c => s!"Cannot specify '{grouping}' with '{shownNotation c}'."
  | notation_ c kind => s!"Unknown format code '{shownNotation c}' for object of type '{kind}'"
  | forbidden part kind => s!"{part} not allowed {kind}"
  | code => "%c arg not in range(0x110000)"
  | longCode => "Python int too large to convert to C long"
  | noFloat => "int too large to convert to float"

def isOverflow : LayoutError → Bool
  | code | longCode | noFloat => true
  | _ => false

end LayoutError

namespace Layout

/-! ### Reading -/

def takeNat : (acc : Nat) → List Char → Nat × List Char
  | acc, [] => (acc, [])
  | acc, c :: rest =>
      match decimalDigit? c with
      | some d => takeNat (acc * 10 + d) rest
      | none => (acc, c :: rest)

def greatest : Nat := 9223372036854775807

/-- Takes decimal digits; gives nothing where there is none. -/
def takeCount (cs : List Char) : Except LayoutError (Option Nat × List Char) :=
  match cs with
  | c :: _ =>
      if isDecimalDigit c then
        let (n, rest) := takeNat 0 cs
        if n ≤ greatest then .ok (some n, rest) else .error .manyDigits
      else .ok (none, cs)
  | [] => .ok (none, cs)

def isAlign (c : Char) : Bool :=
  c == '<' || c == '>' || c == '^' || c == '='

def takeAlign (cs : List Char) : Option Char × Option Char × List Char :=
  match cs with
  | f :: a :: rest =>
      if isAlign a then (some f, some a, rest)
      else if isAlign f then (none, some f, a :: rest) else (none, none, cs)
  | [a] => if isAlign a then (none, some a, []) else (none, none, cs)
  | [] => (none, none, cs)

/-- Takes a character that is wanted, if it is the next one. -/
def takeIf (wanted : Char → Bool) (cs : List Char) : Option Char × List Char :=
  match cs with
  | c :: rest => if wanted c then (some c, rest) else (none, cs)
  | [] => (none, cs)

def takeGrouping (cs : List Char) : Except LayoutError (Option Char × List Char) :=
  match cs with
  | ',' :: '_' :: _ | '_' :: ',' :: _ => .error .bothMarks
  | ',' :: rest => .ok (some ',', rest)
  | '_' :: rest => .ok (some '_', rest)
  | cs => .ok (none, cs)

def takePrecision (cs : List Char) : Except LayoutError (Option Nat × List Char) :=
  match cs with
  | '.' :: rest => do
      match ← takeCount rest with
      | (none, _) => throw .noPrecision
      | found => return found
  | cs => .ok (none, cs)

/-- Whether a mark between groups of digits goes with a notation; none stands for that of
    fractions. -/
def groupingFits (grouping : Char) (notation_ : Option Char) : Bool :=
  match notation_ with
  | none => true
  | some c => "defgEG%F".toList.contains c || (grouping == '_' && "boxX".toList.contains c)

/-- Reads the layout behind the colon of a field; `kind` names what is laid out, and `usual`
    is its notation where none is given. -/
def parse (kind : String) (usual : Option Char) (spec : String) : Except LayoutError Layout := do
  let (fill?, align, cs) := takeAlign spec.toList
  let (sign, cs) := takeIf (fun c => c == '+' || c == '-' || c == ' ') cs
  let (coerced, cs) := takeIf (· == 'z') cs
  let (alternate, cs) := takeIf (· == '#') cs
  let (zero, cs) := takeIf (fun c => c == '0' && fill?.isNone) cs
  let (width, cs) ← takeCount cs
  let (grouping, cs) ← takeGrouping cs
  let (precision, cs) ← takePrecision cs
  let type ← match cs with
    | [] => pure usual
    | [c] => pure (some c)
    | _ => throw (.excess spec kind)
  match grouping, type with
  | some g, some c => if !groupingFits g type then throw (.mark g c)
  | _, _ => pure ()
  let sideOfZeros := if zero.isSome && usual != some 's' then some '=' else none
  return { fill := fill?.getD (if zero.isSome then '0' else ' ')
           align := align <|> sideOfZeros
           sign := sign
           noNegativeZero := coerced.isSome
           alternate := alternate.isSome
           width := width.getD 0
           grouping := grouping
           precision := precision
           type := type }

/-! ### Laying out -/

/-- Fails if a part of a layout is there that does not fit. -/
def forbid (isThere : Bool) (part kind : String) : Except LayoutError Unit :=
  if isThere then .error (.forbidden part kind) else .ok ()

def coercionName : String := "Negative zero coercion (z)"

def alternateName : String := "Alternate form (#)"

def formatText (spec s : String) : Except LayoutError String := do
  let l ← parse "str" (some 's') spec
  if l.type != some 's' then throw (.notation_ (l.type.getD 's') "str")
  let kind := "in string format specifier"
  forbid (l.sign == some ' ') "Space" kind
  forbid l.sign.isSome "Sign" kind
  forbid l.noNegativeZero coercionName kind
  forbid l.alternate alternateName kind
  forbid (l.align == some '=') "'=' alignment" kind
  return l.text s

def isFloatType (c : Char) : Bool :=
  "eEfFgGn%".toList.contains c

def formatFloat (spec : String) (x : Float) : Except LayoutError String := do
  let l ← parse "float" none spec
  match l.type with
  | none => return l.floatText x
  | some c => if isFloatType c then return l.floatText x else throw (.notation_ c "float")

def formatCode (l : Layout) (n : Int) : Except LayoutError String := do
  let kind := "with integer format specifier 'c'"
  forbid l.sign.isSome "Sign" kind
  forbid l.alternate alternateName kind
  if n < -(greatest : Int) - 1 || (greatest : Int) < n then throw .longCode
  if n < 0 || 0x10FFFF < n then throw .code
  return l.charText (Char.ofNat n.toNat)

def formatWhole (l : Layout) (n : Int) : Except LayoutError String := do
  let kind := "in integer format specifier"
  forbid l.precision.isSome "Precision" kind
  forbid l.noNegativeZero coercionName kind
  if l.type == some 'c' then formatCode l n else return l.intText n

/-- Lays out a whole number; notations for fractions get `x`, the nearest double. -/
def formatInt (kind spec : String) (n : Int) (x : Float) : Except LayoutError String := do
  let l ← parse kind (some 'd') spec
  let c := l.type.getD 'd'
  if "bcdoxXn".toList.contains c then formatWhole l n
  else if !isFloatType c then throw (.notation_ c kind)
  else if x.isInf then throw .noFloat
  else return l.floatText x

end Layout

end SqlPipeline.Template
