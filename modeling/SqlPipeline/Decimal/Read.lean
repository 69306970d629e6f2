/-
  SqlPipeline/Decimal/Read.lean
  =============================
  **Reading numbers.**

  A numeral may have underscores between digits, a sign, white space around it, and
  digits of any script.  What is read is exact; a fraction is rounded once, to the
  nearest double, at the very end.
-/
import SqlPipeline.Decimal.Binary
import SqlPipeline.Text.CharSet
import SqlPipeline.Text.Word

namespace SqlPipeline.Decimal

open SqlPipeline.Text

def digitValue? (c : Char) : Option Nat :=
  match decimalDigit? c with
  | some n => some n
  | none =>
      if 'a' ≤ c ∧ c ≤ 'z' then some (c.toNat - 'a'.toNat + 10)
      else if 'A' ≤ c ∧ c ≤ 'Z' then some (c.toNat - 'A'.toNat + 10)
      else none

/-- Digits of a base, underscores being allowed between two digits. -/
def readDigits (base : Nat) (s : List Char) : Option Nat :=
  go false 0 s
where
  /-- `afterDigit` tells whether an underscore or the end may come now. -/
  go (afterDigit : Bool) (acc : Nat) : List Char → Option Nat
    | [] => if afterDigit then some acc else none
    | '_' :: rest => if afterDigit then go false acc rest else none
    | c :: rest =>
        match digitValue? c with
        | some d => if d < base then go true (acc * base + d) rest else none
        | none => none

def takeSign : List Char → Bool × List Char
  | '-' :: rest => (true, rest)
  | '+' :: rest => (false, rest)
  | rest => (false, rest)

/-- Drops a base mark such as `0x`, together with one underscore behind it. -/
def dropBaseMark (mark : Char) : List Char → Option (List Char)
  | '0' :: c :: rest =>
      if c.toLower = mark then
        match rest with
        | '_' :: rest => some rest
        | rest => some rest
      else none
  | _ => none

/-- A whole number in a base from two to thirty-six, with white space around it and a
    sign in front; the base mark of bases two, eight and sixteen may be written. -/
def readInt? (base : Nat) (s : List Char) : Option Int :=
  let (negative, body) := takeSign (trim s)
  let mark? : Option Char :=
    if base == 2 then some 'b' else if base == 8 then some 'o'
    else if base == 16 then some 'x' else none
  let body := ((mark?.bind (dropBaseMark · body))).getD body
  (readDigits base body).map fun n => if negative then -(n : Int) else n

/-- A whole number whose base is told by its mark; without one it is decimal, and then
    only zero may start with a zero. -/
def readMarkedInt? (s : List Char) : Option Int :=
  let (negative, body) := takeSign (trim s)
  let value? :=
    match dropBaseMark 'b' body, dropBaseMark 'o' body, dropBaseMark 'x' body with
    | some digits, _, _ => readDigits 2 digits
    | _, some digits, _ => readDigits 8 digits
    | _, _, some digits => readDigits 16 digits
    | none, none, none =>
        match readDigits 10 body with
        | some n => if body.head? == some '0' && n != 0 then none else some n
        | none => none
  value?.map fun n => if negative then -(n : Int) else n

/-- A run of digits with underscores between them; `none` where an underscore is not
    between two digits.  Gives the digits' value and number. -/
def readRun (s : List Char) : Option (Nat × Nat) :=
  if s.isEmpty then some (0, 0)
  else (readDigits 10 s).map fun n => (n, (s.filter (· != '_')).length)

def isRunChar (c : Char) : Bool :=
  isDecimalDigit c || c == '_'

/-- A decimal fraction with an optional exponent, or the name of an infinity or of the
    undefined number. -/
def readFloat? (s : List Char) : Option Float :=
  let (negative, body) := takeSign (trim s)
  let name := body.map Char.toLower
  if name == "inf".toList || name == "infinity".toList then
    some (if negative then -(1.0 / 0.0) else 1.0 / 0.0)
  else if name == "nan".toList then some (0.0 / 0.0)
  else
    let whole := body.takeWhile isRunChar
    let rest := body.dropWhile isRunChar
    let (fractionDigits, rest) :=
      match rest with
      | '.' :: rest => (rest.takeWhile isRunChar, rest.dropWhile isRunChar)
      | rest => ([], rest)
    let exponent? : Option Int :=
      match rest with
      | [] => some 0
      | e :: rest =>
          if e = 'e' ∨ e = 'E' then
            let (down, digits) := takeSign rest
            (readDigits 10 digits).map fun n => if down then -(n : Int) else n
          else none
    match readRun whole, readRun fractionDigits, exponent? with
    | some (w, wn), some (f, fn), some exponent =>
        if wn + fn == 0 then none
        else
          let digits := w * Nat.pow 10 fn + f
          let exponent := exponent - fn
          if digits == 0 then some (if negative then -0.0 else 0.0)
          else if exponent > 400 then some (if negative then -(1.0 / 0.0) else 1.0 / 0.0)
          else if exponent + ((Nat.toDigits 10 digits).length : Int) < -400 then
            some (if negative then -0.0 else 0.0)
          else some (toFloat negative digits exponent)
    | _, _, _ => none

end SqlPipeline.Decimal
