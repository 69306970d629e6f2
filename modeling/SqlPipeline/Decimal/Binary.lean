/-
  SqlPipeline/Decimal/Binary.lean
  ===============================
  **Floating-point numbers as exact fractions.**

  A finite double is `± m · 2 ^ q` with whole `m` and `q`.  Everything that prints,
  rounds or reads a number in this library works on that fraction with whole-number
  arithmetic, so no intermediate result is ever rounded.
-/
namespace SqlPipeline.Decimal

inductive Binary where
  | finite (negative : Bool) (mantissa : Nat) (exponent : Int)  -- `± mantissa · 2 ^ exponent`
  | infinite (negative : Bool)
  | undefined                                                   -- not a number
deriving Repr, DecidableEq

/-- Takes a double apart; the mantissa of a finite one is below `2 ^ 53`, and is at least
    `2 ^ 52` unless the exponent is the least one. -/
def Binary.ofFloat (f : Float) : Binary :=
  let bits : Nat := f.toBits.toNat
  let negative := bits / Nat.pow 2 63 == 1
  let field : Nat := bits / Nat.pow 2 52 % 2048
  let fraction : Nat := bits % Nat.pow 2 52
  if field == 2047 then
    if fraction == 0 then .infinite negative else .undefined
  else if field == 0 then .finite negative fraction (-1074)
  else .finite negative (Nat.pow 2 52 + fraction) ((field : Int) - 1075)

/-- Numerator and denominator of `mantissa · 2 ^ exponent`. -/
def fraction (mantissa : Nat) (exponent : Int) : Nat × Nat :=
  if 0 ≤ exponent then (mantissa * Nat.pow 2 exponent.toNat, 1) else (mantissa, Nat.pow 2 (-exponent).toNat)

/-- The whole number nearest to `num / den`; of two equally near ones, the even one. -/
def roundDiv (num den : Nat) : Nat :=
  let q := num / den
  let twice := 2 * (num % den)
  if twice < den then q
  else if twice > den then q + 1
  else if q % 2 == 0 then q else q + 1

/-- The whole part of a double, toward zero, when it is finite. -/
def Binary.truncate? : Binary → Option Int
  | .finite negative mantissa exponent =>
      let (num, den) := fraction mantissa exponent
      let whole : Int := (num / den : Nat)
      some (if negative then -whole else whole)
  | _ => none

def Binary.isWhole : Binary → Bool
  | .finite _ mantissa exponent =>
      let (num, den) := fraction mantissa exponent
      num % den == 0
  | _ => false

/-- The double nearest to `± digits · 10 ^ exponent`. -/
def toFloat (negative : Bool) (digits : Nat) (exponent : Int) : Float :=
  let magnitude :=
    if 0 ≤ exponent then Float.ofScientific digits false exponent.toNat
    else Float.ofScientific digits true (-exponent).toNat
  if negative then -magnitude else magnitude

/-- The double nearest to a whole number; infinite when the number is out of range. -/
def ofInt (n : Int) : Float :=
  toFloat (n < 0) n.natAbs 0

end SqlPipeline.Decimal
