/-
  SqlPipeline/Decimal/Arithmetic.lean
  ===================================
  **Comparing and dividing numbers of both kinds.**

  Whole numbers are exact and unbounded.  A whole number and a double are compared by
  their exact values; a quotient of whole numbers is rounded once.  Division to the
  floor and its remainder have the sign of the divisor.
-/
import SqlPipeline.Decimal.Binary

namespace SqlPipeline.Decimal

def compareFractions (n₁ : Int) (d₁ : Nat) (n₂ : Int) (d₂ : Nat) : Ordering :=
  compare (n₁ * d₂) (n₂ * d₁)

/-- The order of a whole number and a double; none when the double is undefined. -/
def compareWithFloat (n : Int) (x : Float) : Option Ordering :=
  match Binary.ofFloat x with
  | .undefined => none
  | .infinite negative => some (if negative then .gt else .lt)
  | .finite negative mantissa exponent =>
      let (num, den) := fraction mantissa exponent
      some (compareFractions n 1 (if negative then -(num : Int) else num) den)

/-- The order of two doubles; none when one of them is undefined. -/
def compareFloats (x y : Float) : Option Ordering :=
  if x < y then some .lt else if x > y then some .gt else if x == y then some .eq else none

def quotientNat (num den : Nat) : Float :=
  if num == 0 then 0.0
  else
    let shift : Int := 64 + (Nat.log2 den : Int) - (Nat.log2 num : Int)
    let scaledNum := num * Nat.pow 2 shift.toNat
    let scaledDen := den * Nat.pow 2 (-shift).toNat
    let q := scaledNum / scaledDen
    let sticky := if scaledNum % scaledDen == 0 then 0 else 1
    let cut := Nat.log2 q - 62
    let low := if q % Nat.pow 2 cut == 0 then sticky else 1
    let head := (q / Nat.pow 2 cut) * 2 + low
    (Float.ofNat head).scaleB ((cut : Int) - 1 - shift)

/-- The double nearest to a quotient of whole numbers; the divisor is not zero. -/
def quotient (a b : Int) : Float :=
  let magnitude := quotientNat a.natAbs b.natAbs
  if (a < 0) != (b < 0) then -magnitude else magnitude

/-- What is left of a double after as many whole multiples of another as possible, with
    the sign of the first. -/
def floatRemainder (x y : Float) : Float :=
  match Binary.ofFloat x, Binary.ofFloat y with
  | .finite negative mx ex, .finite _ my ey =>
      let e := min ex ey
      let a := mx * Nat.pow 2 (ex - e).toNat
      let b := my * Nat.pow 2 (ey - e).toNat
      let r := a % b
      let cut := Nat.log2 r - 62
      let magnitude := (Float.ofNat (r / Nat.pow 2 cut)).scaleB ((cut : Int) + e)
      if negative then -magnitude else magnitude
  | .finite _ _ _, .infinite _ => x
  | _, _ => 0.0 / 0.0

def floatNegative (x : Float) : Bool :=
  match Binary.ofFloat x with
  | .finite negative _ _ => negative
  | .infinite negative => negative
  | .undefined => false

/-- The remainder of a division to the floor; the divisor is not zero. -/
def floatMod (x y : Float) : Float :=
  let r := floatRemainder x y
  if r == 0.0 then (if floatNegative y then -0.0 else 0.0)
  else if (y < 0.0) != (r < 0.0) then r + y
  else r

/-- The quotient of a division to the floor; the divisor is not zero. -/
def floatFloorDiv (x y : Float) : Float :=
  let r := floatRemainder x y
  let q := (x - r) / y
  let q := if r != 0.0 && (y < 0.0) != (r < 0.0) then q - 1.0 else q
  if q == 0.0 then (if floatNegative x != floatNegative y then -0.0 else 0.0)
  else
    let floor := q.floor
    if q - floor > 0.5 then floor + 1.0 else floor

end SqlPipeline.Decimal
