/-
  SqlPipeline/Decimal/Notation.lean
  =================================
  **Written forms of numbers.**

  A number is first brought to digits and an exponent, by the shortest digits or by
  rounding at a given place, and then laid out: positionally, or as one digit, a
  fraction and a power of ten.  The default form is positional from `10 ^ -4` up to
  but not including `10 ^ 16`, always with a fraction.

  The shortest digits are the fewest that read back as the same double.  The reals that
  round to a double form an interval around it.  For one digit, two digits, and so on, the
  two points of that decimal grid next to the double are tried; the first grid with a point
  inside the interval wins, and of two points the nearer one.  Seventeen digits always
  suffice.
-/
import SqlPipeline.Decimal.Binary
import SqlPipeline.Text.Search

namespace SqlPipeline.Decimal

/-! ### The shortest digits -/

/-- A decimal number `digits · 10 ^ exponent`. -/
structure Digits where
  digits : Nat
  exponent : Int
deriving Repr, DecidableEq

/-- The reals that round to `value / den`: from `low / den` to `high / den`, the ends
    included when `closed`. -/
structure Rounding where
  value : Nat
  low : Nat
  high : Nat
  den : Nat
  closed : Bool

/-- The interval of a positive double.  Below a power of two the doubles are twice as
    dense, so there the lower half is half as wide. -/
def Rounding.ofBinary (mantissa : Nat) (exponent : Int) : Rounding :=
  let (num, den) := fraction (4 * mantissa) exponent
  let unit := num / (4 * mantissa)
  let below := if mantissa == Nat.pow 2 52 && exponent > -1074 then unit else 2 * unit
  ⟨num, num - below, num + 2 * unit, 4 * den, mantissa % 2 == 0⟩

/-- Whether `digits · 10 ^ exponent` lies in the interval. -/
def Rounding.contains (r : Rounding) (d : Digits) : Bool :=
  let up := Nat.pow 10 d.exponent.toNat
  let down := Nat.pow 10 (-d.exponent).toNat
  let point := d.digits * up * r.den
  let low := r.low * down
  let high := r.high * down
  (low < point && point < high) || (r.closed && (low == point || point == high))

/-- The number of decimal digits before the point; zero or negative for a value below
    one, where it counts the zeros behind the point. -/
def magnitude (num den : Nat) : Int :=
  if num ≥ den then (Nat.toDigits 10 (num / den)).length
  else go 400 0 num
where
  /-- Multiplies by ten until the value reaches one. -/
  go : Nat → Nat → Nat → Int
    | 0, zeros, _ => -(zeros : Int)
    | fuel + 1, zeros, n => if n * 10 ≥ den then -(zeros : Int) else go fuel (zeros + 1) (n * 10)

/-- The point of the grid of `count` digits next to the value that reads back, if any. -/
def Rounding.onGrid? (r : Rounding) (places : Int) (count : Nat) : Option Digits :=
  let exponent := places - count
  let up := Nat.pow 10 exponent.toNat
  let down := Nat.pow 10 (-exponent).toNat
  let num := r.value * down
  let den := r.den * up
  let below : Digits := ⟨num / den, exponent⟩
  let above : Digits := ⟨num / den + 1, exponent⟩
  let belowFits := num / den > 0 && r.contains below
  let aboveFits := r.contains above
  if belowFits && aboveFits then
    let twice := 2 * (num % den)
    some (if twice < den || (twice == den && (num / den) % 2 == 0) then below else above)
  else if belowFits then some below
  else if aboveFits then some above
  else none

def Digits.normalize (d : Digits) : Digits :=
  go 400 d
where
  go : Nat → Digits → Digits
    | 0, d => d
    | fuel + 1, d =>
        if d.digits % 10 == 0 && d.digits != 0 then go fuel ⟨d.digits / 10, d.exponent + 1⟩ else d

def shortest (mantissa : Nat) (exponent : Int) : Digits :=
  if mantissa == 0 then ⟨0, 0⟩
  else
    let r := Rounding.ofBinary mantissa exponent
    let places := magnitude r.value r.den
    let found := (List.range 17).findSome? fun i => r.onGrid? places (i + 1)
    (found.getD ⟨roundDiv r.value r.den, 0⟩).normalize

/-! ### Layout -/

open SqlPipeline.Text

def digitText (n : Nat) : String :=
  .ofList (Nat.toDigits 10 n)

/-- A whole number, with a sign only when it is negative. -/
def intText (n : Int) : String :=
  if n < 0 then "-" ++ digitText n.natAbs else digitText n.natAbs

def zeroPadded (width : Nat) (s : String) : String :=
  filled (width - s.length) '0' ++ s

/-- The exponent part: a mark, a sign and at least two digits. -/
def exponentText (mark : Char) (exponent : Int) : String :=
  String.ofList [mark, if exponent < 0 then '-' else '+'] ++ zeroPadded 2 (digitText exponent.natAbs)

/-- Digits laid out positionally, with exactly `places` of them behind the point; the
    point is left out when there are none. -/
def fixedText (scaled places : Nat) : String :=
  let text := zeroPadded (places + 1) (digitText scaled)
  let cut := text.length - places
  if places == 0 then text
  else .ofList (text.toList.take cut) ++ "." ++ .ofList (text.toList.drop cut)

/-- Digits laid out positionally, a point and a zero being added to a whole number. -/
def positionalText (d : Digits) : String :=
  if 0 ≤ d.exponent then digitText (d.digits * Nat.pow 10 d.exponent.toNat) ++ ".0"
  else fixedText d.digits (-d.exponent).toNat

/-- One digit, the others behind a point, and the power of ten. -/
def scientificText (mark : Char) (d : Digits) : String :=
  match (digitText d.digits).toList with
  | [] => ""
  | first :: rest =>
      let fractionPart := if rest.isEmpty then "" else "." ++ String.ofList rest
      String.ofList [first] ++ fractionPart ++ exponentText mark (d.exponent + rest.length)

/-- The place of the first digit of a decimal number: `k` when it lies in
    `[10 ^ k, 10 ^ (k + 1))`. -/
def Digits.leadingPlace (d : Digits) : Int :=
  d.exponent + ((digitText d.digits).length : Int) - 1

def Digits.text (d : Digits) : String :=
  if d.digits == 0 then "0.0"
  else if -4 ≤ d.leadingPlace && d.leadingPlace < 16 then positionalText d
  else scientificText 'e' d

/-- The default form of a double: the shortest digits that read back. -/
def floatText (f : Float) : String :=
  match Binary.ofFloat f with
  | .undefined => "nan"
  | .infinite negative => if negative then "-inf" else "inf"
  | .finite negative mantissa exponent =>
      (if negative then "-" else "") ++ (shortest mantissa exponent).text

/-! ### Rounding at a place -/

/-- `mantissa · 2 ^ exponent`, multiplied by `10 ^ places` and rounded to a whole number. -/
def scaledTo (mantissa : Nat) (exponent places : Int) : Nat :=
  let (num, den) := fraction mantissa exponent
  roundDiv (num * Nat.pow 10 places.toNat) (den * Nat.pow 10 (-places).toNat)

/-- Exactly `places` digits behind the point. -/
def fixedMagnitude (mantissa : Nat) (exponent : Int) (places : Nat) : String :=
  fixedText (scaledTo mantissa exponent places) places

/-- The digits of a magnitude, rounded to `count` significant ones (at least one). -/
def significant (mantissa : Nat) (exponent : Int) (count : Nat) : Digits :=
  if mantissa == 0 then ⟨0, 0⟩
  else
    let (num, den) := fraction mantissa exponent
    let places : Int := count - magnitude num den
    let scaled := scaledTo mantissa exponent places
    if (digitText scaled).length > count then ⟨scaled / 10, 1 - places⟩ else ⟨scaled, -places⟩

def roundFloat (f : Float) (places : Int) : Float :=
  match Binary.ofFloat f with
  | .finite negative mantissa exponent =>
      if places > 330 then f
      else if places < -330 then (if negative then -0.0 else 0.0)
      else toFloat negative (scaledTo mantissa exponent places) (-places)
  | _ => f

/-! ### Grouping -/

def groupDigits (sep : Char) (digits : List Char) : List Char :=
  (go 0 digits.reverse).reverse
where
  go : Nat → List Char → List Char
    | _, [] => []
    | n, c :: cs => if n == 3 then sep :: c :: go 1 cs else c :: go (n + 1) cs

/-- A number that has been written, with commas in its whole part. -/
def groupedText (s : String) : String :=
  let sign := s.toList.takeWhile (!·.isDigit)
  let rest := s.toList.dropWhile (!·.isDigit)
  .ofList (sign ++ groupDigits ',' (rest.takeWhile (·.isDigit)) ++ rest.dropWhile (·.isDigit))

end SqlPipeline.Decimal
