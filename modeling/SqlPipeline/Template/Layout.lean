/-
  SqlPipeline/Template/Layout.lean
  ================================
  **Laying out numbers and texts in fields.**

  A field has a width, a side to fill and a fill character; a number has a sign, a base
  or a notation, a precision, and a mark between groups of digits.  The same rules serve
  fields with a percent sign and fields between braces.
-/
import SqlPipeline.Decimal.Notation

namespace SqlPipeline.Template

open Decimal Text

/-- How a number or text is laid out. -/
structure Layout where
  fill : Char := ' '
  align : Option Char := none        -- `<`, `>`, `^`, or `=` for filling behind the sign
  sign : Option Char := none         -- `+` and a blank mark positive numbers too
  noNegativeZero : Bool := false     -- what is rounded to zero has no sign
  alternate : Bool := false          -- marks the base, and keeps the point of a fraction
  width : Nat := 0
  grouping : Option Char := none
  precision : Option Nat := none
  type : Option Char := none

namespace Layout

def pad (fill align : Char) (width : Nat) (sign body : String) : String :=
  let missing := width - (sign.length + body.length)
  if align == '<' then sign ++ body ++ filled missing fill
  else if align == '^' then
    filled (missing / 2) fill ++ sign ++ body ++ filled (missing - missing / 2) fill
  else if align == '=' then sign ++ filled missing fill ++ body
  else filled missing fill ++ sign ++ body

def signText (l : Layout) (negative : Bool) : String :=
  if negative then "-" else if l.sign == some '+' then "+" else if l.sign == some ' ' then " " else ""

def digitsIn (base n : Nat) : String :=
  .ofList (Nat.toDigits base n)

def grouped (mark : Option Char) (size : Nat) (digits : String) : String :=
  match mark with
  | none => digits
  | some c => .ofList (go c 0 digits.toList.reverse).reverse
where
  go (c : Char) : Nat → List Char → List Char
    | _, [] => []
    | n, d :: ds => if n == size && size != 0 then c :: d :: go c 1 ds else d :: go c (n + 1) ds

def zeroGrouped (l : Layout) (size : Nat) (sign digits rest : String) : String :=
  let fits (n : Nat) := (grouped l.grouping size (zeroPadded n digits)).length
  let wanted := l.width - sign.length - rest.length
  let candidates := (List.range (wanted + 1)).map (· + digits.length)
  let n := (candidates.find? fun n => fits n ≥ wanted).getD digits.length
  sign ++ grouped l.grouping size (zeroPadded n digits) ++ rest

def number (l : Layout) (groupSize : Nat) (sign digits rest : String) : String :=
  let align := l.align.getD '>'
  if l.grouping.isSome && align == '=' && l.fill == '0' then zeroGrouped l groupSize sign digits rest
  else pad l.fill align l.width sign (grouped l.grouping groupSize digits ++ rest)

def intText (l : Layout) (n : Int) : String :=
  let (base, mark, size) : Nat × String × Nat :=
    match l.type with
    | some 'b' => (2, "0b", 4)
    | some 'o' => (8, "0o", 4)
    | some 'x' => (16, "0x", 4)
    | some 'X' => (16, "0X", 4)
    | _ => (10, "", 3)
  let digits := digitsIn base n.natAbs
  let digits := if l.type == some 'X' then digits.map Char.toUpper else digits
  let sign := l.signText (n < 0) ++ if l.alternate then mark else ""
  l.number size sign digits ""

/-- Digits with a point behind the first `point` of them, and zeros behind them up to `shown`
    digits; a point at the end is kept on request. -/
def withPoint (keepPoint : Bool) (digits : String) (point : Int) (shown : Nat) : String :=
  let all := (digits ++ filled (max shown point.toNat - digits.length) '0').toList
  let rest := List.replicate (-point).toNat '0' ++ all.drop point.toNat
  (if point ≤ 0 then "0" else .ofList (all.take point.toNat))
    ++ (if rest.isEmpty && !keepPoint then "" else ".") ++ .ofList rest

/-- Digits in the positional form while the point stands behind at most `limit` of them and
    before at most four zeros, else with a power of ten; `fraction` wants one place at least. -/
def generalText (l : Layout) (mark : Char) (d : Digits) (limit : Int) (shown : Nat) (fraction : Bool) : String :=
  let digits := digitText d.digits
  let point := d.leadingPlace + 1
  if point ≤ -4 || limit < point then
    withPoint l.alternate digits 1 shown ++ exponentText mark (point - 1)
  else withPoint l.alternate digits point (if fraction then max shown (point + 1).toNat else shown)

/-- The digits of a magnitude as a notation wants them, and what stands behind them. -/
def magnitudeText (l : Layout) (mantissa : Nat) (exponent : Int) : String :=
  let mark := if l.type == some 'E' || l.type == some 'G' then 'E' else 'e'
  let places := l.precision.getD 6
  let keptPoint := if l.alternate && places == 0 then "." else ""
  let rounded (count : Nat) : Digits :=
    if mantissa == 0 then ⟨0, 0⟩ else (significant mantissa exponent count).normalize
  match l.type.map Char.toLower, l.precision with
  | some 'f', _ => fixedMagnitude mantissa exponent places ++ keptPoint
  | some '%', _ => fixedMagnitude mantissa exponent places ++ keptPoint ++ "%"
  | some 'e', _ =>
      let d := rounded (places + 1)
      withPoint l.alternate (digitText d.digits) 1 (places + 1) ++ exponentText mark d.leadingPlace
  | some _, _ =>
      let count := max places 1
      l.generalText mark (rounded count) count (if l.alternate then count else 0) false
  | none, some p =>
      let count := max p 1
      l.generalText mark (rounded count) (count - 1) (if l.alternate then count else 0) true
  | none, none =>
      let d := if mantissa == 0 then ⟨0, 0⟩ else shortest mantissa exponent
      l.generalText mark d 16 0 true

def wholePart (s : String) : String × String :=
  (.ofList (s.toList.takeWhile Char.isDigit), .ofList (s.toList.dropWhile Char.isDigit))

/-- Whether a number that has been written has no digit but zeros before its exponent. -/
def showsZero (s : String) : Bool :=
  (s.toList.takeWhile fun c => c.isDigit || c == '.').all fun c => c == '0' || c == '.'

def floatText (l : Layout) (x : Float) : String :=
  let percent := l.type == some '%'
  let upper (s : String) := match l.type with
    | some c => if c.isUpper then s.map Char.toUpper else s
    | none => s
  match Binary.ofFloat (if percent then x * 100.0 else x) with
  | .undefined => l.number 3 (l.signText false) (upper "nan") (if percent then "%" else "")
  | .infinite negative => l.number 3 (l.signText negative) (upper "inf") (if percent then "%" else "")
  | .finite negative mantissa exponent =>
      let text := l.magnitudeText mantissa exponent
      let (whole, rest) := wholePart text
      l.number 3 (l.signText (negative && !(l.noNegativeZero && showsZero text))) whole rest

def text (l : Layout) (s : String) : String :=
  let s := match l.precision with
    | some p => String.ofList (s.toList.take p)
    | none => s
  pad l.fill (l.align.getD '<') l.width "" s

def charText (l : Layout) (c : Char) : String :=
  pad l.fill (l.align.getD '>') l.width "" (.ofList [c])

end Layout

end SqlPipeline.Template
