/-
  SqlPipeline/Yaml/Kind.lean
  ==========================
  **What a plain scalar means.**

  A text without quotes is a number, a truth value, a moment or nothing when it is
  written like one, and else just a text.  The forms do not overlap.
-/
import SqlPipeline.Yaml.Scalar
import SqlPipeline.Text.Search

namespace SqlPipeline.Yaml

/-! ### Tags -/

def coreTag (kind : String) : String :=
  "tag:yaml.org,2002:" ++ kind

/-! ### Written forms -/

def isDigitOrUnderscore (c : Char) : Bool :=
  isDigit c || c == '_'

def unsigned : List Char → List Char
  | '+' :: cs => cs
  | '-' :: cs => cs
  | cs => cs

def isDigitRun : List Char → Bool
  | [] => false
  | c :: cs => isDigit c && cs.all isDigitOrUnderscore

def isRunOf (test : Char → Bool) (cs : List Char) : Bool :=
  !cs.isEmpty && cs.all test

def isSixtieth : List Char → Bool
  | [c] => isDigit c
  | [c, d] => '0' ≤ c && c ≤ '5' && isDigit d
  | _ => false

/-- A whole number: binary, octal, decimal, hexadecimal, or by sixties with colons. -/
def isWhole (cs : List Char) : Bool :=
  match unsigned cs with
  | ['0'] => true
  | '0' :: 'b' :: digits => isRunOf (fun c => c == '0' || c == '1' || c == '_') digits
  | '0' :: 'x' :: digits => isRunOf (fun c => isHexDigit c || c == '_') digits
  | '0' :: digits => isRunOf (fun c => ('0' ≤ c && c ≤ '7') || c == '_') digits
  | digits =>
      match Text.splitAt ':' digits with
      | first :: more => isDigitRun first && more.all isSixtieth
      | [] => false

def isExponent : List Char → Bool
  | e :: sign :: digits =>
      (e == 'e' || e == 'E') && (sign == '-' || sign == '+') && isRunOf isDigit digits
  | _ => false

def isFractionEnd (cs : List Char) : Bool :=
  let rest := cs.dropWhile isDigitOrUnderscore
  rest.isEmpty || isExponent rest

/-- A fraction: with a point, or the name of an infinity or of the undefined number. -/
def isFraction (cs : List Char) : Bool :=
  let body := unsigned cs
  let named := [".inf", ".Inf", ".INF"].any (·.toList == body) || [".nan", ".NaN", ".NAN"].any (·.toList == cs)
  let plain :=
    match cs, Text.splitAt '.' body with
    | '.' :: digits, _ => (digits.head?.map isDigit).getD false && isFractionEnd digits
    | _, [whole, fraction] =>
        match Text.splitAt ':' whole with
        | [whole] => isDigitRun whole && isFractionEnd fraction
        | first :: more =>
            isDigitRun first && more.all isSixtieth && fraction.all isDigitOrUnderscore
        | [] => false
    | _, _ => false
  named || plain

def truthNames : List String :=
  ["yes", "no", "true", "false", "on", "off"]

/-- The name of a truth value: in lower case, in upper case, or with a capital. -/
def isTruth (cs : List Char) : Bool :=
  truthNames.any fun name =>
    let small := name.toList
    let capital := match small with
      | c :: rest => c.toUpper :: rest
      | [] => []
    cs == small || cs == capital || cs == small.map Char.toUpper

def isNothing (cs : List Char) : Bool :=
  ["", "~", "null", "Null", "NULL"].any (·.toList == cs)

/-! ### Days and moments -/

/-- The numbers of a written moment; a day alone has no clock. -/
structure Reading where
  year : Nat
  month : Nat
  day : Nat
  clock : Option (Nat × Nat × Nat × Nat) := none     -- the last one in millionths
  offset : Option Int := none                        -- in seconds
deriving Repr, DecidableEq

namespace Reading

/-- Between `least` and `most` digits, as many as there are. -/
def number? (least most : Nat) (cs : List Char) : Option (Nat × List Char) :=
  let digits := (cs.take most).takeWhile isDigit
  if digits.length < least then none
  else (Decimal.readDigits 10 digits).map fun n => (n, cs.drop digits.length)

def mark? (c : Char) : List Char → Option (List Char)
  | d :: cs => if c == d then some cs else none
  | [] => none

def day? (cs : List Char) : Option (Reading × List Char) := do
  let (year, cs) ← number? 4 4 cs
  let (month, cs) ← number? 1 2 (← mark? '-' cs)
  let (day, cs) ← number? 1 2 (← mark? '-' cs)
  return (⟨year, month, day, none, none⟩, cs)

def between? (cs : List Char) : Option (List Char) :=
  match cs with
  | 'T' :: rest => some rest
  | 't' :: rest => some rest
  | _ => if (cs.head?.map isGap).getD false then some (cs.dropWhile isGap) else none

/-- The digits behind a point as millionths; digits beyond the sixth are dropped. -/
def millionths (digits : List Char) : Nat :=
  let six := digits.take 6
  ((Decimal.readDigits 10 six).getD 0) * Nat.pow 10 (6 - six.length)

def clock? (cs : List Char) : Option ((Nat × Nat × Nat × Nat) × List Char) := do
  let (hour, cs) ← number? 1 2 cs
  let (minute, cs) ← number? 2 2 (← mark? ':' cs)
  let (second, cs) ← number? 2 2 (← mark? ':' cs)
  match cs with
  | '.' :: cs => return ((hour, minute, second, millionths (cs.takeWhile isDigit)), cs.dropWhile isDigit)
  | cs => return ((hour, minute, second, 0), cs)

/-- The distance from universal time, up to the end of the text. -/
def offset? (cs : List Char) : Option (Option Int) :=
  match cs with
  | [] => some none
  | _ =>
      match cs.dropWhile isGap with
      | ['Z'] => some (some 0)
      | sign :: cs => do
          if sign != '-' && sign != '+' then none
          let (hours, cs) ← number? 1 2 cs
          let (minutes, cs) ← match cs with
            | [] => some (0, [])
            | cs => number? 2 2 (← mark? ':' cs)
          if !cs.isEmpty then none
          let seconds : Int := (hours * 60 + minutes) * 60
          return some (if sign == '-' then -seconds else seconds)
      | [] => none

def ofText? (cs : List Char) : Option Reading := do
  let (day, cs) ← day? cs
  if cs.isEmpty then return day
  let (clock, cs) ← clock? (← between? cs)
  let offset ← offset? cs
  return { day with clock := some clock, offset := offset }

end Reading

def isMoment (cs : List Char) : Bool :=
  match Reading.ofText? cs with
  | some r => r.clock.isSome || cs.length == 10
  | none => false

/-! ### Choosing -/

def plainTag (text : String) : String :=
  let cs := text.toList
  coreTag <|
    if isTruth cs then "bool"
    else if isFraction cs then "float"
    else if isWhole cs then "int"
    else if text == "<<" then "merge"
    else if isNothing cs then "null"
    else if isMoment cs then "timestamp"
    else if text == "=" then "value"
    else "str"

end SqlPipeline.Yaml
