/-
  SqlPipeline/Template/Literal.lean
  =================================
  **Literals as they are written inside tags.**

  Whole numbers may have a base mark, fractions a point or an exponent, and both may
  have underscores between digits.  Some that are written so have no value all the same: a
  whole number with too many digits, and a fraction with a digit of another script.  A text stands between quotes of either kind, and a
  backslash in it starts an escape.
-/
import SqlPipeline.Decimal.Read
import SqlPipeline.Text.Lines
import SqlPipeline.Text.Quoted
import SqlPipeline.Text.Search
import SqlPipeline.Template.Fault

namespace SqlPipeline.Template

open Text Decimal

/-! ### Numbers -/

/-- Takes digits, each of them behind the first with at most one underscore before it. -/
def takeDigits (isDigit : Char → Bool) : List Char → List Char × List Char
  | [] => ([], [])
  | '_' :: c :: rest =>
      if isDigit c then
        let (digits, rest) := takeDigits isDigit rest
        ('_' :: c :: digits, rest)
      else ([], '_' :: c :: rest)
  | c :: rest =>
      if isDigit c then
        let (digits, rest) := takeDigits isDigit rest
        (c :: digits, rest)
      else ([], c :: rest)

/-- Takes digits of which the first has no underscore before it; there is at least one. -/
def takeRun? (isDigit : Char → Bool) : List Char → Option (List Char × List Char)
  | [] => none
  | c :: rest =>
      if isDigit c then
        let (digits, rest) := takeDigits isDigit rest
        some (c :: digits, rest)
      else none

def takeExponent? : List Char → Option (List Char × List Char)
  | e :: rest =>
      if e = 'e' ∨ e = 'E' then
        let (sign, rest) : List Char × List Char :=
          match rest with
          | '+' :: rest => (['+'], rest)
          | '-' :: rest => (['-'], rest)
          | rest => ([], rest)
        (takeRun? isDecimalDigit rest).map fun (digits, rest) => (e :: sign ++ digits, rest)
      else none
  | [] => none

/-- A fraction: digits, then a point with digits or an exponent or both. -/
def takeFraction? (s : List Char) : Option (List Char × List Char) := do
  let (whole, rest) ← takeRun? isDecimalDigit s
  let withPoint : Option (List Char × List Char) :=
    match rest with
    | '.' :: rest => (takeRun? isDecimalDigit rest).map fun (digits, rest) => ('.' :: digits, rest)
    | _ => none
  match withPoint with
  | some (digits, rest) =>
      match takeExponent? rest with
      | some (exponent, rest) => some (whole ++ digits ++ exponent, rest)
      | none => some (whole ++ digits, rest)
  | none => (takeExponent? rest).map fun (exponent, rest) => (whole ++ exponent, rest)

def takeMarked? (mark : Char) (isDigit : Char → Bool) (s : List Char) :
    Option (List Char × List Char) :=
  match s with
  | '0' :: c :: rest =>
      if c.toLower = mark then
        match takeDigits isDigit rest with
        | ([], _) => none
        | (digits, rest) => some ('0' :: c :: digits, rest)
      else none
  | _ => none

def isHexDigit (c : Char) : Bool :=
  isDecimalDigit c || ('a' ≤ c && c ≤ 'f') || ('A' ≤ c && c ≤ 'F')

/-- A whole number: in a marked base, decimal without a zero in front, or zeros. -/
def takeWhole? (s : List Char) : Option (List Char × List Char) :=
  takeMarked? 'b' (fun c => c == '0' || c == '1') s
    <|> takeMarked? 'o' (fun c => '0' ≤ c && c ≤ '7') s
    <|> takeMarked? 'x' isHexDigit s
    <|> match s with
      | '0' :: rest =>
          let (zeros, rest) := takeDigits (· == '0') rest
          some ('0' :: zeros, rest)
      | c :: rest =>
          if '1' ≤ c ∧ c ≤ '9' then
            let (digits, rest) := takeDigits isDecimalDigit rest
            some (c :: digits, rest)
          else none
      | [] => none

/-- What is wrong with a fraction: the first character that is not of ASCII. -/
def fractionFault? (s : List Char) : Option Oversight :=
  let front := s.takeWhile (·.toNat < 128)
  match s.dropWhile (·.toNat < 128), front.getLast? with
  | [], _ => none
  | c :: _, last =>
      if last.any (['e', 'E', '+', '-'].contains ·) then some .foreignExponent
      else if front.head? == some '0' && front.all isAsciiDigit && front.any (· != '0') then
        some .leadingZero
      else some (.foreignDigit c)

def readFraction (s : List Char) : Except Oversight Float :=
  match fractionFault? s with
  | some fault => .error fault
  | none => .ok ((readFloat? s).getD 0)

/-- The value of a whole number; without a base mark it has only so many digits. -/
def readWhole (s : List Char) : Except Oversight Int :=
  if s.all isDecimalDigit && s.length > Oversight.maxDigits then .error (.tooLong s.length)
  else .ok ((readMarkedInt? s).getD 0)

/-! ### Texts -/

def takeQuoted? (quote : Char) : List Char → Option (List Char × List Char)
  | [] => none
  | '\\' :: c :: rest => (takeQuoted? quote rest).map fun (body, rest) => ('\\' :: c :: body, rest)
  | c :: rest =>
      if c = quote then some ([], rest)
      else if c = '\\' then none
      else (takeQuoted? quote rest).map fun (body, rest) => (c :: body, rest)

/-- Takes exactly `count` hexadecimal digits and gives their value. -/
def takeHex? : (count : Nat) → (acc : Nat) → List Char → Option (Nat × List Char)
  | 0, acc, rest => some (acc, rest)
  | _ + 1, _, [] => none
  | count + 1, acc, c :: rest =>
      match digitValue? c with
      | some d => if c.toNat < 128 && d < 16 then takeHex? count (acc * 16 + d) rest else none
      | none => none

/-- Takes at most `count` octal digits and gives their value. -/
def takeOctal : (count : Nat) → (acc : Nat) → List Char → Nat × List Char
  | 0, acc, rest => (acc, rest)
  | _ + 1, acc, [] => (acc, [])
  | count + 1, acc, c :: rest =>
      if '0' ≤ c ∧ c ≤ '7' then takeOctal count (acc * 8 + (c.toNat - 48)) rest else (acc, c :: rest)

/-- Writes the characters beyond ASCII as escapes, so that a backslash in front of one
    meets the backslash of its escape. -/
def asciiOnly (s : List Char) : List Char :=
  s.flatMap fun c =>
    if c.toNat < 128 then [c]
    else if c.toNat < 0x100 then '\\' :: 'x' :: hexDigits 2 c.toNat
    else if c.toNat < 0x10000 then '\\' :: 'u' :: hexDigits 4 c.toNat
    else '\\' :: 'U' :: hexDigits 8 c.toNat

/-- What one escape stands for, and what follows it; the backslash is already taken. -/
def readEscape (s : List Char) : Except String (List Char × List Char) :=
  let code (count : Nat) (name : String) (rest : List Char) : Except String (List Char × List Char) :=
    match takeHex? count 0 rest with
    | some (n, rest) => if n > 0x10FFFF then .error "illegal Unicode character" else .ok ([Char.ofNat n], rest)
    | none => .error s!"truncated {name} escape"
  match s with
  | [] => .error "\\ at end of string"
  | '\n' :: rest => .ok ([], rest)
  | 'x' :: rest => code 2 "\\xXX" rest
  | 'u' :: rest => code 4 "\\uXXXX" rest
  | 'U' :: rest => code 8 "\\UXXXXXXXX" rest
  | 'N' :: '\x7b' :: rest =>
      if rest.contains '\x7d' then .error "unknown Unicode character name"
      else .error "malformed \\N character escape"
  | 'N' :: _ => .error "malformed \\N character escape"
  | c :: rest =>
      if '0' ≤ c ∧ c ≤ '7' then
        let (n, rest) := takeOctal 3 0 (c :: rest)
        .ok ([Char.ofNat n], rest)
      else
        match c with
        | 'a' => .ok (['\x07'], rest)
        | 'b' => .ok (['\x08'], rest)
        | 't' => .ok (['\t'], rest)
        | 'n' => .ok (['\n'], rest)
        | 'v' => .ok (['\x0b'], rest)
        | 'f' => .ok (['\x0c'], rest)
        | 'r' => .ok (['\r'], rest)
        | _ => if c = '\\' ∨ c = '\'' ∨ c = '"' then .ok ([c], rest) else .ok (['\\', c], rest)

/-- Replaces the escapes; `fuel` bounds their number and is at least the length. -/
def unescapeWithin : (fuel : Nat) → List Char → Except String (List Char)
  | 0, _ => .ok []
  | _ + 1, [] => .ok []
  | fuel + 1, '\\' :: rest => do
      let (cs, rest) ← readEscape rest
      .ok (cs ++ (← unescapeWithin fuel rest))
  | fuel + 1, c :: rest => do .ok (c :: (← unescapeWithin fuel rest))

/-- What a text between quotes stands for, or what is wrong with one of its escapes. -/
def unescape (body : List Char) : Except String (List Char) :=
  let body := asciiOnly body
  unescapeWithin (body.length + 1) body

end SqlPipeline.Template
