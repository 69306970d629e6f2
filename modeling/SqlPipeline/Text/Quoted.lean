/-
  SqlPipeline/Text/Quoted.lean
  ============================
  **Texts as they are shown in messages: between quotes, with escapes.**

  The quote is the single one, unless the text holds a single quote and no double
  one.  The chosen quote and the backslash are escaped, the three common layout
  characters have letters of their own, and what cannot be printed is written as a
  hexadecimal code of two, four or eight digits.
-/
import SqlPipeline.Text.Table.Printable

namespace SqlPipeline.Text

/-- The lower-case hexadecimal digit for a value below sixteen. -/
def hexDigit (n : Nat) : Char :=
  if n < 10 then Char.ofNat (n + 48) else Char.ofNat (n + 87)

/-- The last `width` hexadecimal digits of a number. -/
def hexDigits : (width : Nat) → Nat → List Char
  | 0, _ => []
  | width + 1, n => hexDigits width (n / 16) ++ [hexDigit (n % 16)]

def isPrintable (c : Char) : Bool :=
  if c.toNat < 128 then 32 ≤ c.toNat && c.toNat < 127 else printableSet.mem c

/-- The written form of one character between quotes of the kind `quote`. -/
def escapeChar (quote c : Char) : List Char :=
  if c = quote ∨ c = '\\' then ['\\', c]
  else if c = '\n' then ['\\', 'n']
  else if c = '\r' then ['\\', 'r']
  else if c = '\t' then ['\\', 't']
  else if isPrintable c then [c]
  else if c.toNat < 0x100 then '\\' :: 'x' :: hexDigits 2 c.toNat
  else if c.toNat < 0x10000 then '\\' :: 'u' :: hexDigits 4 c.toNat
  else '\\' :: 'U' :: hexDigits 8 c.toNat

/-- The written form of a character beyond the first 128. -/
def asciiChar (c : Char) : List Char :=
  if c.toNat < 128 then [c]
  else if c.toNat < 0x100 then '\\' :: 'x' :: hexDigits 2 c.toNat
  else if c.toNat < 0x10000 then '\\' :: 'u' :: hexDigits 4 c.toNat
  else '\\' :: 'U' :: hexDigits 8 c.toNat

/-- A text with escapes for all but the first 128 characters. -/
def asciiOnly (s : String) : String :=
  .ofList (s.toList.flatMap asciiChar)

def quoteFor (s : List Char) : Char :=
  if s.contains '\'' && !s.contains '"' then '"' else '\''

def quoted (s : String) : String :=
  let cs := s.toList
  let q := quoteFor cs
  .ofList (q :: cs.flatMap (escapeChar q) ++ [q])

/-- The written form of one byte between quotes of the kind `quote`. -/
def escapeByte (quote : Char) (b : UInt8) : List Char :=
  let c := Char.ofNat b.toNat
  if c = quote ∨ c = '\\' then ['\\', c]
  else if c = '\n' then ['\\', 'n']
  else if c = '\r' then ['\\', 'r']
  else if c = '\t' then ['\\', 't']
  else if 32 ≤ b.toNat && b.toNat < 127 then [c]
  else '\\' :: 'x' :: hexDigits 2 b.toNat

/-- A run of bytes between quotes, marked as bytes by a letter in front. -/
def quotedBytes (bytes : List UInt8) : String :=
  let q := quoteFor (bytes.map fun b => Char.ofNat b.toNat)
  .ofList ('b' :: q :: bytes.flatMap (escapeByte q) ++ [q])

end SqlPipeline.Text
