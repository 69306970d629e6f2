/-
  SqlPipeline/Text/Word.lean
  ==========================
  **Word characters, digits and identifiers.**

  A word character is a letter, a digit or an underscore.  ASCII is decided by
  comparison and everything else by the tables of the standard.
-/
import SqlPipeline.Text.Table.Word
import SqlPipeline.Text.Table.Identifier

namespace SqlPipeline.Text

def isAsciiLetter (c : Char) : Bool :=
  ('a' ≤ c && c ≤ 'z') || ('A' ≤ c && c ≤ 'Z')

def isAsciiDigit (c : Char) : Bool :=
  '0' ≤ c && c ≤ '9'

def isWord (c : Char) : Bool :=
  if c.toNat < 128 then isAsciiLetter c || isAsciiDigit c || c == '_' else wordSet.mem c

def isLetter (c : Char) : Bool :=
  if c.toNat < 128 then isAsciiLetter c else letterSet.mem c

def isLetterOrDigit (c : Char) : Bool :=
  isWord c && c != '_'

def isDecimalDigit (c : Char) : Bool :=
  if c.toNat < 128 then isAsciiDigit c else decimalSet.mem c

def isDigitLike (c : Char) : Bool :=
  if c.toNat < 128 then isAsciiDigit c else digitSet.mem c

/-- The value of a decimal digit: the digits of a script are ten neighbours in order, so
    the value is the distance from the start of the run of ten. -/
def decimalDigit? (c : Char) : Option Nat :=
  if isAsciiDigit c then some (c.toNat - '0'.toNat)
  else if isDecimalDigit c then
    let start := decimalSet.flips.foldl (fun best n => if n ≤ c.toNat then n else best) 0
    some ((c.toNat - start) % 10)
  else none

def isIdentifierStart (c : Char) : Bool :=
  if c.toNat < 128 then isAsciiLetter c || c == '_' else identifierStartSet.mem c

def isIdentifierPart (c : Char) : Bool :=
  if c.toNat < 128 then isWord c else identifierPartSet.mem c

def isIdentifier : List Char → Bool
  | [] => false
  | c :: cs => isIdentifierStart c && cs.all isIdentifierPart

end SqlPipeline.Text
