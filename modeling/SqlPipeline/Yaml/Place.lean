/-
  SqlPipeline/Yaml/Place.lean
  ===========================
  **Places in a YAML text.**

  Indentation carries meaning, so a place knows its column, and a key has to end on the
  line where it starts, so a place knows its line.  The text has one kind of line end;
  three further characters break lines as well.
-/
namespace SqlPipeline.Yaml

/-! ### Classes of characters -/

def isBreak (c : Char) : Bool :=
  c == '\n' || c == '\u0085' || c == '\u2028' || c == '\u2029'

def isGap (c : Char) : Bool :=
  c == ' ' || c == '\t'

/-- The end of the text, which is looked at as if a null character stood there. -/
def isEnd (c : Char) : Bool :=
  c == '\x00'

def isBreakOrEnd (c : Char) : Bool :=
  isBreak c || isEnd c

def isGapOrEnd (c : Char) : Bool :=
  isGap c || isBreakOrEnd c

/-- A space, the end of a line or the end of the text; a tab is none of these. -/
def isSpaceOrEnd (c : Char) : Bool :=
  c == ' ' || isBreakOrEnd c

def isDigit (c : Char) : Bool :=
  '0' ≤ c && c ≤ '9'

def isNamePart (c : Char) : Bool :=
  isDigit c || ('a' ≤ c && c ≤ 'z') || ('A' ≤ c && c ≤ 'Z') || c == '-' || c == '_'

def isAllowed (c : Char) : Bool :=
  let n := c.toNat
  n == 0x09 || n == 0x0A || n == 0x0D || (0x20 ≤ n && n ≤ 0x7E) || n == 0x85
    || (0xA0 ≤ n && n ≤ 0xD7FF) || (0xE000 ≤ n && n ≤ 0xFFFD) || 0x10000 ≤ n

/-- The mark that may stand at the very start of a text and takes no room. -/
def byteOrderMark : Char := '\uFEFF'

/-! ### Places -/

/-- What is still to be read, and where that starts. -/
structure Place where
  rest : List Char
  index : Nat := 0          -- characters before it
  line : Nat := 0
  column : Nat := 0
deriving Repr

namespace Place

/-- The character `k` places ahead. -/
def peek (p : Place) (k : Nat := 0) : Char :=
  p.rest.getD k '\x00'

def next (p : Place) : Place :=
  match p.rest with
  | [] => p
  | c :: rest =>
      if isBreak c then ⟨rest, p.index + 1, p.line + 1, 0⟩
      else ⟨rest, p.index + 1, p.line, if c == byteOrderMark then p.column else p.column + 1⟩

/-- The place after `n` characters. -/
def forward : (n : Nat) → Place → Place
  | 0, p => p
  | n + 1, p => forward n p.next

/-- The characters up to the first that fails a test, and the place of that one. -/
def takeWhile (test : Char → Bool) (p : Place) : List Char × Place :=
  let cs := p.rest.takeWhile test
  (cs, p.forward cs.length)

def skipWhile (test : Char → Bool) (p : Place) : Place :=
  (p.takeWhile test).2

/-- The line break at a place, as it is kept in a text; two of the breaks are kept as they
    are, the others become a newline. -/
def lineBreak? (p : Place) : Option (Char × Place) :=
  let c := p.peek
  if isBreak c then some (if c == '\u0085' then '\n' else c, p.next) else none

/-- Three equal characters of a kind with a gap behind them, as between documents. -/
def isRuler (p : Place) (c : Char) : Bool :=
  p.peek 0 == c && p.peek 1 == c && p.peek 2 == c && isGapOrEnd (p.peek 3)

def atSeparator (p : Place) : Bool :=
  p.isRuler '-' || p.isRuler '.'

/-- Skips spaces and a comment; what follows has to be the end of the line. -/
def restOfLine? (p : Place) : Option Place :=
  let p := p.skipWhile (· == ' ')
  let p := if p.peek == '#' then p.skipWhile (!isBreakOrEnd ·) else p
  if isBreakOrEnd p.peek then some p.next else none

end Place

end SqlPipeline.Yaml
