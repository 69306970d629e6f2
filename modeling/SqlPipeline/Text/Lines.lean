/-
  SqlPipeline/Text/Lines.lean
  ===========================
  **Lines of a text.**

  Two readings of "line" are in use.  A text file is read with one kind of line
  end: a carriage return, alone or before a newline, becomes a newline.  A list of
  settings is cut at every line boundary of Unicode, of which the newline is one.
-/
namespace SqlPipeline.Text

/-- Replaces each carriage return, together with a newline behind it, by one newline. -/
def unifyNewlines : List Char → List Char
  | [] => []
  | '\r' :: '\n' :: rest => '\n' :: unifyNewlines rest
  | '\r' :: rest => '\n' :: unifyNewlines rest
  | c :: rest => c :: unifyNewlines rest

/-- A character that ends a line: the vertical layout characters of ASCII, three of
    its information separators, and the line and paragraph ends beyond ASCII. -/
def isLineBoundary (c : Char) : Bool :=
  let n := c.toNat
  (10 ≤ n && n ≤ 13) || (28 ≤ n && n ≤ 30) || n == 0x85 || n == 0x2028 || n == 0x2029

/-- Cuts a text at its line boundaries; a carriage return and a newline behind it
    are one boundary, and a boundary at the very end opens no further line. -/
def splitLines (s : List Char) : List (List Char) :=
  go [] s
where
  /-- `acc` holds the current line, last character first. -/
  go (acc : List Char) : List Char → List (List Char)
    | [] => if acc.isEmpty then [] else [acc.reverse]
    | '\r' :: '\n' :: rest => acc.reverse :: go [] rest
    | c :: rest =>
        if isLineBoundary c then acc.reverse :: go [] rest else go (c :: acc) rest

def countNewlines (s : List Char) : Nat :=
  s.count '\n'

end SqlPipeline.Text
