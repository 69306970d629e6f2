/-
  SqlPipeline/Text/Piece.lean
  ===========================
  **Cutting texts into words and pieces from either end.**
-/
import SqlPipeline.Text.Search
import SqlPipeline.Text.CharSet
import SqlPipeline.Text.Lines

namespace SqlPipeline.Text

/-- The last place where `pattern` stands, by the number of characters before it. -/
def lastIndexOfPattern? (pattern s : List Char) : Option Nat :=
  (indexOf? pattern.reverse s.reverse).map fun i => s.length - i - pattern.length

/-- The number of places where `pattern` stands, leftmost first and without overlap; the
    empty pattern stands before each character and at the end. -/
def countPattern (pattern s : List Char) : Nat :=
  if pattern.isEmpty then s.length + 1 else (splitOnPattern pattern s.length s).length - 1

/-- The pieces between occurrences of a nonempty pattern, at most `limit` cuts being made
    from the right. -/
def splitOnPatternRight (pattern : List Char) (limit : Nat) (s : List Char) : List (List Char) :=
  ((splitOnPattern pattern.reverse limit s.reverse).map List.reverse).reverse

/-- The words between white space, at most `limit` of them being cut off; what is left is
    the last piece. -/
def splitWordsWithin : (fuel limit : Nat) → List Char → List (List Char)
  | 0, _, _ => []
  | fuel + 1, limit, s =>
      match trimLeft s with
      | [] => []
      | s =>
          if limit == 0 then [s]
          else s.takeWhile (!isBlank ·) :: splitWordsWithin fuel (limit - 1) (s.dropWhile (!isBlank ·))

def words (s : List Char) : List (List Char) :=
  splitWordsWithin (s.length + 1) (s.length + 1) s

/-- The words between white space, at most `limit` cuts being made from the left. -/
def splitWords (limit : Nat) (s : List Char) : List (List Char) :=
  splitWordsWithin (s.length + 1) limit s

/-- The words between white space, at most `limit` cuts being made from the right. -/
def splitWordsRight (limit : Nat) (s : List Char) : List (List Char) :=
  ((splitWordsWithin (s.length + 1) limit s.reverse).map List.reverse).reverse

def splitLinesKeeping (s : List Char) : List (List Char) :=
  go [] s
where
  /-- `acc` holds the current line, last character first. -/
  go (acc : List Char) : List Char → List (List Char)
    | [] => if acc.isEmpty then [] else [acc.reverse]
    | '\r' :: '\n' :: rest => ('\n' :: '\r' :: acc).reverse :: go [] rest
    | c :: rest =>
        if isLineBoundary c then (c :: acc).reverse :: go [] rest else go (c :: acc) rest

/-- Replaces tabs by blanks up to the next multiple of `size` columns. -/
def expandTabs (size : Nat) (s : List Char) : List Char :=
  go 0 s
where
  go (column : Nat) : List Char → List Char
    | [] => []
    | '\t' :: rest =>
        if size == 0 then go column rest
        else
          let n := size - column % size
          List.replicate n ' ' ++ go (column + n) rest
    | c :: rest => c :: go (if c == '\n' || c == '\r' then 0 else column + 1) rest

/-- Replaces occurrences of a pattern, at most `limit` of them; the empty pattern stands
    before each character and at the end. -/
def replaceAll (pattern new : List Char) (limit : Nat) (s : List Char) : List Char :=
  if pattern.isEmpty then interleave new limit s else replaceFirst pattern new limit s
where
  interleave (new : List Char) : Nat → List Char → List Char
    | 0, s => s
    | _ + 1, [] => new
    | limit + 1, c :: cs => new ++ c :: interleave new limit cs

end SqlPipeline.Text
