/-
  SqlPipeline/Console/Layout.lean
  ===============================
  **Lines and tables as they are printed.**

  Characters that would move the cursor are left out, and tabs become spaces up to the
  next of the columns that are eight apart.

  Each column of a table is as wide as its widest cell.  The head has heavy lines and the
  rows have light ones, and the title stands in the middle above.
-/
import SqlPipeline.Text.Search

namespace SqlPipeline.Console

open Text

/-! ### Lines -/

/-- A character that is not printed: the bell, the backspace, the vertical tab, the form
    feed and the carriage return. -/
def isControl (c : Char) : Bool :=
  let n := c.toNat
  n == 7 || n == 8 || (11 ≤ n && n ≤ 13)

def tabWidth : Nat := 8

/-- Replaces tabs by spaces, `column` being the number of characters before on the line. -/
def expandTabs (column : Nat) : List Char → List Char
  | [] => []
  | '\n' :: cs => '\n' :: expandTabs 0 cs
  | '\t' :: cs =>
      let spaces := tabWidth - column % tabWidth
      List.replicate spaces ' ' ++ expandTabs (column + spaces) cs
  | c :: cs => c :: expandTabs (column + 1) cs

def printed (s : String) : String :=
  .ofList (expandTabs 0 (s.toList.filter (!isControl ·)))

/-! ### Tables -/

/-- On which side of a column its cells stand. -/
inductive Side where
  | left
  | right
deriving Repr, DecidableEq

structure Table where
  title : String
  columns : List (String × Side)
  rows : List (List String)

namespace Table

def linesOf (cell : String) : List (List Char) :=
  splitAt '\n' cell.toList

def widthOf (cell : String) : Nat :=
  ((linesOf cell).map List.length).foldl max 0

def widths (t : Table) : List Nat :=
  t.columns.mapIdx fun i (name, _) =>
    (t.rows.map fun row => widthOf (row.getD i "")).foldl max (widthOf name)

def padded (side : Side) (width : Nat) (line : List Char) : List Char :=
  let gap := List.replicate (width - line.length) ' '
  match side with
  | .left => line ++ gap
  | .right => gap ++ line

/-- A text in the middle of a width; of an odd space the smaller half stands before it. -/
def centred (width : Nat) (s : String) : String :=
  let space := width - s.length
  filled (space / 2) ' ' ++ s ++ filled (space - space / 2) ' '

/-- A horizontal line: its left end, what it is made of, its joints and its right end. -/
def ruled (widths : List Nat) (left line joint right : String) : String :=
  left ++ joint.intercalate (widths.map fun w => String.join (List.replicate (w + 2) line)) ++ right

def rowLines (widths : List Nat) (sides : List Side) (bar : String) (cells : List String) : List String :=
  let lines := cells.map linesOf
  let height := (lines.map List.length).foldl max 1
  (List.range height).map fun n =>
    let parts := ((lines.zip widths).zip sides).map fun ((cell, width), side) =>
      " " ++ String.ofList (padded side width (cell.getD n [])) ++ " "
    bar ++ bar.intercalate parts ++ bar

def lines (t : Table) : List String :=
  let widths := t.widths
  let sides := t.columns.map (·.2)
  let top := ruled widths "┏" "━" "┳" "┓"
  [centred top.length t.title, top]
    ++ rowLines widths sides "┃" (t.columns.map (·.1))
    ++ [ruled widths "┡" "━" "╇" "┩"]
    ++ t.rows.flatMap (rowLines widths sides "│")
    ++ [ruled widths "└" "─" "┴" "┘"]

end Table

end SqlPipeline.Console
