/-
  SqlPipeline/Text/CharSet.lean
  =============================
  **Sets of characters, and white space with the trimming of it.**

  The character classes of Unicode are unions of intervals.  Such a set is stored
  as one ascending list of code points: membership starts at the first of them,
  ends at the second, starts again at the third, and so on.  A character belongs
  to the set exactly when an odd number of those places lie at or below it.

  White space is one of these classes, small enough to be written out: the five ASCII layout
  characters, the four information separators, and the blanks beyond ASCII.  Everything that
  trims or skips in this library (settings lines, `.env` values, SQL statements, template
  tags) uses this one class.
-/
namespace SqlPipeline.Text

structure CharSet where
  flips : List Nat                -- ascending code points at which membership changes

/-- Membership: an odd number of flips lie at or below the character. -/
def CharSet.mem (s : CharSet) (c : Char) : Bool :=
  s.flips.countP (· ≤ c.toNat) % 2 == 1

/-! ### White space -/

/-- A white-space character of Unicode, the information separators included. -/
def isBlank (c : Char) : Bool :=
  let n := c.toNat
  (9 ≤ n && n ≤ 13) || (28 ≤ n && n ≤ 32) || n == 0x85 || n == 0xA0 || n == 0x1680
    || (0x2000 ≤ n && n ≤ 0x200A) || n == 0x2028 || n == 0x2029 || n == 0x202F
    || n == 0x205F || n == 0x3000

/-! ### Trimming -/

def trimLeft (s : List Char) : List Char :=
  s.dropWhile isBlank

def trimRight (s : List Char) : List Char :=
  (s.reverse.dropWhile isBlank).reverse

def trim (s : List Char) : List Char :=
  trimRight (trimLeft s)

def trimmed (s : String) : String :=
  .ofList (trim s.toList)

/-- Whether a string holds nothing but white space. -/
def isAllBlank (s : String) : Bool :=
  s.toList.all isBlank

theorem trimLeft_length_le (s : List Char) : (trimLeft s).length ≤ s.length :=
  (List.dropWhile_sublist _).length_le

@[simp] theorem trim_nil : trim [] = [] := rfl

end SqlPipeline.Text
