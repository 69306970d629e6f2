/-
  SqlPipeline/Text/Wrap.lean
  ==========================
  **Breaking a line into lines of limited width.**

  A line is cut into chunks, each of them blank or not, and lines are filled with chunks.
  Where hyphens count, a word also ends behind a hyphen between letters and around a dash.
-/
import SqlPipeline.Text.CharSet
import SqlPipeline.Text.Word

namespace SqlPipeline.Text

structure Wrap where
  width : Nat
  breaksLongWords : Bool := true
  breaksAtHyphens : Bool := true

namespace Wrap

/-! ### Chunks -/

def isGap (c : Char) : Bool :=
  c == ' ' || (9 ≤ c.toNat && c.toNat ≤ 13)

def endsWord (c : Char) : Bool :=
  isWord c || "!\"'&.,?".toList.contains c

def isWordLetter (c : Char) : Bool :=
  isWord c && !isDecimalDigit c

/-- Whether a dash of several hyphens comes next, and a word behind it. -/
def dashNext (s : List Char) : Bool :=
  2 ≤ (s.takeWhile (· == '-')).length && (s.dropWhile (· == '-')).head?.any isWord

/-- Whether a word can be cut behind the hyphen that comes next; `behind` holds what stands
    before it, last character first. -/
def hyphenNext (behind s : List Char) : Bool :=
  (match behind with
    | a :: '-' :: b :: _ => isWordLetter a && isWordLetter b
    | a :: b :: _ => isWordLetter a && isWordLetter b
    | _ => false)
  && (match s with
    | '-' :: a :: '-' :: b :: _ => isWordLetter a && isWordLetter b
    | '-' :: a :: b :: _ => isWordLetter a && isWordLetter b
    | _ => false)

def wordLength (behind : List Char) : List Char → Nat
  | [] => 0
  | c :: rest =>
      let behind := c :: behind
      if hyphenNext behind rest then 2
      else if rest.head?.all isGap || (endsWord c && dashNext rest) then 1
      else wordLength behind rest + 1

def chunkLength (w : Wrap) (behind s : List Char) : Nat :=
  match s with
  | [] => 0
  | c :: _ =>
      if isGap c then (s.takeWhile isGap).length
      else if !w.breaksAtHyphens then (s.takeWhile (!isGap ·)).length
      else if behind.head?.any endsWord && dashNext s then (s.takeWhile (· == '-')).length
      else wordLength behind s

/-- The chunks of a text; each has a character at least, so `fuel` need not be more than
    the length. -/
def chunksWithin (w : Wrap) : (fuel : Nat) → (behind s : List Char) → List (List Char)
  | 0, _, _ => []
  | _ + 1, _, [] => []
  | fuel + 1, behind, s =>
      let n := max 1 (w.chunkLength behind s)
      s.take n :: chunksWithin w fuel ((s.take n).reverse ++ behind.take 2) (s.drop n)

def chunks (w : Wrap) (s : List Char) : List (List Char) :=
  w.chunksWithin s.length [] s

/-! ### Lines -/

def takeFitting (room : Nat) : List (List Char) → List (List Char) × List (List Char)
  | [] => ([], [])
  | chunk :: rest =>
      if chunk.length ≤ room then
        let (line, rest) := takeFitting (room - chunk.length) rest
        (chunk :: line, rest)
      else ([], chunk :: rest)

/-- How much of a word that is longer than any line is put into the room on a line: all that
    fits, or up to its last hyphen there. -/
def cutLength (w : Wrap) (room : Nat) (word : List Char) : Nat :=
  let part := word.take room
  match (part.reverse.dropWhile (· != '-')).reverse with
  | [] => room
  | upTo =>
      if w.breaksAtHyphens && word.length > room && upTo.any (· != '-') then upTo.length else room

/-- Puts a part of the next chunk on a line, if it is longer than any line. -/
def fillLong (w : Wrap) (line : List (List Char)) :
    List (List Char) → List (List Char) × List (List Char)
  | [] => (line, [])
  | word :: rest =>
      if word.length ≤ w.width then (line, word :: rest)
      else if w.breaksLongWords then
        let n := w.cutLength (w.width - line.flatten.length) word
        (line ++ [word.take n], word.drop n :: rest)
      else if line.isEmpty then ([word], rest)
      else (line, word :: rest)

def dropBlankEnd (line : List (List Char)) : List (List Char) :=
  match line.reverse with
  | chunk :: rest => if chunk.all isBlank then rest.reverse else line
  | [] => []

/-- The lines that some chunks fill; a blank chunk in front is dropped unless it is on the
    `first` line.  Each line takes a character at least, so `fuel` need not be more than the
    number of characters. -/
def linesWithin (w : Wrap) : (fuel : Nat) → (first : Bool) → List (List Char) → List (List Char)
  | 0, _, _ => []
  | _ + 1, _, [] => []
  | fuel + 1, first, chunk :: rest =>
      let chunks := if !first && chunk.all isBlank then rest else chunk :: rest
      let (line, rest) := takeFitting w.width chunks
      let (line, rest) := w.fillLong line rest
      match dropBlankEnd line with
      | [] => linesWithin w fuel first rest
      | line => line.flatten :: linesWithin w fuel false rest

def lines (w : Wrap) (s : List Char) : List (List Char) :=
  w.linesWithin (s.length + 1) true (w.chunks s)

end Wrap

end SqlPipeline.Text
