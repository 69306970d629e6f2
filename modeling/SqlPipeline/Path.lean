/-
  SqlPipeline/Path.lean
  =====================
  **Paths of a file system, by their parts.**

  A path is absolute or relative, and a list of parts without empty ones and without
  the dot that means "here".  The two dots that mean "up" are kept, because what they
  lead to is known only to the file system.
-/
import SqlPipeline.Text.Search

namespace SqlPipeline

open Text

/-- A path; `root` is the text before the first part. -/
structure Path where
  root : String                -- empty for a relative path, else one or two slashes
  parts : List String
deriving Repr, DecidableEq, Inhabited

namespace Path

/-- Reads a path; exactly two slashes at the start are kept apart from one. -/
def ofText (s : String) : Path :=
  let cs := s.toList
  let slashes := (cs.takeWhile (· == '/')).length
  let root := if slashes == 0 then "" else if slashes == 2 then "//" else "/"
  let parts := ((Text.splitAt '/' cs).map String.ofList).filter fun p => p != "" && p != "."
  ⟨root, parts⟩

/-- The path with slashes between its parts; the empty relative path is a dot. -/
def text (p : Path) : String :=
  if p.root.isEmpty && p.parts.isEmpty then "." else p.root ++ "/".intercalate p.parts

def isAbsolute (p : Path) : Bool :=
  !p.root.isEmpty

/-- The second path taken from the first; an absolute second path stands alone. -/
def join (p q : Path) : Path :=
  if q.isAbsolute then q else ⟨p.root, p.parts ++ q.parts⟩

def child (p : Path) (name : String) : Path :=
  ⟨p.root, p.parts ++ [name]⟩

/-- The last part; empty when there is none. -/
def name (p : Path) : String :=
  p.parts.getLast?.getD ""

def parent (p : Path) : Path :=
  ⟨p.root, p.parts.dropLast⟩

/-- The place of the dot that starts a name's suffix: the last dot, when it is neither the
    first nor the last character. -/
def suffixDot? (name : String) : Option Nat :=
  match lastIndexOf? '.' name.toList with
  | some i => if 0 < i && i + 1 < name.length then some i else none
  | none => none

def stem (p : Path) : String :=
  match suffixDot? p.name with
  | some i => .ofList (p.name.toList.take i)
  | none => p.name

/-- The parts by which paths are put in order, the root counting as one. -/
def sortKey (p : Path) : List (List Char) :=
  (if p.root.isEmpty then p.parts else p.root :: p.parts).map String.toList

def leChars : List Char → List Char → Bool
  | [], _ => true
  | _ :: _, [] => false
  | a :: as, b :: bs => a.toNat < b.toNat || (a == b && leChars as bs)

def leParts : List (List Char) → List (List Char) → Bool
  | [], _ => true
  | _ :: _, [] => false
  | a :: as, b :: bs => if a == b then leParts as bs else leChars a b

def le (p q : Path) : Bool :=
  leParts p.sortKey q.sortKey

end Path

end SqlPipeline
