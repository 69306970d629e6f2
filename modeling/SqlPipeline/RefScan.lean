/-
  SqlPipeline/RefScan.lean
  ========================
  **References to models, read off a text without rendering it.**

  A reference is the word `ref`, not inside a longer word, then between parentheses
  one name between quotes of either kind, with white space allowed around each part.
  Matches are taken from the left and do not overlap.
-/
import SqlPipeline.Text.CharSet
import SqlPipeline.Text.Word
import SqlPipeline.Text.Search
import SqlPipeline.Path

namespace SqlPipeline.RefScan

open Text

def isQuote (c : Char) : Bool :=
  c == '\'' || c == '"'

/-- Drops one character that satisfies `p`. -/
def dropOne? (p : Char → Bool) : List Char → Option (List Char)
  | [] => none
  | c :: cs => if p c then some cs else none

/-- The quoted name of a reference that starts here, and what follows the reference. -/
def reference? (s : List Char) : Option (List Char × List Char) := do
  let s ← dropPattern? ['r', 'e', 'f'] s
  let s ← dropOne? (· == '(') (trimLeft s)
  let s ← dropOne? isQuote (trimLeft s)
  let name := s.takeWhile (!isQuote ·)
  if name.isEmpty then none
  else
    let s ← dropOne? isQuote (s.dropWhile (!isQuote ·))
    let s ← dropOne? (· == ')') (trimLeft s)
    some (name, s)

theorem dropOne?_length {p : Char → Bool} {s r : List Char} (h : dropOne? p s = some r) :
    r.length < s.length := by
  cases s with
  | nil => simp [dropOne?] at h
  | cons c cs =>
    simp only [dropOne?] at h
    split at h
    · simp only [Option.some.injEq] at h
      simp [h]
    · cases h

/-- A reference is not empty, so the text behind it is shorter. -/
theorem reference?_length {s name r : List Char} (h : reference? s = some (name, r)) :
    r.length < s.length := by
  simp only [reference?, Option.bind_eq_bind, Option.bind_eq_some_iff] at h
  obtain ⟨s1, h1, s2, h2, s3, h3, h⟩ := h
  split at h
  · cases h
  · simp only [Option.bind_eq_some_iff] at h
    obtain ⟨s4, h4, s5, h5, h⟩ := h
    simp only [Option.some.injEq, Prod.mk.injEq] at h
    have l1 := dropPattern?_length h1
    have l2 := dropOne?_length h2
    have l3 := dropOne?_length h3
    have l4 := dropOne?_length h4
    have l5 := dropOne?_length h5
    have m1 := trimLeft_length_le s1
    have m2 := trimLeft_length_le s2
    have m3 := (List.dropWhile_sublist (fun c => !isQuote c) (l := s3)).length_le
    have m4 := trimLeft_length_le s4
    rw [h.2] at l5
    omega

/-- All references of a text; `inWord` tells whether a word character stands before. -/
def references (inWord : Bool) : List Char → List (List Char)
  | [] => []
  | c :: cs =>
      match _h : if inWord then none else reference? (c :: cs) with
      | some (name, rest) => name :: references false rest
      | none => references (isWord c) cs
termination_by s => s.length
decreasing_by
  · split at _h
    · cases _h
    · exact reference?_length _h
  · simp

/-- Puts a text into a list without repetitions ordered by code points. -/
def insertSorted (x : List Char) : List (List Char) → List (List Char)
  | [] => [x]
  | y :: ys =>
      if x = y then y :: ys
      else if Path.leChars x y then x :: y :: ys
      else y :: insertSorted x ys

/-- The names that a text refers to, trimmed, each once, ordered by code points. -/
def refNames (content : String) : List String :=
  (((references false content.toList).map trim).foldr insertSorted []).map String.ofList

end SqlPipeline.RefScan
