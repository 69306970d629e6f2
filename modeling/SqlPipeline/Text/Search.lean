/-
  SqlPipeline/Text/Search.lean
  ============================
  **Finding, cutting and joining texts.**

  Texts are lists of characters here, so that each function is a plain recursion.
  A pattern is found at its leftmost place and never twice at overlapping places.
-/
namespace SqlPipeline.Text

/-- What follows `pattern` when the text starts with it. -/
def dropPattern? : (pattern text : List Char) → Option (List Char)
  | [], text => some text
  | _ :: _, [] => none
  | p :: ps, c :: cs => if p = c then dropPattern? ps cs else none

theorem dropPattern?_length {p s r : List Char} (h : dropPattern? p s = some r) :
    r.length + p.length = s.length := by
  induction p generalizing s with
  | nil => simp only [dropPattern?, Option.some.injEq] at h; simp [h]
  | cons p ps ih =>
    cases s with
    | nil => simp [dropPattern?] at h
    | cons c cs =>
      simp only [dropPattern?] at h
      split at h
      · have := ih h
        simp only [List.length_cons]
        omega
      · cases h

/-- Whether the text starts with `pattern`. -/
def startsWith (pattern text : List Char) : Bool :=
  (dropPattern? pattern text).isSome

/-- The text before and after the first place where `pattern` stands. -/
def cutAt? (pattern : List Char) : List Char → Option (List Char × List Char)
  | [] => if pattern.isEmpty then some ([], []) else none
  | c :: cs =>
      match dropPattern? pattern (c :: cs) with
      | some rest => some ([], rest)
      | none => (cutAt? pattern cs).map fun (before, after) => (c :: before, after)

/-- The number of characters before the first place where `pattern` stands. -/
def indexOf? (pattern text : List Char) : Option Nat :=
  (cutAt? pattern text).map (·.1.length)

/-- Whether `pattern` stands somewhere in the text. -/
def isInfix (pattern text : List Char) : Bool :=
  (cutAt? pattern text).isSome

/-- Cuts a text at every character that satisfies `p`; there is always one piece more
    than there are cuts. -/
def splitWhere (p : Char → Bool) : List Char → List (List Char)
  | [] => [[]]
  | c :: cs =>
      if p c then [] :: splitWhere p cs
      else
        match splitWhere p cs with
        | [] => [[c]]
        | piece :: pieces => (c :: piece) :: pieces

def splitAt (sep : Char) (s : List Char) : List (List Char) :=
  splitWhere (· == sep) s

/-- The pieces between the leftmost occurrences of a nonempty pattern, at most `limit`
    cuts being made. -/
def splitOnPattern (pattern : List Char) (limit : Nat) (s : List Char) : List (List Char) :=
  match limit with
  | 0 => [s]
  | limit + 1 =>
      match cutAt? pattern s with
      | none => [s]
      | some (before, after) => before :: splitOnPattern pattern limit after

/-- Replaces the leftmost occurrences of a nonempty pattern, at most `limit` of them. -/
def replaceFirst (pattern new : List Char) (limit : Nat) (s : List Char) : List Char :=
  new.intercalate (splitOnPattern pattern limit s)

/-- The last index of a character, counted from the start. -/
def lastIndexOf? (c : Char) (s : List Char) : Option Nat :=
  (s.reverse.idxOf? c).map fun i => s.length - 1 - i

/-- Cuts a list at the last occurrence of a character, when there is one. -/
def cutAtLast? (c : Char) (s : List Char) : Option (List Char × List Char) :=
  match s.reverse.span (· != c) with
  | (_, []) => none
  | (after, _ :: before) => some (before.reverse, after.reverse)

/-- `n` copies of a character. -/
def filled (n : Nat) (c : Char) : String :=
  .ofList (List.replicate n c)

end SqlPipeline.Text
