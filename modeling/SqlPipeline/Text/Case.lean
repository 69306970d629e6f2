/-
  SqlPipeline/Text/Case.lean
  ==========================
  **Upper, lower and title case.**

  The maps go from one character to a text, because a few letters grow when their
  case changes (the sharp s becomes two letters).  A capital sigma at the end of a
  word becomes the final small sigma; no other map looks at its surroundings.
-/
import SqlPipeline.Text.Table.Case
import SqlPipeline.Text.Table.CaseClass
import SqlPipeline.Text.Word

namespace SqlPipeline.Text

/-- One character through a case map: an expansion when there is one, else the run that
    covers it, else itself. -/
def mapCase (expansions : List (Nat × List Nat)) (runs : List CaseRun) (c : Char) : List Char :=
  match expansions.lookup c.toNat with
  | some codes => codes.map Char.ofNat
  | none =>
      match runs.findSome? (·.image? c.toNat) with
      | some code => [Char.ofNat code]
      | none => [c]

def upperChar (c : Char) : List Char :=
  if c.toNat < 128 then [c.toUpper] else mapCase upperExpansions upperRuns c

/-- The lower case of a character, away from the final sigma rule. -/
def lowerChar (c : Char) : List Char :=
  if c.toNat < 128 then [c.toLower] else mapCase lowerExpansions lowerRuns c

def titleChar (c : Char) : List Char :=
  if c.toNat < 128 then [c.toUpper] else mapCase titleExpansions titleRuns c

/-- A letter that is in title case by itself: two in one, the first of them a capital. -/
def isTitleLetter (c : Char) : Bool :=
  128 ≤ c.toNat && titleLetterSet.mem c

/-- A capital: lower case changes it, or it has no small letter. -/
def isUpperChar (c : Char) : Bool :=
  (lowerChar c != [c] && !isTitleLetter c) || (128 ≤ c.toNat && plainCapitalSet.mem c)

/-- A small letter: upper case changes it, or it has no capital. -/
def isLowerChar (c : Char) : Bool :=
  (upperChar c != [c] && lowerChar c == [c]) || (128 ≤ c.toNat && plainSmallSet.mem c)

def isCased (c : Char) : Bool :=
  isUpperChar c || isLowerChar c || isTitleLetter c

/-- A character that the rule for the final sigma looks through. -/
def isCaseIgnorable (c : Char) : Bool :=
  caseIgnorableSet.mem c

/-- A letter as it is compared without regard to case.  Going up and down again joins letters
    with one capital; three kinds of letters do not follow that. -/
def foldChar (c : Char) : List Char :=
  let up := upperChar c
  if c == 'ı' then [c]
  else if c == 'ẞ' then ['s', 's']
  else if up.any cherokee then up
  else up.flatMap lowerChar
where
  cherokee (c : Char) : Bool :=
    (0x13A0 ≤ c.toNat && c.toNat ≤ 0x13FD) || (0xAB70 ≤ c.toNat && c.toNat ≤ 0xABBF)

/-! ### Whole texts -/

def upper (s : List Char) : List Char :=
  s.flatMap upperChar

/-- Whether a cased letter stands last, after a text of which `before` says that. -/
def casedAfter (before : Bool) (c : Char) : Bool :=
  if isCaseIgnorable c then before else isCased c

def casedNext (s : List Char) : Bool :=
  (s.dropWhile isCaseIgnorable).head?.any isCased

/-- A character in lower case, before `rest`; `before` tells whether a cased letter stands
    before. -/
def lowerAt (before : Bool) (c : Char) (rest : List Char) : List Char :=
  if c == 'Σ' && before && !casedNext rest then ['ς'] else lowerChar c

/-- Lower case; `before` tells whether a cased letter stands before. -/
def lowerFrom (before : Bool) : List Char → List Char
  | [] => []
  | c :: cs => lowerAt before c cs ++ lowerFrom (casedAfter before c) cs

def lower (s : List Char) : List Char :=
  lowerFrom false s

/-- The first character in title case and the rest in lower case. -/
def capitalize : List Char → List Char
  | [] => []
  | c :: cs => titleChar c ++ lowerFrom (casedAfter false c) cs

/-- Every letter that does not follow a letter in title case, the others in lower case;
    `inWord` tells whether a letter stands directly before, and `before` is as in `lowerFrom`. -/
def titleFrom (inWord before : Bool) : List Char → List Char
  | [] => []
  | c :: cs =>
      (if inWord then lowerAt before c cs else titleChar c)
        ++ titleFrom (isCased c) (casedAfter before c) cs

def title (s : List Char) : List Char :=
  titleFrom false false s

def foldCase (s : List Char) : List Char :=
  s.flatMap foldChar

/-- Upper case letters in lower case and lower case letters in upper case; `before` is as in
    `lowerFrom`. -/
def swapCaseFrom (before : Bool) : List Char → List Char
  | [] => []
  | c :: cs =>
      (if isUpperChar c then lowerAt before c cs else if isLowerChar c then upperChar c else [c])
        ++ swapCaseFrom (casedAfter before c) cs

def swapCase (s : List Char) : List Char :=
  swapCaseFrom false s

def isUpperText (s : List Char) : Bool :=
  s.any isUpperChar && !s.any fun c => isLowerChar c || isTitleLetter c

def isLowerText (s : List Char) : Bool :=
  s.any isLowerChar && !s.any fun c => isUpperChar c || isTitleLetter c

/-- There are words, and each of them starts with a capital and goes on in small letters. -/
def isTitleText (s : List Char) : Bool :=
  go false false s
where
  go (inWord found : Bool) : List Char → Bool
    | [] => found
    | c :: rest =>
        if isUpperChar c || isTitleLetter c then (if inWord then false else go true true rest)
        else if isLowerChar c then (if inWord then go true true rest else false)
        else go false found rest

end SqlPipeline.Text
