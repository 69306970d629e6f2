/-
  SqlPipeline/Console/Markup.lean
  ===============================
  **Texts with marks for styles, as they are printed where there are no styles.**

  A mark is a name in square brackets that starts with a small letter or one of a few
  signs; one that starts with a slash closes an earlier mark.  A backslash before a mark
  makes it plain text.  Brackets that are no marks stay as they are.  Names of pictures are
  looked for in each piece of the text between marks.
-/
import SqlPipeline.Console.Emoji
import SqlPipeline.Console.Style

namespace SqlPipeline.Console

open Text

/-- Why a text cannot be printed. -/
inductive MarkupError where
  | unmatched (mark : String) (position : Nat)     -- a mark closes what is not open
  | nothingOpen (position : Nat)
  | noNumber                                       -- a part of a colour is empty
deriving Repr, DecidableEq

def MarkupError.message : MarkupError → String
  | unmatched mark position => s!"closing tag '{mark}' at position {position} doesn't match any open tag"
  | nothingOpen position => s!"closing tag '[/]' at position {position} has nothing to close"
  | noNumber => "invalid literal for int() with base 10: ''"

namespace Markup

/-! ### Marks -/

def startsMark (c : Char) : Bool :=
  ('a' ≤ c && c ≤ 'z') || c == '#' || c == '/' || c == '@'

/-- A mark with the backslashes before it. -/
structure Mark where
  backslashes : Nat
  text : List Char               -- between the brackets
deriving Repr, DecidableEq

def Mark.length (m : Mark) : Nat :=
  m.backslashes + m.text.length + 2

def mark? (s : List Char) : Option Mark :=
  let backslashes := (s.takeWhile (· == '\\')).length
  match s.drop backslashes with
  | '[' :: rest =>
      let text := rest.takeWhile fun c => c != '[' && c != ']'
      if (text.head?.map startsMark).getD false && rest[text.length]? == some ']' then
        some ⟨backslashes, text⟩
      else none
  | _ => none

/-- A text cut at its marks: what stands before each, and the place and the mark; then what
    stands behind the last.  The first `skip` characters belong to a mark that has been taken. -/
def pieces (position skip : Nat) (before : List Char) :
    List Char → List (List Char × Nat × Mark) × List Char
  | [] => ([], before.reverse)
  | c :: cs =>
      if skip > 0 then pieces (position + 1) (skip - 1) before cs
      else
        match mark? (c :: cs) with
        | some m =>
            let (more, last) := pieces (position + 1) (m.length - 1) [] cs
            ((before.reverse, position, m) :: more, last)
        | none => pieces (position + 1) 0 (c :: before) cs

/-! ### Open styles -/

/-- The name of a style in the text of a mark, which may have parameters behind a sign. -/
def nameIn (text : List Char) : List Char :=
  text.takeWhile (· != '=')

def closeNamed? (name : String) : List String → Option (List String)
  | [] => none
  | style :: rest => if style == name then some rest else (closeNamed? name rest).map (style :: ·)

def afterMark (opened : List String) (text : List Char) (position : Nat) :
    Except MarkupError (List String) :=
  match text with
  | '/' :: closing =>
      if (trim (nameIn closing)).isEmpty then
        match opened with
        | _ :: rest => .ok rest
        | [] => .error (.nothingOpen position)
      else
        match styleName (nameIn closing) with
        | .error _ => .error .noNumber
        | .ok name =>
            match closeNamed? name opened with
            | some rest => .ok rest
            | none => .error (.unmatched (.ofList ('[' :: text ++ [']'])) position)
  | _ =>
      match styleName (nameIn text) with
      | .error _ => .error .noNumber
      | .ok name => .ok (name :: opened)

/-! ### Text -/

/-- Drops each backslash that stands before an opening bracket. -/
def withoutEscapes (s : List Char) : List Char :=
  replaceFirst ['\\', '['] ['['] s.length s

/-- The pieces of text between marks that have been cut.  An escaped mark is a piece, and so are
    the backslashes before a mark. -/
def partsOf (opened : List String) (last : List Char) :
    List (List Char × Nat × Mark) → Except MarkupError (List (List Char))
  | [] => .ok [withoutEscapes last]
  | (before, position, m) :: rest => do
      let front := [withoutEscapes before, List.replicate (m.backslashes / 2) '\\']
      if m.backslashes % 2 == 1 then
        return front ++ ('[' :: m.text ++ [']']) :: (← partsOf opened last rest)
      else
        let opened ← afterMark opened m.text (position + m.backslashes)
        return front ++ (← partsOf opened last rest)

def parts (s : String) : Except MarkupError (List (List Char)) :=
  let cs := s.toList
  if cs.contains '[' then
    let (marked, last) := pieces 0 0 [] cs
    partsOf [] last marked
  else .ok [cs]

/-- The text without its marks, and with pictures for their names. -/
def shown (pictures : Emoji.Table) (s : String) : Except MarkupError String :=
  (parts s).map fun parts => .ofList (parts.flatMap (Emoji.replace pictures 0))

/-! ### Escaping -/

/-- Puts backslashes before the marks of a text; `skip` as for `pieces`. -/
def escapeChars (skip : Nat) : List Char → List Char
  | [] => []
  | c :: cs =>
      if skip > 0 then escapeChars (skip - 1) cs
      else
        match mark? (c :: cs) with
        | some m =>
            List.replicate (2 * m.backslashes + 1) '\\' ++ '[' :: m.text ++ ']' :: escapeChars (m.length - 1) cs
        | none => c :: escapeChars 0 cs

/-- A text in which no mark has a meaning; a single backslash at its end is doubled. -/
def escape (s : String) : String :=
  let cs := escapeChars 0 s.toList
  match cs.reverse with
  | '\\' :: '\\' :: _ => .ofList cs
  | '\\' :: _ => .ofList (cs ++ ['\\'])
  | _ => .ofList cs

end Markup

end SqlPipeline.Console
