/-
  SqlPipeline/Template/Scan.lean
  ==============================
  **Cutting a template into tokens.**

  Outside tags the nearest opening marker ends a stretch of data; of two markers at one
  place the longer wins.  A hyphen beside a marker takes away the white space next to
  the tag, a plus sign keeps it.  Without a sign a tag that starts a line loses the
  blanks in front of it, and a tag that ends a line loses the line's end, expressions
  excepted.
-/
import SqlPipeline.Template.Literal
import SqlPipeline.Template.Token

namespace SqlPipeline.Template

open Text

/-- The markers of expressions and statements; those of comments are fixed. -/
structure Delimiters where
  exprOpen : String := "\x7b\x7b"
  exprClose : String := "\x7d\x7d"
  blockOpen : String := "\x7b%"
  blockClose : String := "%\x7d"
deriving Repr, DecidableEq

namespace Delimiters

def commentOpen : String := "\x7b#"

def commentClose : String := "#\x7d"

def areDistinct (d : Delimiters) : Bool :=
  d.blockOpen != d.exprOpen && d.exprOpen != commentOpen

end Delimiters

inductive TagStart where
  | raw
  | comment
  | block
  | expr
deriving Repr, DecidableEq

inductive TrimSign where
  | none
  | trim
  | keep
deriving Repr, DecidableEq

/-! ### Markers -/

def takeTrimSign : List Char → TrimSign × List Char
  | '-' :: rest => (.trim, rest)
  | '+' :: rest => (.keep, rest)
  | rest => (.none, rest)

/-- The end of a tag with a hyphen: the closing marker and the white space behind it. -/
def takeTrimmedClose? (close : List Char) : List Char → Option (List Char)
  | '-' :: rest => (dropPattern? close rest).map trimLeft
  | _ => none

/-- The end of a statement or comment: a line end behind it belongs to it. -/
def takeBlockClose? (close s : List Char) : Option (List Char) :=
  let kept :=
    match s with
    | '+' :: rest => dropPattern? close rest
    | _ => none
  let plain :=
    (dropPattern? close s).map fun rest =>
      match rest with
      | '\n' :: rest => rest
      | rest => rest
  kept <|> takeTrimmedClose? close s <|> plain

def takeExprClose? (close s : List Char) : Option (List Char) :=
  takeTrimmedClose? close s <|> dropPattern? close s

def takeRawOpen? (d : Delimiters) (s : List Char) : Option (TrimSign × List Char) := do
  let s ← dropPattern? d.blockOpen.toList s
  let (sign, s) := takeTrimSign s
  let s ← dropPattern? "raw".toList (trimLeft s)
  let s := trimLeft s
  let rest ← takeTrimmedClose? d.blockClose.toList s <|> dropPattern? d.blockClose.toList s
  some (sign, rest)

def takeRawClose? (d : Delimiters) (s : List Char) : Option (TrimSign × List Char) := do
  let s ← dropPattern? d.blockOpen.toList s
  let (sign, s) := takeTrimSign s
  let s ← dropPattern? "endraw".toList (trimLeft s)
  let rest ← takeBlockClose? d.blockClose.toList (trimLeft s)
  some (sign, rest)

def Delimiters.openers (d : Delimiters) : List (TagStart × List Char) :=
  let all : List (TagStart × List Char) :=
    [(.expr, d.exprOpen.toList), (.comment, Delimiters.commentOpen.toList), (.block, d.blockOpen.toList)]
  all.mergeSort fun a b => b.2.length ≤ a.2.length

def tagAt? (d : Delimiters) (s : List Char) : Option (TagStart × TrimSign × List Char) :=
  match takeRawOpen? d s with
  | some (sign, rest) => some (.raw, sign, rest)
  | none =>
      d.openers.findSome? fun (start, marker) =>
        (dropPattern? marker s).map fun rest =>
          let (sign, rest) := takeTrimSign rest
          (start, sign, rest)

/-- The characters before the first place where `find` succeeds, and what it found there. -/
def findFirst? {α : Type} (find : List Char → Option α) : List Char → Option (List Char × α)
  | [] => (find []).map fun found => ([], found)
  | c :: cs =>
      match find (c :: cs) with
      | some found => some ([], found)
      | none => (findFirst? find cs).map fun (before, found) => (c :: before, found)

/-! ### White space around tags -/

/-- Cuts off the blanks behind the last newline, when there is nothing else behind it and
    when what stands there starts a line. -/
def dropIndent (lineStart : Bool) (data : List Char) : List Char :=
  let blanks := data.reverse.takeWhile (· != '\n')
  let before := data.reverse.dropWhile (· != '\n')
  if (!before.isEmpty || lineStart) && blanks.all isBlank then before.reverse else data

def dataBefore (sign : TrimSign) (isExpr lineStart : Bool) (data : List Char) : List Char :=
  match sign with
  | .trim => trimRight data
  | .keep => data
  | .none => if isExpr then data else dropIndent lineStart data

/-! ### Tokens inside tags -/

def isNameChar (c : Char) : Bool :=
  isWord c || isIdentifierPart c

def takeSign? (s : List Char) : Option (String × List Char) :=
  signs.findSome? fun sign => (dropPattern? sign.toList s).map fun rest => (sign, rest)

def closer? (sign : String) : Option String :=
  if sign == "(" then some ")" else if sign == "[" then some "]"
  else if sign == "\x7b" then some "\x7d" else none

def balance (openBrackets : List String) (sign : String) : Except FaultCause (List String) :=
  match closer? sign with
  | some closer => .ok (closer :: openBrackets)
  | none =>
      if sign == ")" || sign == "]" || sign == "\x7d" then
        match openBrackets with
        | [] => .error (.unmatched sign)
        | wanted :: rest => if wanted == sign then .ok rest else .error (.mismatched sign wanted)
      else .ok openBrackets

/-- The literal or name that starts here; `afterDot` tells whether a point stands before. -/
def takeAtom? (afterDot : Bool) (s : List Char) :
    Option (Except FaultCause TokenKind × List Char) :=
  let withoutMarks (digits : List Char) := digits.filter (· != '_')
  match (if afterDot then none else takeFraction? s) with
  | some (digits, rest) =>
      some (((readFraction (withoutMarks digits)).map .float).mapError .oversight, rest)
  | none =>
      match takeWhole? s with
      | some (digits, rest) =>
          some (((readWhole (withoutMarks digits)).map .int).mapError .oversight, rest)
      | none =>
          let name := s.takeWhile isNameChar
          if !name.isEmpty then
            let kind := if isIdentifier name then .ok (.name (.ofList name)) else .error .badName
            some (kind, s.dropWhile isNameChar)
          else
            match s with
            | quote :: rest =>
                if quote = '\'' ∨ quote = '"' then
                  (takeQuoted? quote rest).map fun (body, rest) =>
                    (match unescape body with
                      | .ok cs => .ok (.text (.ofList cs))
                      | .error problem => .error (.badEscape problem), rest)
                else none
            | [] => none

/-! ### The whole text -/

inductive ScanMode where
  | outside
  | comment
  | raw
  | tag (isExpr : Bool) (openBrackets : List String) (afterDot : Bool)
deriving Repr, DecidableEq

def TokenStream.cons (kind : TokenKind) (line : Nat) (rest : TokenStream) : TokenStream :=
  ⟨⟨kind, line⟩ :: rest.tokens, rest.failure⟩

def TokenStream.consData (data : List Char) (line : Nat) (rest : TokenStream) : TokenStream :=
  if data.isEmpty then rest else rest.cons (.data (.ofList data)) line

def TokenStream.failing (cause : FaultCause) (line : Nat) : TokenStream :=
  ⟨[], some ⟨cause, line⟩⟩

/-- The newlines of the part of `before` that `rest` does not hold any more. -/
def newlinesUntil (rest before : List Char) : Nat :=
  countNewlines (before.take (before.length - rest.length))

/-- Whether the part of `before` that `rest` does not hold any more ends with a newline. -/
def endsLine (rest before : List Char) : Bool :=
  (before.take (before.length - rest.length)).getLast? == some '\n'

/-- Cuts the rest of a text of `total` characters; `fuel` bounds the number of steps. -/
def scanWithin (d : Delimiters) (total : Nat) : (fuel : Nat) → ScanMode → (lineStart : Bool) →
    (line : Nat) → List Char → TokenStream
  | 0, _, _, _, _ => ⟨[], none⟩
  | fuel + 1, .outside, lineStart, line, s =>
      match findFirst? (tagAt? d) s with
      | none => TokenStream.consData s line ⟨[], none⟩
      | some (data, start, sign, rest) =>
          let kept := dataBefore sign (start == .expr && !d.exprOpen.isEmpty) lineStart data
          let tagLine := line + countNewlines data
          let next := line + newlinesUntil rest s
          let go (mode : ScanMode) := scanWithin d total fuel mode (endsLine rest s) next rest
          TokenStream.consData kept line
            (match start with
              | .raw => go .raw
              | .comment => go .comment
              | .block => (go (.tag false [] false)).cons .blockBegin tagLine
              | .expr => (go (.tag true [] false)).cons .exprBegin tagLine)
  | fuel + 1, .comment, _, line, s =>
      match findFirst? (takeBlockClose? Delimiters.commentClose.toList) s with
      | none => if s.isEmpty then ⟨[], none⟩ else .failing .openComment line
      | some (_, rest) =>
          scanWithin d total fuel .outside (endsLine rest s) (line + newlinesUntil rest s) rest
  | fuel + 1, .raw, lineStart, line, s =>
      match findFirst? (takeRawClose? d) s with
      | none => if s.isEmpty then ⟨[], none⟩ else .failing .openRaw line
      | some (data, sign, rest) =>
          TokenStream.consData (dataBefore sign false lineStart data) line
            (scanWithin d total fuel .outside (endsLine rest s) (line + newlinesUntil rest s) rest)
  | fuel + 1, .tag isExpr openBrackets afterDot, _, line, s =>
      let close? :=
        if !openBrackets.isEmpty then none
        else if isExpr then takeExprClose? d.exprClose.toList s
        else takeBlockClose? d.blockClose.toList s
      match close? with
      | some rest =>
          (scanWithin d total fuel .outside (endsLine rest s) (line + newlinesUntil rest s) rest).cons
            (if isExpr then .exprEnd else .blockEnd) line
      | none =>
          match s with
          | [] => ⟨[], none⟩
          | c :: cs =>
              if isBlank c then
                scanWithin d total fuel (.tag isExpr openBrackets false) false
                  (line + if c == '\n' then 1 else 0) cs
              else
                match takeAtom? afterDot s with
                | some (.ok kind, rest) =>
                    (scanWithin d total fuel (.tag isExpr openBrackets false) false
                      (line + newlinesUntil rest s) rest).cons kind line
                | some (.error cause, _) => .failing cause line
                | none =>
                    match takeSign? s with
                    | none => .failing (.unexpectedChar c (total - s.length)) line
                    | some (sign, rest) =>
                        match balance openBrackets sign with
                        | .error cause => .failing cause line
                        | .ok openBrackets =>
                            (scanWithin d total fuel (.tag isExpr openBrackets (sign == ".")) false
                              line rest).cons (.symbol sign) line

/-- The tokens of a template, line ends being unified first. -/
def scan (d : Delimiters) (source : String) : TokenStream :=
  let s := unifyNewlines source.toList
  scanWithin d s.length (2 * s.length + 4) .outside true 1 s

end SqlPipeline.Template
