/-
  SqlPipeline/Yaml/Scalar.lean
  ============================
  **Scalars as they are written: plain, between quotes, or as an indented block.**

  Line breaks inside a scalar are folded: a single one becomes a space, and of several
  the first is dropped.  A block that starts with a bar keeps its lines.
-/
import SqlPipeline.Yaml.Place
import SqlPipeline.Yaml.Token
import SqlPipeline.Decimal.Read

namespace SqlPipeline.Yaml

/-- What a line break and the breaks after it become when lines are folded. -/
def foldedBreaks (first : Char) (more : List Char) : List Char :=
  (if first != '\n' then [first] else if more.isEmpty then [' '] else []) ++ more

/-! ### Between quotes -/

/-- The line breaks after the first one inside quotes, gaps between them being dropped; a
    line that separates documents must not come.  `fuel` bounds the number of lines. -/
def quotedBreaks : (fuel : Nat) → Place → Except Fault (List Char × Place)
  | 0, _ => .error .malformed
  | fuel + 1, p =>
      if p.atSeparator then .error .malformed
      else
        let p := p.skipWhile isGap
        match p.lineBreak? with
        | none => .ok ([], p)
        | some (c, p) => (quotedBreaks fuel p).map fun (cs, p) => (c :: cs, p)

def quotedGap (p : Place) : Except Fault (List Char × Place) :=
  let (gap, p) := p.takeWhile isGap
  match p.lineBreak? with
  | none => .ok (gap, p)
  | some (c, p) => (quotedBreaks (p.rest.length + 1) p).map fun (cs, p) => (foldedBreaks c cs, p)

def escaped? (c : Char) : Option Char :=
  match c with
  | '0' => some '\x00'
  | 'a' => some '\x07'
  | 'b' => some '\x08'
  | 't' | '\t' => some '\t'
  | 'n' => some '\n'
  | 'v' => some '\x0b'
  | 'f' => some '\x0c'
  | 'r' => some '\r'
  | 'e' => some '\x1b'
  | ' ' | '"' | '\\' | '/' => some c
  | 'N' => some '\u0085'
  | '_' => some '\u00a0'
  | 'L' => some '\u2028'
  | 'P' => some '\u2029'
  | _ => none

/-- How many hexadecimal digits follow a backslash and one character. -/
def escapeWidth? (c : Char) : Option Nat :=
  match c with
  | 'x' => some 2
  | 'u' => some 4
  | 'U' => some 8
  | _ => none

def isHexDigit (c : Char) : Bool :=
  isDigit c || ('a' ≤ c && c ≤ 'f') || ('A' ≤ c && c ≤ 'F')

def hexNumber? (cs : List Char) : Option Nat :=
  if cs.all isHexDigit then Decimal.readDigits 16 cs else none

def escape (p : Place) : Except Fault (List Char × Place) :=
  match escaped? p.peek with
  | some c => .ok ([c], p.next)
  | none =>
      match escapeWidth? p.peek with
      | some width =>
          let digits := p.next.rest.take width
          match hexNumber? digits with
          | some code =>
              if digits.length < width then .error .malformed
              else if code ≥ 0x110000 then .error .codePoint
              else .ok ([Char.ofNat code], p.next.forward width)
          | none => .error .malformed
      | none =>
          match p.lineBreak? with
          | some (_, p) => quotedBreaks (p.rest.length + 1) p
          | none => .error .malformed

/-- The text up to the closing quote; `isDouble` tells which quote that is. -/
def quotedText (isDouble : Bool) : (fuel : Nat) → Place → Except Fault (List Char × Place)
  | 0, _ => .error .malformed
  | fuel + 1, p => do
      let c := p.peek
      let (cs, p) ←
        if p.rest.isEmpty then .error .malformed
        else if isGap c || isBreak c then quotedGap p
        else if isDouble && c == '"' then return ([], p.next)
        else if !isDouble && c == '\'' then
          if p.peek 1 == '\'' then .ok (['\''], p.forward 2) else return ([], p.next)
        else if isDouble && c == '\\' then escape p.next
        else .ok ([c], p.next)
      let (more, p) ← quotedText isDouble fuel p
      return (cs ++ more, p)

def quotedScalar (p : Place) : Except Fault (String × Place) :=
  (quotedText (p.peek == '"') (p.rest.length + 1) p.next).map fun (cs, p) => (.ofList cs, p)

/-! ### Plain -/

/-- The number of characters up to where a plain scalar has to stop: a gap, a colon before a
    gap, and within brackets also what belongs to them. -/
def plainLength (inFlow : Bool) : List Char → Nat
  | [] => 0
  | c :: cs =>
      let after := cs.headD '\x00'
      let stops := isGapOrEnd c
        || (c == ':' && (isGapOrEnd after || (inFlow && ",[]\x7b\x7d".toList.contains after)))
        || (inFlow && ",?[]\x7b\x7d".toList.contains c)
      if stops then 0 else plainLength inFlow cs + 1

/-- Line breaks after the first one of a plain scalar, and the spaces around them; nothing
    where a line separates documents. -/
def plainBreaks : (fuel : Nat) → Place → Option (List Char) × Place
  | 0, p => (none, p)
  | fuel + 1, p =>
      let p := p.skipWhile (· == ' ')
      match p.lineBreak? with
      | none => (some [], p)
      | some (c, p) =>
          if p.atSeparator then (none, p)
          else
            let (cs, p) := plainBreaks fuel p
            (cs.map (c :: ·), p)

/-- The gap after a word of a plain scalar: its text, where it ends, and whether it goes
    over the end of a line. -/
def plainGap (p : Place) : List Char × Place × Bool :=
  let (spaces, p) := p.takeWhile (· == ' ')
  match p.lineBreak? with
  | none => (spaces, p, false)
  | some (c, p) =>
      if p.atSeparator then ([], p, true)
      else
        match plainBreaks (p.rest.length + 1) p with
        | (some cs, p) => (foldedBreaks c cs, p, true)
        | (none, p) => ([], p, true)

/-- The words of a plain scalar from a place on, `gap` being what stands before them; the
    last component tells whether the text goes on at the start of a line. -/
def plainWords (inFlow : Bool) (indent : Int) :
    (fuel : Nat) → (gap : List Char) → (newLine : Bool) → Place → List Char × Place × Bool
  | 0, _, newLine, p => ([], p, newLine)
  | fuel + 1, gap, newLine, p =>
      let n := if p.peek == '#' then 0 else plainLength inFlow p.rest
      if n == 0 then ([], p, newLine)
      else
        let word := p.rest.take n
        let (next, p, newLine) := plainGap (p.forward n)
        if next.isEmpty || p.peek == '#' || (!inFlow && (p.column : Int) < indent) then
          (gap ++ word, p, newLine)
        else
          let (more, p, newLine) := plainWords inFlow indent fuel next newLine p
          (gap ++ word ++ more, p, newLine)

/-- A plain scalar; lines of it have to be indented by `indent` at least. -/
def plainScalar (inFlow : Bool) (indent : Int) (p : Place) : String × Place × Bool :=
  let (cs, p, newLine) := plainWords inFlow indent (p.rest.length + 1) [] false p
  (.ofList cs, p, newLine)

/-! ### Blocks -/

/-- What becomes of the line breaks at the end of a block. -/
inductive Chomping where
  | clip                       -- one is kept
  | strip                      -- none is
  | keep                       -- all are
deriving Repr, DecidableEq

def chomping? (c : Char) : Option Chomping :=
  if c == '+' then some .keep else if c == '-' then some .strip else none

def increment? (p : Place) : Except Fault (Option Nat × Place) :=
  if isDigit p.peek then
    if p.peek == '0' then .error .malformed else .ok (some (p.peek.toNat - 48), p.next)
  else .ok (none, p)

/-- The signs after the bar or the angle bracket, in either order. -/
def blockSigns (p : Place) : Except Fault (Chomping × Option Nat × Place) := do
  let (chomping, increment, p) ←
    match chomping? p.peek with
    | some chomping => do
        let (increment, p) ← increment? p.next
        pure (chomping, increment, p)
    | none => do
        match ← increment? p with
        | (none, p) => pure (.clip, none, p)
        | (some n, p) =>
            match chomping? p.peek with
            | some chomping => pure (chomping, some n, p.next)
            | none => pure (.clip, some n, p)
  if isSpaceOrEnd p.peek then return (chomping, increment, p) else .error .malformed

/-- The empty lines before a block's first line of text, and the furthest column that they
    and that line reach with spaces. -/
def blockIndentation : (fuel : Nat) → (furthest : Nat) → Place → List Char × Nat × Place
  | 0, furthest, p => ([], furthest, p)
  | fuel + 1, furthest, p =>
      let p := p.skipWhile (· == ' ')
      let furthest := max furthest p.column
      match p.lineBreak? with
      | none => ([], furthest, p)
      | some (c, p) =>
          let (cs, furthest, p) := blockIndentation fuel furthest p
          (c :: cs, furthest, p)

/-- Skips spaces, but not beyond a column. -/
def skipIndent (indent : Nat) (p : Place) : Place :=
  p.forward ((p.rest.take (indent - p.column)).takeWhile (· == ' ')).length

def blockBreaks (indent : Nat) : (fuel : Nat) → Place → List Char × Place
  | 0, p => ([], p)
  | fuel + 1, p =>
      let p := skipIndent indent p
      match p.lineBreak? with
      | none => ([], p)
      | some (c, p) =>
          let (cs, p) := blockBreaks indent fuel p
          (c :: cs, p)

/-- The lines of a block; `breaks` are the empty lines before the place. -/
def blockLines (folded : Bool) (chomping : Chomping) (indent : Nat) :
    (fuel : Nat) → (breaks : List Char) → Place → List Char × Place
  | 0, _, p => ([], p)
  | fuel + 1, breaks, p =>
      let (line, after) := p.takeWhile (!isBreakOrEnd ·)
      let (ending, after) := match after.lineBreak? with
        | some (c, after) => ([c], after)
        | none => ([], after)
      let (more, after) := blockBreaks indent (after.rest.length + 1) after
      if after.column == indent && !after.rest.isEmpty then
        let joint :=
          if folded && ending == ['\n'] && !isGap p.peek && !isGap after.peek then
            if more.isEmpty then [' '] else []
          else ending
        let (text, last) := blockLines folded chomping indent fuel more after
        (breaks ++ line ++ joint ++ text, last)
      else
        let tail := match chomping with
          | .strip => []
          | .clip => ending
          | .keep => ending ++ more
        (breaks ++ line ++ tail, after)

/-- A block, its bar or angle bracket being next; `indent` is the column of the collection
    around it. -/
def blockScalar (indent : Int) (p : Place) : Except Fault (String × Place) := do
  let folded := p.peek == '>'
  let (chomping, increment, p) ← blockSigns p.next
  let some p := p.restOfLine? | .error .malformed
  let least := (indent + 1).toNat.max 1
  let fuel := p.rest.length + 1
  let (breaks, column, p) := match increment with
    | some n =>
        let column := least + n - 1
        let (breaks, p) := blockBreaks column fuel p
        (breaks, column, p)
    | none =>
        let (breaks, furthest, p) := blockIndentation fuel 0 p
        (breaks, least.max furthest, p)
  if p.column == column && !p.rest.isEmpty then
    let (cs, p) := blockLines folded chomping column fuel breaks p
    return (.ofList cs, p)
  else
    return (.ofList (if chomping == .keep then breaks else []), p)

end SqlPipeline.Yaml
