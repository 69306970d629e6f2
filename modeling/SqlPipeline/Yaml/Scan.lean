/-
  SqlPipeline/Yaml/Scan.lean
  ==========================
  **Cutting a YAML text into tokens.**

  Whether something is a key shows only at the colon behind it, so every place where a
  key may start is remembered, and its token is put there afterwards.  A key has to end
  on its line, and within a thousand characters or so.
-/
import SqlPipeline.Yaml.Scalar
import SqlPipeline.Text.Utf8

namespace SqlPipeline.Yaml

/-- A place where a key may start. -/
structure KeyStart where
  before : Nat               -- the number of tokens before it
  isRequired : Bool          -- nothing but a key may stand there
  index : Nat
  line : Nat
  column : Nat
deriving Repr

/-- What is known in the middle of a text. -/
structure Scanner where
  place : Place
  tokens : List Token := []                    -- the latest first
  indent : Int := -1                           -- of the innermost block
  indents : List Int := []                     -- of the blocks around it, innermost first
  keys : List (Option KeyStart) := [none]      -- for each pair of brackets around, then the block
  mayStartKey : Bool := true
deriving Repr

abbrev Scan := StateT Scanner (Except Fault)

namespace Scan

def fail {α : Type} (fault : Fault := .malformed) : Scan α :=
  throw fault

def emit (t : Token) : Scan Unit :=
  modify fun s => { s with tokens := t :: s.tokens }

/-- Puts a token behind the first `before` tokens. -/
def emitAt (before : Nat) (t : Token) : Scan Unit :=
  modify fun s => { s with tokens := s.tokens.insertIdx (s.tokens.length - before) t }

def moveTo (p : Place) : Scan Unit :=
  modify fun s => { s with place := p }

def advance (n : Nat) : Scan Unit :=
  modify fun s => { s with place := s.place.forward n }

def peek (k : Nat := 0) : Scan Char :=
  return (← get).place.peek k

def inFlow : Scan Bool :=
  return (← get).keys.length > 1

def allowKey (allowed : Bool) : Scan Unit :=
  modify fun s => { s with mayStartKey := allowed }

/-! ### Where keys may start -/

/-- Forgets the key that may have started within the innermost collection; if one had to
    start there this is a failure. -/
def dropKey : Scan Unit := do
  match (← get).keys.headD none with
  | some key => if key.isRequired then fail
  | none => pure ()
  modify fun s => { s with keys := none :: s.keys.drop 1 }

def rememberKey : Scan Unit := do
  let s ← get
  if s.mayStartKey then
    dropKey
    let key : KeyStart :=
      { before := s.tokens.length
        isRequired := s.keys.length ≤ 1 && s.indent == s.place.column
        index := s.place.index
        line := s.place.line
        column := s.place.column }
    modify fun s => { s with keys := some key :: s.keys.drop 1 }

def isStale (p : Place) (key : KeyStart) : Bool :=
  key.line != p.line || p.index - key.index > 1024

def dropStaleKeys : Scan Unit := do
  let s ← get
  let stale := s.keys.filterMap (Option.filter (isStale s.place))
  if stale.any (·.isRequired) then fail
  set { s with keys := s.keys.map (Option.filter (!isStale s.place ·)) }

/-! ### Blocks -/

def endBlocks (column : Int) : (indents : List Int) → Scan Unit
  | [] => pure ()
  | outer :: indents => do
      if (← get).indent > column then
        emit .blockEnd
        modify fun s => { s with indent := outer, indents := indents }
        endBlocks column indents

/-- Ends the blocks that are indented further than a column; within brackets indentation
    has no meaning. -/
def unindent (column : Int) : Scan Unit := do
  unless ← inFlow do endBlocks column (← get).indents

/-- Starts a block at a column, if it is indented further than the one around it. -/
def indentTo (column : Int) (start : Scan Unit) : Scan Unit := do
  let s ← get
  if s.indent < column then
    set { s with indent := column, indents := s.indent :: s.indents }
    start

def startBlock (start : Token) : Scan Unit := do
  unless ← inFlow do
    let s ← get
    unless s.mayStartKey do fail
    indentTo s.place.column (emit start)

/-! ### Directives, anchors and tags -/

def isTagPart (c : Char) : Bool :=
  isNamePart c || ";/?:@&=+$,.!~*'()[]%".toList.contains c

def hexByte? (cs : List Char) : Option UInt8 :=
  if cs.length == 2 then (hexNumber? cs).map UInt8.ofNat else none

/-- The bytes of a row of escapes, two hexadecimal digits after each percent sign. -/
def percentBytes : List Char → Option (List UInt8 × List Char)
  | '%' :: a :: b :: rest => do
      let byte ← hexByte? [a, b]
      let (bytes, rest) ← percentBytes rest
      return (byte :: bytes, rest)
  | '%' :: _ => none
  | rest => some ([], rest)

/-- The text of a tag with its escapes decoded; `fuel` bounds its length. -/
def decodeTag : (fuel : Nat) → List Char → Option (List Char)
  | 0, _ => none
  | _, [] => some []
  | fuel + 1, '%' :: rest => do
      let (bytes, rest) ← percentBytes ('%' :: rest)
      let cs ← (Text.decodeUtf8 0 bytes).toOption
      return cs ++ (← decodeTag fuel rest)
  | fuel + 1, c :: rest => return c :: (← decodeTag fuel rest)

def tagText : Scan String := do
  let (cs, p) := (← get).place.takeWhile isTagPart
  moveTo p
  match decodeTag (cs.length + 1) cs with
  | some [] | none => fail
  | some cs => return .ofList cs

/-- The handle of a tag: an exclamation mark, or a name between two. -/
def tagHandle : Scan String := do
  let p := (← get).place
  unless p.peek == '!' do fail
  if p.peek 1 == ' ' then
    moveTo p.next
    return "!"
  let (name, p) := p.next.takeWhile isNamePart
  unless p.peek == '!' do fail
  moveTo p.next
  return .ofList ('!' :: name ++ ['!'])

def tag : Scan Token := do
  let p := (← get).place
  let token ←
    if p.peek 1 == '<' then do
      advance 2
      let text ← tagText
      unless (← peek) == '>' do fail
      advance 1
      pure (Token.tag none text)
    else if isGapOrEnd (p.peek 1) then do
      advance 1
      pure (Token.tag none "!")
    else do
      let hasHandle := ((p.rest.drop 1).takeWhile (!isSpaceOrEnd ·)).contains '!'
      let handle ← if hasHandle then tagHandle else do
        advance 1
        pure "!"
      pure (Token.tag (some handle) (← tagText))
  unless isSpaceOrEnd (← peek) do fail
  return token

def anchorName : Scan String := do
  let (name, p) := (← get).place.next.takeWhile isNamePart
  if name.isEmpty then fail
  unless isGapOrEnd p.peek || "?:,]\x7d%@`".toList.contains p.peek do fail
  moveTo p
  return .ofList name

def skipSpaces : Scan Unit :=
  modify fun s => { s with place := s.place.skipWhile (· == ' ') }

def decimalNumber : Scan Nat := do
  let (digits, p) := (← get).place.takeWhile isDigit
  moveTo p
  match Decimal.readDigits 10 digits with
  | some n => return n
  | none => fail

def directive : Scan Token := do
  let (name, p) := (← get).place.next.takeWhile isNamePart
  if name.isEmpty then fail
  unless isSpaceOrEnd p.peek do fail
  moveTo p
  let token ←
    if name == "YAML".toList then do
      skipSpaces
      let major ← decimalNumber
      unless (← peek) == '.' do fail
      advance 1
      let _ ← decimalNumber
      unless isSpaceOrEnd (← peek) do fail
      pure (Token.version major)
    else if name == "TAG".toList then do
      skipSpaces
      let handle ← tagHandle
      unless (← peek) == ' ' do fail
      skipSpaces
      let stem ← tagText
      unless isSpaceOrEnd (← peek) do fail
      pure (Token.shorthand handle stem)
    else do
      moveTo (p.skipWhile (!isBreakOrEnd ·))
      pure Token.otherDirective
  match (← get).place.restOfLine? with
  | some p => moveTo p
  | none => fail
  return token

/-! ### Tokens -/

/-- Skips spaces, comments and line ends; outside brackets a key may start on a new line.
    `fuel` bounds the number of lines. -/
def skipToToken : (fuel : Nat) → Scan Unit
  | 0 => pure ()
  | fuel + 1 => do
      skipSpaces
      if (← peek) == '#' then moveTo ((← get).place.skipWhile (!isBreakOrEnd ·))
      match (← get).place.lineBreak? with
      | none => pure ()
      | some (_, p) =>
          moveTo p
          unless ← inFlow do allowKey true
          skipToToken fuel

/-- What ends all blocks, so that a key cannot go on. -/
def endAll : Scan Unit := do
  unindent (-1)
  dropKey
  allowKey false

def openBracket (t : Token) : Scan Unit := do
  rememberKey
  modify fun s => { s with keys := none :: s.keys }
  allowKey true
  advance 1
  emit t

def closeBracket (t : Token) : Scan Unit := do
  dropKey
  unless ← inFlow do fail
  modify fun s => { s with keys := s.keys.drop 1 }
  allowKey false
  advance 1
  emit t

/-- A comma, or the hyphen before an item: after it a key may start. -/
def entryMark (t : Token) : Scan Unit := do
  allowKey true
  dropKey
  advance 1
  emit t

def keyMark : Scan Unit := do
  startBlock .mapStart
  allowKey (!(← inFlow))
  dropKey
  advance 1
  emit .key

/-- The colon between a key and its value: the key may have started earlier. -/
def valueMark : Scan Unit := do
  match (← get).keys.headD none with
  | some key =>
      modify fun s => { s with keys := none :: s.keys.drop 1 }
      emitAt key.before .key
      unless ← inFlow do indentTo key.column (emitAt key.before .mapStart)
      allowKey false
  | none =>
      startBlock .mapStart
      allowKey (!(← inFlow))
      dropKey
  advance 1
  emit .value

def keyable (scan : Scan Token) : Scan Unit := do
  rememberKey
  allowKey false
  emit (← scan)

def quoted : Scan Token := do
  let (text, p) ← quotedScalar (← get).place
  moveTo p
  return .scalar false text

def plain : Scan Token := do
  let s ← get
  let (text, p, newLine) := plainScalar (← inFlow) (s.indent + 1) s.place
  moveTo p
  allowKey newLine
  return .scalar true text

def block : Scan Unit := do
  allowKey true
  dropKey
  let s ← get
  let (text, p) ← blockScalar s.indent s.place
  moveTo p
  emit (.scalar false text)

def startsPlain (inFlow : Bool) (c after : Char) : Bool :=
  !(isGapOrEnd c || "-?:,[]\x7b\x7d#&*!|>'\"%@`".toList.contains c)
    || (!isGapOrEnd after && (c == '-' || (!inFlow && (c == '?' || c == ':'))))

/-- Reads the next token; gives whether there was one. -/
def step : Scan Bool := do
  skipToToken ((← get).place.rest.length + 1)
  dropStaleKeys
  let p := (← get).place
  unindent p.column
  let flow ← inFlow
  let c := p.peek
  let spaced := isGapOrEnd (p.peek 1)
  if p.rest.isEmpty then
    endAll
    return false
  else if c == '%' && p.column == 0 then
    endAll
    emit (← directive)
  else if p.column == 0 && p.isRuler '-' then
    endAll
    advance 3
    emit .documentStart
  else if p.column == 0 && p.isRuler '.' then
    endAll
    advance 3
    emit .documentEnd
  else if c == '[' then openBracket .openList
  else if c == '\x7b' then openBracket .openMap
  else if c == ']' then closeBracket .closeList
  else if c == '\x7d' then closeBracket .closeMap
  else if c == ',' then entryMark .comma
  else if c == '-' && spaced then
    startBlock .listStart
    entryMark .item
  else if c == '?' && (flow || spaced) then keyMark
  else if c == ':' && (flow || spaced) then valueMark
  else if c == '*' then keyable (return .alias (← anchorName))
  else if c == '&' then keyable (return .anchor (← anchorName))
  else if c == '!' then keyable tag
  else if (c == '|' || c == '>') && !flow then block
  else if c == '\'' || c == '"' then keyable quoted
  else if startsPlain flow c (p.peek 1) then keyable plain
  else fail
  return true

/-- Reads tokens to the end of the text or to the first failure; each token but those that
    end blocks takes a character, so the length of the text bounds their number. -/
def run : (fuel : Nat) → Scanner → List Token
  | 0, s => s.tokens.reverse
  | fuel + 1, s =>
      match StateT.run step s with
      | .error fault => (Token.bad fault :: s.tokens).reverse
      | .ok (true, s) => run fuel s
      | .ok (false, s) => s.tokens.reverse

end Scan

def Token.ofText (text : List Char) : List Token :=
  if !text.all isAllowed then [.bad .malformed]
  else
    let start : Place := { rest := text }
    let start := if start.peek == byteOrderMark then start.next else start
    Scan.run (text.length + 1) { place := start }

end SqlPipeline.Yaml
