/-
  SqlPipeline/Template/Cursor.lean
  ================================
  **Reading tokens one after the other.**

  A cursor knows one token ahead.  A fault that cuts the tokens off is met when the
  cursor moves past the last token before it, and not earlier.  The cursor also keeps
  the tags that are open and the tags that would close them, for messages.
-/
import SqlPipeline.Template.Token
import SqlPipeline.Template.Expr

namespace SqlPipeline.Template

/-- Where the reading of tokens stands. -/
structure Cursor where
  rest : List Token
  failure : Option Fault
  line : Nat                        -- the line of the last token that was taken
  tags : List String := []          -- the open tags, innermost first
  closers : List (List String) := []  -- the tags that may come next, innermost first

abbrev Reader (α : Type) := StateT Cursor (Except Fault) α

namespace Reader

def fail {α : Type} (cause : FaultCause) (line : Nat) : Reader α :=
  throw ⟨cause, line⟩

def current : Reader Token := do
  let c ← get
  match c.rest with
  | token :: _ => return token
  | [] => return ⟨.ended, c.line⟩

def kind : Reader TokenKind := do
  return (← current).kind

def currentLine : Reader Nat := do
  return (← current).line

def advance : Reader Token := do
  let token ← current
  let c ← get
  let rest := c.rest.tail
  match rest, c.failure with
  | [], some fault => throw fault
  | _, _ => set { c with rest := rest, line := token.line }
  return token

def look : Reader Token := do
  let c ← get
  match c.rest, c.failure with
  | [_], some fault => throw fault
  | _ :: token :: _, _ => return token
  | _, _ => return ⟨.ended, ← currentLine⟩

def bound : Reader Nat := do
  return (← get).rest.length + 1

def skipSign (sign : String) : Reader Bool := do
  if (← kind).isSymbol sign then
    let _ ← advance
    return true
  else return false

def skipWord (word : String) : Reader Bool := do
  if (← kind).isName word then
    let _ ← advance
    return true
  else return false

def mismatch {α : Type} (wanted : String) : Reader α := do
  let token ← current
  match token.kind with
  | .ended => fail (.endedBefore wanted) token.line
  | kind => fail (.expected wanted kind.description) token.line

def expectSign (sign : String) : Reader Token := do
  if (← kind).isSymbol sign then advance else mismatch sign

def expectWord (word : String) : Reader Token := do
  if (← kind).isName word then advance else mismatch word

def expectName : Reader (String × Nat) := do
  let token ← current
  match token.kind with
  | .name n =>
      let _ ← advance
      return (n, token.line)
  | _ => mismatch "name"

def expectExprEnd : Reader Unit := do
  if (← kind).isExprEnd then
    let _ ← advance
  else mismatch TokenKind.exprEnd.description

def expectBlockEnd : Reader Unit := do
  if (← kind).isBlockEnd then
    let _ ← advance
  else mismatch TokenKind.blockEnd.description

end Reader

end SqlPipeline.Template
