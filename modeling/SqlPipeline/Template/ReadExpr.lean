/-
  SqlPipeline/Template/ReadExpr.lean
  ==================================
  **Reading expressions.**

  From loose to tight: the conditional, `or`, `and`, `not`, comparisons, sums, `~`,
  products, powers, signs, then filters and tests, and members and calls.  Powers
  associate to the left and a sign binds tighter than they do.  A reader of nested
  expressions is passed down, and the depth of nesting is bounded by the number of
  tokens.
-/
import SqlPipeline.Template.Cursor

namespace SqlPipeline.Template

open Reader

/-- Readers of what may stand inside an expression. -/
structure Nested where
  expression : (withCond : Bool) → Reader Expr
  negation : Reader Expr
  unary : (withFilter : Bool) → Reader Expr

namespace ReadExpr

/-- Operands joined by operators of one rank, to the left; `n` bounds their number. -/
def chain (operator? : TokenKind → Option (Expr → Expr → Expr)) (operand : Reader Expr) :
    (n : Nat) → Expr → Reader Expr
  | 0, left => return left
  | n + 1, left => do
      match operator? (← kind) with
      | none => return left
      | some join =>
          let _ ← advance
          let right ← operand
          chain operator? operand n (join left right)

def endsTuple (words : List String) : TokenKind → Bool
  | .exprEnd | .blockEnd => true
  | .symbol sign => sign == ")"
  | .name n => words.contains n
  | _ => false

def commaParts {α : Type} (part : Reader α) (words : List String) :
    (n : Nat) → List α → Bool → Reader (List α × Bool)
  | 0, parts, hadComma => return (parts, hadComma)
  | n + 1, parts, hadComma => do
      if !parts.isEmpty then
        let _ ← expectSign ","
      if endsTuple words (← kind) then return (parts, hadComma)
      let x ← part
      if (← kind).isSymbol "," then commaParts part words n (parts ++ [x]) true
      else return (parts ++ [x], hadComma)

/-- One expression, or a tuple when there is a comma; `inParens` allows the empty tuple. -/
def tuple (sub : Nested) (withCond : Bool) (words : List String) (inParens : Bool) : Reader Expr := do
  let (parts, hadComma) ← commaParts (sub.expression withCond) words (← bound) [] false
  match parts, hadComma with
  | [e], false => return e
  | [], false =>
      if inParens then return .tuple []
      else
        let token ← current
        fail (.noExpression token.kind.description) token.line
  | parts, _ => return .tuple parts

/-- Items with commas between them up to a closing sign; a comma may stand before it. -/
def itemsUntil {α : Type} (item : Reader α) (closer : String) : (n : Nat) → List α → Reader (List α)
  | 0, items => return items
  | n + 1, items => do
      if (← kind).isSymbol closer then return items
      if !items.isEmpty then
        let _ ← expectSign ","
      if (← kind).isSymbol closer then return items
      itemsUntil item closer n (items ++ [← item])

def textParts : (n : Nat) → String → Reader String
  | 0, acc => return acc
  | n + 1, acc => do
      match ← kind with
      | .text s =>
          let _ ← advance
          textParts n (acc ++ s)
      | _ => return acc

def namedConstant? (name : String) : Option Constant :=
  if name == "true" || name == "True" then some (.bool true)
  else if name == "false" || name == "False" then some (.bool false)
  else if name == "none" || name == "None" then some .null
  else none

def primary (sub : Nested) : Reader Expr := do
  let token ← current
  match token.kind with
  | .name n =>
      let _ ← advance
      match namedConstant? n with
      | some c => return .constant c
      | none => return .name n token.line
  | .text s =>
      let _ ← advance
      return .constant (.text (← textParts (← bound) s))
  | .int n =>
      let _ ← advance
      return .constant (.int n)
  | .float x =>
      let _ ← advance
      return .constant (.float x)
  | .symbol sign =>
      if sign == "(" then
        let _ ← advance
        let e ← tuple sub true [] true
        let _ ← expectSign ")"
        return e
      else if sign == "[" then
        let _ ← advance
        let items ← itemsUntil (sub.expression true) "]" (← bound) []
        let _ ← expectSign "]"
        return .list items
      else if sign == "\x7b" then
        let _ ← advance
        let entry : Reader (Expr × Expr) := do
          let key ← sub.expression true
          let _ ← expectSign ":"
          return (key, ← sub.expression true)
        let entries ← itemsUntil entry "\x7d" (← bound) []
        let _ ← expectSign "\x7d"
        return .map entries
      else fail (.unexpected token.kind.description) token.line
  | kind => fail (.unexpected kind.description) token.line

/-! ### Members and calls -/

def endsSlicePart (k : TokenKind) : Bool :=
  k.isSymbol "]" || k.isSymbol ","

def sliceStep (sub : Nested) : Reader (Option Expr) := do
  if ← skipSign ":" then
    if endsSlicePart (← kind) then return none else return some (← sub.expression true)
  else return none

def sliceFrom (sub : Nested) (start : Option Expr) : Reader Expr := do
  let _ ← advance
  let k ← kind
  if k.isSymbol ":" then return .slice start none (← sliceStep sub)
  else if endsSlicePart k then return .slice start none none
  else
    let stop ← sub.expression true
    return .slice start (some stop) (← sliceStep sub)

/-- What may stand between subscript brackets: an expression or a slice. -/
def subscript (sub : Nested) : Reader Expr := do
  if (← kind).isSymbol ":" then sliceFrom sub none
  else
    let e ← sub.expression true
    if (← kind).isSymbol ":" then sliceFrom sub (some e) else return e

def subscripts (sub : Nested) : (n : Nat) → List Expr → Reader (List Expr)
  | 0, items => return items
  | n + 1, items => do
      if (← kind).isSymbol "]" then return items
      if !items.isEmpty then
        let _ ← expectSign ","
      subscripts sub n (items ++ [← subscript sub])

structure ArgumentParts where
  positional : List Expr := []
  named : List (String × Expr) := []
  spread : Option Expr := none
  spreadNamed : Option Expr := none

/-- Arguments up to the closing parenthesis; `line` is that of the opening one. -/
def argumentsUntil (sub : Nested) (line : Nat) : (n : Nat) → (needsComma : Bool) → ArgumentParts →
    Reader ArgumentParts
  | 0, _, parts => return parts
  | n + 1, needsComma, parts => do
      let require (ok : Bool) : Reader Unit := if ok then pure () else fail .argumentOrder line
      if (← kind).isSymbol ")" then return parts
      if needsComma then
        let _ ← expectSign ","
      let token ← current
      if token.kind.isSymbol ")" && needsComma then return parts
      if token.kind.isSymbol "*" then
        require (parts.spread.isNone && parts.spreadNamed.isNone)
        let _ ← advance
        let e ← sub.expression true
        argumentsUntil sub line n true { parts with spread := some e }
      else if token.kind.isSymbol "**" then
        require parts.spreadNamed.isNone
        let _ ← advance
        let e ← sub.expression true
        argumentsUntil sub line n true { parts with spreadNamed := some e }
      else
        let named? : Option String ← match token.kind with
          | .name key => do
              let next ← look
              pure (if next.kind.isSymbol "=" then some key else none)
          | _ => pure none
        match named? with
        | some key =>
            require parts.spreadNamed.isNone
            let _ ← advance
            let _ ← advance
            let e ← sub.expression true
            argumentsUntil sub line n true { parts with named := parts.named ++ [(key, e)] }
        | none =>
            require (parts.spread.isNone && parts.spreadNamed.isNone && parts.named.isEmpty)
            let e ← sub.expression true
            argumentsUntil sub line n true { parts with positional := parts.positional ++ [e] }

def arguments (sub : Nested) : Reader Arguments := do
  let opening ← expectSign "("
  let parts ← argumentsUntil sub opening.line (← bound) false {}
  let _ ← expectSign ")"
  return .mk parts.positional parts.named parts.spread parts.spreadNamed

def member (sub : Nested) (e : Expr) : Reader Expr := do
  let token ← advance
  if token.kind.isSymbol "." then
    let next ← current
    let _ ← advance
    match next.kind with
    | .name n => return .attr e n
    | .int n => return .item e (.constant (.int n))
    | _ => fail .noMember next.line
  else
    let items ← subscripts sub (← bound) []
    let _ ← expectSign "]"
    match items with
    | [index] => return .item e index
    | items => return .item e (.tuple items)

def postfixes (sub : Nested) : (n : Nat) → Expr → Reader Expr
  | 0, e => return e
  | n + 1, e => do
      let k ← kind
      if k.isSymbol "." || k.isSymbol "[" then postfixes sub n (← member sub e)
      else if k.isSymbol "(" then postfixes sub n (.call e (← arguments sub))
      else return e

/-! ### Filters and tests -/

def dottedRest : (n : Nat) → String → Reader String
  | 0, name => return name
  | n + 1, name => do
      if ← skipSign "." then
        let (part, _) ← expectName
        dottedRest n (name ++ "." ++ part)
      else return name

def oneFilter (sub : Nested) (input : Option Expr) : Reader Expr := do
  let (first, line) ← expectName
  let name ← dottedRest (← bound) first
  let args ← if (← kind).isSymbol "(" then arguments sub else pure Arguments.none
  return .filter input name line args

def filters (sub : Nested) : (n : Nat) → Option Expr → Reader (Option Expr)
  | 0, input => return input
  | n + 1, input => do
      if ← skipSign "|" then filters sub n (some (← oneFilter sub input)) else return input

/-- The filters of a filter tag, the first of which has no bar. -/
def filterTag (sub : Nested) : Reader Expr := do
  let first ← oneFilter sub none
  return ((← filters sub (← bound) (some first)).getD first)

/-- Whether an argument without parentheses may follow a test's name. -/
def startsArgument : TokenKind → Bool
  | .name n => n != "else" && n != "or" && n != "and"
  | .text _ | .int _ | .float _ => true
  | .symbol sign => ["(", "[", "\x7b"].contains sign
  | _ => false

def test (sub : Nested) (input : Expr) : Reader Expr := do
  let token ← advance
  let negated ← skipWord "not"
  let (first, _) ← expectName
  let name ← dottedRest (← bound) first
  let k ← kind
  let args ←
    if k.isSymbol "(" then arguments sub
    else if startsArgument k then
      if k.isName "is" then fail .chainedTests (← currentLine)
      else do
        let e ← primary sub
        pure (Arguments.mk [← postfixes sub (← bound) e] [] none none)
    else pure Arguments.none
  let e := Expr.test input name token.line args
  return if negated then .not e else e

def filtersAndTests (sub : Nested) : (n : Nat) → Expr → Reader Expr
  | 0, e => return e
  | n + 1, e => do
      let k ← kind
      if k.isSymbol "|" then
        match ← filters sub (← bound) (some e) with
        | some e => filtersAndTests sub n e
        | none => return e
      else if k.isName "is" then filtersAndTests sub n (← test sub e)
      else if k.isSymbol "(" then filtersAndTests sub n (.call e (← arguments sub))
      else return e

/-! ### Operators -/

def unary (sub : Nested) (withFilter : Bool) : Reader Expr := do
  let k ← kind
  let e ←
    if k.isSymbol "-" then do
      let _ ← advance
      pure (Expr.neg (← sub.unary false))
    else if k.isSymbol "+" then do
      let _ ← advance
      pure (Expr.pos (← sub.unary false))
    else primary sub
  let e ← postfixes sub (← bound) e
  if withFilter then filtersAndTests sub (← bound) e else return e

def operatorAmong (ops : List BinaryOp) (k : TokenKind) : Option (Expr → Expr → Expr) :=
  (ops.find? fun op => k.isSymbol op.sign).map fun op => .binary op

def power (sub : Nested) : Reader Expr := do
  chain (operatorAmong [.pow]) (unary sub true) (← bound) (← unary sub true)

def product (sub : Nested) : Reader Expr := do
  chain (operatorAmong [.mul, .div, .floorDiv, .mod]) (power sub) (← bound) (← power sub)

def joinedRest (sub : Nested) : (n : Nat) → List Expr → Reader (List Expr)
  | 0, parts => return parts
  | n + 1, parts => do
      if ← skipSign "~" then joinedRest sub n (parts ++ [← product sub]) else return parts

def joined (sub : Nested) : Reader Expr := do
  let first ← product sub
  match ← joinedRest sub (← bound) [first] with
  | [e] => return e
  | parts => return .concat parts

def sum (sub : Nested) : Reader Expr := do
  chain (operatorAmong [.add, .sub]) (joined sub) (← bound) (← joined sub)

def compareOp? (k : TokenKind) : Option CompareOp :=
  [("==", CompareOp.eq), ("!=", .ne), ("<", .lt), ("<=", .le), (">", .gt), (">=", .ge)].findSome?
    fun (sign, op) => if k.isSymbol sign then some op else none

def comparisons (sub : Nested) : (n : Nat) → List (CompareOp × Expr) → Reader (List (CompareOp × Expr))
  | 0, found => return found
  | n + 1, found => do
      let k ← kind
      match compareOp? k with
      | some op =>
          let _ ← advance
          comparisons sub n (found ++ [(op, ← sum sub)])
      | none =>
          if ← skipWord "in" then comparisons sub n (found ++ [(.isIn, ← sum sub)])
          else if k.isName "not" then
            if (← look).kind.isName "in" then
              let _ ← advance
              let _ ← advance
              comparisons sub n (found ++ [(.notIn, ← sum sub)])
            else return found
          else return found

def comparison (sub : Nested) : Reader Expr := do
  let first ← sum sub
  match ← comparisons sub (← bound) [] with
  | [] => return first
  | rest => return .compare first rest

def negation (sub : Nested) : Reader Expr := do
  if ← skipWord "not" then return .not (← sub.negation) else comparison sub

def conjunction (sub : Nested) : Reader Expr := do
  let word (k : TokenKind) := if k.isName "and" then some Expr.and else none
  chain word (negation sub) (← bound) (← negation sub)

def disjunction (sub : Nested) : Reader Expr := do
  let word (k : TokenKind) := if k.isName "or" then some Expr.or else none
  chain word (conjunction sub) (← bound) (← conjunction sub)

def conditions (sub : Nested) : (n : Nat) → (line : Nat) → Expr → Reader Expr
  | 0, _, e => return e
  | n + 1, line, e => do
      if ← skipWord "if" then
        let cond ← disjunction sub
        let no ← if ← skipWord "else" then do pure (some (← sub.expression true)) else pure none
        conditions sub n (← currentLine) (.cond cond e no line)
      else return e

def expression (sub : Nested) (withCond : Bool) : Reader Expr := do
  let line ← currentLine
  let e ← disjunction sub
  if withCond then conditions sub (← bound) line e else return e

def nested : (depth : Nat) → Nested
  | 0 =>
      let stop : Reader Expr := do fail (.unexpected (← kind).description) (← currentLine)
      ⟨fun _ => stop, stop, fun _ => stop⟩
  | depth + 1 =>
      let sub := nested depth
      ⟨expression sub, negation sub, unary sub⟩

end ReadExpr

def Reader.nested : Reader Nested := do
  return ReadExpr.nested (2 * (← bound) + 2)

end SqlPipeline.Template
