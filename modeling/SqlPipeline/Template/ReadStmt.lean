/-
  SqlPipeline/Template/ReadStmt.lean
  ==================================
  **Reading statements and whole templates.**

  Statements are read up to one of the tags that may close the current one.  Data and
  expressions that follow each other directly are one output.
-/
import SqlPipeline.Template.ReadExpr
import SqlPipeline.Template.Scan

namespace SqlPipeline.Template

open Reader

namespace ReadStmt

/-! ### Targets of assignments -/

mutual

def targetOf? : Expr → Option Target
  | .name n line => some (.name n line)
  | .tuple items => (targetsOf? items).map .tuple
  | _ => none

def targetsOf? : List Expr → Option (List Target)
  | [] => some []
  | e :: es =>
      match targetOf? e, targetsOf? es with
      | some t, some ts => some (t :: ts)
      | _, _ => none

end

/-- The target that an expression can be, or the kind of expression that is none. -/
def targetOf (e : Expr) : Except String Target :=
  match targetOf? e with
  | some t => .ok t
  | none => .error e.kindName

/-- One part of a target; `withFields` allows an attribute of a namespace. -/
def targetPart (sub : Nested) (withFields : Bool) : Reader (Except String Target) := do
  let token ← current
  match token.kind with
  | .name n =>
      if (ReadExpr.namedConstant? n).isNone && withFields then
        if (← look).kind.isSymbol "." then
          let _ ← advance
          let _ ← advance
          let (key, _) ← expectName
          return .ok (.field n key)
        else return targetOf (← ReadExpr.primary sub)
      else return targetOf (← ReadExpr.primary sub)
  | _ => return targetOf (← ReadExpr.primary sub)

def target (sub : Nested) (words : List String) (withFields : Bool) : Reader Target := do
  let token ← current
  let (parts, hadComma) ← ReadExpr.commaParts (targetPart sub withFields) words (← bound) [] false
  let whole ← match parts, hadComma with
    | [part], false => pure part
    | [], false => do
        let token ← current
        fail (.noExpression token.kind.description) token.line
    | parts, _ => pure ((parts.mapM id).map Target.tuple |>.mapError fun _ => "tuple")
  match whole with
  | .ok t => return t
  | .error kindName => fail (.notAssignable kindName) token.line

def targetName : Reader (String × Nat) := do
  let (name, line) ← expectName
  if (ReadExpr.namedConstant? name).isSome then fail (.notAssignable "name") line
  else return (name, line)

/-! ### Open tags -/

/-- Says that a tag is unknown or that the template ends too early. -/
def failNested {α : Type} (name : Option String) (line : Nat) (closers : List (List String)) :
    Reader α := do
  let innermost := (← get).tags.head?
  let wanted := closers.head?.getD []
  match name with
  | none => fail (.ended wanted innermost) line
  | some name => fail (.unknownTag name wanted (closers.any (·.contains name)) innermost) line

abbrev Statements := List String → Reader (List Stmt)

/-- The statements of a tag, from the end of the tag on; the closing tag's name is next. -/
def body (statements : Statements) (closers : List String) : Reader (List Stmt) := do
  let _ ← skipSign ":"
  expectBlockEnd
  let stmts ← statements closers
  let token ← current
  if token.kind.isEnded then failNested none token.line (closers :: (← get).closers)
  else return stmts

def closedBody (statements : Statements) (closer : String) : Reader (List Stmt) := do
  let stmts ← body statements [closer]
  let _ ← advance
  return stmts

/-! ### Tags -/

def assignment (sub : Nested) (statements : Statements) : Reader Stmt := do
  let _ ← advance
  let t ← target sub [] true
  if ← skipSign "=" then
    return .assign t (← ReadExpr.tuple sub true [] false)
  else
    let filter ← ReadExpr.filters sub (← bound) none
    return .capture t filter (← closedBody statements "endset")

def loop (sub : Nested) (statements : Statements) : Reader Stmt := do
  let _ ← advance
  let t ← target sub ["in"] false
  let _ ← expectWord "in"
  let source ← ReadExpr.tuple sub false ["recursive"] false
  let test ← if ← skipWord "if" then do pure (some (← sub.expression true)) else pure none
  let recursive ← skipWord "recursive"
  let stmts ← body statements ["endfor", "else"]
  let token ← advance
  let otherwise ← if token.kind.isName "endfor" then pure [] else closedBody statements "endfor"
  return .loop t source test recursive stmts otherwise

def branches (sub : Nested) (statements : Statements) :
    (n : Nat) → List (Expr × List Stmt) → Reader (List (Expr × List Stmt) × List Stmt)
  | 0, found => return (found, [])
  | n + 1, found => do
      let token ← advance
      if token.kind.isName "elif" then
        let test ← ReadExpr.tuple sub false [] false
        let stmts ← body statements ["elif", "else", "endif"]
        branches sub statements n (found ++ [(test, stmts)])
      else if token.kind.isName "else" then
        return (found, ← closedBody statements "endif")
      else return (found, [])

def condition (sub : Nested) (statements : Statements) : Reader Stmt := do
  let _ ← advance
  let test ← ReadExpr.tuple sub false [] false
  let stmts ← body statements ["elif", "else", "endif"]
  let (others, otherwise) ← branches sub statements (← bound) []
  return .branch test stmts others otherwise

/-- The bindings of a `with` tag. -/
def bindings (sub : Nested) : (n : Nat) → List (Target × Expr) → Reader (List (Target × Expr))
  | 0, found => return found
  | n + 1, found => do
      if (← kind).isBlockEnd then return found
      if !found.isEmpty then
        let _ ← expectSign ","
      let t ← target sub [] false
      let _ ← expectSign "="
      bindings sub n (found ++ [(t, ← sub.expression true)])

def binding (sub : Nested) (statements : Statements) : Reader Stmt := do
  let _ ← advance
  let found ← bindings sub (← bound) []
  return .bind found (← closedBody statements "endwith")

/-- The parameters of a macro, and the default values of the last of them. -/
def parameters (sub : Nested) : (n : Nat) → List String → List Expr → Reader (List String × List Expr)
  | 0, params, defaults => return (params, defaults)
  | n + 1, params, defaults => do
      if (← kind).isSymbol ")" then return (params, defaults)
      if !params.isEmpty then
        let _ ← expectSign ","
      let (name, _) ← targetName
      if ← skipSign "=" then
        parameters sub n (params ++ [name]) (defaults ++ [← sub.expression true])
      else if defaults.isEmpty then parameters sub n (params ++ [name]) defaults
      else fail .defaultOrder (← currentLine)

def parameterList (sub : Nested) : Reader (List String × List Expr) := do
  let _ ← expectSign "("
  let found ← parameters sub (← bound) [] []
  let _ ← expectSign ")"
  return found

def routine (sub : Nested) (statements : Statements) : Reader Stmt := do
  let token ← advance
  let (name, _) ← targetName
  let (params, defaults) ← parameterList sub
  return .routine name token.line params defaults (← closedBody statements "endmacro")

def callWith (sub : Nested) (statements : Statements) : Reader Stmt := do
  let token ← advance
  let (params, defaults) ← if (← kind).isSymbol "(" then parameterList sub else pure ([], [])
  match ← sub.expression true with
  | .call f args =>
      return .callWith token.line params defaults (.call f args) (← closedBody statements "endcall")
  | _ => fail .noCall token.line

def filtered (sub : Nested) (statements : Statements) : Reader Stmt := do
  let _ ← advance
  let filter ← ReadExpr.filterTag sub
  return .filtered filter (← closedBody statements "endfilter")

def escaping (sub : Nested) (statements : Statements) : Reader Stmt := do
  let _ ← advance
  let mode ← sub.expression true
  return .escaping mode (← closedBody statements "endautoescape")

def isBlankOutput : Stmt → Bool
  | .output pieces => pieces.all fun
      | .data s => !s.isEmpty && Text.isAllBlank s
      | .expr _ => false
  | _ => false

def block (statements : Statements) : Reader Stmt := do
  let token ← advance
  let (name, _) ← expectName
  let inherits ← skipWord "scoped"
  let required ← skipWord "required"
  let next ← current
  if next.kind.isSymbol "-" then fail .hyphenatedBlock next.line
  else
    let stmts ← closedBody statements "endblock"
    if required && !stmts.all isBlankOutput then fail .filledBlock (← currentLine)
    else
      let _ ← skipWord name
      return .block name token.line inherits required stmts

def extend (sub : Nested) : Reader Stmt := do
  let token ← advance
  return .extend (← sub.expression true) token.line

/-- The words that say whether an included template sees the variables. -/
def contextWords : Reader Bool := do
  let k ← kind
  if k.isName "with" || k.isName "without" then
    if (← look).kind.isName "context" then
      let _ ← advance
      let _ ← advance
      return true
    else return false
  else return false

def insertFile (sub : Nested) : Reader Stmt := do
  let _ ← advance
  let template ← sub.expression true
  let ignoreMissing ←
    if (← kind).isName "ignore" then do
      if (← look).kind.isName "missing" then
        let _ ← advance
        let _ ← advance
        pure true
      else pure false
    else pure false
  let _ ← contextWords
  return .insertFile template ignoreMissing

def importAll (sub : Nested) : Reader Stmt := do
  let _ ← advance
  let template ← sub.expression true
  let _ ← expectWord "as"
  let (name, _) ← targetName
  let _ ← contextWords
  return .importAll template name

def importedNames : (n : Nat) → List (String × Option String) → Reader (List (String × Option String))
  | 0, found => return found
  | n + 1, found => do
      if !found.isEmpty then
        let _ ← expectSign ","
      match ← kind with
      | .name _ =>
          if ← contextWords then return found
          let (name, line) ← targetName
          if name.startsWith "_" then fail .hiddenImport line
          let alias? ← if ← skipWord "as" then do pure (some (← targetName).1) else pure none
          let found := found ++ [(name, alias?)]
          if ← contextWords then return found
          if (← kind).isSymbol "," then importedNames n found else return found
      | _ => mismatch "name"

def importFrom (sub : Nested) : Reader Stmt := do
  let _ ← advance
  let template ← sub.expression true
  let _ ← expectWord "import"
  return .importFrom template (← importedNames (← bound) [])

/-- Expressions with commas between them up to the end of the tag. -/
def printed (sub : Nested) : (n : Nat) → List Piece → Reader (List Piece)
  | 0, pieces => return pieces
  | n + 1, pieces => do
      if (← kind).isBlockEnd then return pieces
      if !pieces.isEmpty then
        let _ ← expectSign ","
      printed sub n (pieces ++ [.expr (← sub.expression true)])

def output (sub : Nested) : Reader Stmt := do
  let _ ← advance
  return .output (← printed sub (← bound) [])

def tag? (sub : Nested) (statements : Statements) (name : String) : Option (Reader Stmt) :=
  match name with
  | "for" => some (loop sub statements)
  | "if" => some (condition sub statements)
  | "block" => some (block statements)
  | "extends" => some (extend sub)
  | "print" => some (output sub)
  | "macro" => some (routine sub statements)
  | "include" => some (insertFile sub)
  | "from" => some (importFrom sub)
  | "import" => some (importAll sub)
  | "set" => some (assignment sub statements)
  | "with" => some (binding sub statements)
  | "autoescape" => some (escaping sub statements)
  | "call" => some (callWith sub statements)
  | "filter" => some (filtered sub statements)
  | _ => none

def statement (sub : Nested) (statements : Statements) : Reader Stmt := do
  let token ← current
  match token.kind with
  | .name name =>
      match tag? sub statements name with
      | some read =>
          modify fun c => { c with tags := name :: c.tags }
          let stmt ← read
          modify fun c => { c with tags := c.tags.tail }
          return stmt
      | none => failNested (some name) token.line (← get).closers
  | _ => fail .noTagName token.line

/-! ### Statements one after the other -/

def flush (pieces : List Piece) (stmts : List Stmt) : List Stmt :=
  if pieces.isEmpty then stmts else .output pieces.reverse :: stmts

/-- Reads statements up to a closing tag's name or the end; what was read is kept last first. -/
def statementsLoop (sub : Nested) (nestedBody : Statements) (closers : List String) :
    (n : Nat) → List Piece → List Stmt → Reader (List Stmt)
  | 0, pieces, stmts => return (flush pieces stmts).reverse
  | n + 1, pieces, stmts => do
      match ← kind with
      | .data s =>
          let _ ← advance
          statementsLoop sub nestedBody closers n (.data s :: pieces) stmts
      | .exprBegin =>
          let _ ← advance
          let e ← ReadExpr.tuple sub true [] false
          expectExprEnd
          statementsLoop sub nestedBody closers n (.expr e :: pieces) stmts
      | .blockBegin =>
          let stmts := flush pieces stmts
          let _ ← advance
          let isClosing := match ← kind with
            | .name name => closers.contains name
            | _ => false
          if isClosing then return stmts.reverse
          else
            let stmt ← statement sub nestedBody
            expectBlockEnd
            statementsLoop sub nestedBody closers n [] (stmt :: stmts)
      | _ => return (flush pieces stmts).reverse

/-- Reads the statements of a tag; `depth` bounds the nesting. -/
def statements (sub : Nested) : (depth : Nat) → Statements
  | 0, _ => return []
  | depth + 1, closers => do
      let outer := (← get).closers
      modify fun c => { c with closers := closers :: outer }
      let stmts ← statementsLoop sub (statements sub depth) closers (← bound) [] []
      modify fun c => { c with closers := outer }
      return stmts

def template : Reader (List Stmt) := do
  let sub ← Reader.nested
  let n ← bound
  statementsLoop sub (statements sub n) [] n [] []

end ReadStmt

def parse (d : Delimiters) (source : String) : Except Fault (List Stmt) :=
  let stream := scan d source
  match stream.tokens, stream.failure with
  | [], some fault => .error fault
  | tokens, failure => (ReadStmt.template.run ⟨tokens, failure, 1, [], []⟩).map (·.1)

end SqlPipeline.Template
