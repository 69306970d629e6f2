/-
  SqlPipeline/Template/Check.lean
  ===============================
  **Faults of a whole template that are found before it is rendered.**

  A filter or test that does not exist is a fault, unless it stands in a condition's
  branch, where it may never be reached.  So are two blocks of one name, a loop that
  assigns to the name of the loop itself, and an extension that is not at the top.  What has
  no such fault may still give a parameter or an argument twice, which no one expects.
-/
import SqlPipeline.Template.Mention
import SqlPipeline.Template.Fault

namespace SqlPipeline.Template

/-- The filters and tests that exist. -/
structure Vocabulary where
  hasFilter : String → Bool
  hasTest : String → Bool

/-! ### Names that are given twice -/

def firstRepeated? : List String → Option String
  | [] => none
  | name :: rest => if rest.contains name then some name else firstRepeated? rest

def firstTaken? (seen : List String) : List String → Option String
  | [] => none
  | name :: rest => if seen.contains name then some name else firstTaken? (name :: seen) rest

/-- Names that cannot be written in front of an argument.  Where one is used, all named arguments
    are handed over in a map, and of two the later holds. -/
def reservedNames : List String :=
  ["False", "None", "True", "and", "as", "assert", "async", "await", "break", "class", "continue", "def",
    "del", "elif", "else", "except", "finally", "for", "from", "global", "if", "import", "in", "is",
    "lambda", "nonlocal", "not", "or", "pass", "raise", "return", "try", "while", "with", "yield"]

def argumentFaults (names : List String) : List Fault :=
  if names.any (reservedNames.contains ·) then []
  else (firstRepeated? names).toList.map fun name => ⟨.oversight (.repeatedArgument name), 1⟩

def parameterFaults (names : List String) : List Fault :=
  (firstTaken? [] names).toList.map fun name => ⟨.oversight (.repeatedParameter name), 1⟩

/-- Whether an expression has its value before the template is rendered. -/
def Expr.isSettled (e : Expr) : Bool :=
  (e.parts false).all fun
    | (_, .name _ _) | (_, .call _ _) => false
    | _ => true

def Arguments.names : Arguments → List String
  | .mk _ named _ _ => named.map (·.1)

def Expr.repeats (e : Expr) : List Fault :=
  (e.parts false).flatMap fun
    | (_, .call _ args) => argumentFaults args.names
    | (_, .filter input f line args) =>
        if (Expr.filter input f line args).isSettled && input.isSome then [] else argumentFaults args.names
    | (_, .test input t line args) =>
        if (Expr.test input t line args).isSettled then [] else argumentFaults args.names
    | _ => []

/-! ### Faults -/

namespace Vocabulary

/-- The faults of an expression; `soft` marks a condition's branch. -/
def exprFaults (v : Vocabulary) (soft : Bool) (e : Expr) : List Fault :=
  (e.parts soft).filterMap (fun
    | (false, .filter _ name line _) => if v.hasFilter name then none else some ⟨.unknownFilter name, line⟩
    | (false, .test _ name line _) => if v.hasTest name then none else some ⟨.unknownTest name, line⟩
    | _ => none) ++ e.repeats

def optionFaults (v : Vocabulary) (soft : Bool) : Option Expr → List Fault
  | none => []
  | some e => v.exprFaults soft e

/-- A body that uses `caller` as a parameter of its own has to give it a default. -/
def callerFaults (line : Nat) (params : List String) (defaults : List Expr) (body : List Stmt) :
    List Fault :=
  match params.reverse.idxOf? "caller" with
  | some fromEnd =>
      if usesFree "caller" (mentionsOfAll body) && fromEnd ≥ defaults.length then
        [⟨.callerWithoutDefault, line⟩]
      else []
  | none => []

/-- The places where a name is assigned that stands for the loop. -/
def loopFaults (names : List (String × Nat)) : List Fault :=
  names.filterMap fun (name, line) => if name == "loop" then some ⟨.assignedLoop, line⟩ else none

def callerArgument : Expr → List Fault
  | .call _ args => argumentFaults (args.names ++ ["caller"])
  | _ => []

mutual

/-- The faults of a statement; `top` tells whether it is at the top of the template. -/
def faults (v : Vocabulary) (soft top : Bool) : Stmt → List Fault
  | .output pieces => pieces.flatMap fun
      | .data _ => []
      | .expr e => v.exprFaults soft e
  | .assign _ e => v.exprFaults soft e
  | .capture _ filter body => faultsOfAll v false false body ++ v.optionFaults false filter
  | .loop t source test _ body otherwise =>
      v.optionFaults false test
        ++ loopFaults (t.names ++ assignedInAll body ++ assignedInAll otherwise)
        ++ v.exprFaults soft source ++ faultsOfAll v false false body
        ++ faultsOfAll v false false otherwise
  | .branch test body others otherwise =>
      v.exprFaults true test ++ faultsOfAll v true top body ++ faultsOfBranches v top others
        ++ faultsOfAll v true top otherwise
  | .routine _ line params defaults body =>
      callerFaults line params defaults body ++ parameterFaults params
        ++ defaults.flatMap (v.exprFaults false) ++ faultsOfAll v false false body
  | .callWith line params defaults call body =>
      callerFaults line params defaults body ++ parameterFaults params
        ++ defaults.flatMap (v.exprFaults false) ++ faultsOfAll v false false body
        ++ v.exprFaults soft call ++ callerArgument call
  | .filtered filter body => faultsOfAll v false false body ++ v.exprFaults false filter
  | .bind bindings body =>
      bindings.flatMap (fun (_, e) => v.exprFaults soft e) ++ faultsOfAll v false false body
  | .escaping mode body => v.exprFaults false mode ++ faultsOfAll v false false body
  | .block _ _ _ _ _ => []
  | .extend e line => (if top then [] else [⟨.nestedExtends, line⟩]) ++ v.exprFaults soft e
  | .insertFile e _ => v.exprFaults soft e
  | .importAll e _ => v.exprFaults soft e
  | .importFrom e _ => v.exprFaults soft e

def faultsOfAll (v : Vocabulary) (soft top : Bool) : List Stmt → List Fault
  | [] => []
  | s :: ss => faults v soft top s ++ faultsOfAll v soft top ss

def faultsOfBranches (v : Vocabulary) (top : Bool) : List (Expr × List Stmt) → List Fault
  | [] => []
  | (test, body) :: rest =>
      v.exprFaults true test ++ faultsOfAll v true top body ++ faultsOfBranches v top rest

end

def repeatedBlock? (seen : List String) : List Block → Option Fault
  | [] => none
  | b :: rest =>
      if seen.contains b.name then some ⟨.repeatedBlock b.name, b.line⟩
      else repeatedBlock? (b.name :: seen) rest

/-- The fault that is met first: an oversight comes after all others, and one of a parameter
    before one of an argument. -/
def earliest? (faults : List Fault) : Option Fault :=
  faults.find? (fun f => !(f.cause matches .oversight _))
    <|> faults.find? (·.cause matches .oversight (.repeatedParameter _))
    <|> faults.head?

def firstFault? (v : Vocabulary) (template : List Stmt) : Option Fault :=
  let blocks := blocksOfAll template
  match repeatedBlock? [] blocks with
  | some fault => some fault
  | none =>
      earliest? (faultsOfAll v false true template
        ++ blocks.flatMap fun b => faultsOfAll v false false b.body)

end Vocabulary

end SqlPipeline.Template
