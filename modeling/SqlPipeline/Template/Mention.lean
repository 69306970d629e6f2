/-
  SqlPipeline/Template/Mention.lean
  =================================
  **Which names a template mentions, and in which order.**

  A name is used where its value is wanted and assigned where it gets one.  Walking
  over an expression also tells which parts stand in a conditional one: a filter that
  does not exist is met there only when the part is evaluated.
-/
import SqlPipeline.Template.Expr

namespace SqlPipeline.Template

/-! ### Parts of expressions -/

mutual

/-- An expression and all parts of it, outer ones first, each with the mark whether it
    stands in a conditional expression. -/
def Expr.parts (soft : Bool) : Expr → List (Bool × Expr)
  | .constant c => [(soft, .constant c)]
  | .name n line => [(soft, .name n line)]
  | .tuple items => (soft, .tuple items) :: partsOfAll soft items
  | .list items => (soft, .list items) :: partsOfAll soft items
  | .map entries => (soft, .map entries) :: partsOfEntries soft entries
  | .neg e => (soft, .neg e) :: e.parts soft
  | .pos e => (soft, .pos e) :: e.parts soft
  | .not e => (soft, .not e) :: e.parts soft
  | .and a b => (soft, .and a b) :: (a.parts soft ++ b.parts soft)
  | .or a b => (soft, .or a b) :: (a.parts soft ++ b.parts soft)
  | .binary op a b => (soft, .binary op a b) :: (a.parts soft ++ b.parts soft)
  | .concat items => (soft, .concat items) :: partsOfAll soft items
  | .compare first rest => (soft, .compare first rest) :: (first.parts soft ++ partsOfComparisons soft rest)
  | .cond test yes no line =>
      (soft, .cond test yes no line) :: (yes.parts true ++ test.parts true ++ partsOfOption true no)
  | .attr e n => (soft, .attr e n) :: e.parts soft
  | .item e i => (soft, .item e i) :: (e.parts soft ++ i.parts soft)
  | .slice a b c =>
      (soft, .slice a b c) :: (partsOfOption soft a ++ partsOfOption soft b ++ partsOfOption soft c)
  | .call f args => (soft, .call f args) :: (f.parts soft ++ args.parts soft)
  | .filter input n line args =>
      (soft, .filter input n line args) :: (partsOfOption soft input ++ args.parts soft)
  | .test input n line args => (soft, .test input n line args) :: (input.parts soft ++ args.parts soft)

def Arguments.parts (soft : Bool) : Arguments → List (Bool × Expr)
  | .mk positional named spread spreadNamed =>
      partsOfAll soft positional ++ partsOfNamed soft named ++ partsOfOption soft spread
        ++ partsOfOption soft spreadNamed

def partsOfAll (soft : Bool) : List Expr → List (Bool × Expr)
  | [] => []
  | e :: es => e.parts soft ++ partsOfAll soft es

def partsOfEntries (soft : Bool) : List (Expr × Expr) → List (Bool × Expr)
  | [] => []
  | (k, v) :: rest => k.parts soft ++ v.parts soft ++ partsOfEntries soft rest

def partsOfComparisons (soft : Bool) : List (CompareOp × Expr) → List (Bool × Expr)
  | [] => []
  | (_, e) :: rest => e.parts soft ++ partsOfComparisons soft rest

def partsOfNamed (soft : Bool) : List (String × Expr) → List (Bool × Expr)
  | [] => []
  | (_, e) :: rest => e.parts soft ++ partsOfNamed soft rest

def partsOfOption (soft : Bool) : Option Expr → List (Bool × Expr)
  | none => []
  | some e => e.parts soft

end

def Expr.uses (e : Expr) : List String :=
  (e.parts false).filterMap fun
    | (_, .name n _) => some n
    | _ => none

/-! ### Mentions in statements -/

inductive Mention where
  | used (name : String)
  | assigned (name : String)
deriving Repr, DecidableEq

def Expr.mentions (e : Expr) : List Mention :=
  e.uses.map .used

mutual

def Target.names : Target → List (String × Nat)
  | .name n line => [(n, line)]
  | .tuple items => namesOfTargets items
  | .field _ _ => []

def namesOfTargets : List Target → List (String × Nat)
  | [] => []
  | t :: ts => t.names ++ namesOfTargets ts

end

mutual

def Target.spaces : Target → List String
  | .name _ _ => []
  | .tuple items => spacesOfTargets items
  | .field space _ => [space]

def spacesOfTargets : List Target → List String
  | [] => []
  | t :: ts => t.spaces ++ spacesOfTargets ts

end

def Target.mentions (t : Target) : List Mention :=
  t.names.map fun (n, _) => .assigned n

def mentionsOfOption : Option Expr → List Mention
  | none => []
  | some e => e.mentions

def Piece.mentions : Piece → List Mention
  | .data _ => []
  | .expr e => e.mentions

mutual

/-- The names that a statement mentions, blocks apart, which are rendered on their own. -/
def Stmt.mentions : Stmt → List Mention
  | .output pieces => pieces.flatMap Piece.mentions
  | .assign t e => t.mentions ++ e.mentions
  | .capture t filter body => t.mentions ++ mentionsOfOption filter ++ mentionsOfAll body
  | .loop t source test _ body otherwise =>
      t.mentions ++ source.mentions ++ mentionsOfAll body ++ mentionsOfAll otherwise ++ mentionsOfOption test
  | .branch test body others otherwise =>
      test.mentions ++ mentionsOfAll body ++ mentionsOfBranches others ++ mentionsOfAll otherwise
  | .routine _ _ params defaults body =>
      params.map .assigned ++ defaults.flatMap Expr.mentions ++ mentionsOfAll body
  | .callWith _ params defaults call body =>
      call.mentions ++ params.map .assigned ++ defaults.flatMap Expr.mentions ++ mentionsOfAll body
  | .filtered filter body => mentionsOfAll body ++ filter.mentions
  | .bind bindings body =>
      bindings.flatMap (fun (t, _) => t.mentions) ++ bindings.flatMap (fun (_, e) => e.mentions)
        ++ mentionsOfAll body
  | .escaping mode body => mode.mentions ++ mentionsOfAll body
  | .block _ _ _ _ _ => []
  | .extend e _ => e.mentions
  | .insertFile e _ => e.mentions
  | .importAll e _ => e.mentions
  | .importFrom e _ => e.mentions

def mentionsOfAll : List Stmt → List Mention
  | [] => []
  | s :: ss => s.mentions ++ mentionsOfAll ss

def mentionsOfBranches : List (Expr × List Stmt) → List Mention
  | [] => []
  | (test, body) :: rest => test.mentions ++ mentionsOfAll body ++ mentionsOfBranches rest

end

def usesFree (name : String) : List Mention → Bool
  | [] => false
  | .used n :: rest => n == name || usesFree name rest
  | .assigned n :: rest => n != name && usesFree name rest

/-! ### Blocks -/

structure Block where
  name : String
  line : Nat
  inherits : Bool
  body : List Stmt

mutual

def Stmt.blocks : Stmt → List Block
  | .capture _ _ body => blocksOfAll body
  | .loop _ _ _ _ body otherwise => blocksOfAll body ++ blocksOfAll otherwise
  | .branch _ body others otherwise => blocksOfAll body ++ blocksOfBranches others ++ blocksOfAll otherwise
  | .routine _ _ _ _ body => blocksOfAll body
  | .callWith _ _ _ _ body => blocksOfAll body
  | .filtered _ body => blocksOfAll body
  | .bind _ body => blocksOfAll body
  | .escaping _ body => blocksOfAll body
  | .block name line inherits _ body => ⟨name, line, inherits, body⟩ :: blocksOfAll body
  | _ => []

def blocksOfAll : List Stmt → List Block
  | [] => []
  | s :: ss => s.blocks ++ blocksOfAll ss

def blocksOfBranches : List (Expr × List Stmt) → List Block
  | [] => []
  | (_, body) :: rest => blocksOfAll body ++ blocksOfBranches rest

end

mutual

def Stmt.assigned : Stmt → List (String × Nat)
  | .assign t _ => t.names
  | .capture t _ body => t.names ++ assignedInAll body
  | .loop t _ _ _ body otherwise => t.names ++ assignedInAll body ++ assignedInAll otherwise
  | .branch _ body others otherwise =>
      assignedInAll body ++ assignedInBranches others ++ assignedInAll otherwise
  | .routine _ _ _ _ body => assignedInAll body
  | .callWith _ _ _ _ body => assignedInAll body
  | .filtered _ body => assignedInAll body
  | .bind _ body => assignedInAll body
  | .escaping _ body => assignedInAll body
  | .block _ _ _ _ body => assignedInAll body
  | _ => []

def assignedInAll : List Stmt → List (String × Nat)
  | [] => []
  | s :: ss => s.assigned ++ assignedInAll ss

def assignedInBranches : List (Expr × List Stmt) → List (String × Nat)
  | [] => []
  | (_, body) :: rest => assignedInAll body ++ assignedInBranches rest

end

end SqlPipeline.Template
