/-
  SqlPipeline/Template/Scope.lean
  ===============================
  **Where the names of a scope come from.**

  Loop bodies, macros and some other bodies are scopes of their own.  A scope holds the
  names that it mentions itself, and each of them has an origin that is settled before
  the scope is entered: a parameter, a copy of an outer name, a variable of the
  rendering, or nothing yet.  Names that only an enclosing scope holds are looked up
  there.
-/
import SqlPipeline.Template.Mention
import SqlPipeline.Data

namespace SqlPipeline.Template

/-- Where a name's first value comes from. -/
inductive Origin where
  | parameter
  | outer          -- a copy of what an enclosing scope has
  | context        -- a variable of the rendering
  | unset
deriving Repr, DecidableEq

/-- The names of a scope and which of them it assigns. -/
structure Scope where
  origins : Entries Origin := []
  assigned : List String := []
deriving Repr, DecidableEq

namespace Scope

/-- A name's value is wanted; `outer` tells which names enclosing scopes hold. -/
def use (outer : String → Bool) (s : Scope) (name : String) : Scope :=
  if (s.origins.find? name).isSome || outer name then s
  else { s with origins := Entries.insert name .context s.origins }

def assign (outer : String → Bool) (s : Scope) (name : String) : Scope :=
  let s := { s with assigned := name :: s.assigned }
  if (s.origins.find? name).isSome then s
  else { s with origins := Entries.insert name (if outer name then .outer else .unset) s.origins }

def declare (s : Scope) (name : String) : Scope :=
  ⟨Entries.insert name .parameter s.origins, name :: s.assigned⟩

def useExpr (outer : String → Bool) (s : Scope) (e : Expr) : Scope :=
  e.uses.foldl (use outer) s

def assignTarget (outer : String → Bool) (s : Scope) (t : Target) : Scope :=
  (t.names.map (·.1)).foldl (assign outer) (t.spaces.foldl (use outer) s)

def declareTarget (s : Scope) (t : Target) : Scope :=
  (t.names.map (·.1)).foldl declare s

/-- Brings the branches of a condition together: what only they assign comes from outside,
    whether a branch is taken or not. -/
def joinBranches (outer : String → Bool) (s : Scope) (branches : List Scope) : Scope :=
  let fresh := (branches.flatMap (·.assigned)).filter (!s.assigned.contains ·)
  let merged : Scope := branches.foldl
    (fun acc b => ⟨Entries.overlay acc.origins b.origins, b.assigned ++ acc.assigned⟩) s
  { merged with
    origins := fresh.foldl
      (fun acc name => Entries.insert name (if outer name then .outer else .context) acc) merged.origins }

mutual

/-- Takes the mentions of a statement into a scope; bodies with scopes of their own are
    left out. -/
def visit (outer : String → Bool) (s : Scope) : Stmt → Scope
  | .output pieces =>
      pieces.foldl (fun s piece => match piece with
        | .data _ => s
        | .expr e => s.useExpr outer e) s
  | .assign t e => (s.useExpr outer e).assignTarget outer t
  | .capture t _ _ => s.assignTarget outer t
  | .loop _ source _ _ _ _ => s.useExpr outer source
  | .branch test body others otherwise =>
      let s := s.useExpr outer test
      joinBranches outer s
        [visitAll outer s body, visitOthers outer s others, visitAll outer s otherwise]
  | .routine name _ _ _ _ => s.assign outer name
  | .callWith _ _ _ call _ => s.useExpr outer call
  | .filtered filter _ => s.useExpr outer filter
  | .bind bindings _ => bindings.foldl (fun s (_, e) => s.useExpr outer e) s
  | .escaping _ _ => s
  | .block _ _ _ _ _ => s
  | .extend e _ => s.useExpr outer e
  | .insertFile e _ => s.useExpr outer e
  | .importAll e name => (s.useExpr outer e).assign outer name
  | .importFrom e names =>
      names.foldl (fun s (name, alias?) => s.assign outer (alias?.getD name)) (s.useExpr outer e)

def visitAll (outer : String → Bool) (s : Scope) : List Stmt → Scope
  | [] => s
  | stmt :: rest => visitAll outer (visit outer s stmt) rest

/-- The further branches of a condition, each one a condition of its own. -/
def visitOthers (outer : String → Bool) (s : Scope) : List (Expr × List Stmt) → Scope
  | [] => s
  | (test, body) :: rest =>
      let s := s.useExpr outer test
      visitOthers outer (joinBranches outer s [visitAll outer s body, s, s]) rest

end

/-! ### The scopes of a template -/

def ofBody (outer : String → Bool) (params : List String) (body : List Stmt) : Scope :=
  visitAll outer (params.foldl declare {}) body

def ofLoop (outer : String → Bool) (params : List String) (t : Target) (body : List Stmt) : Scope :=
  visitAll outer ((params.foldl declare {}).declareTarget t) body

def ofLoopTest (outer : String → Bool) (t : Target) (test : Expr) : Scope :=
  (declareTarget {} t).useExpr outer test

def ofRoutine (outer : String → Bool) (params special : List String) (defaults : List Expr)
    (body : List Stmt) : Scope :=
  let s := defaults.foldl (useExpr outer) (params.foldl declare {})
  special.foldl declare (visitAll outer s body)

def ofFiltered (outer : String → Bool) (filter : Expr) (body : List Stmt) : Scope :=
  (visitAll outer {} body).useExpr outer filter

def ofBindings (outer : String → Bool) (targets : List Target) (body : List Stmt) : Scope :=
  visitAll outer (targets.foldl declareTarget {}) body

def ofEscaping (outer : String → Bool) (mode : Expr) (body : List Stmt) : Scope :=
  visitAll outer (useExpr outer {} mode) body

end Scope

end SqlPipeline.Template
