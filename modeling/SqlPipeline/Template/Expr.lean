/-
  SqlPipeline/Template/Expr.lean
  ==============================
  **Expressions and statements of a template.**

  A template is a list of statements.  Data and expressions between tags are output;
  everything else stands in a tag, and most tags hold statements of their own.
-/
namespace SqlPipeline.Template

inductive Constant where
  | null
  | bool (b : Bool)
  | int (n : Int)
  | float (x : Float)
  | text (s : String)

inductive BinaryOp where
  | add
  | sub
  | mul
  | div
  | floorDiv
  | mod
  | pow
deriving Repr, DecidableEq

def BinaryOp.sign : BinaryOp → String
  | add => "+"
  | sub => "-"
  | mul => "*"
  | div => "/"
  | floorDiv => "//"
  | mod => "%"
  | pow => "**"

inductive CompareOp where
  | eq
  | ne
  | lt
  | le
  | gt
  | ge
  | isIn
  | notIn
deriving Repr, DecidableEq

mutual

inductive Expr where
  | constant (c : Constant)
  | name (name : String) (line : Nat)
  | tuple (items : List Expr)
  | list (items : List Expr)
  | map (entries : List (Expr × Expr))
  | neg (e : Expr)
  | pos (e : Expr)
  | not (e : Expr)
  | and (left right : Expr)
  | or (left right : Expr)
  | binary (op : BinaryOp) (left right : Expr)
  | concat (parts : List Expr)
  | compare (first : Expr) (rest : List (CompareOp × Expr))
  | cond (test yes : Expr) (no : Option Expr) (line : Nat)
  | attr (e : Expr) (name : String)
  | item (e index : Expr)
  | slice (start stop step : Option Expr)
  | call (f : Expr) (args : Arguments)
  | filter (input : Option Expr) (name : String) (line : Nat) (args : Arguments)
  | test (input : Expr) (name : String) (line : Nat) (args : Arguments)

/-- The arguments of a call: in order, by name, and spread from a sequence or a map. -/
inductive Arguments where
  | mk (positional : List Expr) (named : List (String × Expr)) (spread spreadNamed : Option Expr)

end

instance : Inhabited Expr := ⟨.constant .null⟩

def Arguments.none : Arguments :=
  .mk [] [] Option.none Option.none

def Expr.kindName : Expr → String
  | constant _ => "const"
  | name _ _ => "name"
  | tuple _ => "tuple"
  | list _ => "list"
  | map _ => "dict"
  | neg _ => "neg"
  | pos _ => "pos"
  | not _ => "not"
  | and _ _ => "and"
  | or _ _ => "or"
  | binary op _ _ =>
      match op with
      | .add => "add"
      | .sub => "sub"
      | .mul => "mul"
      | .div => "div"
      | .floorDiv => "floordiv"
      | .mod => "mod"
      | .pow => "pow"
  | concat _ => "concat"
  | compare _ _ => "compare"
  | cond _ _ _ _ => "condexpr"
  | attr _ _ => "getattr"
  | item _ _ => "getitem"
  | slice _ _ _ => "slice"
  | call _ _ => "call"
  | filter _ _ _ _ => "filter"
  | test _ _ _ _ => "test"

/-- What an assignment gives a value to. -/
inductive Target where
  | name (name : String) (line : Nat)
  | tuple (items : List Target)
  | field (space key : String)      -- an attribute of a namespace
deriving Inhabited

inductive Piece where
  | data (text : String)
  | expr (e : Expr)
deriving Inhabited

inductive Stmt where
  | output (pieces : List Piece)
  | assign (target : Target) (value : Expr)
  | capture (target : Target) (filter : Option Expr) (body : List Stmt)
  | loop (target : Target) (source : Expr) (test : Option Expr) (recursive : Bool)
      (body otherwise : List Stmt)
  | branch (test : Expr) (body : List Stmt) (others : List (Expr × List Stmt)) (otherwise : List Stmt)
  | routine (name : String) (line : Nat) (params : List String) (defaults : List Expr)
      (body : List Stmt)
  | callWith (line : Nat) (params : List String) (defaults : List Expr) (call : Expr)
      (body : List Stmt)
  | filtered (filter : Expr) (body : List Stmt)
  | bind (bindings : List (Target × Expr)) (body : List Stmt)
  | escaping (mode : Expr) (body : List Stmt)
  | block (name : String) (line : Nat) (inherits required : Bool) (body : List Stmt)
  | extend (template : Expr) (line : Nat)
  | insertFile (template : Expr) (ignoreMissing : Bool)
  | importAll (template : Expr) (target : String)
  | importFrom (template : Expr) (names : List (String × Option String))
deriving Inhabited

end SqlPipeline.Template
