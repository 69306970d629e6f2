/-
  SqlPipeline/Template/Value.lean
  ===============================
  **Values that expressions have, and evaluating them.**

  Scalars and tuples are values by themselves.  What can change during a rendering
  (lists, maps, namespaces, iterators) lives in the memory, and its value is an address,
  so that two names can share one thing.  Evaluation threads the memory through and
  keeps what was changed also when it fails.

  What an evaluation cannot know by itself it asks of whoever runs it (`Request`): it tells of
  a reference to a model, it has something chosen by chance, it looks at what stands behind a
  function.  The one who runs it answers, or ends it there (`Course`).
-/
import SqlPipeline.Template.Scope

namespace SqlPipeline.Template

/-- The functions through which a template reads its context. -/
inductive ContextFunction where
  | ref
  | var
  | config
  | source
  | seed
  | envVar
  | isIncremental
  | this
deriving Repr, DecidableEq

def ContextFunction.name : ContextFunction → String
  | ref => "ref"
  | var => "var"
  | config => "config"
  | source => "source"
  | seed => "seed"
  | envVar => "env_var"
  | isIncremental => "is_incremental"
  | this => "this"

/-- What stands behind the functions of the context, for a template that looks. -/
inductive Inner where
  | code (f : ContextFunction)     -- a function that is still to be told what it reads from
  | scope                          -- what they all read from
  | context
  | collector                      -- the one that listens, if any does
deriving Repr, DecidableEq

/-- The general functions that every template can call. -/
inductive GlobalFunction where
  | range
  | dict
  | lipsum
  | cycler
  | joiner
  | space
deriving Repr, DecidableEq

/-- The parts of a map that a view shows. -/
inductive ViewKind where
  | keys
  | values
  | items
deriving Repr, DecidableEq

abbrev Address := Nat

inductive Value where
  | undefined (message : String)           -- any use but a few is a failure with this message
  | absent (message : String)              -- left out by a condition: empty when it is put out
  | null
  | bool (b : Bool)
  | int (n : Int)
  | float (x : Float)
  | text (s : String)
  | markup (s : String)                    -- a text that needs no escaping any more
  | date (d : Date)
  | moment (m : Moment)
  | bytes (bytes : List UInt8)
  | tuple (items : List Value)
  | group (key items : Value)              -- a pair that a grouping makes
  | range (start stop step : Int)
  | slice (start stop step : Value)
  | view (kind : ViewKind) (map : Address)
  | object (address : Address)
  | context (f : ContextFunction)
  | inner (i : Inner)
  | function (f : GlobalFunction)
  | method (self : Value) (name : String)
  | self                                   -- the template, by which its blocks are called
  | blockOf (name : String)
deriving Inhabited

/-- The names that can be seen from a place in a template. -/
structure Env where
  frames : List Nat               -- the scopes, innermost first
  vars : Nat                      -- where names are looked up that no scope holds
  escape : Bool                   -- whether output is escaped
  isTop : Bool                    -- whether assignments are seen by the blocks

/-- A macro, with the place where it was defined. -/
structure Routine where
  name : Option String
  params : List String
  defaults : List Expr            -- of the last parameters
  body : List Stmt
  env : Env
  takesCaller : Bool
  takesNamed : Bool
  takesRest : Bool
  callerPosition : Option Nat     -- a parameter that is named like the special one

structure LoopState where
  subject : Value                 -- what is looped over
  iterator : Address
  index : Nat                     -- from one
  before : Option Value
  current : Option Value
  after : Option Value            -- the next item, when it has been looked at
  length : Option Nat             -- once it is known
  depth : Nat
  lastChanged : Option (List Value)
  recur : Option (Stmt × Env)     -- the loop itself, when it may be called

/-- How a value is taken from each item of a sequence. -/
inductive Mapper where
  | member (path : List Value) (default : Option Value)
  | filter (name : String) (args : List Value) (named : Entries Value)

/-- How items of a sequence are chosen. -/
structure Picker where
  path : Option (List Value)      -- the attribute that is tested, if not the item itself
  negated : Bool
  test : Option String            -- none tests whether the value counts as true
  args : List Value
  named : Entries Value

/-- A sequence that is made when its first item is wanted. -/
inductive Pending where
  | map (subject : Value) (args : List Value) (named : Entries Value)
  | pick (subject : Value) (byAttribute negated : Bool) (args : List Value) (named : Entries Value)
  | batch (subject : Value) (count : Value) (fill : Value)
  | slices (subject : Value) (count : Value) (fill : Value)
  | unique (subject : Value) (caseSensitive : Value) (member : Value)
  | entries (subject : Value)

/-- Where the next item of an iterator comes from. -/
inductive Source where
  | items (rest : List Value)
  | listFrom (list : Address) (index : Nat)
  | listBack (list : Address) (count : Nat)
  | mapFrom (kind : ViewKind) (map : Address) (index size : Nat)
  | rangeFrom (next stop step : Int)
  | mapped (inner : Address) (mapper : Mapper) (escape : Bool)
  | picked (inner : Address) (picker : Picker) (escape : Bool)
  | filtered (inner : Address) (target : Target) (test : Expr) (env : Env)
  | pending (p : Pending) (escape : Bool)

inductive Object where
  | list (items : Array Value)
  | map (entries : List (Value × Value))
  | set (items : List Value)
  | space (fields : Entries Value)
  | iterator (source : Source)
  | cycler (items : List Value) (position : Nat)
  | joiner (separator : Value) (used : Bool)
  | loop (state : LoopState)
  | routine (r : Routine)
deriving Inhabited

/-- The names of a scope; a name without a value has not been assigned yet. -/
abbrev Frame := Entries (Option Value)

/-- Variables of a rendering: those it was given and those the template assigned at its top. -/
structure Variables where
  given : Entries Value
  assigned : Entries Value

structure Memory where
  objects : Array Object := #[]
  frames : Array Frame := #[]
  vars : Array Variables := #[]
  showing : List Address := []    -- collections whose forms are being made, innermost first

/-! ### Failures -/

/-- The kind of a failure; some kinds are caught where others are not. -/
inductive FailureKind where
  | type
  | value
  | member
  | key
  | index
  | zeroDivision
  | overflow
  | undefined
  | runtime
  | filterArgument
  | function
  | missingTemplate
  | recursion
deriving Repr, DecidableEq

structure Failure where
  kind : FailureKind
  message : String
deriving Repr, DecidableEq

/-! ### Evaluating -/

/-- What an evaluation asks of whoever runs it. -/
inductive Request where
  | reference (v : Value)               -- to take note of a reference
  | choice (count : Nat)                -- for a number below another, by chance
  | place (thing : String)              -- where a thing stands in the computer's memory
  | glimpse                             -- to be let look behind a value
  | listened                            -- whether a collector listens
  | noted (model : Value)               -- what the collector has noted about a model
  | note (model reference : Value)      -- to have the collector note something

def Request.Answer : Request → Type
  | reference _ | glimpse => Unit
  | choice _ | place _ => Nat
  | listened => Bool
  | noted _ => List Data
  | note _ _ => Except String Unit      -- an error where the two cannot be compared

/-- How an evaluation goes on: it ends, or it asks for something and waits for the answer. -/
inductive Course (α : Type) where
  | done (a : α) (m : Memory)
  | failed (failure : Failure) (m : Memory)
  | asks (q : Request) (m : Memory) (next : q.Answer → Course α)

namespace Course

variable {α β : Type}

def bind (k : α → Memory → Course β) : Course α → Course β
  | done a m => k a m
  | failed failure m => failed failure m
  | asks q m next => asks q m fun answer => (next answer).bind k

def rescue (k : Failure → Memory → Course α) : Course α → Course α
  | done a m => done a m
  | failed failure m => k failure m
  | asks q m next => asks q m fun answer => (next answer).rescue k

end Course

def Eval (α : Type) := Memory → Course α

namespace Eval

instance : Monad Eval where
  pure a := fun m => .done a m
  bind x k := fun m => (x m).bind fun a m => k a m

instance : MonadStateOf Memory Eval where
  get := fun m => .done m m
  set m := fun _ => .done ⟨⟩ m
  modifyGet f := fun m => .done (f m).1 (f m).2

instance : MonadExceptOf Failure Eval where
  throw failure := fun m => .failed failure m
  tryCatch x k := fun m => (x m).rescue fun failure m => k failure m

def ask (q : Request) : Eval q.Answer :=
  fun m => .asks q m fun answer => .done answer m

def refer (v : Value) : Eval Unit :=
  ask (.reference v)

/-- A number below `count`, by chance. -/
def choose (count : Nat) : Eval Nat :=
  ask (.choice count)

def placeIn (thing : String) : Eval Nat :=
  ask (.place thing)

def glimpse : Eval Unit :=
  ask .glimpse

def isListened : Eval Bool :=
  ask .listened

def notedOf (model : Value) : Eval (List Data) :=
  ask (.noted model)

def note (model reference : Value) : Eval (Except String Unit) :=
  ask (.note model reference)

def fail {α : Type} (kind : FailureKind) (message : String) : Eval α :=
  throw ⟨kind, message⟩

def typeError {α : Type} (message : String) : Eval α :=
  fail .type message

def valueError {α : Type} (message : String) : Eval α :=
  fail .value message

/-! ### The memory -/

def object? (a : Address) : Eval (Option Object) := do
  return (← get).objects[a]?

def alloc (o : Object) : Eval Address := do
  let s ← get
  let a := s.objects.size
  set { s with objects := s.objects.push o }
  return a

def update (a : Address) (o : Object) : Eval Unit :=
  modify fun s => { s with objects := s.objects.set! a o }

def newList (items : List Value) : Eval Value := do
  return .object (← alloc (.list items.toArray))

def newMap (entries : List (Value × Value)) : Eval Value := do
  return .object (← alloc (.map entries))

def newIterator (source : Source) : Eval Value := do
  return .object (← alloc (.iterator source))

def entriesAt (a : Address) : Eval (List (Value × Value)) := do
  match ← object? a with
  | some (.map entries) => return entries
  | _ => return []

/-! ### Names -/

def newFrame (frame : Frame) : Eval Nat := do
  let s ← get
  let i := s.frames.size
  set { s with frames := s.frames.push frame }
  return i

def inFrames (name : String) : List Nat → Eval (Option (Option Value))
  | [] => return none
  | i :: rest => do
      match Entries.find? ((← get).frames[i]?.getD []) name with
      | some found => return some found
      | none => inFrames name rest

def framesHold (frames : List Nat) : Eval (String → Bool) := do
  let s ← get
  return fun name => frames.any fun i => (Entries.find? (s.frames[i]?.getD []) name).isSome

def assignIn (i : Nat) (name : String) (v : Value) : Eval Unit :=
  modify fun s => { s with frames := s.frames.modify i (Entries.insert name (some v)) }

def lookUpVariable (i : Nat) (name : String) : Eval (Option Value) := do
  match (← get).vars[i]? with
  | some vars => return Entries.find? vars.assigned name <|> Entries.find? vars.given name
  | none => return none

/-- Makes an assignment at the top of the template visible to its blocks. -/
def publish (i : Nat) (name : String) (v : Value) : Eval Unit :=
  modify fun s =>
    { s with vars := s.vars.modify i fun vars =>
        { vars with assigned := Entries.insert name v vars.assigned } }

def undefinedName (name : String) : Value :=
  .undefined (Text.quoted name ++ " is undefined")

end Eval

/-! ### The machine -/

/-- What a rendering is given and does not change. -/
structure Scene where
  currentModel : String
  schema : String
  isIncremental : Bool
  table : String
  vars : Address
  config : Address
  sources : Entries (Entries String)
  seeds : Entries String
  environment : Entries String
  blocks : List Block

/-- The evaluator, as it can be called from within itself at one level less of depth. -/
structure Machine where
  scene : Scene
  bound : Nat                                              -- more than any loop can take
  eval : Env → Expr → Eval Value
  render : Env → List Stmt → Eval (List String)            -- pieces of output
  call : Value → List Value → Entries Value → Eval Value
  pull : Address → Eval (Option Value)                     -- the next item of an iterator
  filter : (escape : Bool) → String → Value → List Value → Entries Value → Eval Value
  written : Value → Eval String                            -- the form on its own
  shown : Value → Eval String                              -- the form inside other values
  same : Value → Value → Eval Bool
  less : Value → Value → Eval Bool

end SqlPipeline.Template
