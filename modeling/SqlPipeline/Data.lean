/-
  SqlPipeline/Data.lean
  =====================
  **Plain data: what configuration files, variables and query results are made of.**

  A value is a scalar, or a list, tuple, set or map of values.  Maps keep the order in
  which their keys were written, and their keys may be any scalar.  What templates handle
  besides is told by its kind and the form in which it is shown.
-/
import SqlPipeline.Calendar
import SqlPipeline.Text.Quoted

namespace SqlPipeline

/-- A list of named things in the order in which the names were first written. -/
abbrev Entries (α : Type) := List (String × α)

inductive Data where
  | null
  | bool (b : Bool)
  | int (n : Int)
  | float (x : Float)
  | text (s : String)
  | date (d : Date)
  | moment (m : Moment)
  | bytes (bytes : List UInt8)
  | list (items : List Data)
  | tuple (items : List Data)              -- a list of fixed length
  | set (items : List Data)                -- each item once
  | map (entries : List (Data × Data))     -- each key once
  | undefined (message : String)           -- what has no value; using it fails with this message
  | thing (kind form : String)
deriving Inhabited

namespace Entries

variable {α : Type}

def find? (entries : Entries α) (name : String) : Option α :=
  entries.lookup name

/-- Gives a name a new thing: in place when the name is taken, else at the end. -/
def insert (name : String) (x : α) : Entries α → Entries α
  | [] => [(name, x)]
  | (n, y) :: rest => if n = name then (n, x) :: rest else (n, y) :: insert name x rest

/-- The entries of both; where both have a name, the thing of the second. -/
def overlay (base top : Entries α) : Entries α :=
  top.foldl (fun acc (n, x) => insert n x acc) base

def names (entries : Entries α) : List String :=
  entries.map (·.1)

theorem find?_nil (name : String) : find? ([] : Entries α) name = none := rfl

theorem find?_cons (n : String) (x : α) (rest : Entries α) (name : String) :
    find? ((n, x) :: rest) name = if name = n then some x else find? rest name := by
  by_cases h : name = n
  · simp [find?, h]
  · simp [find?, List.lookup_cons, beq_false_of_ne h, h]

theorem find?_append (xs ys : Entries α) (name : String) :
    find? (xs ++ ys) name = (find? xs name).or (find? ys name) := by
  simp only [find?, List.lookup_append]

/-- Just the names of the entries lead to something. -/
theorem find?_isSome_iff {entries : Entries α} {name : String} :
    (find? entries name).isSome = true ↔ name ∈ entries.names := by
  induction entries with
  | nil => simp [find?, names]
  | cons e rest ih =>
    obtain ⟨n, x⟩ := e
    rw [find?_cons]
    by_cases h : name = n
    · simp [names, h]
    · rw [if_neg h, ih]
      simp [names, h]

/-- After an insertion the new thing is found under its name, and every other name keeps
    what it had. -/
theorem find?_insert (entries : Entries α) (name other : String) (x : α) :
    find? (insert name x entries) other = if other = name then some x else find? entries other := by
  induction entries with
  | nil => rw [insert, find?_cons]
  | cons e rest ih =>
    obtain ⟨n, y⟩ := e
    by_cases hn : n = name
    · subst hn
      rw [insert, if_pos rfl, find?_cons, find?_cons]
      split <;> rfl
    · rw [insert, if_neg hn, find?_cons, find?_cons, ih]
      by_cases h : other = n
      · subst h
        rw [if_pos rfl, if_pos rfl, if_neg hn]
      · rw [if_neg h, if_neg h]

end Entries

namespace Data

def ofEntries (entries : Entries Data) : Data :=
  .map (entries.map fun (n, v) => (.text n, v))

/-! ### Equality of numbers -/

def sameNumber (n : Int) (x : Float) : Bool :=
  let b := Decimal.Binary.ofFloat x
  b.isWhole && b.truncate? == some n

def boolNumber (b : Bool) : Int :=
  if b then 1 else 0

mutual

/-- Equality of data: numbers and truth values are compared by their number, and a list
    equals only a list. -/
def same : Data → Data → Bool
  | .null, .null => true
  | .bool a, .bool b => a == b
  | .bool a, .int b => boolNumber a == b
  | .int a, .bool b => a == boolNumber b
  | .bool a, .float b => sameNumber (boolNumber a) b
  | .float a, .bool b => sameNumber (boolNumber b) a
  | .int a, .int b => a == b
  | .int a, .float b => sameNumber a b
  | .float a, .int b => sameNumber b a
  | .float a, .float b => a == b
  | .text a, .text b => a == b
  | .date a, .date b => a == b
  | .moment a, .moment b => a == b
  | .bytes a, .bytes b => a == b
  | .list a, .list b => sameAll a b
  | .tuple a, .tuple b => sameAll a b
  | .set a, .set b => a.length == b.length && sameMembers a b
  | .map a, .map b => a.length == b.length && sameEntries a b
  | _, _ => false

def sameAll : List Data → List Data → Bool
  | [], [] => true
  | a :: as, b :: bs => same a b && sameAll as bs
  | _, _ => false

def sameMembers : List Data → List Data → Bool
  | [], _ => true
  | a :: as, bs => bs.any (same a) && sameMembers as bs

def sameEntries : List (Data × Data) → List (Data × Data) → Bool
  | [], _ => true
  | (k, v) :: rest, bs => bs.any (fun (k', v') => same k k' && same v v') && sameEntries rest bs

end

def find? (entries : List (Data × Data)) (key : Data) : Option Data :=
  (entries.find? fun (k, _) => same k key).map (·.2)

/-- Gives a key a new value: in place when the key is taken, else at the end. -/
def insert (key value : Data) : List (Data × Data) → List (Data × Data)
  | [] => [(key, value)]
  | (k, v) :: rest =>
      if same k key then (k, value) :: rest else (k, v) :: insert key value rest

def field? (name : String) : Data → Option Data
  | .map entries => find? entries (.text name)
  | _ => none

/-! ### Written forms -/

mutual

/-- The form in which data appears inside other data: texts stand between quotes. -/
def shown : Data → String
  | .null => "None"
  | .bool b => if b then "True" else "False"
  | .int n => Decimal.intText n
  | .float x => Decimal.floatText x
  | .text s => Text.quoted s
  | .date d => d.shown
  | .moment m => m.shown
  | .bytes b => Text.quotedBytes b
  | .list items => "[" ++ ", ".intercalate (shownAll items) ++ "]"
  | .tuple [item] => "(" ++ shown item ++ ",)"
  | .tuple items => "(" ++ ", ".intercalate (shownAll items) ++ ")"
  | .set [] => "set()"
  | .set items => "\x7b" ++ ", ".intercalate (shownAll items) ++ "\x7d"
  | .map entries => "\x7b" ++ ", ".intercalate (shownEntries entries) ++ "\x7d"
  | .undefined _ => "Undefined"
  | .thing _ form => form

def shownAll : List Data → List String
  | [] => []
  | v :: vs => shown v :: shownAll vs

def shownEntries : List (Data × Data) → List String
  | [] => []
  | (k, v) :: rest => (shown k ++ ": " ++ shown v) :: shownEntries rest

end

/-- The form in which data appears on its own: a text is itself. -/
def plain : Data → String
  | .text s => s
  | .date d => d.text
  | .moment m => m.text
  | v => shown v

/-- Whether data counts as present: nothing, zero, the empty text and empty collections
    do not. -/
def isTruthy : Data → Bool
  | .null => false
  | .bool b => b
  | .int n => n != 0
  | .float x => x != 0.0
  | .text s => !s.isEmpty
  | .date _ => true
  | .moment _ => true
  | .bytes b => !b.isEmpty
  | .list items | .tuple items | .set items => !items.isEmpty
  | .map entries => !entries.isEmpty
  | .undefined _ => false
  | .thing _ _ => true

def kindName : Data → String
  | .null => "NoneType"
  | .bool _ => "bool"
  | .int _ => "int"
  | .float _ => "float"
  | .text _ => "str"
  | .date _ => "datetime.date"
  | .moment _ => "datetime.datetime"
  | .bytes _ => "bytes"
  | .list _ => "list"
  | .tuple _ => "tuple"
  | .set _ => "set"
  | .map _ => "dict"
  | .undefined _ => "StrictUndefined"
  | .thing kind _ => kind

end Data

end SqlPipeline
