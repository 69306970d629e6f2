/-
  SqlPipeline/Project/Checked.lean
  ================================
  **Checking that data has a shape, and telling all places where it has not.**

  A check gives a value, or every mismatch that it has met, each with the way to it from
  the outermost map.
-/
import SqlPipeline.Data
import SqlPipeline.Text.Utf8

namespace SqlPipeline

/-- One step on the way into data. -/
inductive DataStep where
  | name (s : String)
  | number (n : Int)               -- of an item, or a key that is a number
deriving Repr, DecidableEq

/-- What a piece of data should have been. -/
inductive Expected where
  | text
  | readableText                   -- text, where bytes stand that are none
  | list
  | map
  | record (name : String)
deriving Repr, DecidableEq

def Expected.message : Expected → String
  | text => "Input should be a valid string"
  | readableText => "Input should be a valid string, unable to parse raw data as a unicode string"
  | list => "Input should be a valid list"
  | map => "Input should be a valid dictionary"
  | record name => "Input should be a valid dictionary or instance of " ++ name

/-- A place where data is not what it should be. -/
structure Mismatch where
  way : List DataStep
  expected : Expected
deriving Repr, DecidableEq

/-- The outcome of a check: a value, or mismatches. -/
abbrev Checked (α : Type) := Except (List Mismatch) α

namespace Checked

variable {α β γ : Type}

/-- Both outcomes; the mismatches of both are told. -/
def both : Checked α → Checked β → Checked (α × β)
  | .ok a, .ok b => .ok (a, b)
  | .ok _, .error e => .error e
  | .error e, .ok _ => .error e
  | .error e, .error f => .error (e ++ f)

/-- All outcomes; the mismatches of all are told. -/
def all : List (Checked α) → Checked (List α)
  | [] => .ok []
  | c :: rest => (both c (all rest)).map fun (a, as) => a :: as

def under (step : DataStep) (c : Checked α) : Checked α :=
  c.mapError (·.map fun m => { m with way := step :: m.way })

def mismatch (expected : Expected) : Checked α :=
  .error [⟨[], expected⟩]

/-! ### Shapes -/

def text : Data → Checked String
  | .text s => .ok s
  | .bytes bytes =>
      match Text.decodeUtf8 0 bytes with
      | .ok cs => .ok (.ofList cs)
      | .error _ => mismatch .readableText
  | _ => mismatch .text

def text? : Data → Checked (Option String)
  | .null => .ok none
  | d => (text d).map some

def listOf (item : Data → Checked α) (d : Data) : Checked (List α) :=
  match d with
  | .list items | .tuple items | .set items =>
      all (items.mapIdx fun i d => under (.number i) (item d))
  | _ => mismatch .list

def keyStep : Data → DataStep
  | .text s => .name s
  | .int n => if -(Nat.pow 2 63 : Int) ≤ n ∧ n < (Nat.pow 2 63 : Int) then .number n else .name (Data.shown (.int n))
  | .bool b => .number (Data.boolNumber b)
  | d => .name d.shown

def entry (value : Data → Checked α) (k v : Data) : Checked (String × α) :=
  both (under (keyStep k) (under (.name "[key]") (text k))) (under (keyStep k) (value v))

def mapOf (value : Data → Checked α) (d : Data) : Checked (Entries α) :=
  match d with
  | .map entries =>
      (all (entries.map fun (k, v) => entry value k v)).map fun pairs =>
        pairs.foldl (fun acc (n, a) => Entries.insert n a acc) []
  | _ => mismatch .map

def any (d : Data) : Checked Data :=
  .ok d

/-- The field of a record, which may go by several names; the first that is there counts.
    Without any of them it has its default. -/
def field (names : List String) (check : Data → Checked α) (default : α) (record : Data) : Checked α :=
  match names.findSome? fun name => (record.field? name).map fun d => (name, d) with
  | some (name, d) => under (.name name) (check d)
  | none => .ok default

end Checked

end SqlPipeline
