/-
  SqlPipeline/Lookup.lean
  =======================
  **Following a dotted path through nested maps.**

  A path is cut at its dots and followed one part at a time.  It fails where a part is
  not there, and where what has been reached is no map.  What counts as a map is left
  open, so that the same rule serves plain data and the values of a rendering.
-/
import SqlPipeline.Data
import SqlPipeline.Text.Search

namespace SqlPipeline

open Text

inductive LookupError where
  | noMap (followed : String)      -- the parts that led to something that is no map
  | noKey (path : String)
deriving Repr, DecidableEq

def LookupError.message : LookupError → String
  | noMap followed => "config path invalid at " ++ followed
  | noKey path => "config key not found: " ++ path

def pathParts (path : String) : List String :=
  (splitAt '.' path.toList).map String.ofList

/-- Follows the parts of a path from a value; `fields?` gives the entries of a map, and
    `followed` are the parts that led to the value. -/
def descend {α : Type} (fields? : α → Option (String → Option α)) (path : String)
    (followed : List String) (v : α) : List String → Except LookupError α
  | [] => .ok v
  | part :: rest =>
      match fields? v with
      | none => .error (.noMap (".".intercalate followed))
      | some entry =>
          match entry part with
          | none => .error (.noKey path)
          | some w => descend fields? path (followed ++ [part]) w rest

def lookupPath {α : Type} (fields? : α → Option (String → Option α)) (v : α) (path : String) :
    Except LookupError α :=
  descend fields? path [] v (pathParts path)

namespace Data

def fields? : Data → Option (String → Option Data)
  | .map entries => some fun name => find? entries (.text name)
  | _ => none

def lookupPath (data : Data) (path : String) : Except LookupError Data :=
  SqlPipeline.lookupPath fields? data path

end Data

end SqlPipeline
