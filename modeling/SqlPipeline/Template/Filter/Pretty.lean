/-
  SqlPipeline/Template/Filter/Pretty.lean
  =======================================
  **Values written over several lines, where they do not fit on one.**

  A value that fits is written on one line, with maps in the order of their keys.  Of
  another one each item gets a line of its own, and a long text is cut between words.
-/
import SqlPipeline.Template.Filter.Basic
import SqlPipeline.Text.Piece

namespace SqlPipeline.Template

open Eval

namespace PrettyFilter

def columns : Nat := 80

/-! ### Order and single lines -/

/-- Whether a key stands before another one; keys that do not compare go by their kinds. -/
def keyLess (m : Machine) (k l : Value) : Eval Bool := do
  try m.less k l
  catch failure =>
    if failure.kind == .type then return decide ((← kindName k) < (← kindName l)) else throw failure

def sortedEntries (m : Machine) (entries : List (Value × Value)) : Eval (List (Value × Value)) := do
  let keyed := entries.map fun (k, v) => (k, Value.tuple [k, v])
  return (← sortItems (keyLess m) false keyed).filterMap fun
    | .tuple [k, v] => some (k, v)
    | _ => none

/-- A value on one line; `depth` bounds how far collections are nested. -/
def oneLine (m : Machine) : (depth : Nat) → Value → Eval String
  | 0, v => m.shown v
  | depth + 1, v => do
      match v with
      | .tuple [item] => return "(" ++ (← oneLine m depth item) ++ ",)"
      | .tuple items => return "(" ++ ", ".intercalate (← items.mapM (oneLine m depth)) ++ ")"
      | .object a =>
          match ← object? a with
          | some (.list items) =>
              return "[" ++ ", ".intercalate (← items.toList.mapM (oneLine m depth)) ++ "]"
          | some (.map entries) =>
              let parts ← (← sortedEntries m entries).mapM fun (k, w) => do
                return (← oneLine m depth k) ++ ": " ++ (← oneLine m depth w)
              return braces (", ".intercalate parts)
          | _ => m.shown v
      | v => m.shown v

/-! ### Texts -/

def wordParts (s : List Char) : List (List Char) :=
  go [] false s
where
  /-- `acc` is the part that has been begun, last character first; `blank` tells whether its
      blanks have been reached. -/
  go (acc : List Char) (blank : Bool) : List Char → List (List Char)
    | [] => if acc.isEmpty then [] else [acc.reverse]
    | c :: rest =>
        if blank && !Text.isBlank c then acc.reverse :: go [c] false rest
        else go (c :: acc) (Text.isBlank c) rest

def quoted (s : List Char) : String :=
  Text.quoted (.ofList s)

/-- Joins parts as long as they fit between quotes; `spare` columns are kept free at the end. -/
def joinParts (width spare : Nat) (current : List Char) : List (List Char) → List String
  | [] => if current.isEmpty then [] else [quoted current]
  | part :: rest =>
      let room := if rest.isEmpty then width - spare else width
      if (quoted (current ++ part)).length ≤ room then joinParts width spare (current ++ part) rest
      else if current.isEmpty then joinParts width spare part rest
      else quoted current :: joinParts width spare part rest

/-- The pieces of a long text: its lines, those that do not fit cut between words. -/
def textPieces (width spare : Nat) : (lines : List (List Char)) → List String
  | [] => []
  | line :: rest =>
      let spareHere := if rest.isEmpty then spare else 0
      (if (quoted line).length ≤ width - spareHere then [quoted line]
        else joinParts width spareHere [] (wordParts line)) ++ textPieces width spare rest

def margin (column : Nat) : String :=
  "\n" ++ Text.filled column ' '

/-- A long text; on its own it stands in parentheses. -/
def longText (top : Bool) (column spare : Nat) (s : String) : String :=
  let extra := if top then 1 else 0
  let pieces := textPieces (columns - (column + extra)) (spare + extra) (Text.splitLinesKeeping s.toList)
  let body := (margin (column + extra)).intercalate pieces
  if top && pieces.length ≠ 1 then "(" ++ body ++ ")" else body

/-! ### Collections -/

/-- Writes a value from a column on, with `spare` columns kept free at its end. -/
def lines (m : Machine) : (depth : Nat) → (top : Bool) → (column spare : Nat) → Value → Eval String
  | 0, _, _, _, v => m.shown v
  | depth + 1, top, column, spare, v => do
      let short ← oneLine m (depth + 1) v
      if short.length + column + spare ≤ columns then return short
      let items (spare : Nat) (vs : List Value) : Eval String := do
        let parts ← vs.zipIdx.mapM fun (v, i) =>
          lines m depth false (column + 1) (if i + 1 == vs.length then spare else 1) v
        return ("," ++ margin (column + 1)).intercalate parts
      match v with
      | .text "" => return short
      | .text s => return longText top column spare s
      | .tuple [item] => return "(" ++ (← items (spare + 2) [item]) ++ ",)"
      | .tuple vs => return "(" ++ (← items (spare + 1) vs) ++ ")"
      | .object a =>
          match ← object? a with
          | some (.list vs) => return "[" ++ (← items (spare + 1) vs.toList) ++ "]"
          | some (.map entries) =>
              let entries ← sortedEntries m entries
              let parts ← entries.zipIdx.mapM fun ((k, w), i) => do
                let key ← oneLine m depth k
                let spare := if i + 1 == entries.length then spare + 1 else 1
                return key ++ ": " ++ (← lines m depth false (column + 1 + key.length + 2) spare w)
              return braces (("," ++ margin (column + 1)).intercalate parts)
          | _ => return short
      | _ => return short

def run : FilterRun :=
  .ofParams "do_pprint" ["value"] 1 fun m _ b => do
    return .text (← lines m 100 true 0 0 (b.arg 0))

end PrettyFilter

end SqlPipeline.Template
