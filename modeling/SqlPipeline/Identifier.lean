/-
  SqlPipeline/Identifier.lean
  ===========================
  **Names that may be written into SQL, and names with a schema in front.**

  A name ends up inside generated statements, so it is checked where it enters: a
  letter or underscore, then letters, digits and underscores, all of ASCII.  One
  newline after the last of them is overlooked.
-/
import SqlPipeline.Text.Word
import SqlPipeline.Text.Quoted
import SqlPipeline.Text.Search

namespace SqlPipeline

open Text

namespace Identifier

def isStart (c : Char) : Bool :=
  isAsciiLetter c || c == '_'

def isPart (c : Char) : Bool :=
  isAsciiLetter c || isAsciiDigit c || c == '_'

def isName : List Char → Bool
  | [] => false
  | c :: cs => isStart c && cs.all isPart

def withoutFinalNewline (s : List Char) : List Char :=
  match s.reverse with
  | '\n' :: rest => rest.reverse
  | _ => s

/-- Whether a text is accepted as a name: it is one, at most a final newline apart. -/
def isValid (s : String) : Bool :=
  isName (withoutFinalNewline s.toList)

/-- A text that is not a name; `label` says what it was to name. -/
structure Invalid where
  label : String
  value : String
deriving Repr, DecidableEq

def Invalid.message (e : Invalid) : String :=
  "Invalid " ++ e.label ++ ": " ++ quoted e.value ++ " (must match [A-Za-z_][A-Za-z0-9_]*)"

def validate (value label : String) : Except Invalid String :=
  if isValid value then .ok value else .error ⟨label, value⟩

theorem validate_eq_ok_iff {value label name : String} :
    validate value label = .ok name ↔ isValid value = true ∧ name = value := by
  by_cases h : isValid value = true
  · simp only [validate, h, if_true, Except.ok.injEq, true_and]
    exact ⟨Eq.symm, Eq.symm⟩
  · simp [validate, h]

end Identifier

/-! ### Names with a schema -/

/-- Puts a schema and a dot in front of a name; an empty schema leaves it alone. -/
def qualify (schema name : String) : String :=
  if schema.isEmpty then name else schema ++ "." ++ name

/-- Schema and name, cut at the last dot; without a dot the schema is empty. -/
def splitQualified (name : String) : String × String :=
  match cutAtLast? '.' name.toList with
  | some (schema, table) => (.ofList schema, .ofList table)
  | none => ("", name)

end SqlPipeline
