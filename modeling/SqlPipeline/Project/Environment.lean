/-
  SqlPipeline/Project/Environment.lean
  ====================================
  **The variables of the environment: placeholders for them, and files that set them.**

  A placeholder is a name between a dollar sign with a brace and a closing brace; behind
  a colon it may carry a default.  A text is cut at its leftmost placeholders once, and
  what is put in their place is not looked at again.  A file of settings has a name, an
  equals sign and a value on each line.
-/
import SqlPipeline.Data
import SqlPipeline.Text.CharSet
import SqlPipeline.Text.Lines
import SqlPipeline.Text.Word
import SqlPipeline.Text.Search

namespace SqlPipeline

open Text

abbrev Environment := Entries String

/-- Why a variable cannot be set. -/
inductive EnvironmentError where
  | noName
  | nullCharacter                  -- in the name or the value
deriving Repr, DecidableEq

def EnvironmentError.message : EnvironmentError → String
  | noName => "[Errno 22] Invalid argument"
  | nullCharacter => "embedded null byte"

namespace Environment

/-! ### Placeholders -/

/-- A name in a text that stands for the value of a variable. -/
structure Placeholder where
  name : List Char
  fallback : Option (List Char) := none
deriving Repr, DecidableEq

def placeholder? (s : List Char) : Option (Placeholder × Nat) := do
  let inner ← dropPattern? ['$', '\x7b'] s
  let name := inner.takeWhile isWord
  if name.isEmpty then none
  match inner.dropWhile isWord with
  | '\x7d' :: _ => return (⟨name, none⟩, name.length + 3)
  | ':' :: rest =>
      let fallback := rest.takeWhile (· != '\x7d')
      if rest.length == fallback.length then none
      else return (⟨name, some fallback⟩, name.length + fallback.length + 4)
  | _ => none

/-- What is put in place of a placeholder: the variable's value if it is set, else the
    default, else the placeholder as it is written. -/
def valueOf (env : Environment) (p : Placeholder) (written : List Char) : List Char :=
  match Entries.find? env (.ofList p.name) with
  | some value => value.toList
  | none => p.fallback.getD written

/-- Puts values in place of placeholders; the first `skip` characters belong to a placeholder
    that has been replaced. -/
def expandChars (env : Environment) (skip : Nat) : List Char → List Char
  | [] => []
  | c :: cs =>
      if skip > 0 then expandChars env (skip - 1) cs
      else
        match placeholder? (c :: cs) with
        | some (p, n) => env.valueOf p ((c :: cs).take n) ++ expandChars env (n - 1) cs
        | none => c :: expandChars env 0 cs

def expandText (env : Environment) (s : String) : String :=
  .ofList (env.expandChars 0 s.toList)

mutual

/-- Puts values in place of the placeholders in the texts of a value; keys are left alone. -/
def expand (env : Environment) : Data → Data
  | .text s => .text (env.expandText s)
  | .list items => .list (expandAll env items)
  | .map entries => .map (expandValues env entries)
  | d => d

def expandAll (env : Environment) : List Data → List Data
  | [] => []
  | d :: rest => expand env d :: expandAll env rest

def expandValues (env : Environment) : List (Data × Data) → List (Data × Data)
  | [] => []
  | (k, v) :: rest => (k, expand env v) :: expandValues env rest

end

/-! ### Files of settings -/

def unquoted (value : List Char) : List Char :=
  match value with
  | q :: rest =>
      if (q == '"' || q == '\'') && rest.getLast? == some q then rest.dropLast else value
  | [] => []

/-- The setting on a line; blank lines, comments and lines without an equals sign have none. -/
def setting? (line : List Char) : Option (String × String) :=
  let line := trim line
  if line.head? == some '#' then none
  else
    match cutAt? ['='] line with
    | none => none
    | some (name, value) => some (.ofList (trim name), .ofList (unquoted (trim value)))

def settings (text : String) : List (String × String) :=
  (splitLines text.toList).filterMap setting?

def set (env : Environment) (name value : String) : Except EnvironmentError Environment :=
  if name.contains '\x00' || value.contains '\x00' then .error .nullCharacter
  else if name.isEmpty then .error .noName
  else .ok (Entries.insert name value env)

/-- Gives variables their values one by one, up to the first that cannot be set; those before
    it stay set. -/
def setAll (env : Environment) : List (String × String) → Environment × Except EnvironmentError Unit
  | [] => (env, .ok ())
  | (name, value) :: rest =>
      match env.set name value with
      | .ok env => setAll env rest
      | .error e => (env, .error e)

end Environment

end SqlPipeline
