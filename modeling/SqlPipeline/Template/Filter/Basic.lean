/-
  SqlPipeline/Template/Filter/Basic.lean
  ======================================
  **What a filter is, and the attributes by which filters sort, group and pick.**

  A filter makes a new value from a value and some arguments.  The value that is filtered
  is the first argument, and wrong arguments are refused in the words of a call.

  An attribute is a path of members with points in between; a part made of digits is an
  index.  Without case sensitivity texts count in lower case.
-/
import SqlPipeline.Template.CollectionMethod
import SqlPipeline.Decimal.Read
import SqlPipeline.Template.Operate
import SqlPipeline.Template.Function

namespace SqlPipeline.Template

open Eval

/-! ### Attributes -/

def attributePart (part : List Char) : Eval Value := do
  if !part.isEmpty && part.all Text.isDigitLike then
    match Decimal.readInt? 10 part with
    | some n => return .int n
    | none =>
        valueError ("invalid literal for int() with base 10: " ++ Text.quoted (.ofList part))
  else return .text (.ofList part)

/-- The members that an attribute names, one after the other. -/
def attributePath (member : Value) : Eval (List Value) := do
  match member with
  | .null => return []
  | v =>
      match v.text? with
      | some s => (Text.splitAt '.' s.toList).mapM attributePart
      | none => return [v]

/-- Follows a path; `default` stands for members that are not there. -/
def followPath (m : Machine) (default : Option Value) (v : Value) : List Value → Eval Value
  | [] => return v
  | part :: rest => do
      match ← memberByIndex m v part, default with
      | .undefined _, some d | .absent _, some d => followPath m default d rest
      | w, _ => followPath m default w rest

def withoutCase (v : Value) : Value :=
  match v.text? with
  | some s => v.textLike (.ofList (Text.lower s.toList))
  | none => v

/-- The key that an item has under an attribute. -/
structure KeyRule where
  path : List Value
  default : Option Value := none
  caseSensitive : Bool := true

namespace KeyRule

def keyOf (m : Machine) (r : KeyRule) (item : Value) : Eval Value := do
  let v ← followPath m r.default item r.path
  return if r.caseSensitive then v else withoutCase v

def ofArguments (member : Value) (default : Option Value) (caseSensitive : Value) : Eval KeyRule := do
  let sensitive ← truth caseSensitive
  return ⟨← attributePath member, default, sensitive⟩

end KeyRule

def attributePaths (member : Value) : Eval (List (List Value)) := do
  match member.text? with
  | some s => (Text.splitAt ',' s.toList).mapM fun part => attributePath (.text (.ofList part))
  | none => return [← attributePath member]

def keysOf (m : Machine) (paths : List (List Value)) (caseSensitive : Bool) (item : Value) : Eval Value := do
  newList (← paths.mapM fun path => (⟨path, none, caseSensitive⟩ : KeyRule).keyOf m item)

/-! ### Filters -/

/-- What a filter does: the machine, whether output is escaped, and the arguments. -/
abbrev FilterRun := Machine → Bool → List Value → Entries Value → Eval Value

namespace FilterRun

def ofSignature (s : Signature) (f : Machine → Bool → Bound → Eval Value) : FilterRun :=
  fun m escape args named => do f m escape (← s.bind args named)

/-- A filter with parameters of which the first `required` have no default. -/
def ofParams (name : String) (params : List String) (required : Nat)
    (f : Machine → Bool → Bound → Eval Value) : FilterRun :=
  ofSignature { name := name, params := params, required := required } f

def ofEnvironment (name : String) (params : List String) (required : Nat)
    (f : Machine → Bool → Bound → Eval Value) : FilterRun :=
  ofSignature { name := name, hidden := ["environment"], params := params, required := required } f

/-- A filter that takes nothing but a value. -/
def ofOne (name : String) (f : Machine → Bool → Value → Eval Value) : FilterRun :=
  fun m escape args named => do
    let v ← if !named.isEmpty then typeError (name ++ "() takes no keyword arguments")
      else match args with
        | [v] => pure v
        | args => typeError s!"{name}() takes exactly one argument ({args.length} given)"
    f m escape v

end FilterRun

/-- The characters of a value taken as a text, and how to make such a text again. -/
def asCharacters (m : Machine) (v : Value) : Eval (List Char × (List Char → Value)) := do
  let t ← asText m v
  return ((t.text?.getD "").toList, fun cs => t.textLike (.ofList cs))

/-- A filter on texts, whose result is escaped if the text was. -/
def FilterRun.ofText (name param : String) (f : List Char → List Char) : FilterRun :=
  .ofParams name [param] 1 fun m _ b => do
    let (s, like) ← asCharacters m (b.arg 0)
    return like (f s)

end SqlPipeline.Template
