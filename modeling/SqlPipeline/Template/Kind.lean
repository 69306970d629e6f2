/-
  SqlPipeline/Template/Kind.lean
  ==============================
  **Kinds of values, as messages name them, and what counts as true.**
-/
import SqlPipeline.Template.Value

namespace SqlPipeline.Template

open Eval

def Source.kindName : Source → String
  | .items _ => "iterator"
  | .listFrom _ _ => "list_iterator"
  | .listBack _ _ => "list_reverseiterator"
  | .mapFrom .keys _ _ _ => "dict_keyiterator"
  | .mapFrom .values _ _ _ => "dict_valueiterator"
  | .mapFrom .items _ _ _ => "dict_itemiterator"
  | .rangeFrom _ _ _ => "range_iterator"
  | _ => "generator"

def Object.kindName : Object → String
  | .list _ => "list"
  | .map _ => "dict"
  | .set _ => "set"
  | .space _ => "Namespace"
  | .iterator source => source.kindName
  | .cycler _ _ => "Cycler"
  | .joiner _ _ => "Joiner"
  | .loop _ => "LoopContext"
  | .routine _ => "Macro"

def ViewKind.kindName : ViewKind → String
  | .keys => "dict_keys"
  | .values => "dict_values"
  | .items => "dict_items"

def Inner.kindName : Inner → String
  | .code _ => "function"
  | .scope => "_FunctionScope"
  | .context => "RenderContext"
  | .collector => "DependencyCollector"

def kindName : Value → Eval String
  | .undefined _ => return "StrictUndefined"
  | .absent _ => return "Undefined"
  | .null => return "NoneType"
  | .bool _ => return "bool"
  | .int _ => return "int"
  | .float _ => return "float"
  | .text _ => return "str"
  | .markup _ => return "Markup"
  | .date _ => return "datetime.date"
  | .moment _ => return "datetime.datetime"
  | .bytes _ => return "bytes"
  | .tuple _ => return "tuple"
  | .group _ _ => return "_GroupTuple"
  | .range _ _ _ => return "range"
  | .slice _ _ _ => return "slice"
  | .view kind _ => return kind.kindName
  | .object a => do
      match ← object? a with
      | some o => return o.kindName
      | none => return "object"
  | .context _ => return "functools.partial"
  | .inner i => return i.kindName
  | .function .lipsum => return "function"
  | .function _ => return "type"
  | .method (.object a) _ => do
      match ← object? a with
      | some (.list _) | some (.map _) | some (.set _) => return "builtin_function_or_method"
      | _ => return "method"
  | .method (.markup _) _ | .method (.inner _) _ => return "method"
  | .method _ _ => return "builtin_function_or_method"
  | .self => return "TemplateReference"
  | .blockOf _ => return "BlockReference"

def kindPackage (kind : String) : String :=
  match kind with
  | "Markup" => "markupsafe."
  | "StrictUndefined" | "Undefined" | "LoopContext" | "Macro" | "TemplateReference" | "BlockReference" => "jinja2.runtime."
  | "Namespace" | "Cycler" | "Joiner" => "jinja2.utils."
  | "_GroupTuple" => "jinja2.filters."
  | "_FunctionScope" | "DependencyCollector" => "dagsql.engine.template.functions."
  | "RenderContext" => "dagsql.engine.template.context."
  | _ => ""

/-- The owner of a member that does not exist, as messages describe it. -/
def ownerText (owner : Value) : Eval String := do
  match owner with
  | .null => return "None"
  | _ =>
      let kind ← kindName owner
      return kindPackage kind ++ kind ++ " object"

def Value.text? : Value → Option String
  | .text s | .markup s => some s
  | _ => none

/-- A text of the same sort as another value: escaped if that one is. -/
def Value.textLike (v : Value) (s : String) : Value :=
  match v with
  | .markup _ => .markup s
  | _ => .text s

/-- The whole number that a value counts as; truth values count as zero and one. -/
def Value.int? : Value → Option Int
  | .int n => some n
  | .bool b => some (Data.boolNumber b)
  | _ => none

def rangeLength (start stop step : Int) : Nat :=
  if step > 0 then (if start < stop then ((stop - start - 1) / step + 1).toNat else 0)
  else if step < 0 then (if stop < start then ((start - stop - 1) / (-step) + 1).toNat else 0)
  else 0

def truth : Value → Eval Bool
  | .undefined message => fail .undefined message
  | .absent _ => return false
  | .null => return false
  | .bool b => return b
  | .int n => return n != 0
  | .float x => return x != 0.0
  | .text s | .markup s => return !s.isEmpty
  | .bytes b => return !b.isEmpty
  | .tuple items => return !items.isEmpty
  | .range start stop step => return rangeLength start stop step != 0
  | .view _ a => do return !(← entriesAt a).isEmpty
  | .object a => do
      match ← object? a with
      | some (.list items) => return !items.isEmpty
      | some (.map entries) => return !entries.isEmpty
      | some (.set items) => return !items.isEmpty
      | _ => return true
  | _ => return true

end SqlPipeline.Template
