/-
  SqlPipeline/Template/Written.lean
  =================================
  **Written forms of values.**

  A value on its own is written plainly; inside another value a text stands between
  quotes, as it does in plain data.  A thing that has no written form of its own is shown
  by its kind and by where it stands in the computer's memory.
-/
import SqlPipeline.Template.Kind

namespace SqlPipeline.Template

open Eval

/-- The largest number of digits with which a whole number is written. -/
def digitLimit : Nat := 4300

/-- The digits of a whole number, if they are not too many. -/
def intWritten (n : Int) : Eval String :=
  if n.natAbs < Nat.pow 2 14280 then return Decimal.intText n
  else
    let s := Decimal.intText n
    let digits := if n < 0 then s.length - 1 else s.length
    if digits ≤ digitLimit then return s
    else valueError
      s!"Exceeds the limit ({digitLimit} digits) for integer string conversion; use sys.set_int_max_str_digits() to increase the limit"

def shownItems (m : Machine) (items : List Value) : Eval String := do
  return ", ".intercalate (← items.mapM m.shown)

def shownEntries (m : Machine) (entries : List (Value × Value)) : Eval String := do
  let parts ← entries.mapM fun (k, v) => do return (← m.shown k) ++ ": " ++ (← m.shown v)
  return ", ".intercalate parts

def braces (s : String) : String :=
  "\x7b" ++ s ++ "\x7d"

/-- The form of a collection, or three dots in brackets if it is met again within itself. -/
def shownOnce (a : Address) (brackets : String → String) (inside : Eval String) : Eval String := do
  if (← get).showing.contains a then return brackets "..."
  else
    modify fun s => { s with showing := a :: s.showing }
    let text ← inside
    modify fun s => { s with showing := s.showing.drop 1 }
    return brackets text

/-! ### Things without a written form of their own -/

def placeText (thing : String) : Eval String := do
  return " at 0x" ++ String.ofList (Nat.toDigits 16 (← placeIn thing))

def placeOf (v : Value) : Eval String := do
  match v with
  | .object a => placeText s!"object {a}"
  | v => placeText (← kindName v)

def Source.formName (source : Source) : String :=
  match source with
  | .mapped _ _ _ | .pending (.map _ _ _) _ => "generator object sync_do_map"
  | .picked _ _ _ | .pending (.pick _ _ _ _ _) _ => "generator object select_or_reject"
  | .pending (.batch _ _ _) _ => "generator object do_batch"
  | .pending (.slices _ _ _) _ => "generator object sync_do_slice"
  | .pending (.unique _ _ _) _ => "generator object sync_do_unique"
  | .pending (.entries _) _ => "generator object do_items"
  | source => source.kindName ++ " object"

def shownMethod (m : Machine) (v : Value) (name : String) : Eval String := do
  let kind ← kindName v
  match ← kindName (.method v name) with
  | "method" => return "<bound method " ++ kind ++ "." ++ name ++ " of " ++ (← m.shown v) ++ ">"
  | _ => return "<built-in method " ++ name ++ " of " ++ kind ++ " object" ++ (← placeOf v) ++ ">"

def shownTexts (entries : Entries String) : String :=
  braces (", ".intercalate (entries.map fun (n, s) => Text.quoted n ++ ": " ++ Text.quoted s))

/-- The form of what stands behind the functions of the context. -/
def shownInner (m : Machine) (i : Inner) : Eval String := do
  match i with
  | .code f => return "<function " ++ f.name ++ (← placeText f.name) ++ ">"
  | .collector =>
      return "<" ++ kindPackage i.kindName ++ i.kindName ++ " object" ++ (← placeText i.kindName) ++ ">"
  | .scope =>
      let listener := if ← isListened then .inner .collector else .null
      return "_FunctionScope(context=" ++ (← m.shown (.inner .context)) ++ ", tracker="
        ++ (← m.shown listener) ++ ")"
  | .context =>
      let s := m.scene
      let sources := s.sources.map fun (n, tables) => Text.quoted n ++ ": " ++ shownTexts tables
      return "RenderContext(current_model=" ++ Text.quoted s.currentModel ++ ", schema="
        ++ Text.quoted s.schema ++ ", is_incremental=" ++ (if s.isIncremental then "True" else "False")
        ++ ", current_model_table=" ++ Text.quoted s.table ++ ", vars=" ++ (← m.shown (.object s.vars))
        ++ ", config=" ++ (← m.shown (.object s.config)) ++ ", sources="
        ++ braces (", ".intercalate sources) ++ ", seeds=" ++ shownTexts s.seeds ++ ")"

def shownObject (m : Machine) (a : Address) (o : Object) : Eval String := do
  match o with
  | .list items => shownOnce a (fun s => "[" ++ s ++ "]") (shownItems m items.toList)
  | .map entries => shownOnce a braces (shownEntries m entries)
  | .set [] => return "set()"
  | .set items => return braces (← shownItems m items)
  | .space fields =>
      return "<Namespace " ++ braces (← shownEntries m (fields.map fun (n, v) => (.text n, v))) ++ ">"
  | .loop l => return s!"<LoopContext {l.index}/" ++ (match l.length with | some n => toString n | none => "?") ++ ">"
  | .routine r =>
      return "<Macro " ++ (match r.name with | some n => Text.quoted n | none => "anonymous") ++ ">"
  | .iterator source => return "<" ++ source.formName ++ (← placeOf (.object a)) ++ ">"
  | o => return "<" ++ kindPackage o.kindName ++ o.kindName ++ " object" ++ (← placeOf (.object a)) ++ ">"

def shownValue (m : Machine) (v : Value) : Eval String := do
  match v with
  | .undefined _ | .absent _ => return "Undefined"
  | .null => return "None"
  | .bool b => return if b then "True" else "False"
  | .int n => intWritten n
  | .float x => return Decimal.floatText x
  | .text s => return Text.quoted s
  | .markup s => return "Markup(" ++ Text.quoted s ++ ")"
  | .date d => return d.shown
  | .moment t => return t.shown
  | .bytes b => return Text.quotedBytes b
  | .tuple [item] => return "(" ++ (← m.shown item) ++ ",)"
  | .tuple items => return "(" ++ (← shownItems m items) ++ ")"
  | .group key items => return "(" ++ (← shownItems m [key, items]) ++ ")"
  | .range start stop step =>
      if step == 1 then return s!"range({start}, {stop})" else return s!"range({start}, {stop}, {step})"
  | .slice start stop step => return "slice(" ++ (← shownItems m [start, stop, step]) ++ ")"
  | .view kind a =>
      let entries ← entriesAt a
      let body ← match kind with
        | .keys => shownItems m (entries.map (·.1))
        | .values => shownItems m (entries.map (·.2))
        | .items => shownItems m (entries.map fun (k, v) => .tuple [k, v])
      return kind.kindName ++ "([" ++ body ++ "])"
  | .object a => do
      match ← object? a with
      | some o => shownObject m a o
      | none => return ""
  | .context f =>
      return "functools.partial(" ++ (← m.shown (.inner (.code f))) ++ ", "
        ++ (← m.shown (.inner .scope)) ++ ")"
  | .inner i => shownInner m i
  | .function .range => return "<class 'range'>"
  | .function .dict => return "<class 'dict'>"
  | .function .lipsum =>
      return "<function generate_lorem_ipsum" ++ (← placeText "generate_lorem_ipsum") ++ ">"
  | .function .cycler => return "<class 'jinja2.utils.Cycler'>"
  | .function .joiner => return "<class 'jinja2.utils.Joiner'>"
  | .function .space => return "<class 'jinja2.utils.Namespace'>"
  | .method v name => shownMethod m v name
  | .self => return "<TemplateReference None>"
  | .blockOf name => return "<BlockReference " ++ Text.quoted name ++ ">"

def writtenValue (m : Machine) (v : Value) : Eval String := do
  match v with
  | .undefined message => fail .undefined message
  | .absent _ => return ""
  | .text s | .markup s => return s
  | .date d => return d.text
  | .moment t => return t.text
  | v => shownValue m v

/-! ### Escaping -/

def escapeText (s : String) : String :=
  .ofList (s.toList.flatMap fun c =>
    if c = '&' then "&amp;".toList
    else if c = '<' then "&lt;".toList
    else if c = '>' then "&gt;".toList
    else if c = '\'' then "&#39;".toList
    else if c = '"' then "&#34;".toList
    else [c])

/-- A value as escaped text; escaped text stays as it is. -/
def escaped (m : Machine) (v : Value) : Eval String := do
  match v with
  | .markup s => return s
  | v => return escapeText (← m.written v)

def outputOf (m : Machine) (escape : Bool) (v : Value) : Eval String :=
  if escape then escaped m v else m.written v

/-- A text for a filter: escaped text stays escaped, all else is written. -/
def asText (m : Machine) (v : Value) : Eval Value := do
  match v with
  | .text s => return .text s
  | .markup s => return .markup s
  | v => return .text (← m.written v)

end SqlPipeline.Template
