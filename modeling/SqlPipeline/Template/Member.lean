/-
  SqlPipeline/Template/Member.lean
  ================================
  **Members of values: by name, by index, by key and by slice.**

  A name behind a point means a member of the value's kind first and an entry of a map
  second; an index between brackets means them the other way round.  What is not there
  is undefined.

  Behind the functions of the context a template finds what they read from, and the collector
  that listens, if there is one.  Through what the language itself shows of a value it could
  find anything; of that nothing is shown here, but the attempt is a look behind the value too.
-/
import SqlPipeline.Template.Loop

namespace SqlPipeline.Template

open Eval

/-! ### Members of a kind -/

def textMethods : List String :=
  ["capitalize", "casefold", "center", "count", "encode", "endswith", "expandtabs", "find", "format",
    "format_map", "index", "isalnum", "isalpha", "isascii", "isdecimal", "isdigit", "isidentifier",
    "islower", "isnumeric", "isprintable", "isspace", "istitle", "isupper", "join", "ljust", "lower",
    "lstrip", "maketrans", "partition", "removeprefix", "removesuffix", "replace", "rfind", "rindex", "rjust",
    "rpartition", "rsplit", "rstrip", "split", "splitlines", "startswith", "strip", "swapcase", "title",
    "translate", "upper", "zfill"]

def markupMethods : List String :=
  ["unescape", "striptags", "escape"]

def listMethods : List String :=
  ["append", "clear", "copy", "count", "extend", "index", "insert", "pop", "remove", "reverse", "sort"]

def mapMethods : List String :=
  ["clear", "copy", "fromkeys", "get", "items", "keys", "pop", "popitem", "setdefault", "update", "values"]

def setMethods : List String :=
  ["add", "clear", "copy", "difference", "discard", "intersection", "isdisjoint", "issubset", "issuperset",
    "pop", "remove", "union", "update"]

def dateMethods : List String :=
  ["isoformat", "strftime", "weekday", "isoweekday", "toordinal"]

def collectorMethods : List String :=
  ["add_dependency", "get_dependencies"]

/-- A method of a value, if its kind has one of that name. -/
def methodAmong (v : Value) (names : List String) (name : String) : Option Value :=
  if names.contains name then some (.method v name) else none

def newTexts (entries : Entries String) : Eval Value :=
  newMap (entries.map fun (n, s) => (.text n, .text s))

/-- A member of what stands behind the functions of the context.  Maps of texts are shown as
    copies. -/
def innerMember? (m : Machine) (i : Inner) (name : String) : Eval (Option Value) := do
  match i, name with
  | .scope, "context" => return some (.inner .context)
  | .scope, "tracker" => return some (if ← isListened then .inner .collector else .null)
  | .context, "current_model" => return some (.text m.scene.currentModel)
  | .context, "schema" => return some (.text m.scene.schema)
  | .context, "is_incremental" => return some (.bool m.scene.isIncremental)
  | .context, "current_model_table" => return some (.text m.scene.table)
  | .context, "vars" => return some (.object m.scene.vars)
  | .context, "config" => return some (.object m.scene.config)
  | .context, "sources" =>
      let tables ← m.scene.sources.mapM fun (n, tables) => do return (Value.text n, ← newTexts tables)
      return some (← newMap tables)
  | .context, "seeds" => return some (← newTexts m.scene.seeds)
  | .collector, name => return methodAmong (.inner .collector) collectorMethods name
  | _, _ => return none

def kindMember? (m : Machine) (v : Value) (name : String) : Eval (Option Value) := do
  match v with
  | .undefined message | .absent message =>
      if name.startsWith "__" then
        glimpse
        return none
      else fail .undefined message
  | .text _ => return methodAmong v textMethods name
  | .markup _ => return methodAmong v (textMethods ++ markupMethods) name
  | .bool _ | .int _ =>
      match name with
      | "real" | "numerator" => return v.int?.map .int
      | "imag" => return some (.int 0)
      | "denominator" => return some (.int 1)
      | _ => return methodAmong v ["bit_length", "bit_count", "conjugate", "as_integer_ratio"] name
  | .float x =>
      match name with
      | "real" => return some (.float x)
      | "imag" => return some (.float 0.0)
      | _ => return methodAmong v ["is_integer", "conjugate", "hex", "as_integer_ratio"] name
  | .date d =>
      match name with
      | "year" => return some (.int d.year)
      | "month" => return some (.int d.month)
      | "day" => return some (.int d.day)
      | _ => return methodAmong v dateMethods name
  | .moment t =>
      match name with
      | "year" => return some (.int t.date.year)
      | "month" => return some (.int t.date.month)
      | "day" => return some (.int t.date.day)
      | "hour" => return some (.int t.hour)
      | "minute" => return some (.int t.minute)
      | "second" => return some (.int t.second)
      | "microsecond" => return some (.int t.microsecond)
      | _ => return methodAmong v ("date" :: dateMethods) name
  | .bytes _ => return methodAmong v ["decode", "hex"] name
  | .tuple _ => return methodAmong v ["count", "index"] name
  | .group k items =>
      match name with
      | "grouper" => return some k
      | "list" => return some items
      | _ => return methodAmong v ["count", "index"] name
  | .range start stop step =>
      match name with
      | "start" => return some (.int start)
      | "stop" => return some (.int stop)
      | "step" => return some (.int step)
      | _ => return methodAmong v ["count", "index"] name
  | .slice start stop step =>
      match name with
      | "start" => return some start
      | "stop" => return some stop
      | "step" => return some step
      | _ => return none
  | .object a =>
      match ← object? a with
      | some (.list _) => return methodAmong v listMethods name
      | some (.map _) => return methodAmong v mapMethods name
      | some (.set _) => return methodAmong v setMethods name
      | some (.space fields) => return Entries.find? fields name
      | some (.cycler items position) =>
          if name == "current" then return items[position]?
          else return methodAmong v ["next", "reset"] name
      | some (.loop l) =>
          if name == "cycle" || name == "changed" then return some (.method v name)
          else loopMember? m a l name
      | some (.routine r) =>
          match name with
          | "name" => return some (match r.name with | some n => .text n | none => .null)
          | "arguments" => return some (.tuple (r.params.map .text))
          | "catch_kwargs" => return some (.bool r.takesNamed)
          | "catch_varargs" => return some (.bool r.takesRest)
          | "caller" => return some (.bool r.takesCaller)
          | _ => return none
      | _ => return none
  | .context f =>
      match name with
      | "func" =>
          glimpse
          return some (.inner (.code f))
      | "args" =>
          glimpse
          return some (.tuple [.inner .scope])
      | "keywords" =>
          glimpse
          return some (← newMap [])
      | _ => return none
  | .inner i => innerMember? m i name
  | _ => return none

/-- Whether the members of a value are just those of its kind: of all other values the language
    shows more. -/
def isPlain (v : Value) : Eval Bool := do
  match v with
  | .undefined _ | .absent _ | .null | .bool _ | .int _ | .float _ | .text _ | .markup _ | .tuple _
    | .range _ _ _ | .slice _ _ _ => return true
  | .object a =>
      match ← object? a with
      | some (.list _) | some (.map _) | some (.set _) | some (.space _) => return true
      | _ => return false
  | _ => return false

/-- Takes note of a look behind a value: a member that its kind does not have, but the language
    may show. -/
def lookBehind (v : Value) (name : String) : Eval Unit := do
  if name.startsWith "__" || !(← isPlain v) then glimpse

/-! ### Items -/

/-- The place that an index means in a sequence; a negative one counts from the end. -/
def place? (length : Nat) (i : Int) : Option Nat :=
  let i := if i < 0 then i + length else i
  if 0 ≤ i && i < length then some i.toNat else none

def itemAt? (items : List Value) (i : Int) : Option Value :=
  (place? items.length i).bind (items[·]?)

/-- The item of a value under an index or key; none where there is no such item or where
    the value has no items at all. -/
def item? (v index : Value) : Eval (Option Value) := do
  match v with
  | .undefined message | .absent message => fail .undefined message
  | .text s | .markup s =>
      return index.int?.bind fun i =>
        (place? s.length i).bind fun n => (s.toList[n]?).map fun c => v.textLike (.ofList [c])
  | .bytes b => return index.int?.bind fun i => (place? b.length i).bind fun n => b[n]?.map fun x => .int x.toNat
  | .tuple items => return index.int?.bind (itemAt? items)
  | .group k items => return index.int?.bind (itemAt? [k, items])
  | .range start stop step =>
      return index.int?.bind fun i =>
        (place? (rangeLength start stop step) i).map fun n => .int (start + n * step)
  | .self =>
      match index with
      | .text name => return some (.blockOf name)
      | _ => return none
  | .object a =>
      match ← object? a with
      | some (.list items) => return index.int?.bind fun i => (place? items.size i).bind (items[·]?)
      | some (.map entries) =>
          match index with
          | .undefined message => fail .undefined message
          | .object b =>
              match ← object? b with
              | some (.list _) | some (.map _) | some (.set _) => return none
              | _ => return findKey? index entries
          | index => return findKey? index entries
      | _ => return none
  | _ => return none

def missingMember (m : Machine) (owner name : Value) : Eval Value := do
  let ownerText ← ownerText owner
  match name with
  | .text n | .markup n =>
      lookBehind owner n
      return .undefined (Text.quoted ownerText ++ " has no attribute " ++ Text.quoted n)
  | name => return .undefined (ownerText ++ " has no element " ++ (← m.shown name))

def hasBlock (m : Machine) (name : String) : Bool :=
  m.scene.blocks.any (·.name == name)

/-- An item that exists; the blocks of a template are its items. -/
def existingItem? (m : Machine) (v index : Value) : Eval (Option Value) := do
  match ← item? v index with
  | some (.blockOf name) => return if hasBlock m name then some (.blockOf name) else none
  | found => return found

def memberByName (m : Machine) (v : Value) (name : String) : Eval Value := do
  match ← kindMember? m v name with
  | some found => return found
  | none =>
      match ← existingItem? m v (.text name) with
      | some found => return found
      | none => missingMember m v (.text name)

def memberByIndex (m : Machine) (v index : Value) : Eval Value := do
  match ← existingItem? m v index with
  | some found => return found
  | none =>
      match index.text? with
      | some name =>
          match ← kindMember? m v name with
          | some found => return found
          | none => missingMember m v index
      | none => missingMember m v index

/-! ### Slices -/

def sliceBound (v : Value) : Eval (Option Int) := do
  match v with
  | .null => return none
  | v =>
      match v.int? with
      | some n => return some n
      | none => typeError "slice indices must be integers or None or have an __index__ method"

/-- First index, end and step of a slice of `length` items. -/
def sliceRange (length : Nat) (start stop : Option Int) (step : Int) : Int × Int :=
  let n : Int := length
  let clampAt (lo hi i : Int) := max lo (min hi i)
  let fromEnd (i : Int) := if i < 0 then i + n else i
  if step > 0 then
    ((start.map fun i => clampAt 0 n (fromEnd i)).getD 0, (stop.map fun i => clampAt 0 n (fromEnd i)).getD n)
  else
    ((start.map fun i => clampAt (-1) (n - 1) (fromEnd i)).getD (n - 1),
      (stop.map fun i => clampAt (-1) (n - 1) (fromEnd i)).getD (-1))

def takeSlice {α : Type} (items : List α) (start stop : Option Int) (step : Int) : List α :=
  let (first, last) := sliceRange items.length start stop step
  let count := rangeLength first last step
  if step == 1 then (items.drop first.toNat).take count
  else
    let table := items.toArray
    (List.range count).filterMap fun (k : Nat) => table[(first + (k : Int) * step).toNat]?

def sliceOf (v start stop step : Value) : Eval Value := do
  let bounds : Eval (Option Int × Option Int × Int) := do
    let step := (← sliceBound step).getD 1
    if step == 0 then valueError "slice step cannot be zero"
    else return (← sliceBound start, ← sliceBound stop, step)
  match v with
  | .undefined message | .absent message => fail .undefined message
  | .text s | .markup s =>
      let (a, b, c) ← bounds
      return v.textLike (.ofList (takeSlice s.toList a b c))
  | .bytes bs =>
      let (a, b, c) ← bounds
      return .bytes (takeSlice bs a b c)
  | .tuple items =>
      let (a, b, c) ← bounds
      return .tuple (takeSlice items a b c)
  | .group k items =>
      let (a, b, c) ← bounds
      return .tuple (takeSlice [k, items] a b c)
  | .range first last stride =>
      let (a, b, c) ← bounds
      let n := rangeLength first last stride
      let (i, j) := sliceRange n a b c
      return .range (first + i * stride) (first + j * stride) (stride * c)
  | .object a =>
      match ← object? a with
      | some (.list items) =>
          let (a, b, c) ← bounds
          newList (takeSlice items.toList a b c)
      | some (.map _) => typeError "unhashable type: 'slice'"
      | _ => typeError s!"'{← kindName v}' object is not subscriptable"
  | v => typeError s!"'{← kindName v}' object is not subscriptable"

def subscriptOf (m : Machine) (v index : Value) : Eval Value := do
  match index with
  | .slice start stop step => sliceOf v start stop step
  | index => memberByIndex m v index

end SqlPipeline.Template
