/-
  SqlPipeline/Template/Function.lean
  ==================================
  **The functions that a template can call, and how arguments are bound to their parameters.**

  Arguments in order go to the parameters in order, named ones to the parameter of that
  name.  What is wrong is told in a fixed order: a name that is no parameter or is bound
  twice, too many arguments in order, and parameters that are left without one.

  Some functions read the context of the rendering: `ref` names another model, `this` the
  model itself, `source` and `seed` name tables from outside, `var`, `config` and `env_var`
  give settings, and `is_incremental` tells how the model is run.  The others are
  general.
-/
import SqlPipeline.Template.Kind
import SqlPipeline.Template.CollectionMethod
import SqlPipeline.Template.Exchange
import SqlPipeline.Identifier
import SqlPipeline.Lookup

namespace SqlPipeline.Template

open Eval

/-! ### Parameters -/

/-- What a function can be called with. -/
structure Signature where
  name : String
  hidden : List String := []       -- parameters that are filled in before the call
  params : List String
  required : Nat                   -- how many of the parameters have no default
  takesRest : Bool := false
  takesNamed : Bool := false

structure Bound where
  values : List (Option Value)
  rest : List Value
  named : Entries Value

namespace Signature

/-- Names in quotes, the last one behind `and`. -/
def namesText : List String → String
  | [] => ""
  | [a] => Text.quoted a
  | [a, b] => Text.quoted a ++ " and " ++ Text.quoted b
  | names => ", ".intercalate (names.dropLast.map Text.quoted) ++ ", and " ++ Text.quoted (names.getLast?.getD "")

def tooMany (s : Signature) (given : Nat) : String :=
  let most := s.hidden.length + s.params.length
  let least := s.hidden.length + s.required
  let counts := if least < most then s!"from {least} to {most}" else s!"{most}"
  let plural := if least < most || most != 1 then "s" else ""
  let verb := if given == 1 then "was" else "were"
  s!"{s.name}() takes {counts} positional argument{plural} but {given} {verb} given"

def missing (s : Signature) (names : List String) : String :=
  let plural := if names.length == 1 then "" else "s"
  s!"{s.name}() missing {names.length} required positional argument{plural}: " ++ namesText names

def bindNamed (s : Signature) (b : Bound) (entry : String × Value) : Eval Bound := do
  let (name, v) := entry
  match s.params.idxOf? name with
  | some i =>
      if (b.values[i]?.getD none).isSome then
        typeError s!"{s.name}() got multiple values for argument '{name}'"
      else return { b with values := b.values.set i (some v) }
  | none =>
      if s.hidden.contains name then typeError s!"{s.name}() got multiple values for argument '{name}'"
      else if s.takesNamed then return { b with named := b.named ++ [(name, v)] }
      else typeError s!"{s.name}() got an unexpected keyword argument '{name}'"

def bind (s : Signature) (args : List Value) (named : Entries Value) : Eval Bound := do
  let n := s.params.length
  let first := (args.take n).map some
  let start : Bound := ⟨first ++ List.replicate (n - first.length) none, args.drop n, []⟩
  let b ← named.foldlM (bindNamed s) start
  if !b.rest.isEmpty && !s.takesRest then typeError (s.tooMany (s.hidden.length + args.length))
  else
    let unbound := ((s.params.zip b.values).take s.required).filterMap fun (name, v?) =>
      if v?.isNone then some name else none
    if unbound.isEmpty then return b else typeError (s.missing unbound)

end Signature

namespace Bound

def arg (b : Bound) (i : Nat) (default : Value := .null) : Value :=
  (b.values[i]?.getD none).getD default

end Bound

/-! ### Functions of the context -/

namespace ContextFunction

def all : List ContextFunction :=
  [ref, var, config, source, seed, envVar, isIncremental, this]

def signature (f : ContextFunction) : Signature :=
  let (params, required) : List String × Nat :=
    match f with
    | ref => (["model_name"], 1)
    | var => (["name"], 1)
    | config => (["key"], 1)
    | source => (["source_name", "table_name"], 2)
    | seed => (["name"], 1)
    | envVar => (["key", "default"], 1)
    | isIncremental => ([], 0)
    | this => ([], 0)
  { name := f.name, hidden := ["scope"], params := params, required := required }

end ContextFunction

/-- What the memory shows of a map: its entries by their names. -/
def Memory.fields? (s : Memory) : Value → Option (String → Option Value)
  | .object a =>
      match s.objects[a]? with
      | some (.map entries) => some fun name => findKey? (.text name) entries
      | _ => none
  | _ => none

def qualified (m : Machine) (name : Value) : Eval Value := do
  if m.scene.schema.isEmpty then return name
  else return .text (qualify m.scene.schema (← m.written name))

def noSuch {α : Type} (message : String) : Eval α :=
  fail .function message

def callContext (m : Machine) (f : ContextFunction) (args : List Value) (named : Entries Value) :
    Eval Value := do
  let b ← f.signature.bind args named
  let first := b.arg 0
  match f with
  | .ref =>
      refer first
      qualified m first
  | .this =>
      if m.scene.table.isEmpty then
        noSuch "this() called but current model table is not set in context"
      else return .text (qualify m.scene.schema m.scene.table)
  | .isIncremental => return .bool m.scene.isIncremental
  | .var =>
      requireHashable first
      match findKey? first (← entriesAt m.scene.vars) with
      | some v => return v
      | none => noSuch ("variable not found: " ++ (← m.written first))
  | .config =>
      match first with
      | .undefined message => fail .undefined message
      | _ =>
          match first.text? with
          | none => fail .member s!"'{← kindName first}' object has no attribute 'split'"
          | some path =>
              match lookupPath (← get).fields? (.object m.scene.config) path with
              | .ok v => return v
              | .error e => noSuch e.message
  | .source =>
      let table := b.arg 1
      requireHashable first
      match first.text?.bind (Entries.find? m.scene.sources) with
      | none => return .text ((← m.written first) ++ "." ++ (← m.written table))
      | some tables =>
          requireHashable table
          match table.text?.bind (Entries.find? tables) with
          | some full => return .text full
          | none =>
              noSuch ("table " ++ (← m.written table) ++ " not found in source " ++ (← m.written first))
  | .seed =>
      if !(← truth first) then noSuch "seed name cannot be empty"
      else
        requireHashable first
        match first.text?.bind (Entries.find? m.scene.seeds) with
        | some full => return .text full
        | none => noSuch ("seed " ++ (← m.shown first) ++ " not found")
  | .envVar =>
      match first.text? with
      | none => typeError s!"str expected, not {← kindName first}"
      | some key =>
          match Entries.find? m.scene.environment key, b.arg 1 with
          | some value, default =>
              if !value.isEmpty then return .text value
              else
                match default with
                | .null => noSuch ("environment variable not set: " ++ key)
                | d => return d
          | none, .null => noSuch ("environment variable not set: " ++ key)
          | none, d => return d

def callCollector (name : String) (args : List Value) (named : Entries Value) : Eval Value := do
  let kind := Inner.kindName .collector
  match name with
  | "add_dependency" =>
      let b ← ({ name := s!"{kind}.add_dependency", hidden := ["self"],
                 params := ["dependent", "dependency"], required := 2 } : Signature).bind args named
      requireHashable (b.arg 0)
      match ← note (b.arg 0) (b.arg 1) with
      | .ok _ => return .null
      | .error message => fail .undefined message
  | _ =>
      let b ← ({ name := s!"{kind}.get_dependencies", hidden := ["self"], params := ["model_id"],
                 required := 1 } : Signature).bind args named
      requireHashable (b.arg 0)
      newList (← loadAll (← notedOf (b.arg 0)))

/-! ### General functions -/

def makeRange (args : List Value) (named : Entries Value) : Eval Value := do
  if !named.isEmpty then typeError "range() takes no keyword arguments"
  let c : MethodCall := ⟨"range", "range", args, named⟩
  match ← c.between 1 3 with
  | [stop] => return .range 0 (← asIndex stop) 1
  | [start, stop] => return .range (← asIndex start) (← asIndex stop) 1
  | start :: stop :: step :: _ =>
      let start ← asIndex start
      let stop ← asIndex stop
      let step ← asIndex step
      if step == 0 then valueError "range() arg 3 must not be zero" else return .range start stop step
  | [] => return .null

def makeEntries (m : Machine) (args : List Value) (named : Entries Value) : Eval (List (Value × Value)) := do
  if args.length > 1 then typeError s!"dict expected at most 1 argument, got {args.length}"
  let first ← match args with
    | v :: _ => entriesOf m v
    | [] => pure []
  return insertEntries (insertEntries [] first) (namedEntries named)

/-! ### Text to fill a page with -/

namespace Filler

def words : List String :=
  ["a", "ac", "accumsan", "ad", "adipiscing", "aenean", "aliquam", "aliquet", "amet", "ante",
    "aptent", "arcu", "at", "auctor", "augue", "bibendum", "blandit", "class", "commodo",
    "condimentum", "congue", "consectetuer", "consequat", "conubia", "convallis", "cras", "cubilia",
    "cum", "curabitur", "curae", "cursus", "dapibus", "diam", "dictum", "dictumst", "dignissim",
    "dis", "dolor", "donec", "dui", "duis", "egestas", "eget", "eleifend", "elementum", "elit",
    "enim", "erat", "eros", "est", "et", "etiam", "eu", "euismod", "facilisi", "facilisis", "fames",
    "faucibus", "felis", "fermentum", "feugiat", "fringilla", "fusce", "gravida", "habitant",
    "habitasse", "hac", "hendrerit", "hymenaeos", "iaculis", "id", "imperdiet", "in", "inceptos",
    "integer", "interdum", "ipsum", "justo", "lacinia", "lacus", "laoreet", "lectus", "leo",
    "libero", "ligula", "litora", "lobortis", "lorem", "luctus", "maecenas", "magna", "magnis",
    "malesuada", "massa", "mattis", "mauris", "metus", "mi", "molestie", "mollis", "montes",
    "morbi", "mus", "nam", "nascetur", "natoque", "nec", "neque", "netus", "nibh", "nisi", "nisl",
    "non", "nonummy", "nostra", "nulla", "nullam", "nunc", "odio", "orci", "ornare", "parturient",
    "pede", "pellentesque", "penatibus", "per", "pharetra", "phasellus", "placerat", "platea",
    "porta", "porttitor", "posuere", "potenti", "praesent", "pretium", "primis", "proin",
    "pulvinar", "purus", "quam", "quis", "quisque", "rhoncus", "ridiculus", "risus", "rutrum",
    "sagittis", "sapien", "scelerisque", "sed", "sem", "semper", "senectus", "sit", "sociis",
    "sociosqu", "sodales", "sollicitudin", "suscipit", "suspendisse", "taciti", "tellus", "tempor",
    "tempus", "tincidunt", "torquent", "tortor", "tristique", "turpis", "ullamcorper", "ultrices",
    "ultricies", "urna", "ut", "varius", "vehicula", "vel", "velit", "venenatis", "vestibulum",
    "vitae", "vivamus", "viverra", "volutpat", "vulputate"]

/-- A number from `low` on that is less than `high`. -/
def between (low high : Int) : Eval Int := do
  if high ≤ low then
    valueError s!"empty range for randrange() ({low}, {high}, {high - low})"
  else return low + (← choose (high - low).toNat)

def word (last : Option String) : Eval String := do
  let others := words.filter fun w => some w != last
  return others[← choose others.length]?.getD ""

/-- The words of a paragraph, from the one at `i` on; commas and full stops are set by how far the
    last ones lie behind. -/
def paragraph : (n : Nat) → (i comma stop : Int) → (begins : Bool) → (last : Option String) →
    Eval (List String)
  | 0, _, _, _, _, _ => return []
  | n + 1, i, comma, stop, begins, last => do
      let w ← word last
      let text := if begins then String.ofList (Text.capitalize w.toList) else w
      let pause := i - (← between 3 8) > comma
      let (text, comma, stop) := if pause then (text ++ ",", i, stop + 2) else (text, comma, stop)
      let ends := i - (← between 10 20) > stop
      let (text, comma, stop) := if ends then (text ++ ".", i, i) else (text, comma, stop)
      return text :: (← paragraph n (i + 1) comma stop ends (some w))

def closed (s : String) : String :=
  match s.toList.getLast? with
  | some ',' => .ofList (s.toList.dropLast ++ ['.'])
  | some '.' => s
  | _ => s ++ "."

def paragraphs (least most : Int) : (n : Nat) → Eval (List String)
  | 0 => return []
  | n + 1 => do
      let length ← between least most
      let text := closed (" ".intercalate (← paragraph length.toNat 0 0 0 true none))
      return text :: (← paragraphs least most n)

def call (args : List Value) (named : Entries Value) : Eval Value := do
  let s : Signature :=
    { name := "generate_lorem_ipsum", params := ["n", "html", "min", "max"], required := 0 }
  let b ← s.bind args named
  let n ← asIndex (b.arg 0 (.int 5))
  let least ← asIndex (b.arg 2 (.int 20))
  let most ← asIndex (b.arg 3 (.int 100))
  let texts ← paragraphs least most n.toNat
  if ← truth (b.arg 1 (.bool true)) then
    return .markup ("\n".intercalate (texts.map fun s => "<p>" ++ escapeText s ++ "</p>"))
  else return .text ("\n\n".intercalate texts)

end Filler

def callGlobal (m : Machine) (f : GlobalFunction) (args : List Value) (named : Entries Value) : Eval Value := do
  match f with
  | .range => makeRange args named
  | .dict => newMap (← makeEntries m args named)
  | .space =>
      let entries ← makeEntries m args named
      return .object (← alloc (.space (entries.filterMap fun (k, v) => k.text?.map fun n => (n, v))))
  | .cycler =>
      match named, args with
      | (name, _) :: _, _ => typeError s!"Cycler.__init__() got an unexpected keyword argument '{name}'"
      | [], [] => fail .runtime "at least one item has to be provided"
      | [], items => return .object (← alloc (.cycler items 0))
  | .joiner =>
      let b ← ({ name := "Joiner.__init__", hidden := ["self"], params := ["sep"], required := 0 } : Signature).bind
        args named
      return .object (← alloc (.joiner (b.arg 0 (.text ", ")) false))
  | .lipsum => Filler.call args named

/-- Uses a joiner: nothing the first time, then its separator. -/
def useJoiner (a : Address) (separator : Value) (used : Bool) : Eval Value := do
  if used then return separator
  else
    update a (.joiner separator true)
    return .text ""

end SqlPipeline.Template
