/-
  SqlPipeline/Template/Exchange.lean
  ==================================
  **What goes between a rendering and the outside: plain data, and answers.**

  Data goes into the memory when a rendering starts, so that the template can change it;
  what it has become is read back from there.

  Whoever runs an evaluation answers what it asks, and keeps a trace of it.  References are
  noted by a collector, if one listens for a model.  It compares each with those before it,
  and a value that cannot be compared ends the evaluation.
-/
import SqlPipeline.Template.Iterate
import SqlPipeline.Collector
import SqlPipeline.Context

namespace SqlPipeline.Template

open Eval

mutual

def load : Data → Eval Value
  | .null => return .null
  | .bool b => return .bool b
  | .int n => return .int n
  | .float x => return .float x
  | .text s => return .text s
  | .date d => return .date d
  | .moment t => return .moment t
  | .bytes b => return .bytes b
  | .list items => do newList (← loadAll items)
  | .tuple items => do return .tuple (← loadAll items)
  | .set items => do return .object (← alloc (.set (← loadAll items)))
  | .map entries => do newMap (← loadEntries entries)
  | .undefined message => return .undefined message
  | .thing _ _ => return .null

def loadAll : List Data → Eval (List Value)
  | [] => return []
  | d :: rest => do
      let v ← load d
      return v :: (← loadAll rest)

def loadEntries : List (Data × Data) → Eval (List (Value × Value))
  | [] => return []
  | (k, d) :: rest => do
      let key ← load k
      let v ← load d
      return (key, v) :: (← loadEntries rest)

end

def loadNamed (entries : Entries Data) : Eval Address := do
  alloc (.map (← loadEntries (entries.map fun (n, d) => (.text n, d))))

/-- The data that a value stands for; what has none counts as nothing.  `depth` bounds how
    far values are nested. -/
def Memory.data (s : Memory) : (depth : Nat) → Value → Data
  | 0, _ => .null
  | depth + 1, v =>
      match v with
      | .undefined message => .undefined message
      | .absent _ => .thing "Undefined" "Undefined"
      | .bool b => .bool b
      | .int n => .int n
      | .float x => .float x
      | .text t | .markup t => .text t
      | .date d => .date d
      | .moment t => .moment t
      | .bytes b => .bytes b
      | .tuple items => .tuple (items.map (data s depth))
      | .group k items => .tuple [data s depth k, data s depth items]
      | .range start stop step =>
          .thing "range" (if step == 1 then s!"range({start}, {stop})" else s!"range({start}, {stop}, {step})")
      | .view kind a =>
          match s.objects[a]? with
          | some (.map entries) =>
              let items := entries.map fun entry => data s depth (kind.item entry)
              .thing kind.kindName (kind.kindName ++ "(" ++ (Data.list items).shown ++ ")")
          | _ => .null
      | .object a =>
          match s.objects[a]? with
          | some (.list items) => .list (items.toList.map (data s depth))
          | some (.map entries) => .map (entries.map fun (k, w) => (data s depth k, data s depth w))
          | some (.set items) => .set (items.map (data s depth))
          | _ => .null
      | .context _ => .thing "functools.partial" "functools.partial"
      | .inner i => .thing i.kindName i.kindName
      | _ => .null

def Memory.depth : Nat := 1000

def Memory.named (s : Memory) (a : Address) : Entries Data :=
  match s.objects[a]? with
  | some (.map entries) =>
      entries.filterMap fun (k, v) => k.text?.map fun n => (n, s.data Memory.depth v)
  | _ => []

/-! ### Running an evaluation -/

/-- What is known of an evaluation from what it has asked. -/
structure Trace where
  refs : List Value := []         -- what was referred to, last first
  drew : Bool := false            -- whether something came by chance
  looked : Bool := false          -- whether it looked behind a value
  outside : Outside := {}         -- what is left of it

def Trace.after (t : Trace) : Request → Trace
  | .reference v => { t with refs := v :: t.refs }
  | .choice _ => { t with drew := true, outside := t.outside.rest }
  | .place _ => { t with drew := true }
  | .glimpse | .listened | .noted _ | .note _ _ => { t with looked := true }

structure Store extends Memory, Trace

abbrev Notes := List (Value × Value)

/-- A collector that listens for a model. -/
structure Audience where
  collector : Collector
  model : String

namespace Audience

def noted (a : Audience) (m : Memory) (notes : Notes) (model : Data) : List Data :=
  let earlier := match model with
    | .text name => a.collector.get name
    | _ => []
  let new := notes.filter fun (n, _) => Data.same (m.data Memory.depth n) model
  (new.map fun (_, v) => m.data Memory.depth v).foldl Collector.addTo earlier

/-- Notes something about a model, if it can be compared with what has been noted before. -/
def note (a : Audience) (m : Memory) (notes : Notes) (model v : Value) : Except String Notes :=
  match Collector.seek (m.data Memory.depth v) (a.noted m notes (m.data Memory.depth model)) with
  | .error message => .error message
  | .ok _ => .ok (notes ++ [(model, v)])

def hear (a : Audience) (m : Memory) (notes : Notes) (v : Value) : Except Failure Notes :=
  if a.model.isEmpty then .ok notes
  else
    match a.note m notes (.text a.model) v with
    | .error message => .error ⟨.undefined, message⟩
    | .ok notes => .ok notes

end Audience

/-- Answers what an evaluation asks, unless that ends it. -/
def answer (audience : Option Audience) (m : Memory) (outside : Outside) (notes : Notes) :
    (q : Request) → Except Failure (q.Answer × Notes)
  | .reference v =>
      match audience with
      | none => .ok ((), notes)
      | some a =>
          match a.hear m notes v with
          | .ok notes => .ok ((), notes)
          | .error failure => .error failure
  | .choice count => .ok (outside.next count, notes)
  | .place thing => .ok (outside.places thing, notes)
  | .glimpse => .ok ((), notes)
  | .listened => .ok (audience.isSome, notes)
  | .noted model =>
      match audience with
      | none => .ok ([], notes)
      | some a => .ok (a.noted m notes (m.data Memory.depth model), notes)
  | .note model v =>
      match audience with
      | none => .ok (.ok (), notes)
      | some a =>
          match a.note m notes model v with
          | .ok notes => .ok (.ok (), notes)
          | .error message => .ok (.error message, notes)

def Course.follow {α : Type} (audience : Option Audience) :
    Course α → Trace → Notes → EStateM.Result Failure Store α × Notes
  | .done a m, t, notes => (.ok a ⟨m, t⟩, notes)
  | .failed failure m, t, notes => (.error failure ⟨m, t⟩, notes)
  | .asks q m next, t, notes =>
      match answer audience m t.outside notes q with
      | .ok (given, notes) => (next given).follow audience (t.after q) notes
      | .error failure => (.error failure ⟨m, t⟩, notes)

def Eval.run {α : Type} (x : Eval α) (s : Store) : EStateM.Result Failure Store α :=
  ((x s.toMemory).follow none s.toTrace []).1

end SqlPipeline.Template
