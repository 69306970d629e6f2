/-
  SqlPipeline/Template/Stream.lean
  ================================
  **Sequences that are made item by item.**

  Nothing of such a sequence is evaluated, not even whether its arguments fit, before
  its first item is wanted.
-/
import SqlPipeline.Template.Test
import SqlPipeline.Template.Enter

namespace SqlPipeline.Template

open Eval

/-! ### Starting a sequence -/

def nameArgument (m : Machine) (sort : String) (v : Value) : Eval String := do
  requireHashable v
  match v.text? with
  | some name => return name
  | none => fail .runtime (s!"No {sort} named " ++ (← m.shown v) ++ ".")

def mapperOf (m : Machine) (args : List Value) (named : Entries Value) : Eval Mapper := do
  match args, Entries.find? named "attribute" with
  | [], some member =>
      let others := named.filter fun (n, _) => n != "attribute" && n != "default"
      match others with
      | (n, _) :: _ => fail .filterArgument ("Unexpected keyword argument " ++ Text.quoted n)
      | [] =>
          let default := match Entries.find? named "default" with
            | some .null | none => none
            | some d => some d
          return .member (← attributePath member) default
  | [], none => fail .filterArgument "map requires a filter argument"
  | name :: args, _ => return .filter (← nameArgument m "filter" name) args named

def pickerOf (m : Machine) (byAttribute negated : Bool) (args : List Value) (named : Entries Value) : Eval Picker := do
  let (path, args) ← match byAttribute, args with
    | false, args => pure (none, args)
    | true, member :: rest => pure (some (← attributePath member), rest)
    | true, [] => fail .filterArgument "Missing parameter for attribute name"
  match args with
  | [] => return ⟨path, negated, none, [], named⟩
  | name :: rest => return ⟨path, negated, some (← nameArgument m "test" name), rest, named⟩

/-- Lists of `size` items each; the last one is filled up. -/
def batches (size fill : Value) (m : Machine) (items : List Value) : Eval (List Value) := do
  match size.int? with
  | some n =>
      let groups := go n [] items
      let count := groups.length
      groups.zipIdx.mapM fun (group, i) => do
        match fill with
        | .null => newList group
        | fill =>
            if i + 1 == count then newList (group ++ List.replicate (n.toNat - group.length) fill)
            else newList group
  | none =>
      match items, fill with
      | [], _ => return []
      | items, .null => return [← newList items]
      | items, _ => do
          let _ ← order m .lt (.int items.length) size
          return [← newList items]
where
  go (n : Int) (group : List Value) : List Value → List (List Value)
    | [] => if group.isEmpty then [] else [group.reverse]
    | x :: rest =>
        if (group.length : Int) == n then group.reverse :: go n [x] rest
        else go n (x :: group) rest

def columns (count fill : Value) (items : List Value) : Eval (List Value) := do
  let n ← asIndex count
  if n == 0 then fail .zeroDivision "integer division or modulo by zero"
  let size := Int.fdiv items.length n
  let longer := Int.fmod items.length n
  (List.range n.toNat).mapM fun (k : Nat) => do
    let i : Int := k
    let start := i * size + min i longer
    let stop := start + size + (if i < longer then 1 else 0)
    let part := (items.take stop.toNat).drop start.toNat
    match fill with
    | .null => newList part
    | fill => if i ≥ longer then newList (part ++ [fill]) else newList part

def distinct (m : Machine) (rule : KeyRule) (seen : List Value) : List Value → Eval (List Value)
  | [] => return []
  | v :: rest => do
      let key ← rule.keyOf m v
      requireHashable key
      if seen.any (sameKey key) then distinct m rule seen rest
      else return v :: (← distinct m rule (key :: seen) rest)

/-- The source of a sequence that has not been started yet. -/
def start (m : Machine) (escape : Bool) : Pending → Eval Source
  | .map subject args named => do
      if ← truth subject then
        let mapper ← mapperOf m args named
        return .mapped (← iterate subject) mapper escape
      else return .items []
  | .pick subject byAttribute negated args named => do
      if ← truth subject then
        let picker ← pickerOf m byAttribute negated args named
        return .picked (← iterate subject) picker escape
      else return .items []
  | .batch subject size fill => do return .items (← batches size fill m (← itemsOf m subject))
  | .slices subject count fill => do return .items (← columns count fill (← itemsOf m subject))
  | .unique subject caseSensitive member => do
      let rule ← KeyRule.ofArguments member none caseSensitive
      return .items (← distinct m rule [] (← itemsOf m subject))
  | .entries subject => do
      match subject with
      | .undefined _ | .absent _ => return .items []
      | .object a =>
          match ← object? a with
          | some (.map entries) => return .mapFrom .items a 0 entries.length
          | _ => typeError "Can only get item pairs from a mapping."
      | _ => typeError "Can only get item pairs from a mapping."

/-! ### The next item -/

def Mapper.apply (m : Machine) (escape : Bool) (v : Value) : Mapper → Eval Value
  | .member path default => followPath m default v path
  | .filter name args named => m.filter escape name v args named

def Picker.accepts (m : Machine) (p : Picker) (v : Value) : Eval Bool := do
  let subject ← match p.path with
    | some path => followPath m none v path
    | none => pure v
  let holds ← match p.test with
    | some name => callTest m name (subject :: p.args) p.named
    | none => truth subject
  return holds != p.negated

/-- The next item that is chosen; `n` bounds the number of items that are not. -/
def nextPicked (m : Machine) (accepts : Value → Eval (Option Value)) (inner : Address) :
    (n : Nat) → Eval (Option Value)
  | 0 => return none
  | n + 1 => do
      match ← m.pull inner with
      | none => return none
      | some v =>
          match ← accepts v with
          | some w => return some w
          | none => nextPicked m accepts inner n

/-- The item of a loop with a condition, if it meets the condition. -/
def meetsCondition (m : Machine) (env : Env) (target : Target) (test : Expr) (v : Value) :
    Eval (Option Value) := do
  let inside ← enterWith env (fun outer => Scope.ofLoopTest outer target test) []
  assign m inside v target
  if ← truth (← m.eval inside test) then return some (← reload inside target) else return none

def pullItem (m : Machine) (a : Address) : Eval (Option Value) := do
  match ← object? a with
  | some (.iterator source) =>
      match pullPlain? a source with
      | some next => next
      | none =>
          match source with
          | .mapped inner mapper escape =>
              match ← m.pull inner with
              | none => return none
              | some v => return some (← mapper.apply m escape v)
          | .picked inner picker _ =>
              nextPicked m (fun v => do return if ← picker.accepts m v then some v else none) inner m.bound
          | .filtered inner target test env => nextPicked m (meetsCondition m env target test) inner m.bound
          | .pending p escape =>
              update a (.iterator (← start m escape p))
              m.pull a
          | _ => return none
  | some (.loop _) =>
      match ← advanceLoop m a with
      | none => return none
      | some v => return some (.tuple [v, .object a])
  | _ => return none

end SqlPipeline.Template
