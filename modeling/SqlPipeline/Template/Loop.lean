/-
  SqlPipeline/Template/Loop.lean
  ==============================
  **The state of a running loop.**

  A loop looks at most one item ahead: to tell whether the current one is the last, and
  to show the next.  Its length is that of what it goes over; where that has none, the
  items that are left are collected and counted.
-/
import SqlPipeline.Template.Compare

namespace SqlPipeline.Template

open Eval

def loopAt? (a : Address) : Eval (Option LoopState) := do
  match ← object? a with
  | some (.loop l) => return some l
  | _ => return none

def peek (m : Machine) (a : Address) : Eval (Option Value) := do
  match ← loopAt? a with
  | none => return none
  | some l =>
      match l.after with
      | some v => return some v
      | none =>
          let next ← m.pull l.iterator
          match ← loopAt? a with
          | some l => update a (.loop { l with after := next })
          | none => pure ()
          return next

def advanceLoop (m : Machine) (a : Address) : Eval (Option Value) := do
  match ← loopAt? a with
  | none => return none
  | some l =>
      let next ← match l.after with
        | some v => pure (some v)
        | none => m.pull l.iterator
      match next with
      | none => return none
      | some v =>
          match ← loopAt? a with
          | some l =>
              update a (.loop { l with index := l.index + 1, before := l.current, current := some v, after := none })
          | none => pure ()
          return some v

def loopLength (m : Machine) (a : Address) : Eval Nat := do
  match ← loopAt? a with
  | none => return 0
  | some l =>
      match l.length with
      | some n => return n
      | none =>
          let subject ← match l.subject with
            | .undefined _ => pure none
            | v => length? v
          match subject with
          | some n =>
              update a (.loop { l with length := some n })
              return n
          | none =>
              let rest ← drain m l.iterator
              let it ← alloc (.iterator (.items rest))
              let n := rest.length + l.index + (if l.after.isSome then 1 else 0)
              update a (.loop { l with iterator := it, length := some n })
              return n

def loopMember? (m : Machine) (a : Address) (l : LoopState) (name : String) : Eval (Option Value) := do
  match name with
  | "index" => return some (.int l.index)
  | "index0" => return some (.int ((l.index : Int) - 1))
  | "length" => return some (.int (← loopLength m a))
  | "revindex" => return some (.int ((← loopLength m a : Int) - l.index + 1))
  | "revindex0" => return some (.int ((← loopLength m a : Int) - l.index))
  | "first" => return some (.bool (l.index == 1))
  | "last" => return some (.bool (← peek m a).isNone)
  | "depth" => return some (.int (l.depth + 1))
  | "depth0" => return some (.int l.depth)
  | "previtem" =>
      if l.index ≤ 1 then return some (.undefined "there is no previous item")
      else return some (l.before.getD .null)
  | "nextitem" => return some ((← peek m a).getD (.undefined "there is no next item"))
  | _ => return none

def loopCycle (l : LoopState) (values : List Value) : Eval Value := do
  if values.isEmpty then typeError "no items for cycling given"
  else return values[(l.index - 1) % values.length]?.getD .null

/-- Whether some values differ from those of the last call. -/
def loopChanged (m : Machine) (a : Address) (l : LoopState) (values : List Value) : Eval Value := do
  let unchanged ← match l.lastChanged with
    | some old => sameItems m old values
    | none => pure false
  if unchanged then return .bool false
  else
    update a (.loop { l with lastChanged := some values })
    return .bool true

end SqlPipeline.Template
