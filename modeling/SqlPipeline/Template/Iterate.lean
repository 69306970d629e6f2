/-
  SqlPipeline/Template/Iterate.lean
  =================================
  **Keys of maps, and going through the items of a value.**

  An iterator gives its items once.  One over a list follows the list as it is when each
  item is wanted; one over a map fails when the map has grown or shrunk in between.
-/
import SqlPipeline.Template.Written

namespace SqlPipeline.Template

open Eval

/-! ### Keys -/

mutual

def sameKey : Value → Value → Bool
  | .null, .null => true
  | .absent _, .absent _ => true
  | .bool a, .bool b => a == b
  | .bool a, .int b => Data.boolNumber a == b
  | .int a, .bool b => a == Data.boolNumber b
  | .int a, .int b => a == b
  | .int a, .float b => Data.sameNumber a b
  | .float a, .int b => Data.sameNumber b a
  | .bool a, .float b => Data.sameNumber (Data.boolNumber a) b
  | .float a, .bool b => Data.sameNumber (Data.boolNumber b) a
  | .float a, .float b => a == b
  | .text a, .text b => a == b
  | .text a, .markup b => a == b
  | .markup a, .text b => a == b
  | .markup a, .markup b => a == b
  | .date a, .date b => a == b
  | .moment a, .moment b => a.offset.isSome == b.offset.isSome && a.instant == b.instant
  | .bytes a, .bytes b => a == b
  | .tuple a, .tuple b => sameKeys a b
  | .range a b c, .range a' b' c' => a == a' && b == b' && c == c'
  | .object a, .object b => a == b
  | .context f, .context g => f == g
  | .inner i, .inner j => i == j
  | .function f, .function g => f == g
  | .self, .self => true
  | .view k a, .view l b => k == l && a == b
  | .blockOf a, .blockOf b => a == b
  | _, _ => false

def sameKeys : List Value → List Value → Bool
  | [], [] => true
  | a :: as, b :: bs => sameKey a b && sameKeys as bs
  | _, _ => false

end

def findKey? (key : Value) : List (Value × Value) → Option Value
  | [] => none
  | (k, v) :: rest => if sameKey k key then some v else findKey? key rest

/-- Gives a key a new value: in place when the key is taken, else at the end. -/
def insertKey (key value : Value) : List (Value × Value) → List (Value × Value)
  | [] => [(key, value)]
  | (k, v) :: rest => if sameKey k key then (k, value) :: rest else (k, v) :: insertKey key value rest

def eraseKey (key : Value) (entries : List (Value × Value)) : List (Value × Value) :=
  entries.filter fun (k, _) => !sameKey k key

mutual

def requireHashable : Value → Eval Unit
  | .undefined message => fail .undefined message
  | .tuple items => requireAllHashable items
  | .slice _ _ _ => typeError "unhashable type: 'slice'"
  | .group k items => do
      requireHashable k
      requireHashable items
  | .object a => do
      match ← object? a with
      | some (.list _) => typeError "unhashable type: 'list'"
      | some (.map _) => typeError "unhashable type: 'dict'"
      | some (.set _) => typeError "unhashable type: 'set'"
      | _ => return ()
  | .view .keys _ => typeError "unhashable type: 'dict_keys'"
  | .view .items _ => typeError "unhashable type: 'dict_items'"
  | .inner .scope => typeError s!"unhashable type: '{Inner.kindName .scope}'"
  | .inner .context => typeError s!"unhashable type: '{Inner.kindName .context}'"
  | _ => return ()

def requireAllHashable : List Value → Eval Unit
  | [] => return ()
  | v :: vs => do
      requireHashable v
      requireAllHashable vs

end

/-! ### Iterators -/

def characters (s : String) : List Value :=
  s.toList.map fun c => .text (.ofList [c])

def notIterable {α : Type} (v : Value) : Eval α := do
  typeError s!"'{← kindName v}' object is not iterable"

def iterate (v : Value) : Eval Address := do
  let fresh (source : Source) : Eval Address := alloc (.iterator source)
  match v with
  | .undefined message => fail .undefined message
  | .absent _ => fresh (.items [])
  | .text s | .markup s => fresh (.items (characters s))
  | .bytes b => fresh (.items (b.map fun x => .int x.toNat))
  | .tuple items => fresh (.items items)
  | .group k items => fresh (.items [k, items])
  | .range start stop step => fresh (.rangeFrom start stop step)
  | .view kind a => fresh (.mapFrom kind a 0 (← entriesAt a).length)
  | .object a =>
      match ← object? a with
      | some (.list _) => fresh (.listFrom a 0)
      | some (.map entries) => fresh (.mapFrom .keys a 0 entries.length)
      | some (.set items) => fresh (.items items)
      | some (.iterator _) | some (.loop _) => return a
      | _ => notIterable v
  | _ => notIterable v

def ViewKind.item : ViewKind → Value × Value → Value
  | .keys, (k, _) => k
  | .values, (_, v) => v
  | .items, (k, v) => .tuple [k, v]

/-- Whether an iterator gives an item without evaluating anything. -/
def pullPlain? (a : Address) (source : Source) : Option (Eval (Option Value)) :=
  match source with
  | .items rest => some do
      match rest with
      | [] => return none
      | x :: xs =>
          update a (.iterator (.items xs))
          return some x
  | .listFrom list index => some do
      match ← object? list with
      | some (.list items) =>
          match items[index]? with
          | some x =>
              update a (.iterator (.listFrom list (index + 1)))
              return some x
          | none =>
              update a (.iterator (.items []))
              return none
      | _ => return none
  | .listBack list count => some do
      match count with
      | 0 => return none
      | count + 1 =>
          match ← object? list with
          | some (.list items) =>
              update a (.iterator (.listBack list count))
              return items[count]?
          | _ => return none
  | .mapFrom kind map index size => some do
      let entries ← entriesAt map
      if entries.length != size then
        fail .runtime "dictionary changed size during iteration"
      else
        match entries[index]? with
        | some entry =>
            update a (.iterator (.mapFrom kind map (index + 1) size))
            return some (kind.item entry)
        | none =>
            update a (.iterator (.items []))
            return none
  | .rangeFrom next stop step => some do
      if (step > 0 && next < stop) || (step < 0 && stop < next) then
        update a (.iterator (.rangeFrom (next + step) stop step))
        return some (.int next)
      else return none
  | _ => none

/-- The items that are left in an iterator; `n` bounds their number. -/
def drainWithin (m : Machine) (it : Address) : (n : Nat) → List Value → Eval (List Value)
  | 0, acc => return acc.reverse
  | n + 1, acc => do
      match ← m.pull it with
      | none => return acc.reverse
      | some x => drainWithin m it n (x :: acc)

def drain (m : Machine) (it : Address) : Eval (List Value) :=
  drainWithin m it m.bound []

def itemsOf (m : Machine) (v : Value) : Eval (List Value) := do
  match v with
  | .tuple items => return items
  | v => drain m (← iterate v)

/-! ### Lengths -/

def length? (v : Value) : Eval (Option Nat) := do
  match v with
  | .undefined message => fail .undefined message
  | .absent _ => return some 0
  | .text s | .markup s => return some s.length
  | .bytes b => return some b.length
  | .tuple items => return some items.length
  | .group _ _ => return some 2
  | .range start stop step => return some (rangeLength start stop step)
  | .view _ a => return some (← entriesAt a).length
  | .object a =>
      match ← object? a with
      | some (.list items) => return some items.size
      | some (.map entries) => return some entries.length
      | some (.set items) => return some items.length
      | _ => return none
  | _ => return none

def length (v : Value) : Eval Nat := do
  match ← length? v with
  | some n => return n
  | none => typeError s!"object of type '{← kindName v}' has no len()"

end SqlPipeline.Template
