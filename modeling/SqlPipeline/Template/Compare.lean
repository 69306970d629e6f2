/-
  SqlPipeline/Template/Compare.lean
  =================================
  **Equality, order and membership of values.**

  Numbers of all kinds are compared by their exact values, texts by code points, and
  sequences item by item.  Values of kinds that have no order among each other cannot be
  compared at all.
-/
import SqlPipeline.Template.Iterate
import SqlPipeline.Decimal.Arithmetic

namespace SqlPipeline.Template

open Eval

/-! ### Equality -/

def sameItems (m : Machine) : List Value → List Value → Eval Bool
  | [], [] => return true
  | a :: as, b :: bs => do if ← m.same a b then sameItems m as bs else return false
  | _, _ => return false

/-- Whether each entry of the first map has an equal one in the second. -/
def sameEntries (m : Machine) : List (Value × Value) → List (Value × Value) → Eval Bool
  | [], _ => return true
  | (k, v) :: rest, others => do
      match findKey? k others with
      | none => return false
      | some w => if ← m.same v w then sameEntries m rest others else return false

/-- Whether two numbers are equal; none when one of the values is no number. -/
def sameNumbers? : Value → Value → Option Bool
  | .float x, .float y => some (x == y)
  | .float x, v => v.int?.map fun n => Data.sameNumber n x
  | v, .float x => v.int?.map fun n => Data.sameNumber n x
  | v, w => do return (← v.int?) == (← w.int?)

def sameValue (m : Machine) (v w : Value) : Eval Bool := do
  match v, w with
  | .undefined message, _ => fail .undefined message
  | _, .undefined message => fail .undefined message
  | .null, .null => return true
  | .absent _, .absent _ => return true
  | .date a, .date b => return a == b
  | .moment a, .moment b =>
      return a.offset.isSome == b.offset.isSome && a.instant == b.instant
  | .bytes a, .bytes b => return a == b
  | .tuple a, .tuple b => sameItems m a b
  | .group k a, .tuple b => sameItems m [k, a] b
  | .tuple a, .group k b => sameItems m a [k, b]
  | .group k a, .group l b => sameItems m [k, a] [l, b]
  | .range a b c, .range a' b' c' =>
      let n := rangeLength a b c
      let n' := rangeLength a' b' c'
      return n == n' && (n == 0 || (a == a' && (n == 1 || c == c')))
  | .object a, .object b =>
      if a == b then return true
      else
        match ← object? a, ← object? b with
        | some (.list xs), some (.list ys) => sameItems m xs.toList ys.toList
        | some (.map xs), some (.map ys) =>
            if xs.length == ys.length then sameEntries m xs ys else return false
        | some (.set xs), some (.set ys) =>
            return xs.length == ys.length && xs.all fun x => ys.any (sameKey x)
        | _, _ => return false
  | v, w =>
      match v.text?, w.text? with
      | some s, some t => return s == t
      | _, _ =>
          match sameNumbers? v w with
          | some b => return b
          | none => return sameKey v w

/-! ### Order -/

/-- The order that a comparison asks about. -/
inductive OrderOp where
  | lt
  | le
  | gt
  | ge
deriving Repr, DecidableEq

def OrderOp.sign : OrderOp → String
  | lt => "<"
  | le => "<="
  | gt => ">"
  | ge => ">="

def OrderOp.holds : OrderOp → Ordering → Bool
  | lt, o => o == .lt
  | le, o => o != .gt
  | gt, o => o == .gt
  | ge, o => o != .lt

def compareTexts : List Char → List Char → Ordering
  | [], [] => .eq
  | [], _ :: _ => .lt
  | _ :: _, [] => .gt
  | a :: as, b :: bs =>
      if a.toNat < b.toNat then .lt else if a.toNat > b.toNat then .gt else compareTexts as bs

def compareDates (a b : Date) : Ordering :=
  compare a.ordinal b.ordinal

/-- The order of two numbers: outer none when one of the values is no number, inner none
    when one of the numbers is undefined. -/
def orderNumbers? : Value → Value → Option (Option Ordering)
  | .float x, .float y => some (Decimal.compareFloats x y)
  | .float x, v => v.int?.map fun n => (Decimal.compareWithFloat n x).map Ordering.swap
  | v, .float x => v.int?.map fun n => Decimal.compareWithFloat n x
  | v, w => do return some (compare (← v.int?) (← w.int?))

/-- The items of a value that is compared item by item; lists and tuples are not compared
    with each other. -/
def sequence? (v : Value) : Eval (Option (Bool × List Value)) := do
  match v with
  | .tuple items => return some (false, items)
  | .group k items => return some (false, [k, items])
  | .object a =>
      match ← object? a with
      | some (.list items) => return some (true, items.toList)
      | _ => return none
  | _ => return none

/-- The first two items that differ, or how the lengths compare. -/
def firstDifference (m : Machine) : List Value → List Value → Eval (Except Ordering (Value × Value))
  | [], [] => return .error .eq
  | [], _ :: _ => return .error .lt
  | _ :: _, [] => return .error .gt
  | a :: as, b :: bs => do
      if ← m.same a b then firstDifference m as bs else return .ok (a, b)

def cannotOrder {α : Type} (op : OrderOp) (v w : Value) : Eval α := do
  typeError s!"'{op.sign}' not supported between instances of '{← kindName v}' and '{← kindName w}'"

def orderScalars? (op : OrderOp) (v w : Value) : Eval (Option Bool) := do
  match v, w with
  | .undefined message, _ | _, .undefined message => fail .undefined message
  | .absent message, _ | _, .absent message => fail .undefined message
  | .date a, .date b => return some (op.holds (compareDates a b))
  | .moment a, .moment b =>
      if a.offset.isSome != b.offset.isSome then
        typeError "can't compare offset-naive and offset-aware datetimes"
      else return some (op.holds (compare a.instant b.instant))
  | .moment _, .date _ => typeError "can't compare datetime.datetime to datetime.date"
  | .date _, .moment _ => typeError "can't compare datetime.datetime to datetime.date"
  | .bytes a, .bytes b =>
      return some (op.holds (compareTexts (a.map fun x => Char.ofNat x.toNat) (b.map fun x => Char.ofNat x.toNat)))
  | v, w =>
      match v.text?, w.text? with
      | some s, some t => return some (op.holds (compareTexts s.toList t.toList))
      | _, _ =>
          match orderNumbers? v w with
          | some (some o) => return some (op.holds o)
          | some none => return some false
          | none => return none

def isSubset (xs ys : List Value) : Bool :=
  xs.all fun x => ys.any (sameKey x)

def orderSets (op : OrderOp) (xs ys : List Value) : Bool :=
  match op with
  | .le => isSubset xs ys
  | .lt => isSubset xs ys && xs.length < ys.length
  | .ge => isSubset ys xs
  | .gt => isSubset ys xs && ys.length < xs.length

/-- Compares two values; `deeper` compares the items of sequences. -/
def orderWith (m : Machine) (deeper : Value → Value → Eval Bool) (op : OrderOp) (v w : Value) : Eval Bool := do
  match ← orderScalars? op v w with
  | some b => return b
  | none =>
      match ← sequence? v, ← sequence? w with
      | some (kind, xs), some (kind', ys) =>
          if kind != kind' then cannotOrder op v w
          else
            match ← firstDifference m xs ys with
            | .error o => return op.holds o
            | .ok (a, b) => deeper a b
      | _, _ =>
          match v, w with
          | .object a, .object b =>
              match ← object? a, ← object? b with
              | some (.set xs), some (.set ys) => return orderSets op xs ys
              | _, _ => cannotOrder op v w
          | _, _ => cannotOrder op v w

/-- Compares two values; `depth` bounds how far sequences are nested in each other. -/
def orderWithin (m : Machine) (op : OrderOp) : (depth : Nat) → Value → Value → Eval Bool
  | 0, v, w => cannotOrder op v w
  | depth + 1, v, w => orderWith m (orderWithin m op depth) op v w

def order (m : Machine) (op : OrderOp) (v w : Value) : Eval Bool :=
  orderWithin m op 100 v w

/-! ### Membership -/

/-- Whether an item equal to `v` comes from an iterator; `n` bounds the number of items. -/
def inIterator (m : Machine) (it : Address) (v : Value) : (n : Nat) → Eval Bool
  | 0 => return false
  | n + 1 => do
      match ← m.pull it with
      | none => return false
      | some x => if ← m.same x v then return true else inIterator m it v n

/-- Whether one of some values equals `v`. -/
def inItems (m : Machine) (v : Value) : List Value → Eval Bool
  | [] => return false
  | x :: xs => do if ← m.same x v then return true else inItems m v xs

/-- Whether `v` is in a collection. -/
def contains (m : Machine) (collection v : Value) : Eval Bool := do
  match collection with
  | .undefined message => fail .undefined message
  | .text s | .markup s =>
      match v.text? with
      | some t => return Text.isInfix t.toList s.toList
      | none =>
          match v with
          | .undefined _ => typeError "'in <string>' requires string as left operand, not StrictUndefined"
          | v => typeError s!"'in <string>' requires string as left operand, not {← kindName v}"
  | .absent _ => return false
  | .tuple items => inItems m v items
  | .group k items => inItems m v [k, items]
  | .range start stop step =>
      match v.int? with
      | some n =>
          return (if step > 0 then start ≤ n && n < stop else stop < n && n ≤ start)
            && (n - start) % step == 0
      | none => inIterator m (← iterate collection) v m.bound
  | .view .keys a =>
      requireHashable v
      return (findKey? v (← entriesAt a)).isSome
  | .view .values a => inItems m v ((← entriesAt a).map (·.2))
  | .view .items a => inItems m v ((← entriesAt a).map fun (k, x) => .tuple [k, x])
  | .object a =>
      match ← object? a with
      | some (.list items) => inItems m v items.toList
      | some (.map entries) =>
          requireHashable v
          return (findKey? v entries).isSome
      | some (.set items) =>
          requireHashable v
          return items.any (sameKey v)
      | some (.iterator _) => inIterator m a v m.bound
      | some (.loop _) => inIterator m (← iterate collection) v m.bound
      | _ => typeError s!"argument of type '{← kindName collection}' is not iterable"
  | _ => typeError s!"argument of type '{← kindName collection}' is not iterable"

end SqlPipeline.Template
