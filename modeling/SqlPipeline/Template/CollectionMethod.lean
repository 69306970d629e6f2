/-
  SqlPipeline/Template/CollectionMethod.lean
  ==========================================
  **Methods of collections, of numbers and of the other kinds of values.**

  Lists are sorted by keys that can fail to compare.  The first run of keys that is in order,
  or strictly in reverse order, is kept as it is (turned round if need be); every further item
  goes behind the last one that is not greater.  Items with equal keys keep their order.
-/
import SqlPipeline.Template.Value
import SqlPipeline.Template.TextMethod
import SqlPipeline.Template.MethodArgs
import SqlPipeline.Text.Utf8

namespace SqlPipeline.Template

open Eval

/-! ### Methods of numbers

A double is an exact fraction, and its methods tell about that fraction. -/

namespace NumberMethod

def callWhole (kind : String) (n : Int) (name : String) (args : List Value) (named : Entries Value) : Eval Value := do
  let c : MethodCall := ⟨kind, name, args, named⟩
  c.noArgs
  match name with
  | "bit_length" => return .int (if n == 0 then 0 else (Nat.log2 n.natAbs + 1 : Nat))
  | "bit_count" => return .int ((Layout.digitsIn 2 n.natAbs).toList.count '1')
  | "as_integer_ratio" => return .tuple [.int n, .int 1]
  | _ => return .int n

/-- A double with sixteen as its base: a digit, thirteen more, and the power of two. -/
def hexText (x : Float) : String :=
  match Decimal.Binary.ofFloat x with
  | .finite negative mantissa exponent =>
      let first := mantissa / Nat.pow 2 52
      let power : Int := if mantissa == 0 then 0 else exponent + 52
      let digits : List Char :=
        if mantissa == 0 then ['0'] else Text.hexDigits 13 (mantissa % Nat.pow 2 52)
      (if negative then "-" else "") ++ s!"0x{first}." ++ .ofList digits
        ++ "p" ++ (if power < 0 then "-" else "+") ++ toString power.natAbs
  | _ => Decimal.floatText x

/-- A double as a whole number and a divisor without common factors. -/
def ratio (x : Float) : Eval Value := do
  match Decimal.Binary.ofFloat x with
  | .finite negative mantissa exponent =>
      let (num, den) := Decimal.fraction mantissa exponent
      let common := max 1 (Nat.gcd num den)
      let num : Int := (num / common : Nat)
      return .tuple [.int (if negative then -num else num), .int (den / common : Nat)]
  | .infinite _ => fail .overflow "cannot convert Infinity to integer ratio"
  | .undefined => valueError "cannot convert NaN to integer ratio"

def callReal (x : Float) (name : String) (args : List Value) (named : Entries Value) : Eval Value := do
  let c : MethodCall := ⟨"float", name, args, named⟩
  c.noArgs
  match name with
  | "is_integer" => return .bool (Decimal.Binary.ofFloat x).isWhole
  | "hex" => return .text (hexText x)
  | "as_integer_ratio" => ratio x
  | _ => return .float x

end NumberMethod

/-! ### Sorting -/

abbrev Keyed := Value × Value

/-- The number of items at the start of `rest` that go on with a run; `descending` tells
    whether each is less than the one before. -/
def runLength (less : Value → Value → Eval Bool) (descending : Bool) (last : Value) :
    List Keyed → Eval Nat
  | [] => return 0
  | (k, _) :: rest => do
      if (← less k last) == descending then return (← runLength less descending k rest) + 1 else return 0

/-- The place for a key between `lo` and `hi`, behind all items that are not greater; `n`
    bounds the number of steps. -/
def placeFor (less : Value → Value → Eval Bool) (sorted : Array Keyed) (k : Value) :
    (n lo hi : Nat) → Eval Nat
  | 0, lo, _ => return lo
  | n + 1, lo, hi => do
      if lo < hi then
        let mid := lo + (hi - lo) / 2
        if ← less k (sorted[mid]?.getD (.null, .null)).1 then placeFor less sorted k n lo mid
        else placeFor less sorted k n (mid + 1) hi
      else return lo

def insertAll (less : Value → Value → Eval Bool) (sorted : Array Keyed) : List Keyed → Eval (Array Keyed)
  | [] => return sorted
  | item :: rest => do
      let i ← placeFor less sorted item.1 (sorted.size + 1) 0 sorted.size
      insertAll less (sorted.insertIdxIfInBounds i item) rest

def sortKeyed (less : Value → Value → Eval Bool) (items : List Keyed) : Eval (List Keyed) := do
  match items with
  | a :: b :: rest =>
      let descending ← less b.1 a.1
      let n := (← runLength less descending b.1 rest) + 2
      let run := items.take n
      let start := if descending then run.reverse else run
      return (← insertAll less start.toArray (items.drop n)).toList
  | items => return items

/-- Sorts items by their keys, in reverse order if wanted; equal ones keep their order. -/
def sortItems (less : Value → Value → Eval Bool) (reverse : Bool) (items : List Keyed) :
    Eval (List Value) := do
  if reverse then return (← sortKeyed less items.reverse).reverse.map (·.2)
  else return (← sortKeyed less items).map (·.2)

/-! ### Sequences -/

/-- The place of the first item that equals `v`. -/
def findItem (m : Machine) (v : Value) (offset : Nat) : List Value → Eval (Option Nat)
  | [] => return none
  | x :: xs => do if ← m.same x v then return some offset else findItem m v (offset + 1) xs

/-- How many items equal `v`. -/
def countItems (m : Machine) (v : Value) : List Value → Eval Nat
  | [] => return 0
  | x :: xs => do
      let n ← countItems m v xs
      return if ← m.same x v then n + 1 else n

/-- The place of the argument of `index` among some items, within bounds that may be given. -/
def placeWithin (m : Machine) (c : MethodCall) (items : List Value) : Eval (Value × Option Nat) := do
  let args ← c.between 1 3
  let v := args.head?.getD .null
  let start ← args[1]?.mapM requiredBound
  let stop ← args[2]?.mapM requiredBound
  let (start, stop) := sliceRange items.length start stop 1
  return (v, ← findItem m v start.toNat ((items.take stop.toNat).drop start.toNat))

def callTuple (m : Machine) (items : List Value) (name : String) (args : List Value) (named : Entries Value) :
    Eval Value := do
  let c : MethodCall := ⟨"tuple", name, args, named⟩
  match name with
  | "count" => return .int (← countItems m (← c.one) items)
  | _ =>
      match ← placeWithin m c items with
      | (_, some i) => return .int i
      | (_, none) => valueError "tuple.index(x): x not in tuple"

def callRange (m : Machine) (items : List Value) (name : String) (args : List Value) (named : Entries Value) :
    Eval Value := do
  let c : MethodCall := ⟨"range", name, args, named⟩
  let v ← c.one
  match name with
  | "count" => return .int (← countItems m v items)
  | _ =>
      match ← findItem m v 0 items, v.int? with
      | some i, _ => return .int i
      | none, some _ => valueError s!"{← m.shown v} is not in range"
      | none, none => valueError "sequence.index(x): x not in sequence"

namespace ListMethod

def insertPlace (size : Nat) (i : Int) : Nat :=
  let i := if i < 0 then max 0 (i + size) else i
  min i.toNat size

def sort (m : Machine) (a : Address) (items : Array Value) (c : MethodCall) : Eval Value := do
  if !c.args.isEmpty && c.args.length + c.named.length ≤ 2 then
    typeError "sort() takes no positional arguments"
  discard <| c.mixed ["key", "reverse"]
  let reverse ← match Entries.find? c.named "reverse" with
    | some v => truth v
    | none => pure false
  let keyed ← items.toList.mapM fun v => do
    match Entries.find? c.named "key" with
    | none | some .null => return (v, v)
    | some f => return (← m.call f [v] [], v)
  let sorted ← sortItems m.less reverse keyed
  update a (.list sorted.toArray)
  return .null

def call (m : Machine) (a : Address) (items : Array Value) (name : String) (args : List Value)
    (named : Entries Value) : Eval Value := do
  let c : MethodCall := ⟨"list", name, args, named⟩
  match name with
  | "append" =>
      let v ← c.one
      update a (.list (items.push v))
      return .null
  | "clear" =>
      c.noArgs
      update a (.list #[])
      return .null
  | "copy" =>
      c.noArgs
      newList items.toList
  | "count" => return .int (← countItems m (← c.one) items.toList)
  | "extend" =>
      let more ← itemsOf m (← c.one)
      match ← object? a with
      | some (.list items) => update a (.list (items ++ more.toArray))
      | _ => pure ()
      return .null
  | "index" =>
      match ← placeWithin m c items.toList with
      | (_, some i) => return .int i
      | (v, none) => valueError s!"{← m.shown v} is not in list"
  | "insert" =>
      match ← c.between 2 2 with
      | i :: v :: _ =>
          let i := insertPlace items.size (← asIndex i)
          update a (.list (items.insertIdxIfInBounds i v))
          return .null
      | _ => return .null
  | "pop" =>
      let args ← c.between 0 1
      let i ← match args with
        | v :: _ => asIndex v
        | [] => pure (-1)
      if items.isEmpty then fail .index "pop from empty list"
      else
        match place? items.size i with
        | none => fail .index "pop index out of range"
        | some n =>
            update a (.list (items.eraseIdxIfInBounds n))
            return items[n]?.getD .null
  | "remove" =>
      match ← findItem m (← c.one) 0 items.toList with
      | some n =>
          update a (.list (items.eraseIdxIfInBounds n))
          return .null
      | none => valueError "list.remove(x): x not in list"
  | "reverse" =>
      c.noArgs
      update a (.list items.reverse)
      return .null
  | "sort" => sort m a items c
  | _ => fail .member s!"'list' object has no attribute '{name}'"

end ListMethod

/-! ### Maps -/

def pairOf (m : Machine) (index : Nat) (item : Value) : Eval (Value × Value) := do
  let isCollection ← match item with
    | .text _ | .markup _ | .tuple _ | .group _ _ | .range _ _ _ | .object _ | .view _ _ => pure true
    | .undefined message => fail .undefined message
    | _ => pure false
  if !isCollection then
    typeError s!"cannot convert dictionary update sequence element #{index} to a sequence"
  else
    let parts ← itemsOf m item
    match parts with
    | [k, v] =>
        requireHashable k
        return (k, v)
    | parts =>
        valueError s!"dictionary update sequence element #{index} has length {parts.length}; 2 is required"

/-- The entries that a value brings into a map: those of a map, or pairs. -/
def entriesOf (m : Machine) (v : Value) : Eval (List (Value × Value)) := do
  let pairs : Eval (List (Value × Value)) := do
    let items ← itemsOf m v
    items.zipIdx.mapM fun (item, i) => pairOf m i item
  match v with
  | .object a =>
      match ← object? a with
      | some (.map entries) => return entries
      | _ => pairs
  | _ => pairs

def insertEntries (entries more : List (Value × Value)) : List (Value × Value) :=
  more.foldl (fun acc (k, v) => insertKey k v acc) entries

def namedEntries (named : Entries Value) : List (Value × Value) :=
  named.map fun (n, v) => (.text n, v)

namespace MapMethod

def call (m : Machine) (a : Address) (entries : List (Value × Value)) (name : String) (args : List Value)
    (named : Entries Value) : Eval Value := do
  let c : MethodCall := ⟨"dict", name, args, named⟩
  match name with
  | "get" =>
      match ← c.between 1 2 with
      | k :: rest =>
          requireHashable k
          return (findKey? k entries).getD (rest.head?.getD .null)
      | [] => return .null
  | "keys" =>
      c.noArgs
      return .view .keys a
  | "values" =>
      c.noArgs
      return .view .values a
  | "items" =>
      c.noArgs
      return .view .items a
  | "clear" =>
      c.noArgs
      update a (.map [])
      return .null
  | "copy" =>
      c.noArgs
      newMap entries
  | "pop" =>
      match ← c.between 1 2 with
      | k :: rest =>
          if !entries.isEmpty then requireHashable k
          match findKey? k entries, rest with
          | some v, _ =>
              update a (.map (eraseKey k entries))
              return v
          | none, d :: _ => return d
          | none, [] => fail .key (← m.shown k)
      | [] => return .null
  | "fromkeys" =>
      match ← c.between 1 2 with
      | keys :: rest =>
          let keys ← itemsOf m keys
          keys.forM requireHashable
          newMap (insertEntries [] (keys.map fun k => (k, rest.head?.getD .null)))
      | [] => return .null
  | "popitem" =>
      c.noArgs
      match entries.getLast? with
      | some (k, v) =>
          update a (.map entries.dropLast)
          return .tuple [k, v]
      | none => fail .key "'popitem(): dictionary is empty'"
  | "setdefault" =>
      match ← c.between 1 2 with
      | k :: rest =>
          requireHashable k
          match findKey? k entries with
          | some v => return v
          | none =>
              let v := rest.head?.getD .null
              update a (.map (insertKey k v entries))
              return v
      | [] => return .null
  | "update" =>
      if args.length > 1 then
        typeError s!"update expected at most 1 argument, got {args.length}"
      let more ← match args with
        | v :: _ => entriesOf m v
        | [] => pure []
      update a (.map (insertEntries entries (more ++ namedEntries named)))
      return .null
  | _ => fail .member s!"'dict' object has no attribute '{name}'"

end MapMethod

/-! ### Sets -/

def insertItem (x : Value) (items : List Value) : List Value :=
  if items.any (sameKey x) then items else items ++ [x]

def callSet (m : Machine) (a : Address) (items : List Value) (name : String) (args : List Value)
    (named : Entries Value) : Eval Value := do
  let c : MethodCall := ⟨"set", name, args, named⟩
  let newSet (items : List Value) : Eval Value := do return .object (← alloc (.set items))
  let others : Eval (List Value) := do return (← args.mapM (itemsOf m)).flatten
  match name with
  | "add" =>
      let x ← c.one
      requireHashable x
      update a (.set (insertItem x items))
      return .null
  | "discard" | "remove" =>
      let x ← c.one
      requireHashable x
      if name == "remove" && !items.any (sameKey x) then fail .key (← m.shown x)
      update a (.set (items.filter fun y => !sameKey x y))
      return .null
  | "clear" =>
      c.noArgs
      update a (.set [])
      return .null
  | "copy" => newSet items
  | "pop" =>
      match items with
      | x :: rest =>
          update a (.set rest)
          return x
      | [] => fail .key "'pop from an empty set'"
  | "union" => newSet ((← others).foldl (fun acc x => insertItem x acc) items)
  | "update" =>
      update a (.set ((← others).foldl (fun acc x => insertItem x acc) items))
      return .null
  | "intersection" =>
      let ys ← others
      newSet (items.filter fun x => ys.any (sameKey x))
  | "difference" =>
      let ys ← others
      newSet (items.filter fun x => !ys.any (sameKey x))
  | "issubset" => return .bool (isSubset items (← others))
  | "issuperset" => return .bool (isSubset (← others) items)
  | "isdisjoint" =>
      let ys ← others
      return .bool (!items.any fun x => ys.any (sameKey x))
  | _ => fail .member s!"'set' object has no attribute '{name}'"

/-! ### All kinds -/

def callDate (t : Moment) (isMoment : Bool) (name : String) (args : List Value) (named : Entries Value) :
    Eval Value := do
  let c : MethodCall := ⟨if isMoment then "datetime.datetime" else "datetime.date", name, args, named⟩
  match name with
  | "isoformat" => return .text (if isMoment then t.isoText "T" else t.date.text)
  | "strftime" =>
      let pattern ← asTextArg (← c.one) fun kind => s!"strftime() argument 1 must be str, not {kind}"
      return .text (t.strftime (.ofList pattern))
  | "weekday" => return .int t.date.weekday
  | "isoweekday" => return .int (t.date.weekday + 1)
  | "toordinal" => return .int t.date.ordinal
  | "date" => return .date t.date
  | _ => fail .member s!"'{c.kind}' object has no attribute '{name}'"

def callMethod (m : Machine) (v : Value) (name : String) (args : List Value) (named : Entries Value) :
    Eval Value := do
  match v with
  | .text s | .markup s => TextMethod.call m v s name args named
  | .tuple items => callTuple m items name args named
  | .group k items => callTuple m [k, items] name args named
  | .range _ _ _ => do callRange m (← itemsOf m v) name args named
  | .bool _ | .int _ => do NumberMethod.callWhole (← kindName v) (v.int?.getD 0) name args named
  | .float x => NumberMethod.callReal x name args named
  | .date d => callDate ⟨d, 0, 0, 0, 0, none⟩ false name args named
  | .moment t => callDate t true name args named
  | .bytes b =>
      match name with
      | "decode" =>
          match Text.decodeUtf8 0 b with
          | .ok cs => return .text (.ofList cs)
          | .error failure => valueError failure.message
      | _ => return .text (.ofList (b.flatMap fun x => Text.hexDigits 2 x.toNat))
  | .object a =>
      match ← object? a with
      | some (.list items) => ListMethod.call m a items name args named
      | some (.map entries) => MapMethod.call m a entries name args named
      | some (.set items) => callSet m a items name args named
      | some (.cycler items position) =>
          if name == "next" then
            update a (.cycler items (if items.isEmpty then 0 else (position + 1) % items.length))
            return items[position]?.getD .null
          else
            update a (.cycler items 0)
            return .null
      | some (.loop l) => if name == "cycle" then loopCycle l args else loopChanged m a l args
      | _ => return .null
  | v => fail .member s!"'{← kindName v}' object has no attribute '{name}'"

end SqlPipeline.Template
