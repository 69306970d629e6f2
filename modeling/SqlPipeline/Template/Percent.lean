/-
  SqlPipeline/Template/Percent.lean
  =================================
  **Filling a text whose fields start with a percent sign.**

  A field may name an entry of a map; without names the fields take values in order.
  All values of a tuple have to be used.
-/
import SqlPipeline.Template.Layout.Read
import SqlPipeline.Template.Iterate

namespace SqlPipeline.Template

open Eval

structure FieldValues where
  items : List Value          -- those that are left
  map : Option Value          -- where named fields look
  single : Bool               -- whether there was one value and no tuple of them

namespace Percent

def takeFlags (l : Layout) (leftAligned zero : Bool) : List Char → Layout × Bool × Bool × List Char
  | '-' :: rest => takeFlags l true zero rest
  | '0' :: rest => takeFlags l leftAligned true rest
  | '+' :: rest => takeFlags { l with sign := some '+' } leftAligned zero rest
  | ' ' :: rest => takeFlags (if l.sign == some '+' then l else { l with sign := some ' ' }) leftAligned zero rest
  | '#' :: rest => takeFlags { l with alternate := true } leftAligned zero rest
  | rest => (l, leftAligned, zero, rest)

def next (vs : FieldValues) : Eval (Value × FieldValues) :=
  match vs.items with
  | v :: rest => return (v, { vs with items := rest })
  | [] => typeError "not enough arguments for format string"

def toFloat (v : Value) : Eval Float := do
  match v with
  | .float x => return x
  | v =>
      match v.int? with
      | some n =>
          let x := Decimal.ofInt n
          if x.isInf then fail .overflow "int too large to convert to float" else return x
      | none => typeError s!"must be real number, not {← kindName v}"

def toWhole (conversion : Char) (v : Value) : Eval Int := do
  match v with
  | .float x =>
      match Decimal.Binary.ofFloat x with
      | .infinite _ => fail .overflow "cannot convert float infinity to integer"
      | .undefined => valueError "cannot convert float NaN to integer"
      | b => return (b.truncate?.getD 0)
  | v =>
      match v.int? with
      | some n => return n
      | none => typeError s!"%{conversion} format: a real number is required, not {← kindName v}"

def wholeText (l : Layout) (n : Int) : String :=
  let body := { l with width := 0, precision := none, alternate := false, sign := none }.intText n.natAbs
  let digits := Decimal.zeroPadded (l.precision.getD 0) body
  let mark := if l.alternate then
      match l.type with
      | some 'x' => "0x"
      | some 'X' => "0X"
      | some 'o' => "0o"
      | _ => ""
    else ""
  Layout.pad l.fill (l.align.getD '>') l.width (l.signText (n < 0) ++ mark) digits

def fill (m : Machine) (escape : Bool) (l : Layout) (zero leftAligned : Bool) (conversion : Char)
    (position : Nat) (vs : FieldValues) : Eval (String × FieldValues) := do
  let side := if leftAligned then some '<' else some '>'
  let l := { l with align := side }
  let numeric := if zero && !leftAligned then { l with fill := '0', align := some '=' } else l
  match conversion with
  | 's' | 'r' | 'a' => do
      let (v, vs) ← next vs
      let s ← if conversion == 's' then (if escape then escaped m v else m.written v)
        else do
          let s ← m.shown v
          pure (if escape then escapeText s else s)
      let s := if conversion == 'a' then Text.asciiOnly s else s
      return (l.text s, vs)
  | 'd' | 'i' | 'u' => do
      let (v, vs) ← next vs
      return (wholeText { numeric with type := some 'd' } (← toWhole conversion v), vs)
  | 'o' | 'x' | 'X' => do
      let (v, vs) ← next vs
      match v.int? with
      | some n => return (wholeText { numeric with type := some conversion } n, vs)
      | none => typeError s!"%{conversion} format: an integer is required, not {← kindName v}"
  | 'e' | 'E' | 'f' | 'F' | 'g' | 'G' => do
      let (v, vs) ← next vs
      return ({ numeric with type := some conversion }.floatText (← toFloat v), vs)
  | 'c' => do
      let (v, vs) ← next vs
      match v.text?.map String.toList, v.int? with
      | some [c], _ => return ({ l with precision := none }.text (.ofList [c]), vs)
      | _, some n =>
          if n < 0 || n > 0x10FFFF then fail .overflow "%c arg not in range(0x110000)"
          else return ({ l with precision := none }.text (.ofList [Char.ofNat n.toNat]), vs)
      | _, none => typeError "%c requires int or char"
  | c => do
      let _ ← next vs
      let hex := Layout.digitsIn 16 c.toNat
      let shown := if 32 ≤ c.toNat && c.toNat < 127 then c else '?'
      valueError s!"unsupported format character '{shown}' (0x{hex}) at index {position}"

/-- A width or precision: digits, or a value for a star. -/
def takeCount (vs : FieldValues) (cs : List Char) : Eval (Option Int × FieldValues × List Char) := do
  match cs with
  | '*' :: rest =>
      let (v, vs) ← next vs
      match v with
      | .int n => return (some n, vs, rest)
      | _ => typeError "* wants int"
  | c :: rest =>
      if c.isDigit then
        let (n, rest) := Layout.takeNat 0 (c :: rest)
        return (some (n : Int), vs, rest)
      else return (none, vs, c :: rest)
  | [] => return (none, vs, [])

/-- The name between parentheses, which may hold balanced parentheses itself. -/
def takeName : (depth : Nat) → List Char → Option (List Char × List Char)
  | _, [] => none
  | depth, '(' :: rest => (takeName (depth + 1) rest).map fun (n, r) => ('(' :: n, r)
  | 0, ')' :: rest => some ([], rest)
  | depth + 1, ')' :: rest => (takeName depth rest).map fun (n, r) => (')' :: n, r)
  | depth, c :: rest => (takeName depth rest).map fun (n, r) => (c :: n, r)

def lookUp (vs : FieldValues) (name : String) : Eval Value := do
  match vs.map with
  | some (.object a) =>
      match ← object? a with
      | some (.map entries) =>
          match findKey? (.text name) entries with
          | some v => return v
          | none => fail .key (Text.quoted name)
      | _ => typeError "list indices must be integers or slices, not str"
  | some (.undefined message) => fail .undefined message
  | _ => typeError "format requires a mapping"

/-- One field, behind its percent sign; `total` is the length of the whole text. -/
def field (m : Machine) (escape : Bool) (total : Nat) (vs : FieldValues) (cs : List Char) :
    Eval (String × FieldValues × List Char) := do
  let (vs, cs) ← match cs with
    | '(' :: rest =>
        match takeName 0 rest with
        | none => valueError "incomplete format key"
        | some (name, rest) => do
            let v ← lookUp vs (.ofList name)
            pure ({ vs with items := [v], single := true }, rest)
    | cs => pure (vs, cs)
  let (l, leftAligned, zero, cs) := takeFlags {} false false cs
  let (width, vs, cs) ← takeCount vs cs
  let leftAligned := leftAligned || width.getD 0 < 0
  let (precision, vs, cs) ← match cs with
    | '.' :: rest => do
        let (p, vs, rest) ← takeCount vs rest
        pure (some ((p.getD 0).toNat), vs, rest)
    | cs => pure (none, vs, cs)
  let cs := match cs with
    | c :: rest => if c == 'h' || c == 'l' || c == 'L' then rest else cs
    | [] => cs
  match cs with
  | [] => valueError "incomplete format"
  | conversion :: rest =>
      let l := { l with width := (width.getD 0).natAbs, precision := precision }
      let (s, vs) ← fill m escape l zero leftAligned conversion (total - rest.length - 1) vs
      return (s, vs, rest)

/-- Fills all fields of a text; `n` bounds its length. -/
def fillAll (m : Machine) (escape : Bool) (total : Nat) : (n : Nat) → FieldValues → List Char →
    Eval (String × FieldValues)
  | 0, vs, _ => return ("", vs)
  | n + 1, vs, cs => do
      let literal := String.ofList (cs.takeWhile (· != '%'))
      match cs.dropWhile (· != '%') with
      | [] => return (literal, vs)
      | _ :: '%' :: rest =>
          let (tail, vs) ← fillAll m escape total n vs rest
          return (literal ++ "%" ++ tail, vs)
      | _ :: rest =>
          let (s, vs, rest) ← field m escape total vs rest
          let (tail, vs) ← fillAll m escape total n vs rest
          return (literal ++ s ++ tail, vs)

def isMapping (v : Value) : Eval Bool := do
  match v with
  | .undefined _ | .absent _ | .range _ _ _ => return true
  | .object a =>
      match ← object? a with
      | some (.list _) | some (.map _) => return true
      | _ => return false
  | _ => return false

def format (m : Machine) (escape : Bool) (s : String) (v : Value) : Eval String := do
  let cs := s.toList
  let mapping ← isMapping v
  let vs : FieldValues :=
    match v with
    | .tuple items => ⟨items, none, false⟩
    | .group k items => ⟨[k, items], none, false⟩
    | v => ⟨[v], if mapping then some v else none, true⟩
  let (filled, rest) ← fillAll m escape cs.length (cs.length + 1) vs cs
  if !rest.items.isEmpty && !mapping then
    typeError "not all arguments converted during string formatting"
  else return filled

end Percent

end SqlPipeline.Template
