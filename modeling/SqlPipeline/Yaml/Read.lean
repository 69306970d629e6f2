/-
  SqlPipeline/Yaml/Read.lean
  ==========================
  **The data of a YAML document.**

  A node's tag says what its text or its parts stand for.  A map may take over the
  entries of other maps; its own entries win over those, and of the others the first.
-/
import SqlPipeline.Yaml.Node
import SqlPipeline.Text.Base64
import SqlPipeline.Text.Case

namespace SqlPipeline.Yaml

namespace Scalar

/-! ### Scalars -/

/-- The sign in front of a number as a factor, and the number without it. -/
def signed (text : List Char) : Except Fault (Bool × List Char) :=
  match text with
  | [] => .error .emptyNumber
  | c :: _ => .ok (c == '-', unsigned text)

def wholeIn (base : Nat) (digits : List Char) : Except Fault Int :=
  match Decimal.readInt? base digits with
  | some n => .ok n
  | none => .error (.whole base (.ofList digits))

def whole (text : String) : Except Fault Int := do
  let (negative, digits) ← signed (text.toList.filter (· != '_'))
  let n ←
    match digits with
    | [] => .error .emptyNumber
    | ['0'] => .ok 0
    | '0' :: 'b' :: digits => wholeIn 2 digits
    | '0' :: 'x' :: digits => wholeIn 16 digits
    | '0' :: _ => wholeIn 8 digits
    | _ =>
        if digits.contains ':' then do
          let parts ← (Text.splitAt ':' digits).mapM (wholeIn 10)
          pure (parts.foldl (fun n part => n * 60 + part) 0)
        else wholeIn 10 digits
  return if negative then -n else n

def fractionPart (digits : List Char) : Except Fault Float :=
  match Decimal.readFloat? digits with
  | some x => .ok x
  | none => .error (.fraction (.ofList digits))

/-- The sum of parts by powers of sixty, the last part being the units. -/
def bySixties (parts : List Float) : Float :=
  (parts.reverse.foldl (fun (sum, base) part => (sum + part * Float.ofNat base, base * 60)) (0.0, 1)).1

def fraction (text : String) : Except Fault Float := do
  let (negative, digits) ← signed (Text.lower (text.toList.filter (· != '_')))
  let positive ←
    if digits == ".inf".toList then .ok (1.0 / 0.0)
    else if digits == ".nan".toList then return 0.0 / 0.0
    else if digits.contains ':' then do
      let parts ← (Text.splitAt ':' digits).mapM fractionPart
      pure (bySixties parts)
    else fractionPart digits
  return if negative then -positive else positive

def truth (text : String) : Except Fault Bool :=
  let name := String.ofList (Text.lower text.toList)
  if ["yes", "true", "on"].contains name then .ok true
  else if ["no", "false", "off"].contains name then .ok false
  else .error (.truth name)

def moment (text : String) : Except Fault Data := do
  let some r := Reading.ofText? text.toList | .error .noMoment
  match r.offset with
  | some seconds => if seconds.natAbs ≥ 86400 then throw (.offset seconds)
  | none => pure ()
  let date ← (Date.ofNumbers r.year r.month r.day).mapError .calendar
  match r.clock with
  | none => return .date date
  | some (hour, minute, second, millionths) =>
      return .moment (← (Moment.ofNumbers date hour minute second millionths r.offset).mapError .calendar)

def bytes (text : String) : Except Fault (List UInt8) :=
  if text.toList.all (·.toNat < 128) then
    match Text.Base64.decode? text with
    | some bytes => .ok bytes
    | none => .error .malformed
  else .error .malformed

def toData (kind text : String) : Except Fault Data :=
  if kind == coreTag "str" then .ok (.text text)
  else if kind == coreTag "null" then .ok .null
  else if kind == coreTag "bool" then (truth text).map .bool
  else if kind == coreTag "int" then (whole text).map .int
  else if kind == coreTag "float" then (fraction text).map .float
  else if kind == coreTag "timestamp" then moment text
  else if kind == coreTag "binary" then (bytes text).map .bytes
  else .error .malformed

end Scalar

namespace Node

/-! ### Collections -/

/-- Whether a node, as a key, takes over the entries of its value. -/
def isMerge : Node → Bool
  | .scalar tag _ => tag == coreTag "merge"
  | _ => false

/-- A key for the value that a map stands for; it counts as a text where a map is meant. -/
def isDefault : Node → Bool
  | .scalar tag _ => tag == coreTag "value"
  | _ => false

/-- The text of a node: of a scalar, or of a map's default entry. -/
def text? : Node → Option String
  | .scalar _ text => some text
  | .map _ entries => defaultText? entries
  | _ => none
where
  defaultText? : List (Node × Node) → Option String
    | [] => none
    | (k, v) :: rest => if k.isDefault then text? v else defaultText? rest

def isKeyData : Data → Bool
  | .list _ | .set _ | .map _ => false
  | _ => true

/-- The map with these entries; of two with the same key the later wins. -/
def mapOf (entries : List (Data × Data)) : List (Data × Data) :=
  entries.foldl (fun acc (k, v) => Data.insert k v acc) []

def keySet (entries : List (Data × Data)) : Data :=
  .set ((mapOf entries).map (·.1))

def kindIs (kind tag : String) : Bool :=
  tag == coreTag kind

mutual

def toData : Node → Except Fault Data
  | .endless => .error .endless
  | .scalar tag text => Scalar.toData tag text
  | .list tag items =>
      if kindIs "seq" tag then (dataOf items).map .list
      else if kindIs "omap" tag || kindIs "pairs" tag then (pairsOf items).map .list
      else .error .malformed
  | .map tag entries =>
      if kindIs "map" tag then (entriesOf entries).map fun (taken, own) => .map (mapOf (taken ++ own))
      else if kindIs "set" tag then (entriesOf entries).map fun (taken, own) => keySet (taken ++ own)
      else
        match text?.defaultText? entries with
        | some text => Scalar.toData tag text
        | none => .error .malformed

def dataOf : List Node → Except Fault (List Data)
  | [] => .ok []
  | node :: rest => do
      let d ← toData node
      return d :: (← dataOf rest)

def pairsOf : List Node → Except Fault (List Data)
  | [] => .ok []
  | .map _ [(k, v)] :: rest => do
      let key ← toData k
      let value ← toData v
      return .tuple [key, value] :: (← pairsOf rest)
  | _ :: _ => .error .malformed

/-- The entries that a map takes over from others, and its own. -/
def entriesOf : List (Node × Node) → Except Fault (List (Data × Data) × List (Data × Data))
  | [] => .ok ([], [])
  | (k, v) :: rest => do
      if isMerge k then
        let merged ← merged v
        let (taken, own) ← entriesOf rest
        return (merged ++ taken, own)
      else
        let key ← if isDefault k then .ok (.text ((text? k).getD "")) else toData k
        if !isKeyData key then throw .malformed
        let value ← toData v
        let (taken, own) ← entriesOf rest
        return (taken, (key, value) :: own)

def merged : Node → Except Fault (List (Data × Data))
  | .map _ entries => (entriesOf entries).map fun (taken, own) => taken ++ own
  | .list _ items => mergedAll items
  | .endless => .error .endless
  | .scalar _ _ => .error .malformed

/-- The entries of several maps, those of the first coming last, so that they win. -/
def mergedAll : List Node → Except Fault (List (Data × Data))
  | [] => .ok []
  | .map _ entries :: rest => do
      let (taken, own) ← entriesOf entries
      return (← mergedAll rest) ++ taken ++ own
  | .endless :: _ => .error .endless
  | _ :: _ => .error .malformed

end

end Node

/-- The data of a YAML text; an empty text has none, which is the same as nothing. -/
def read (text : String) : Except Fault Data := do
  match ← Node.ofText text with
  | some node => node.toData
  | none => return .null

end SqlPipeline.Yaml
