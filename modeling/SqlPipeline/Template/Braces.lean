/-
  SqlPipeline/Template/Braces.lean
  ================================
  **Filling a text whose fields stand between braces.**

  A field names an argument by number or name, or takes the next one; members of it may
  follow, then a conversion, then a layout, which may hold fields of its own.  A brace
  that is text is written twice.
-/
import SqlPipeline.Template.Member
import SqlPipeline.Template.Operate

namespace SqlPipeline.Template

open Eval

namespace Braces

/-- How fields without a name are counted. -/
inductive Numbering where
  | unknown
  | automatic (next : Nat)
  | manual

structure FieldArgs where
  positional : List Value
  named : Entries Value

/-! ### The parts of a field -/

/-- A field: what it names, its conversion and its layout. -/
structure Field where
  path : List Char
  conversion : Option Char := none
  spec : List Char := []

/-- The text up to the brace that closes the current field, nested braces included. -/
def takeSpec : (depth : Nat) → List Char → Option (List Char × List Char)
  | _, [] => none
  | depth, '\x7b' :: rest => (takeSpec (depth + 1) rest).map fun (b, r) => ('\x7b' :: b, r)
  | 0, '\x7d' :: rest => some ([], rest)
  | depth + 1, '\x7d' :: rest => (takeSpec depth rest).map fun (b, r) => ('\x7d' :: b, r)
  | depth, c :: rest => (takeSpec depth rest).map fun (b, r) => (c :: b, r)

/-- What a field names, up to the character that ends it, if one does; between square brackets
    no character does. -/
def takePath (inBrackets : Bool) : List Char → Except String (List Char × Option Char × List Char)
  | [] => .ok ([], none, [])
  | c :: rest =>
      if !inBrackets && c == '\x7b' then .error "unexpected '\x7b' in field name"
      else if !inBrackets && (c == '\x7d' || c == ':' || c == '!') then .ok ([], some c, rest)
      else (takePath (if inBrackets then c != ']' else c == '[') rest).map fun (path, found) => (c :: path, found)

def withSpec (f : Field) (cs : List Char) : Except String (Field × List Char) :=
  match takeSpec 0 cs with
  | some (spec, rest) => .ok ({ f with spec := spec }, rest)
  | none => .error "unmatched '\x7b' in format spec"

def takeField (cs : List Char) : Except String (Field × List Char) := do
  let (path, ending, rest) ← takePath false cs
  match ending, rest with
  | some '!', [] => throw "end of string while looking for conversion specifier"
  | some '!', c :: '\x7d' :: rest => return (⟨path, some c, []⟩, rest)
  | some '!', c :: ':' :: rest => withSpec ⟨path, some c, []⟩ rest
  | some '!', c :: [] => withSpec ⟨path, some c, []⟩ []
  | some '!', _ :: _ => throw "expected ':' after conversion specifier"
  | some ':', rest => withSpec ⟨path, none, []⟩ rest
  | some _, rest => return (⟨path, none, []⟩, rest)
  | none, _ => throw "expected '\x7d' before end of string"

/-! ### The value of a field -/

/-- The number that digits stand for; nothing if there is another character. -/
def index? (cs : List Char) : Eval (Option Nat) :=
  if cs.isEmpty || !cs.all Text.isDecimalDigit then return none
  else
    match Layout.takeCount cs with
    | .ok (n, _) => return n
    | .error e => valueError e.message

def argument (args : FieldArgs) (numbering : Numbering) (name : List Char) : Eval (Value × Numbering) := do
  let at_ (i : Nat) : Eval Value :=
    match args.positional[i]? with
    | some v => return v
    | none => fail .index s!"Replacement index {i} out of range for positional args tuple"
  if name.isEmpty then
    match numbering with
    | .manual =>
        valueError "cannot switch from manual field specification to automatic field numbering"
    | .unknown => return (← at_ 0, .automatic 1)
    | .automatic n => return (← at_ n, .automatic (n + 1))
  else
    match ← index? name, numbering with
    | some _, .automatic _ =>
        valueError "cannot switch from automatic field numbering to manual field specification"
    | some n, _ => return (← at_ n, .manual)
    | none, _ =>
        match args.named.find? (String.ofList name) with
        | some v => return (v, numbering)
        | none => fail .key (Text.quoted (.ofList name))

/-- Fails because a value has no item under a key that fields can have. -/
def noItem (m : Machine) (v key : Value) : Eval Value := do
  let (kind, owner) ← match v with
    | .text _ | .markup _ => pure ("string", "string")
    | .tuple _ | .group _ _ => pure ("tuple", "tuple")
    | .bytes _ => pure ("", "byte")
    | .range _ _ _ => pure ("range object", "range")
    | .object a =>
        match ← object? a with
        | some (.list _) => pure ("list", "list")
        | some (.map _) => fail .key (← m.shown key)
        | _ => typeError s!"'{← kindName v}' object is not subscriptable"
    | v => typeError s!"'{← kindName v}' object is not subscriptable"
  match key, owner with
  | .text _, "string" => typeError "string indices must be integers, not 'str'"
  | .text _, owner => typeError s!"{owner} indices must be integers or slices, not str"
  | _, _ => fail .index ((if kind.isEmpty then "" else kind ++ " ") ++ "index out of range")

/-- The members behind a field's name; `n` bounds their number. -/
def members (m : Machine) : (n : Nat) → Value → List Char → Eval Value
  | 0, v, _ => return v
  | _, v, [] => return v
  | n + 1, v, '.' :: rest => do
      let name := String.ofList (rest.takeWhile fun c => c != '.' && c != '[')
      if name.isEmpty then valueError "Empty attribute in format string"
      match ← kindMember? m v name with
      | some w => members m n w (rest.dropWhile fun c => c != '.' && c != '[')
      | none =>
          lookBehind v name
          fail .member s!"'{← kindName v}' object has no attribute '{name}'"
  | n + 1, v, '[' :: rest => do
      let key := rest.takeWhile (· != ']')
      match rest.dropWhile (· != ']') with
      | [] => valueError "Missing ']' in format string"
      | _ :: rest =>
          let index : Value := match ← index? key with
            | some i => .int i
            | none => .text (.ofList key)
          if key.isEmpty then valueError "Empty attribute in format string"
          match ← item? v index with
          | some w => members m n w rest
          | none => noItem m v index
  | _, _, _ => valueError "Only '.' or '[' may follow ']' in format field specifier"

def layOut (m : Machine) (v : Value) (spec : String) : Eval String := do
  let ok (r : Except LayoutError String) : Eval String :=
    match r with
    | .ok s => return s
    | .error e => fail (if e.isOverflow then .overflow else .value) e.message
  if spec.isEmpty then m.written v
  else
    match v with
    | .undefined message => fail .undefined message
    | .text s | .markup s => ok (Layout.formatText spec s)
    | .int n => ok (Layout.formatInt "int" spec n (Decimal.ofInt n))
    | .bool b => ok (Layout.formatInt "bool" spec (Data.boolNumber b) (Decimal.ofInt (Data.boolNumber b)))
    | .float x => ok (Layout.formatFloat spec x)
    | .date d => return (Moment.mk d 0 0 0 0 none).strftime spec
    | .moment t => return t.strftime spec
    | v => typeError s!"unsupported format string passed to {← kindName v}.__format__"

def converted (m : Machine) (conversion : Option Char) (v : Value) : Eval Value := do
  match conversion with
  | none => return v
  | some 's' => return .text (← m.written v)
  | some 'r' => return .text (← m.shown v)
  | some 'a' => return .text (Text.asciiOnly (← m.shown v))
  | some c =>
      let shown := if 32 < c.toNat && c.toNat < 127 then String.ofList [c]
        else "\\x" ++ Layout.digitsIn 16 c.toNat
      valueError s!"Unknown conversion specifier {shown}"

/-- Fills fields; `depth` bounds how far they are nested, `n` the length of the text. -/
def fill (m : Machine) (args : FieldArgs) : (depth n : Nat) → Numbering → List Char → Eval (String × Numbering)
  | _, 0, numbering, _ => return ("", numbering)
  | _, _, numbering, [] => return ("", numbering)
  | depth, n + 1, numbering, '\x7b' :: '\x7b' :: rest => do
      let (tail, numbering) ← fill m args depth n numbering rest
      return ("\x7b" ++ tail, numbering)
  | depth, n + 1, numbering, '\x7d' :: '\x7d' :: rest => do
      let (tail, numbering) ← fill m args depth n numbering rest
      return ("\x7d" ++ tail, numbering)
  | _, _, _, '\x7d' :: _ => valueError "Single '\x7d' encountered in format string"
  | 0, _, _, '\x7b' :: _ => valueError "Max string recursion exceeded"
  | depth + 1, n + 1, numbering, '\x7b' :: rest => do
      if rest.isEmpty then valueError "Single '\x7b' encountered in format string"
      match takeField rest with
      | .error message => valueError message
      | .ok (f, rest) =>
          let name := f.path.takeWhile fun c => c != '.' && c != '['
          let (v, numbering) ← argument args numbering name
          let v ← members m (f.path.length + 1) v (f.path.drop name.length)
          let v ← converted m f.conversion v
          let (spec, numbering) ← fill m args depth n numbering f.spec
          let s ← layOut m v spec
          let (tail, numbering) ← fill m args (depth + 1) n numbering rest
          return (s ++ tail, numbering)
  | depth, n + 1, numbering, c :: rest => do
      let (tail, numbering) ← fill m args depth n numbering rest
      return (String.ofList [c] ++ tail, numbering)

def format (m : Machine) (s : String) (args : List Value) (named : Entries Value) : Eval String := do
  let cs := s.toList
  return (← fill m ⟨args, named⟩ 2 (cs.length + 1) .unknown cs).1

end Braces

end SqlPipeline.Template
