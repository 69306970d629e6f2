/-
  SqlPipeline/Template/TextMethod/Recode.lean
  ===========================================
  **Texts in other forms: as bytes, and character by character through a table.**

  A table maps the number of a character to a text, to the number of another character, or
  to nothing; characters without an entry stay.
-/
import SqlPipeline.Template.MethodArgs

namespace SqlPipeline.Template

open Eval

namespace Recode

/-! ### Bytes -/

def plainName (s : List Char) : String :=
  .ofList (s.map fun c => if c == '-' || c == ' ' then '_' else c.toLower)

def smallEncodings : List (String × (String × Nat)) :=
  (["ascii", "us_ascii", "646"].map fun n => (n, "ascii", 128))
    ++ (["latin_1", "latin1", "iso_8859_1", "iso8859_1", "8859", "cp819", "latin", "l1"].map fun n =>
      (n, "latin-1", 256))

def smallBytes (encoding : String) (limit : Nat) (s : List Char) : Eval (List UInt8) := do
  match s.dropWhile (·.toNat < limit) with
  | [] => return s.map fun c => UInt8.ofNat c.toNat
  | c :: rest =>
      let start := s.length - (c :: rest).length
      let more := (rest.takeWhile (limit ≤ ·.toNat)).length
      let which := if more == 0 then "character '" ++ .ofList (Text.asciiChar c) ++ "'" else "characters"
      let place := if more == 0 then s!"{start}" else s!"{start}-{start + more}"
      valueError s!"'{encoding}' codec can't encode {which} in position {place}: ordinal not in range({limit})"

def encode (c : MethodCall) (s : String) : Eval Value := do
  let found ← c.mixed ["encoding", "errors"]
  let name ← match found.head? with
    | some (some v) => do pure (plainName (← textArgument c "'encoding' " v))
    | _ => pure "utf_8"
  match found[1]? with
  | some (some v) => discard <| textArgument c "'errors' " v
  | _ => pure ()
  if ["utf_8", "utf8", "u8", "utf"].contains name then return .bytes s.toUTF8.toList
  else
    match smallEncodings.lookup name with
    | some (encoding, limit) => return .bytes (← smallBytes encoding limit s.toList)
    | none =>
        let given := match found.head? with
          | some (some v) => (v.text?).getD ""
          | _ => ""
        valueError ("unknown encoding: " ++ given)

/-! ### Tables -/

def keyOf (c : Char) : Value :=
  .int c.toNat

def entryKey (k : Value) : Eval Value := do
  match k.text?.map String.toList, k.int? with
  | some [c], _ => return keyOf c
  | some _, _ => valueError "string keys in translate table must be of length 1"
  | none, some _ => return k
  | none, none => typeError "keys in translate table must be strings or integers"

/-- Makes a table from a map, or from two texts character by character and a third one whose
    characters go. -/
def makeTable (c : MethodCall) : Eval Value := do
  match ← c.between 1 3 with
  | [v] =>
      let refuse : Eval Value := typeError "if you give only one argument to maketrans it must be a dict"
      match v with
      | .object a =>
          match ← object? a with
          | some (.map entries) =>
              newMap (← entries.foldlM (fun acc (k, w) => do return insertKey (← entryKey k) w acc) [])
          | _ => refuse
      | _ => refuse
  | x :: y :: rest =>
      let target ← textArgument c "2 " y
      let gone ← match rest with
        | z :: _ => textArgument c "3 " z
        | [] => pure []
      match x.text?.map String.toList with
      | none => typeError "first maketrans argument must be a string if there is a second argument"
      | some source =>
          if source.length != target.length then
            valueError "the first two maketrans arguments must have equal length"
          else
            let entries := (source.zip target).foldl (fun acc (a, b) => insertKey (keyOf a) (keyOf b) acc) []
            newMap (gone.foldl (fun acc a => insertKey (keyOf a) .null acc) entries)
  | [] => return .null

def lookUp (table : Value) (c : Char) : Eval (List Char) := do
  match table with
  | .null | .bool _ | .int _ | .float _ => typeError s!"'{← kindName table}' object is not subscriptable"
  | _ => pure ()
  match ← item? table (keyOf c) with
  | none => return [c]
  | some .null => return []
  | some v =>
      match v.text?, v.int? with
      | some s, _ => return s.toList
      | none, some n =>
          if 0 ≤ n && n < 0x110000 then return [Char.ofNat n.toNat]
          else valueError "character mapping must be in range(0x110000)"
      | none, none => typeError "character mapping must return integer, None or str"

def translate (c : MethodCall) (s : List Char) : Eval (List Char) := do
  let table ← c.one
  return (← s.mapM (lookUp table)).flatten

end Recode

end SqlPipeline.Template
