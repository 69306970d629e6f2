/-
  SqlPipeline/Template/Filter/Json.lean
  =====================================
  **Values as data-interchange text that is safe within markup.**

  Maps are written in the order of their keys, and characters that mean something in
  markup, or are not ASCII, are escaped.
-/
import SqlPipeline.Template.Filter.Basic

namespace SqlPipeline.Template

open Eval

namespace JsonFilter

def unit (n : Nat) : List Char :=
  '\\' :: 'u' :: Text.hexDigits 4 n

def quotedChar (c : Char) : List Char :=
  if c == '"' then ['\\', '"']
  else if c == '\\' then ['\\', '\\']
  else if c == '\n' then ['\\', 'n']
  else if c == '\r' then ['\\', 'r']
  else if c == '\t' then ['\\', 't']
  else if c.toNat == 8 then ['\\', 'b']
  else if c.toNat == 12 then ['\\', 'f']
  else if c == '<' || c == '>' || c == '&' || c == '\'' then unit c.toNat
  else if c.toNat < 32 || (c.toNat ≥ 127 && c.toNat < 0x10000) then unit c.toNat
  else if c.toNat ≥ 0x10000 then
    let n := c.toNat - 0x10000
    unit (0xD800 + n / 0x400) ++ unit (0xDC00 + n % 0x400)
  else [c]

def quotedText (s : String) : String :=
  .ofList ('"' :: (s.toList.flatMap quotedChar ++ ['"']))

def floatText (x : Float) : String :=
  if x.isNaN then "NaN"
  else if x.isInf then (if x < 0.0 then "-Infinity" else "Infinity")
  else Decimal.floatText x

def keyText (m : Machine) (k : Value) : Eval String := do
  match k with
  | .text s | .markup s => return s
  | .null => return "null"
  | .bool b => return if b then "true" else "false"
  | .int _ => m.written k
  | .float x => return floatText x
  | k => typeError s!"keys must be str, int, float, bool or None, not {← kindName k}"

/-- Line breaks between the items of a collection: none, or with a margin on each line. -/
def layOut (margin : Option String) (level : Nat) (opener closer : String) (items : List String) : String :=
  match margin with
  | none => opener ++ ", ".intercalate items ++ closer
  | some blank =>
      let line (n : Nat) := "\n" ++ String.join (List.replicate n blank)
      if items.isEmpty then opener ++ closer
      else opener ++ line (level + 1) ++ ("," ++ line (level + 1)).intercalate items ++ line level ++ closer

/-- Writes a value; `depth` bounds how far collections are nested. -/
def write (m : Machine) (margin : Option String) : (depth : Nat) → (level : Nat) → Value → Eval String
  | 0, _, _ => valueError "Circular reference detected"
  | depth + 1, level, v => do
      let items (vs : List Value) : Eval String := do
        return layOut margin level "[" "]" (← vs.mapM (write m margin depth (level + 1)))
      match v with
      | .null => return "null"
      | .bool b => return if b then "true" else "false"
      | .int _ => m.written v
      | .float x => return floatText x
      | .text s | .markup s => return quotedText s
      | .tuple vs => items vs
      | .group k vs => items [k, vs]
      | .object a =>
          match ← object? a with
          | some (.list vs) => items vs.toList
          | some (.map entries) =>
              let sorted ← sortItems m.less false (entries.map fun (k, w) => (k, .tuple [k, w]))
              let parts ← sorted.mapM fun entry => do
                match entry with
                | .tuple [k, w] =>
                    let name ← keyText m k
                    return quotedText name ++ ": " ++ (← write m margin depth (level + 1) w)
                | _ => return ""
              return layOut margin level "\x7b" "\x7d" parts
          | _ => typeError s!"Object of type {← shortKind v} is not JSON serializable"
      | v => typeError s!"Object of type {← shortKind v} is not JSON serializable"
where
  shortKind (v : Value) : Eval String := do
    match v with
    | .date _ => return "date"
    | .moment _ => return "datetime"
    | .context _ => return "partial"
    | v => kindName v

def run : FilterRun :=
  .ofSignature { name := "do_tojson", hidden := ["eval_ctx"], params := ["value", "indent"], required := 1 }
    fun m _ b => do
      let margin ← match b.arg 1 with
        | .null => pure none
        | .text s | .markup s => pure (some s)
        | v => pure (some (Text.filled (← asIndex v).toNat ' '))
      return .markup (← write m margin 200 0 (b.arg 0))

end JsonFilter

end SqlPipeline.Template
