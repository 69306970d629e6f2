/-
  SqlPipeline/Template/TextMethod.lean
  ====================================
  **Methods of texts.**

  A method of escaped text gives escaped text again.
-/
import SqlPipeline.Template.MethodArgs
import SqlPipeline.Template.TextMethod.Recode
import SqlPipeline.Text.Piece
import SqlPipeline.Text.Case
import SqlPipeline.Text.Entity
import SqlPipeline.Text.Word

namespace SqlPipeline.Template

open Eval Text

namespace TextMethod

/-- How many cuts or replacements a count allows; a negative one allows all. -/
def limitOf (count : Int) (all : Nat) : Nat :=
  if count < 0 then all else count.toNat

def fillChar (args : List Value) : Eval Char := do
  match args[1]? with
  | none => return ' '
  | some v =>
      match v.text?.map String.toList with
      | some [c] => return c
      | some _ => typeError "The fill character must be exactly one character long"
      | none => typeError s!"The fill character must be a unicode character, not {← kindName v}"

/-- Cuts a text at a separator, or at white space without one. -/
def split (c : MethodCall) (s : List Char) (fromRight : Bool) : Eval (List (List Char)) := do
  let found ← c.mixed ["sep", "maxsplit"]
  let count ← match found[1]? with
    | some (some v) => asIndex v
    | _ => pure (-1)
  let limit := limitOf count (s.length + 1)
  match found.head?.getD none with
  | none | some .null =>
      return if fromRight then splitWordsRight limit s else splitWords limit s
  | some v =>
      let sep ← asTextArg v fun kind => s!"must be str or None, not {kind}"
      if sep.isEmpty then valueError "empty separator"
      else return if fromRight then splitOnPatternRight sep limit s else splitOnPattern sep limit s

/-- Drops characters at the ends: white space, or those of an argument. -/
def strip (c : MethodCall) (s : List Char) (left right : Bool) : Eval (List Char) := do
  let args ← c.between 0 1
  let drop ← match args with
    | [] | [.null] => pure isBlank
    | v :: _ => do
        let chars ← asTextArg v fun _ => s!"{c.name} arg must be None or str"
        pure fun ch => chars.contains ch
  let s := if left then s.dropWhile drop else s
  return if right then (s.reverse.dropWhile drop).reverse else s

/-- Where a pattern stands, searched from the left or the right. -/
def find (c : MethodCall) (s : List Char) (fromRight : Bool) : Eval (Option Nat) := do
  let (v, rest) ← c.search
  let (offset, part, empty) ← window s rest
  let pattern ← asTextArg v fun kind => s!"must be str, not {kind}"
  if empty then return none
  else
    let at_ := if fromRight then lastIndexOfPattern? pattern part else indexOf? pattern part
    return at_.map (· + offset)

def hasAffix (c : MethodCall) (s : List Char) (atEnd : Bool) : Eval Bool := do
  let (v, rest) ← c.search
  let (_, part, empty) ← window s rest
  let fits (pattern : List Char) : Bool :=
    if empty then false
    else if atEnd then startsWith pattern.reverse part.reverse else startsWith pattern part
  match v with
  | .tuple items =>
      let patterns ← items.mapM fun item => asTextArg item fun kind =>
        s!"tuple for {c.name} must only contain str, not {kind}"
      return patterns.any fits
  | v =>
      let pattern ← asTextArg v fun kind =>
        s!"{c.name} first arg must be str or a tuple of str, not {kind}"
      return fits pattern

def partition (c : MethodCall) (s : List Char) (fromRight : Bool) : Eval (List (List Char)) := do
  let sep ← asTextArg (← c.one) fun kind => s!"must be str, not {kind}"
  if sep.isEmpty then valueError "empty separator"
  else
    let at_ := if fromRight then lastIndexOfPattern? sep s else indexOf? sep s
    match at_ with
    | some i => return [s.take i, sep, s.drop (i + sep.length)]
    | none => return if fromRight then [[], [], s] else [s, [], []]

def join (m : Machine) (v : Value) (c : MethodCall) (sep : String) : Eval Value := do
  let subject ← c.one
  let items ← match subject with
    | .undefined message => fail .undefined message
    | subject => do
        let ok ← match subject with
          | .text _ | .markup _ | .tuple _ | .group _ _ | .range _ _ _ | .view _ _ | .object _ | .bytes _ => pure true
          | _ => pure false
        if ok then itemsOf m subject else typeError "can only join an iterable"
  match v with
  | .markup _ => return .markup (sep.intercalate (← items.mapM (escaped m)))
  | _ =>
      let parts ← items.zipIdx.mapM fun (item, i) => do
        match item.text? with
        | some s => return s
        | none => typeError s!"sequence item {i}: expected str instance, {← kindName item} found"
      return .text (sep.intercalate parts)

def zeroFill (width : Nat) (s : List Char) : List Char :=
  let zeros := List.replicate (width - s.length) '0'
  match s with
  | '+' :: rest => '+' :: (zeros ++ rest)
  | '-' :: rest => '-' :: (zeros ++ rest)
  | s => zeros ++ s

/-- Blanks to the left and right of a centred text of `length` characters. -/
def centring (width length : Nat) : Nat × Nat :=
  let pad := width - length
  let left := pad / 2 + (if pad % 2 == 1 && width % 2 == 1 then 1 else 0)
  (left, pad - left)

def allOf (p : Char → Bool) (s : List Char) : Bool :=
  !s.isEmpty && s.all p

def predicate? (name : String) : Option (List Char → Bool) :=
  match name with
  | "isalnum" => some (allOf isLetterOrDigit)
  | "isalpha" => some (allOf isLetter)
  | "isascii" => some (·.all (·.toNat < 128))
  | "isdecimal" => some (allOf isDecimalDigit)
  | "isdigit" => some (allOf isDigitLike)
  | "isnumeric" => some (allOf numericSet.mem)
  | "isidentifier" => some isIdentifier
  | "islower" => some isLowerText
  | "isupper" => some isUpperText
  | "isprintable" => some (·.all isPrintable)
  | "isspace" => some (allOf isBlank)
  | "istitle" => some isTitleText
  | _ => none

def transform? (name : String) : Option (List Char → List Char) :=
  match name with
  | "capitalize" => some capitalize
  | "casefold" => some foldCase
  | "lower" => some lower
  | "upper" => some upper
  | "title" => some title
  | "swapcase" => some swapCase
  | _ => none

def call (m : Machine) (v : Value) (s : String) (name : String) (args : List Value) (named : Entries Value) :
    Eval Value := do
  let c : MethodCall := ⟨"str", name, args, named⟩
  let cs := s.toList
  let like (cs : List Char) : Value := v.textLike (.ofList cs)
  match predicate? name, transform? name with
  | some p, _ =>
      c.noArgs
      return .bool (p cs)
  | _, some f =>
      c.noArgs
      return like (f cs)
  | none, none =>
      match name with
      | "split" => newList ((← split c cs false).map like)
      | "rsplit" => newList ((← split c cs true).map like)
      | "strip" => return like (← strip c cs true true)
      | "lstrip" => return like (← strip c cs true false)
      | "rstrip" => return like (← strip c cs false true)
      | "find" => return .int (((← find c cs false).map fun n => (n : Int)).getD (-1))
      | "rfind" => return .int (((← find c cs true).map fun n => (n : Int)).getD (-1))
      | "index" | "rindex" =>
          match ← find c cs (name == "rindex") with
          | some n => return .int n
          | none => valueError "substring not found"
      | "count" =>
          let (p, rest) ← c.search
          let (_, part, empty) ← window cs rest
          let pattern ← asTextArg p fun kind => s!"must be str, not {kind}"
          return .int (if empty then 0 else countPattern pattern part)
      | "startswith" => return .bool (← hasAffix c cs false)
      | "endswith" => return .bool (← hasAffix c cs true)
      | "partition" => return .tuple ((← partition c cs false).map like)
      | "rpartition" => return .tuple ((← partition c cs true).map like)
      | "join" => join m v c s
      | "replace" =>
          match ← c.between 2 3 with
          | old :: new :: rest =>
              let old ← textArgument c "1 " old
              let newText ← textArgument c "2 " new
              let newText := match v, new with
                | .markup _, .text t => (escapeText t).toList
                | _, _ => newText
              let count ← match rest with
                | n :: _ => asIndex n
                | [] => pure (-1)
              return like (replaceAll old newText (limitOf count (cs.length + 1)) cs)
          | _ => return v
      | "removeprefix" =>
          let p ← textArgument c "" (← c.one)
          return like ((dropPattern? p cs).getD cs)
      | "removesuffix" =>
          let p ← textArgument c "" (← c.one)
          return like (if p.isEmpty then cs else ((dropPattern? p.reverse cs.reverse).map List.reverse).getD cs)
      | "zfill" => return like (zeroFill (← asIndex (← c.one)).toNat cs)
      | "center" | "ljust" | "rjust" =>
          let args ← c.between 1 2
          let width := (← asIndex (args[0]?.getD .null)).toNat
          let fill ← fillChar args
          let blanks (n : Nat) := List.replicate n fill
          if name == "ljust" then return like (cs ++ blanks (width - cs.length))
          else if name == "rjust" then return like (blanks (width - cs.length) ++ cs)
          else
            let (left, right) := centring width cs.length
            return like (blanks left ++ cs ++ blanks right)
      | "expandtabs" =>
          let found ← c.mixed ["tabsize"]
          let size ← match found[0]? with
            | some (some n) => asIndex n
            | _ => pure 8
          return like (expandTabs size.toNat cs)
      | "splitlines" =>
          let found ← c.mixed ["keepends"]
          let keep ← match found[0]? with
            | some (some k) => do pure ((← asIndex k) != 0)
            | _ => pure false
          newList ((if keep then splitLinesKeeping cs else splitLines cs).map like)
      | "format" => return v.textLike (← Braces.format m s args named)
      | "format_map" =>
          let entries ← match ← c.one with
            | .object a => entriesAt a
            | _ => pure []
          return v.textLike (← Braces.format m s [] (entries.filterMap fun (k, x) => k.text?.map fun n => (n, x)))
      | "encode" => Recode.encode c s
      | "maketrans" => Recode.makeTable c
      | "translate" => return like (← Recode.translate c cs)
      | "unescape" => return .text (.ofList (Entity.decode cs))
      | "striptags" => return .text (.ofList (stripTags cs))
      | _ => fail .member s!"'str' object has no attribute '{name}'"

end TextMethod

end SqlPipeline.Template
