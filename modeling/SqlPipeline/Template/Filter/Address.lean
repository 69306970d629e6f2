/-
  SqlPipeline/Template/Filter/Address.lean
  ========================================
  **Addresses of the web: quoting values for them, and finding them in a text.**

  A word of a text is an address when it has a scheme or starts like one, or when it ends
  in one of the oldest domains; brackets and full stops around it are none of its parts.
-/
import SqlPipeline.Template.Filter.Basic
import SqlPipeline.Template.Enter
import SqlPipeline.Text.Piece

namespace SqlPipeline.Template

open Eval Text

namespace AddressFilter

/-! ### Quoting -/

def quotedByte (keepSlash : Bool) (b : UInt8) : List Char :=
  let c := Char.ofNat b.toNat
  if isAsciiLetter c || isAsciiDigit c || "_.-~".toList.contains c || (keepSlash && c == '/') then [c]
  else '%' :: (hexDigits 2 b.toNat).map Char.toUpper

def quotedAddress (keepSlash : Bool) (s : String) : String :=
  .ofList (s.toUTF8.toList.flatMap (quotedByte keepSlash))

def quotedParameter (m : Machine) (v : Value) : Eval String := do
  return (quotedAddress false (← m.written v)).replace "%20" "+"

/-- Quotes a text, or the pairs of a map or list, for an address. -/
def urlEncode : FilterRun :=
  .ofParams "do_urlencode" ["value"] 1 fun m _ b => do
    let v := b.arg 0
    let pairs (items : List Value) : Eval Value := do
      let parts ← items.mapM fun item => do
        match ← unpack m 2 item with
        | [k, w] => return (← quotedParameter m k) ++ "=" ++ (← quotedParameter m w)
        | _ => return ""
      return .text ("&".intercalate parts)
    match v with
    | .tuple _ | .group _ _ | .range _ _ _ | .view _ _ => pairs (← itemsOf m v)
    | .object a =>
        match ← object? a with
        | some (.map entries) => pairs (entries.map fun (k, w) => .tuple [k, w])
        | some (.list _) | some (.set _) | some (.iterator _) => pairs (← itemsOf m v)
        | _ => return .text (quotedAddress true (← m.written v))
    | v => return .text (quotedAddress true (← m.written v))

/-! ### Hosts -/

def isDomainChar (c : Char) : Bool :=
  isWord c || c == '%' || c == '-'

def isHexDigit (c : Char) : Bool :=
  isDecimalDigit c || ('a' ≤ c.toLower && c.toLower ≤ 'f')

def startsInAnyCase (start : String) (s : List Char) : Bool :=
  (s.take start.length).map Char.toLower == start.toList

def isTopDomain (s : List Char) : Bool :=
  (s.all isAsciiLetter && 2 ≤ s.length && s.length ≤ 63)
    || (startsInAnyCase "xn--" s && (s.drop 4).all (fun c => isWord c || c == '%')
      && 6 ≤ s.length && s.length ≤ 63)

def isDomain (s : List Char) : Bool :=
  match (splitAt '.' s).reverse with
  | [] => false
  | top :: parts => isTopDomain top && parts.all fun part => !part.isEmpty && part.all isDomainChar

/-- Whether a text is a domain that needs no scheme to be known as one. -/
def isKnownDomain (s : List Char) : Bool :=
  match (splitAt '.' s).reverse with
  | top :: part :: parts =>
      ["com", "net", "int", "edu", "gov", "org", "info", "mil"].contains (String.ofList (top.map Char.toLower))
        && (part :: parts).all fun part => 2 ≤ part.length && part.length ≤ 63 && part.all isDomainChar
  | _ => false

def isFourNumbers (s : List Char) : Bool :=
  let parts := splitAt '.' s
  parts.length == 4
    && parts.all fun part => !part.isEmpty && part.length ≤ 3 && part.all isDecimalDigit

/-- How many groups of at most four digits, each with a colon or without, make up a text;
    `used` digits of the current one have been taken. -/
def groupCount (used : Nat) : List Char → Nat
  | [] => if used = 0 then 0 else 1
  | c :: rest =>
      if c == ':' then groupCount 0 rest + 1
      else if used = 4 then groupCount 1 rest + 1
      else groupCount (used + 1) rest

/-- Whether a text is an address of the sixth version, between its brackets. -/
def isBracketed (s : List Char) : Bool :=
  match splitAt ':' s with
  | a :: b :: rest =>
      a.length ≤ 4 && b.length ≤ 4 && s.all (fun c => c == ':' || isHexDigit c)
        && !rest.isEmpty && groupCount 0 ([':'].intercalate rest) ≤ 6
  | _ => false

def isPort (s : List Char) : Bool :=
  match s with
  | [] => true
  | ':' :: digits => !digits.isEmpty && digits.length ≤ 5 && digits.all isDecimalDigit
  | _ => false

/-- Whether a text is a host that fits, with a port or without. -/
def withPort (fits : List Char → Bool) (s : List Char) : Bool :=
  fits (s.takeWhile (· != ':')) && isPort (s.dropWhile (· != ':'))

/-- Whether a text is a host in brackets, with a port or without. -/
def isBracketedHost (s : List Char) : Bool :=
  match s with
  | '[' :: rest =>
      isBracketed (rest.takeWhile (· != ']')) && !(rest.dropWhile (· != ']')).isEmpty
        && isPort ((rest.dropWhile (· != ']')).drop 1)
  | _ => false

def behindScheme? (s : List Char) : Option (List Char) :=
  ["https://", "http://"].findSome? fun scheme =>
    if startsInAnyCase scheme s then some (s.drop scheme.length) else none

def isAddress (s : List Char) : Bool :=
  let host (s : List Char) := s.takeWhile fun c => c != '/' && c != '?' && c != '#'
  match behindScheme? s with
  | some rest =>
      let rest := host rest
      withPort isDomain rest || withPort isFourNumbers rest || isBracketedHost rest
  | none =>
      (startsInAnyCase "www." s && withPort isDomain ((host s).drop 4)) || withPort isKnownDomain (host s)

def isMailbox (s : List Char) : Bool :=
  match cutAtLast? '@' s with
  | none => false
  | some (box, host) =>
      !box.isEmpty && host.head?.any isWord
        && match cutAtLast? '.' host with
          | none => false
          | some (before, top) =>
              !before.isEmpty && before.all (fun c => isWord c || c == '.' || c == '-')
                && !top.isEmpty && top.all isWord

/-! ### Words of a text -/

/-- Drops opening brackets; gives them and the rest. -/
def takeOpening : (fuel : Nat) → List Char → List Char × List Char
  | 0, s => ([], s)
  | fuel + 1, s =>
      match ["(", "<", "&lt;"].findSome? fun b => (dropPattern? b.toList s).map fun r => (b.toList, r) with
      | some (bracket, rest) =>
          let (more, rest) := takeOpening fuel rest
          (bracket ++ more, rest)
      | none => ([], s)

/-- Drops closing brackets and the like from the end of a text, which is given last
    character first. -/
def takeClosing : (fuel : Nat) → List Char → List Char × List Char
  | 0, s => ([], s)
  | fuel + 1, s =>
      match ["&gt;", ")", ">", ".", ",", "\n"].findSome? fun b =>
          (dropPattern? b.toList.reverse s).map fun r => (b.toList.reverse, r) with
      | some (bracket, rest) =>
          let (more, rest) := takeClosing fuel rest
          (bracket ++ more, rest)
      | none => ([], s)

def balance (opener closer : List Char) (word tail : List Char) : List Char × List Char :=
  let missing := countPattern opener word
  if missing ≤ countPattern closer word then (word, tail)
  else go (min missing (countPattern closer tail)) word tail
where
  go : Nat → List Char → List Char → List Char × List Char
    | 0, word, tail => (word, tail)
    | n + 1, word, tail =>
        match cutAt? closer tail with
        | some (before, after) => go n (word ++ before ++ closer) after
        | none => (word, tail)

structure LinkStyle where
  limit : Option Int                 -- characters of an address that are shown
  attributes : String                -- what the tags have besides the address
  schemes : List String              -- further schemes that are known

def LinkStyle.link (style : LinkStyle) (before word : List Char) (short : Bool) : String :=
  let shown := match style.limit with
    | some n =>
        if short && n < word.length then
          .ofList (if n < 0 then word.take (word.length - (-n).toNat) else word.take n.toNat) ++ "..."
        else String.ofList word
    | none => .ofList word
  "<a href=\"" ++ .ofList (before ++ word) ++ "\"" ++ style.attributes ++ ">" ++ shown ++ "</a>"

/-- A word that stands between brackets, as a link if it is an address. -/
def LinkStyle.address (style : LinkStyle) (word : List Char) : String :=
  let plain : LinkStyle := { style with attributes := "" }
  let mail := "mailto:".toList
  if isAddress word then
    let hasScheme := startsWith "https://".toList word || startsWith "http://".toList word
    style.link (if hasScheme then [] else "https://".toList) word true
  else if startsWith mail word && isMailbox (word.drop mail.length) then
    plain.link mail (word.drop mail.length) false
  else if word.contains '@' && !startsWith "www.".toList word && word.head? != some '@' && !word.contains ':'
      && isMailbox word then
    plain.link mail word false
  else
    (style.schemes.foldl (fun word scheme =>
      if word != scheme.toList && startsWith scheme.toList word then (style.link [] word false).toList
      else word) word |> .ofList)

def LinkStyle.word (style : LinkStyle) (s : List Char) : String :=
  let (head, word) := takeOpening s.length s
  let (tail, word) := takeClosing word.length word.reverse
  let (word, tail) := balance ['('] [')'] word.reverse tail.reverse
  let (word, tail) := balance ['<'] ['>'] word tail
  let (word, tail) := balance "&lt;".toList "&gt;".toList word tail
  .ofList head ++ style.address word ++ .ofList tail

def LinkStyle.text (style : LinkStyle) (s : List Char) : String :=
  String.join (go [] s)
where
  /-- `acc` is the word that has been begun, last character first. -/
  go (acc : List Char) : List Char → List String
    | [] => [style.word acc.reverse]
    | c :: rest =>
        if isBlank c then style.word acc.reverse :: c.toString :: go [] rest else go (c :: acc) rest

/-! ### Filters -/

def isScheme (s : List Char) : Bool :=
  let name := s.takeWhile fun c => isWord c || c == '.' || c == '+' || c == '-'
  2 ≤ name.length && [[':'], [':', '/'], [':', '/', '/']].contains (s.drop name.length)

def relations (given : String) (nofollow : Bool) : List String :=
  let all := "noopener" :: (if nofollow then ["nofollow"] else []) ++ (words given.toList).map String.ofList
  all.eraseDups.mergeSort fun a b => decide (a ≤ b)

def urlize : FilterRun :=
  .ofSignature
    { name := "do_urlize", hidden := ["eval_ctx"],
      params := ["value", "trim_url_limit", "nofollow", "target", "rel", "extra_schemes"], required := 1 }
    fun m escape b => do
      let rel ← match b.arg 4 with
        | .null => pure ""
        | v => m.written v
      let nofollow ← truth (b.arg 2 (.bool false))
      let schemes ← match b.arg 5 with
        | .null => pure []
        | v => do (← itemsOf m v).mapM m.written
      for scheme in schemes do
        if !isScheme scheme.toList then
          fail .filterArgument (Text.quoted scheme ++ " is not a valid URI scheme prefix.")
      let limit ← match b.arg 1 with
        | .null => pure none
        | v => do pure (some (← asIndex v))
      let target ← match b.arg 3 with
        | .null => pure ""
        | v => do if ← truth v then pure (" target=\"" ++ (← escaped m v) ++ "\"") else pure ""
      let rel := " rel=\"" ++ escapeText (" ".intercalate (relations rel nofollow)) ++ "\""
      let style : LinkStyle := { limit := limit, attributes := rel ++ target, schemes := schemes }
      let text := style.text (← escaped m (b.arg 0)).toList
      return if escape then .markup text else .text text

def all : List (String × FilterRun) :=
  [("urlencode", urlEncode), ("urlize", urlize)]

end AddressFilter

end SqlPipeline.Template
