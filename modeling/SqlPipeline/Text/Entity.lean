/-
  SqlPipeline/Text/Entity.lean
  ============================
  **Characters that markup writes by name or by number.**

  The names of the Latin letters and signs, and a few more, need no semicolon behind them.
-/
import SqlPipeline.Text.Piece

namespace SqlPipeline.Text

namespace Entity

/-! ### Names -/

def latinNames : List String := [
    "nbsp", "iexcl", "cent", "pound", "curren", "yen", "brvbar", "sect", "uml", "copy", "ordf",
    "laquo", "not", "shy", "reg", "macr", "deg", "plusmn", "sup2", "sup3", "acute", "micro",
    "para", "middot", "cedil", "sup1", "ordm", "raquo", "frac14", "frac12", "frac34", "iquest",
    "Agrave", "Aacute", "Acirc", "Atilde", "Auml", "Aring", "AElig", "Ccedil", "Egrave", "Eacute",
    "Ecirc", "Euml", "Igrave", "Iacute", "Icirc", "Iuml", "ETH", "Ntilde", "Ograve", "Oacute",
    "Ocirc", "Otilde", "Ouml", "times", "Oslash", "Ugrave", "Uacute", "Ucirc", "Uuml", "Yacute",
    "THORN", "szlig", "agrave", "aacute", "acirc", "atilde", "auml", "aring", "aelig", "ccedil",
    "egrave", "eacute", "ecirc", "euml", "igrave", "iacute", "icirc", "iuml", "eth", "ntilde",
    "ograve", "oacute", "ocirc", "otilde", "ouml", "divide", "oslash", "ugrave", "uacute",
    "ucirc", "uuml", "yacute", "thorn", "yuml"]

def otherNames : List (String × Nat) := [
    ("apos", 39), ("OElig", 338), ("oelig", 339), ("Scaron", 352), ("scaron", 353), ("Yuml", 376),
    ("fnof", 402), ("circ", 710), ("tilde", 732), ("Alpha", 913), ("Beta", 914), ("Gamma", 915),
    ("Delta", 916), ("Epsilon", 917), ("Zeta", 918), ("Eta", 919), ("Theta", 920), ("Iota", 921),
    ("Kappa", 922), ("Lambda", 923), ("Mu", 924), ("Nu", 925), ("Xi", 926), ("Omicron", 927),
    ("Pi", 928), ("Rho", 929), ("Sigma", 931), ("Tau", 932), ("Upsilon", 933), ("Phi", 934),
    ("Chi", 935), ("Psi", 936), ("Omega", 937), ("alpha", 945), ("beta", 946), ("gamma", 947),
    ("delta", 948), ("epsilon", 949), ("zeta", 950), ("eta", 951), ("theta", 952), ("iota", 953),
    ("kappa", 954), ("lambda", 955), ("mu", 956), ("nu", 957), ("xi", 958), ("omicron", 959),
    ("pi", 960), ("rho", 961), ("sigmaf", 962), ("sigma", 963), ("tau", 964), ("upsilon", 965),
    ("phi", 966), ("chi", 967), ("psi", 968), ("omega", 969), ("thetasym", 977), ("upsih", 978),
    ("piv", 982), ("ensp", 8194), ("emsp", 8195), ("thinsp", 8201), ("zwnj", 8204), ("zwj", 8205),
    ("lrm", 8206), ("rlm", 8207), ("ndash", 8211), ("mdash", 8212), ("lsquo", 8216),
    ("rsquo", 8217), ("sbquo", 8218), ("ldquo", 8220), ("rdquo", 8221), ("bdquo", 8222),
    ("dagger", 8224), ("Dagger", 8225), ("bull", 8226), ("hellip", 8230), ("permil", 8240),
    ("prime", 8242), ("Prime", 8243), ("lsaquo", 8249), ("rsaquo", 8250), ("oline", 8254),
    ("frasl", 8260), ("euro", 8364), ("image", 8465), ("weierp", 8472), ("real", 8476),
    ("trade", 8482), ("alefsym", 8501), ("larr", 8592), ("uarr", 8593), ("rarr", 8594),
    ("darr", 8595), ("harr", 8596), ("crarr", 8629), ("lArr", 8656), ("uArr", 8657),
    ("rArr", 8658), ("dArr", 8659), ("hArr", 8660), ("forall", 8704), ("part", 8706),
    ("exist", 8707), ("empty", 8709), ("nabla", 8711), ("isin", 8712), ("notin", 8713),
    ("ni", 8715), ("prod", 8719), ("sum", 8721), ("minus", 8722), ("lowast", 8727),
    ("radic", 8730), ("prop", 8733), ("infin", 8734), ("ang", 8736), ("and", 8743), ("or", 8744),
    ("cap", 8745), ("cup", 8746), ("int", 8747), ("there4", 8756), ("sim", 8764), ("cong", 8773),
    ("asymp", 8776), ("ne", 8800), ("equiv", 8801), ("le", 8804), ("ge", 8805), ("sub", 8834),
    ("sup", 8835), ("nsub", 8836), ("sube", 8838), ("supe", 8839), ("oplus", 8853),
    ("otimes", 8855), ("perp", 8869), ("sdot", 8901), ("lceil", 8968), ("rceil", 8969),
    ("lfloor", 8970), ("rfloor", 8971), ("loz", 9674), ("spades", 9824), ("clubs", 9827),
    ("hearts", 9829), ("diams", 9830), ("lang", 10216), ("rang", 10217)]

/-- Characters that can be written without a semicolon behind the name. -/
def shortNames : List (String × Nat) :=
  [("amp", 38), ("AMP", 38), ("lt", 60), ("LT", 60), ("gt", 62), ("GT", 62), ("quot", 34), ("QUOT", 34),
    ("COPY", 169), ("REG", 174)] ++ latinNames.zipIdx 160

/-- The character of a name and what follows it: of the longest name that fits, or of the
    whole one when a semicolon stands behind it. -/
def named? (name : List Char) (closed : Bool) : Option (Char × List Char) :=
  let all := if closed then shortNames ++ otherNames else shortNames
  match all.lookup (.ofList name) with
  | some code => some (Char.ofNat code, [])
  | none =>
      let rest := if closed then [';'] else []
      ((List.range name.length).reverse.filter (2 ≤ ·)).findSome? fun n =>
        (shortNames.lookup (.ofList (name.take n))).map fun code => (Char.ofNat code, name.drop n ++ rest)

/-! ### Numbers -/

def windowsCodes : List Nat := [
    8364, 129, 8218, 402, 8222, 8230, 8224, 8225, 710, 8240, 352, 8249, 338, 141, 381, 143, 144,
    8216, 8217, 8220, 8221, 8226, 8211, 8212, 732, 8482, 353, 8250, 339, 157, 382, 376]

def isNothing (code : Nat) : Bool :=
  (1 ≤ code && code ≤ 8) || code == 11 || (14 ≤ code && code ≤ 31) || code == 127
    || (0xFDD0 ≤ code && code ≤ 0xFDEF) || (code % 0x10000 ≥ 0xFFFE && code ≤ 0x10FFFF)

def numbered (code : Nat) : List Char :=
  if code == 0 then [Char.ofNat 0xFFFD]
  else if 128 ≤ code && code < 160 then [Char.ofNat (windowsCodes.getD (code - 128) 0)]
  else if (0xD800 ≤ code && code ≤ 0xDFFF) || code > 0x10FFFF then [Char.ofNat 0xFFFD]
  else if isNothing code then []
  else [Char.ofNat code]

def digit? (base : Nat) (c : Char) : Option Nat :=
  let value :=
    if '0' ≤ c && c ≤ '9' then c.toNat - '0'.toNat
    else if 'a' ≤ c && c ≤ 'f' then c.toNat - 'a'.toNat + 10
    else if 'A' ≤ c && c ≤ 'F' then c.toNat - 'A'.toNat + 10
    else base
  if value < base then some value else none

def number (base : Nat) (digits : List Char) : Nat :=
  digits.foldl (fun n c => n * base + (digit? base c).getD 0) 0

/-! ### Texts -/

def dropSemicolon : List Char → Bool × List Char
  | ';' :: rest => (true, rest)
  | rest => (false, rest)

def afterAmpersand (s : List Char) : Option (List Char × List Char) :=
  let numeric (base : Nat) (s : List Char) : Option (List Char × List Char) :=
    let isDigit (c : Char) : Bool := (digit? base c).isSome
    match s.takeWhile isDigit with
    | [] => none
    | digits => some (numbered (number base digits), (dropSemicolon (s.dropWhile isDigit)).2)
  match s with
  | '#' :: 'x' :: rest | '#' :: 'X' :: rest => numeric 16 rest
  | '#' :: rest => numeric 10 rest
  | s =>
      let name := (s.takeWhile fun c => !"\t\n\x0c <&#;".toList.contains c).take 32
      let (closed, rest) := dropSemicolon (s.drop name.length)
      (named? name closed).map fun (c, more) => (c :: more, rest)

/-- Puts characters in place of their names and numbers; each step takes at least one
    character, so `fuel` need not be more than the length. -/
def decodeWithin : (fuel : Nat) → List Char → List Char
  | 0, s => s
  | _ + 1, [] => []
  | fuel + 1, c :: rest =>
      match if c == '&' then afterAmpersand rest else none with
      | some (text, rest) => text ++ decodeWithin fuel rest
      | none => c :: decodeWithin fuel rest

def decode (s : List Char) : List Char :=
  decodeWithin s.length s

end Entity

/-! ### Tags -/

def dropBetween (start stop : List Char) : (fuel : Nat) → List Char → List Char
  | 0, s => s
  | fuel + 1, s =>
      match cutAt? start s with
      | none => s
      | some (before, after) =>
          match cutAt? stop (start ++ after) with
          | none => s
          | some (_, rest) => dropBetween start stop fuel (before ++ rest)

/-- The text of some markup: without comments and tags, and with one blank between words. -/
def stripTags (s : List Char) : List Char :=
  let s := dropBetween "<!--".toList "-->".toList s.length s
  let s := dropBetween ['<'] ['>'] s.length s
  Entity.decode ([' '].intercalate (words s))

end SqlPipeline.Text
