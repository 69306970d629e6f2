/-
  SqlPipeline/Console/Style.lean
  ==============================
  **Names of styles.**

  A style is told in words: attributes, each perhaps denied, a colour, another behind `on`,
  and a link.  Names that tell the same style are the same name, whatever the order of their
  words; a text that tells no style is a name too, in small letters.
-/
import SqlPipeline.Text.CharSet
import SqlPipeline.Text.Case
import SqlPipeline.Text.Search
import SqlPipeline.Text.Word

namespace SqlPipeline.Console

open Text

/-- What is the matter with a text that is to tell a style. -/
inductive Style.Fault where
  | unknown
  | noNumber               -- a part of a colour is empty, which is not looked for
deriving Repr, DecidableEq

structure Style where
  attributes : List (String × Bool) := []     -- the last one told stands first
  colour : Option String := none
  background : Option String := none
  link : Option String := none

namespace Style

/-! ### Words -/

def attributeNames : List String :=
  ["bold", "dim", "italic", "underline", "blink", "blink2", "reverse", "conceal", "strike",
    "underline2", "frame", "encircle", "overline"]

def shortNames : List (String × String) :=
  [("d", "dim"), ("b", "bold"), ("i", "italic"), ("u", "underline"), ("r", "reverse"), ("c", "conceal"),
    ("s", "strike"), ("uu", "underline2"), ("o", "overline")]

def attribute? (word : String) : Option String :=
  if attributeNames.contains word then some word else shortNames.lookup word

def greys : List Nat :=
  [0, 3, 7, 11, 15, 19, 23, 27, 30, 35, 37, 39, 42, 46, 50, 53, 54, 58, 62, 63, 66, 69, 70, 74, 78, 82, 84,
    85, 89, 93, 100]

def colourNames : List String :=
  ["default", "black", "red", "green", "yellow", "blue", "magenta", "cyan", "white", "bright_black",
    "bright_red", "bright_green", "bright_yellow", "bright_blue", "bright_magenta", "bright_cyan",
    "bright_white", "navy_blue", "dark_blue", "blue3", "blue1", "dark_green", "deep_sky_blue4",
    "dodger_blue3", "dodger_blue2", "green4", "spring_green4", "turquoise4", "deep_sky_blue3",
    "dodger_blue1", "green3", "spring_green3", "dark_cyan", "light_sea_green", "deep_sky_blue2",
    "deep_sky_blue1", "spring_green2", "cyan3", "dark_turquoise", "turquoise2", "green1",
    "spring_green1", "medium_spring_green", "cyan2", "cyan1", "dark_red", "deep_pink4", "purple4",
    "purple3", "blue_violet", "orange4", "medium_purple4", "slate_blue3", "royal_blue1", "chartreuse4",
    "dark_sea_green4", "pale_turquoise4", "steel_blue", "steel_blue3", "cornflower_blue", "chartreuse3",
    "cadet_blue", "sky_blue3", "steel_blue1", "pale_green3", "sea_green3", "aquamarine3",
    "medium_turquoise", "chartreuse2", "sea_green2", "sea_green1", "aquamarine1", "dark_slate_gray2",
    "dark_magenta", "dark_violet", "purple", "light_pink4", "plum4", "medium_purple3", "slate_blue1",
    "yellow4", "wheat4", "light_slate_grey", "light_slate_gray", "medium_purple", "light_slate_blue",
    "dark_olive_green3", "dark_sea_green", "light_sky_blue3", "sky_blue2", "dark_sea_green3",
    "dark_slate_gray3", "sky_blue1", "chartreuse1", "light_green", "pale_green1", "dark_slate_gray1",
    "red3", "medium_violet_red", "magenta3", "dark_orange3", "indian_red", "hot_pink3",
    "medium_orchid3", "medium_orchid", "medium_purple2", "dark_goldenrod", "light_salmon3",
    "rosy_brown", "medium_purple1", "gold3", "dark_khaki", "navajo_white3", "light_steel_blue3",
    "light_steel_blue", "yellow3", "dark_sea_green2", "light_cyan3", "light_sky_blue1", "green_yellow",
    "dark_olive_green2", "dark_sea_green1", "pale_turquoise1", "deep_pink3", "magenta2", "hot_pink2",
    "orchid", "medium_orchid1", "orange3", "light_pink3", "pink3", "plum3", "violet",
    "light_goldenrod3", "tan", "misty_rose3", "thistle3", "plum2", "khaki3", "light_goldenrod2",
    "light_yellow3", "light_steel_blue1", "yellow2", "dark_olive_green1", "honeydew2", "light_cyan1",
    "red1", "deep_pink2", "deep_pink1", "magenta1", "orange_red1", "indian_red1", "hot_pink",
    "dark_orange", "salmon1", "light_coral", "pale_violet_red1", "orchid2", "orchid1", "orange1",
    "sandy_brown", "light_salmon1", "light_pink1", "pink1", "plum1", "gold1", "navajo_white1",
    "misty_rose1", "thistle1", "yellow1", "light_goldenrod1", "khaki1", "wheat1", "cornsilk1"]
    ++ greys.map (s!"grey{·}") ++ greys.map (s!"gray{·}")

/-! ### Colours -/

def inBrackets? (word : String) (s : List Char) : Option (List Char) := do
  let inside ← dropPattern? (word.toList ++ ['(']) s
  match inside.reverse with
  | ')' :: rest => some rest.reverse
  | _ => none

def number (digits : List Char) : Nat :=
  digits.foldl (fun n c => 10 * n + (decimalDigit? c).getD 0) 0

def isMixture (inside : List Char) : Except Fault Bool :=
  if !inside.isEmpty && inside.all fun c => isDecimalDigit c || c == ',' then
    match splitAt ',' inside with
    | [red, green, blue] =>
        let parts := [red, green, blue]
        if parts.any (·.isEmpty) then .error .noNumber else .ok (parts.all fun part => number part ≤ 255)
    | _ => .ok false
  else .ok false

def isColour (word : List Char) : Except Fault Bool :=
  if colourNames.contains (.ofList word) then .ok true
  else
    match word, inBrackets? "color" word, inBrackets? "rgb" word with
    | '#' :: digits, _, _ =>
        .ok (digits.length == 6 && digits.all fun c => isAsciiDigit c || ('a' ≤ c && c ≤ 'f'))
    | _, some digits, _ =>
        .ok (!digits.isEmpty && digits.length ≤ 3 && digits.all isAsciiDigit && number digits ≤ 255)
    | _, none, some inside => isMixture inside
    | _, none, none => .ok false

def colourOf (word : List Char) : Except Fault String := do
  if ← isColour (lower word) then return .ofList (lower word) else throw .unknown

/-! ### Styles -/

/-- The style that words tell, each of them added to what has been told before. -/
def tell (s : Style) : List (List Char) → Except Fault Style
  | [] => .ok s
  | word :: rest =>
      match String.ofList (lower word), rest with
      | "on", colour :: rest => do tell { s with background := some (← colourOf colour) } rest
      | "not", word :: rest =>
          match attribute? (.ofList word) with
          | some name => tell { s with attributes := (name, false) :: s.attributes } rest
          | none => .error .unknown
      | "link", address :: rest => tell { s with link := some (.ofList address) } rest
      | "on", [] | "not", [] | "link", [] => .error .unknown
      | name, rest =>
          match attribute? name with
          | some name => tell { s with attributes := (name, true) :: s.attributes } rest
          | none => do tell { s with colour := some (← colourOf word) } rest

def ofText (s : List Char) : Except Fault Style :=
  if String.ofList (trim s) == "none" then .ok {}
  else tell {} ((splitWhere isBlank s).filter (!·.isEmpty))

def name (s : Style) : String :=
  let told := attributeNames.filterMap fun name =>
    (s.attributes.lookup name).map fun isOn => if isOn then name else "not " ++ name
  let words := told ++ s.colour.toList ++ (s.background.map ("on " ++ ·)).toList
    ++ (s.link.map ("link " ++ ·)).toList
  if words.isEmpty then "none" else " ".intercalate words

end Style

def styleName (s : List Char) : Except Style.Fault String :=
  match Style.ofText s with
  | .ok style => .ok style.name
  | .error .unknown => .ok (.ofList (lower (trim s)))
  | .error .noNumber => .error .noNumber

end SqlPipeline.Console
