/-
  SqlPipeline/Sql/Token.lean
  ==========================
  **Tokens of SQL: words, numbers, quoted texts and operators.**

  Comments and blanks separate tokens and are none themselves.  Block comments nest.  A
  text, quoted name or comment that is not closed makes the whole unreadable.
-/
import SqlPipeline.Text.Search
import SqlPipeline.Text.Case
import SqlPipeline.Text.Word
import SqlPipeline.Text.CharSet

namespace SqlPipeline.Sql

open Text

structure Token where
  text : String
  isSemicolon : Bool := false      -- a text that consists of a semicolon is not one
deriving Repr, DecidableEq

namespace Token

/-! ### Character classes -/

def signs : List Char :=
  "()[]&^:,-.=><%!/\\*+;?~@#|$'`\"".toList ++ [Char.ofNat 0x7B, Char.ofNat 0x7D]

def isSign (c : Char) : Bool :=
  signs.contains c

def isWordPart (c : Char) : Bool :=
  !isBlank c && (c == '$' || !isSign c)

/-- Words with blanks in them, operators of several signs, and what opens a comment or a
    quoted text; each is recognized before single signs and words are. -/
def compounds : List String :=
  ["--", "/*", "\x7b#", "'", "E'", "N'", "$",
    "\x7b%", "\x7b%+", "\x7b%-", "%\x7d", "+%\x7d", "-%\x7d", "\x7b\x7b+", "\x7b\x7b-", "+\x7d\x7d", "-\x7d\x7d",
    "==", "::", "||", "|>", ">=", "<=", "<>", "!=", ":=", "<=>", "->", "->>", "=>", "#>", "#>>", "<->",
    "&&", "??", "~~~", "~~", "~~*", "~*", "-|-", "&<", "&>", "//", "**", "^@", "@>", "<@",
    "?::", "CHARACTER SET", "CLUSTER BY", "CONNECT BY", "DISTRIBUTE BY", "FOR VERSION", "FOR TIMESTAMP",
    "GROUP BY", "GROUPING SETS", "LIKE ANY", "NEXT VALUE FOR", "NOT FOR REPLICATION", "ORDER BY",
    "PARTITION BY", "PARTITIONED BY", "SIMILAR TO", "SORT BY", "START WITH", "WITH TIME ZONE",
    "WITH LOCAL TIME ZONE", "WITHIN GROUP", "WITHOUT TIME ZONE", "CHARACTER VARYING", "CHAR VARYING",
    "DOUBLE PRECISION", "FOREIGN KEY", "PRIMARY KEY"]

/-! ### Compounds -/

/-- What has been recognized at the start of a text. -/
structure Found where
  word : Option (List Char) := none      -- the longest compound, as it is written
  bounded : Bool := false                -- whether it ends at a sign, a blank or the end
  rest : List Char := []                 -- the text from the first character that does not fit

/-- Goes on with the compounds that start with a character, which may count as several. -/
def narrow : List Char → List (List Char) → List (List Char)
  | [], keys => keys
  | c :: cs, keys =>
      narrow cs (keys.filterMap fun key => match key with
        | k :: rest => if k == c then some rest else none
        | [] => none)

/-- Recognizes compounds; `keys` are what is left of those that fit so far, and a run of
    blanks counts as one. -/
def walk (keys : List (List Char)) (seen : List Char) (afterBlank sign : Bool) (word : Option (List Char)) :
    List Char → Found
  | [] => ⟨word, true, []⟩
  | c :: rest =>
      let blank := isBlank c
      if blank && afterBlank then walk keys seen true sign word rest
      else
        let c' := if blank then ' ' else c
        let sign := sign || isSign c
        match narrow (upperChar c') keys with
        | [] => ⟨word, blank || sign, c :: rest⟩
        | keys =>
            let seen := c' :: seen
            walk keys seen blank sign (if keys.any List.isEmpty then some seen.reverse else word) rest

def compoundAt (s : List Char) : Found :=
  walk (compounds.map String.toList) [] false false none s

/-! ### Comments -/

/-- The text behind a block comment whose opening mark has been taken; `depth` counts the
    comments that are open around it. -/
def dropComment (opener closer : Char × Char) (depth : Nat) : List Char → Option (List Char)
  | a :: b :: rest =>
      let closes := (a, b) == closer
      if closes && depth == 0 then some rest
      else
        let depth := if closes then depth - 1 else depth
        match rest with
        | c :: rest' =>
            if (b, c) == opener then
              if rest'.isEmpty then none else dropComment opener closer (depth + 1) rest'
            else dropComment opener closer depth (b :: c :: rest')
        | [] => none
  | _ => none

def dropLine (s : List Char) : List Char :=
  s.dropWhile fun c => c != '\n' && c != '\r'

/-! ### Quoted texts -/

/-- The body of a quoted text up to its closing mark, and what follows; `escapes` are
    characters that take away the meaning of the next one. -/
def takeQuoted (close escapes : List Char) : List Char → Option (List Char × List Char)
  | [] => none
  | [c] => (dropPattern? close [c]).map fun after => ([], after)
  | c :: p :: more =>
      if escapes.contains c && (close == [p] || escapes.contains p) && (c != '\'' || p == c) then
        if more.isEmpty then none
        else
          (takeQuoted close escapes more).map fun (body, after) =>
            ((if close == [p] then [p] else [c, p]) ++ body, after)
      else
        match dropPattern? close (c :: p :: more) with
        | some after => some ([], after)
        | none => (takeQuoted close escapes (p :: more)).map fun (body, after) => (c :: body, after)

def quotedToken (found : Option (List Char × List Char)) : Option (Token × List Char) :=
  found.map fun (body, rest) => (⟨.ofList body, false⟩, rest)

/-- A text between dollar signs, with or without a tag between the signs; a dollar sign that
    starts none is a token. -/
def takeDollar (s : List Char) : Option (Token × List Char) :=
  match s with
  | [] => none
  | '$' :: rest => quotedToken (takeQuoted ['$', '$'] ['\''] rest)
  | c :: rest =>
      match takeQuoted ['$'] ['\''] s with
      | none => some (⟨"$", false⟩, s)
      | some (tag, after) =>
          if after.isEmpty then some (⟨.ofList ['$', c], false⟩, rest)
          else if tag.all isDigitLike || tag.any isBlank then some (⟨"$", false⟩, s)
          else quotedToken (takeQuoted ('$' :: (tag ++ ['$'])) ['\''] after)

/-! ### Numbers -/

/-- The rest of a number: digits, one point, and an exponent. -/
def takeNumber (point : Bool) (exponent : Nat) : List Char → List Char × List Char
  | [] => ([], [])
  | p :: rest =>
      let go (point : Bool) (exponent : Nat) :=
        let (digits, after) := takeNumber point exponent rest
        (p :: digits, after)
      if isDigitLike p then go point exponent
      else if p == '.' && !point then go true exponent
      else if (p == '-' || p == '+') && exponent == 1 && (rest.head?.map isDigitLike).getD false then go point 2
      else if (p == 'e' || p == 'E') && exponent == 0 then go point 1
      else if isIdentifierStart p then
        let word := (p :: rest).takeWhile fun c => !isBlank c && !isSign c
        let digits := word.filter (· != '_')
        if !digits.isEmpty && digits.all isDigitLike then (digits, (p :: rest).drop word.length)
        else ([], p :: rest)
      else ([], p :: rest)

def numberAt (d : Char) (rest : List Char) : Token × List Char :=
  let isMark (c : Char) : Bool := "bBxX".toList.contains c
  if d == '0' && (rest.head?.map isMark).getD false then (⟨"0", false⟩, rest)
  else
    let (digits, after) := takeNumber false 0 rest
    (⟨.ofList (d :: digits), false⟩, after)

/-! ### One token -/

/-- What stands at the start of a text. -/
inductive Step where
  | skip (rest : List Char)
  | token (t : Token) (rest : List Char)
  | unreadable

def Step.ofToken? : Option (Token × List Char) → Step
  | some (t, rest) => .token t rest
  | none => .unreadable

def Step.ofRest? : Option (List Char) → Step
  | some rest => .skip rest
  | none => .unreadable

def simpleToken (c : Char) (rest : List Char) : Step :=
  if isSign c then .token ⟨.ofList [c], c == ';'⟩ rest
  else .token ⟨.ofList (c :: rest.takeWhile isWordPart), false⟩ (rest.dropWhile isWordPart)

/-- A compound that has been recognized, or what else stands there. -/
def compoundStep (c : Char) (rest : List Char) : Step :=
  let found := compoundAt (c :: rest)
  match found.word with
  | none => simpleToken c rest
  | some word =>
      let behind := (c :: rest).drop word.length
      if word = ['-', '-'] then .skip (dropLine behind)
      else if word = ['/', '*'] then .ofRest? (dropComment ('/', '*') ('*', '/') 0 behind)
      else if word.tail = ['#'] then
        .ofRest? (dropComment (Char.ofNat 0x7B, '#') ('#', Char.ofNat 0x7D) 0 behind)
      else if word = ['\''] then .ofToken? (quotedToken (takeQuoted ['\''] ['\''] behind))
      else if word = ['$'] then .ofToken? (takeDollar behind)
      else if word.tail = ['\''] then
        let escapes := if c == 'e' || c == 'E' then ['\'', '\\'] else ['\'']
        .ofToken? (quotedToken (takeQuoted ['\''] escapes behind))
      else if found.bounded then .token ⟨.ofList (upper word), false⟩ found.rest
      else simpleToken c rest

def step (c : Char) (rest : List Char) : Step :=
  if isBlank c then .skip rest
  else if isDigitLike c then
    let (t, after) := numberAt c rest
    .token t after
  else if c == '"' then .ofToken? (quotedToken (takeQuoted ['"'] ['"'] rest))
  else compoundStep c rest

/-- The tokens of a text; none when it is unreadable.  Each step takes at least one
    character, so `fuel` need not be more than the length. -/
def scanWithin : (fuel : Nat) → List Char → Option (List Token)
  | 0, _ => some []
  | _ + 1, [] => some []
  | fuel + 1, c :: rest =>
      match step c rest with
      | .skip after => scanWithin fuel after
      | .token t after => (scanWithin fuel after).map (t :: ·)
      | .unreadable => none

def scan (s : List Char) : Option (List Token) :=
  scanWithin s.length s

end Token

end SqlPipeline.Sql
