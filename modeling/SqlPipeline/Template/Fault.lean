/-
  SqlPipeline/Template/Fault.lean
  ===============================
  **What can be wrong with the text of a template.**

  Each fault belongs to a line.  Some are found while the text is cut into tokens, some
  while the tokens are read as tags and expressions, and some by a check of the whole
  template before it is first rendered.
-/
import SqlPipeline.Text.Quoted

namespace SqlPipeline.Template

open Text

/-- What a template can have wrong that is taken for no fault of it: numbers that look like ones
    and have no value, and names that are given twice. -/
inductive Oversight where
  | foreignDigit (c : Char)          -- of another script, in a fraction
  | foreignExponent
  | leadingZero                      -- before a digit of another script, in a fraction
  | tooLong (digits : Nat)           -- a whole number
  | repeatedParameter (name : String)
  | repeatedArgument (name : String)
deriving Repr, DecidableEq

namespace Oversight

def maxDigits : Nat := 4300

def codePoint (c : Char) : String :=
  .ofList ((hexDigits (max 4 (Nat.toDigits 16 c.toNat).length) c.toNat).map Char.toUpper)

/-- What is told of it; the place in the code that the template is made into is left out. -/
def message : Oversight → String
  | foreignDigit c => s!"invalid character '{c}' (U+{codePoint c}) (<unknown>, line 1)"
  | foreignExponent => "invalid decimal literal (<unknown>, line 1)"
  | leadingZero =>
      "leading zeros in decimal integer literals are not permitted; use an 0o prefix for octal integers "
        ++ "(<unknown>, line 1)"
  | tooLong digits =>
      s!"Exceeds the limit ({maxDigits} digits) for integer string conversion: value has {digits} digits; "
        ++ "use sys.set_int_max_str_digits() to increase the limit"
  | repeatedParameter name => s!"duplicate argument '{name}' in function definition"
  | repeatedArgument name => s!"keyword argument repeated: {name}"

end Oversight

inductive FaultCause where
  -- cutting the text
  | unexpectedChar (c : Char) (position : Nat)
  | unmatched (closer : String)
  | mismatched (closer expected : String)
  | openComment
  | openRaw
  | badName
  | badEscape (problem : String)
  -- reading tags and expressions
  | expected (wanted got : String)
  | endedBefore (wanted : String)
  | unexpected (got : String)
  | noExpression (got : String)
  | noTagName
  | unknownTag (name : String) (wanted : List String) (nested : Bool) (innermost : Option String)
  | ended (wanted : List String) (innermost : Option String)
  | notAssignable (kind : String)
  | noMember
  | argumentOrder
  | chainedTests
  | defaultOrder
  | noCall
  | hyphenatedBlock
  | filledBlock
  | hiddenImport
  -- checking the whole
  | unknownFilter (name : String)
  | unknownTest (name : String)
  | repeatedBlock (name : String)
  | assignedLoop
  | nestedExtends
  | callerWithoutDefault
  -- cutting the text, and what comes after the checks
  | oversight (o : Oversight)
deriving Repr, DecidableEq

namespace FaultCause

def alternatives (wanted : List String) : String :=
  " or ".intercalate (wanted.map quoted)

def innermostText : Option String → List String
  | none => []
  | some tag => ["The innermost block that needs to be closed is " ++ quoted tag ++ "."]

def message : FaultCause → String
  | unexpectedChar c position => "unexpected char " ++ quoted (.ofList [c]) ++ s!" at {position}"
  | unmatched closer => s!"unexpected '{closer}'"
  | mismatched closer wanted => s!"unexpected '{closer}', expected '{wanted}'"
  | openComment => "Missing end of comment tag"
  | openRaw => "Missing end of raw directive"
  | badName => "Invalid character in identifier"
  | badEscape problem => problem
  | expected wanted got => "expected token " ++ quoted wanted ++ ", got " ++ quoted got
  | endedBefore wanted => "unexpected end of template, expected " ++ quoted wanted ++ "."
  | unexpected got => "unexpected " ++ quoted got
  | noExpression got => "Expected an expression, got " ++ quoted got
  | noTagName => "tag name expected"
  | unknownTag name wanted nested innermost =>
      " ".intercalate ((["Encountered unknown tag " ++ quoted name ++ "."]
        ++ (if wanted.isEmpty then []
            else if nested then
              ["You probably made a nesting mistake. Jinja is expecting this tag, but currently looking for "
                ++ alternatives wanted ++ "."]
            else ["Jinja was looking for the following tags: " ++ alternatives wanted ++ "."])
        ++ innermostText innermost))
  | ended wanted innermost =>
      " ".intercalate ((["Unexpected end of template."]
        ++ (if wanted.isEmpty then []
            else ["Jinja was looking for the following tags: " ++ alternatives wanted ++ "."])
        ++ innermostText innermost))
  | notAssignable kind => "can't assign to " ++ quoted kind
  | noMember => "expected name or number"
  | argumentOrder => "invalid syntax for function call expression"
  | chainedTests => "You cannot chain multiple tests with is"
  | defaultOrder => "non-default argument follows default argument"
  | noCall => "expected call"
  | hyphenatedBlock =>
      "Block names in Jinja have to be valid Python identifiers and may not contain hyphens, use an underscore instead."
  | filledBlock => "Required blocks can only contain comments or whitespace"
  | hiddenImport => "names starting with an underline can not be imported"
  | unknownFilter name => "No filter named " ++ quoted name ++ "."
  | unknownTest name => "No test named " ++ quoted name ++ "."
  | repeatedBlock name => "block " ++ quoted name ++ " defined twice"
  | assignedLoop => "Can't assign to special loop variable in for-loop target"
  | nestedExtends => "cannot use extend from a non top-level scope"
  | callerWithoutDefault =>
      "When defining macros or call blocks the special \"caller\" argument must be omitted or be given a default."
  | oversight o => o.message

end FaultCause

structure Fault where
  cause : FaultCause
  line : Nat
deriving Repr, DecidableEq

end SqlPipeline.Template
