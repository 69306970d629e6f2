/-
  SqlPipeline/Template/Token.lean
  ===============================
  **Tokens of a template.**

  Outside tags a token is a stretch of data; inside them it is a name, a literal or a
  symbol; and each tag has a token for its start and one for its end.
-/
import SqlPipeline.Template.Fault

namespace SqlPipeline.Template

inductive TokenKind where
  | data (text : String)
  | exprBegin
  | exprEnd
  | blockBegin
  | blockEnd
  | name (name : String)
  | text (value : String)
  | int (value : Int)
  | float (value : Float)
  | symbol (sign : String)
  | ended                      -- behind the last token

/-- A token and the line that it starts on. -/
structure Token where
  kind : TokenKind
  line : Nat

namespace TokenKind

def description : TokenKind → String
  | data _ => "template data / text"
  | exprBegin => "begin of print statement"
  | exprEnd => "end of print statement"
  | blockBegin => "begin of statement block"
  | blockEnd => "end of statement block"
  | name n => n
  | text _ => "string"
  | int _ => "integer"
  | float _ => "float"
  | symbol sign => sign
  | ended => "end of template"

def isSymbol (sign : String) : TokenKind → Bool
  | symbol s => s == sign
  | _ => false

def isName (word : String) : TokenKind → Bool
  | name n => n == word
  | _ => false

def isExprEnd : TokenKind → Bool
  | exprEnd => true
  | _ => false

def isBlockEnd : TokenKind → Bool
  | blockEnd => true
  | _ => false

def isEnded : TokenKind → Bool
  | ended => true
  | _ => false

end TokenKind

/-- The signs that are tokens of their own; of two that fit, the longer one is taken. -/
def signs : List String :=
  ["//", "**", "==", "!=", ">=", "<=", "+", "-", "/", "*", "%", "~", "[", "]", "(", ")", "\x7b", "\x7d",
    ">", "<", "=", ".", ":", "|", ",", ";"]

/-- Tokens in order, and the fault that cuts them off, if there is one. -/
structure TokenStream where
  tokens : List Token
  failure : Option Fault

end SqlPipeline.Template
