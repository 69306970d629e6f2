/-
  SqlPipeline/Sql/Leading.lean
  ============================
  **How a SQL text starts, and the statements that it consists of.**

  The first token decides whether a text is a query, whose result is to be kept, or a
  statement that is sent as it stands.  Where the text cannot be cut into tokens its
  first word decides.
-/
import SqlPipeline.Sql.Token
import SqlPipeline.Log

namespace SqlPipeline.Sql

open Text

/-! ### The first word -/

/-- Drops block comments, which do not nest here; one that is not closed stays. -/
def dropBlockComments (s : List Char) : List Char :=
  match s with
  | [] => []
  | c :: rest =>
      match (dropPattern? ['/', '*'] (c :: rest)).bind (cutAt? ['*', '/']) with
      | some (_, after) =>
          if _h : after.length < (c :: rest).length then dropBlockComments after
          else c :: dropBlockComments rest
      | none => c :: dropBlockComments rest
  termination_by s.length
  decreasing_by
    · exact _h
    · exact Nat.lt_succ_self _
    · exact Nat.lt_succ_self _

def dropLineComments (inComment : Bool) : List Char → List Char
  | [] => []
  | c :: rest =>
      if c == '\n' then c :: dropLineComments false rest
      else if inComment then dropLineComments true rest
      else if c == '-' && rest.head? == some '-' then dropLineComments true rest
      else c :: dropLineComments false rest

/-- The letters and underscores at the start of a text without comments. -/
def firstWord (s : List Char) : List Char :=
  (trim (dropLineComments false (dropBlockComments s))).takeWhile fun c => isAsciiLetter c || c == '_'

/-- The first token of a text in upper case, semicolons apart; empty when there is none. -/
def leadingKeyword (sql : String) : String :=
  match Token.scan sql.toList with
  | none => .ofList (upper (firstWord sql.toList))
  | some tokens =>
      match tokens.find? (!·.isSemicolon) with
      | some t => .ofList (upper t.text.toList)
      | none => ""

/-- The first words of statements that are sent as they stand. -/
def statementKeywords : List String :=
  ["CREATE", "INSERT", "UPDATE", "DELETE", "DROP", "ALTER"]

/-- Whether a text starts with a statement that is sent as it stands. -/
def isRawStatement (sql : String) : Bool :=
  statementKeywords.contains (leadingKeyword sql)

def notes (sql : String) : List Log.Entry :=
  if (Token.scan sql.toList).isSome then []
  else [⟨.debug, "dagsql.sql_analysis",
    "Tokenizer failed, falling back to regex comment stripping"⟩]

/-! ### Statements -/

/-- The pieces of a text between semicolons, trimmed, blank ones left out. -/
def splitStatements (sql : String) : List String :=
  ((splitAt ';' sql.toList).map trim).filterMap fun piece =>
    if piece.isEmpty then none else some (.ofList piece)

end SqlPipeline.Sql
