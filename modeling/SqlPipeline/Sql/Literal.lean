/-
  SqlPipeline/Sql/Literal.lean
  ============================
  **Texts as literals of SQL.**

  A literal stands between single quotes, and a quote within it is written twice.
-/
namespace SqlPipeline.Sql.Literal

def doubled : List Char → List Char
  | [] => []
  | c :: cs => if c = '\'' then '\'' :: '\'' :: doubled cs else c :: doubled cs

def write (s : String) : String :=
  .ofList ('\'' :: doubled s.toList ++ ['\''])

/-- The text of a literal whose opening quote has been read, and what follows its closing
    quote. -/
def read? : List Char → Option (List Char × List Char)
  | [] => none
  | '\'' :: '\'' :: rest => (read? rest).map fun (s, rest) => ('\'' :: s, rest)
  | c :: rest =>
      if c = '\'' then some ([], rest) else (read? rest).map fun (s, rest) => (c :: s, rest)

/-- What has been written is read back, unless a quote follows that would belong to it. -/
theorem read?_doubled (s rest : List Char) (h : rest.head? ≠ some '\'') :
    read? (doubled s ++ '\'' :: rest) = some (s, rest) := by
  induction s with
  | nil =>
    cases rest with
    | nil => rfl
    | cons c cs =>
      have hc : c ≠ '\'' := by simpa using h
      simp [doubled, read?, hc]
  | cons c cs ih =>
    by_cases hc : c = '\''
    · subst hc
      simp [doubled, read?, ih]
    · simp [doubled, read?, hc, ih]

end SqlPipeline.Sql.Literal
