/-
  SqlPipeline/Proofs/Seed/Quoted.lean
  ===================================
  **The path of a seed is read as a literal, whatever stands in it.**

  Directories may have any names, so there may be quotes in a path, and it is put into the
  statement that creates the table of the seed.  What the driver gets of a load is known
  beforehand (`load_sends`), and the path is in one statement only.  There it is a literal that
  is read back as the path and that ends where it should (`quoted_reading`).

  A quote opens a literal, and whatever stands in it is no SQL until the quote that closes it.
  So a text is taken apart into SQL, in which each literal has been emptied, and the texts of
  its literals, and there is one way only to do so (`ReadsAs.unique`).
-/
import SqlPipeline.Seed.Load
import SqlPipeline.Proofs.Identifier
import SqlPipeline.Proofs.Storage.Transaction
import Mathlib

namespace SqlPipeline

namespace Sql.Literal

/-! ### What is read as SQL -/

/-- That a text is read as this SQL, with an empty literal where it has one, and that these are the
    literals. -/
inductive ReadsAs : (text sql : List Char) → (literals : List (List Char)) → Prop
  | done : ReadsAs [] [] []
  | sql {c : Char} {text sql : List Char} {literals : List (List Char)} : c ≠ '\'' →
      ReadsAs text sql literals → ReadsAs (c :: text) (c :: sql) literals
  | literal {text body after sql : List Char} {literals : List (List Char)} :
      read? text = some (body, after) → ReadsAs after sql literals →
      ReadsAs ('\'' :: text) ('\'' :: '\'' :: sql) (body :: literals)

variable {text before after sql sql' : List Char} {literals literals' : List (List Char)}

/-- A text can be read in one way only. -/
theorem ReadsAs.unique (h : ReadsAs text sql literals) (h' : ReadsAs text sql' literals') :
    sql' = sql ∧ literals' = literals := by
  induction h generalizing sql' literals' with
  | done =>
    cases h'
    exact ⟨rfl, rfl⟩
  | sql hc _ ih =>
    cases h' with
    | sql _ hrest =>
      obtain ⟨rfl, rfl⟩ := ih hrest
      exact ⟨rfl, rfl⟩
    | literal _ _ => exact absurd rfl hc
  | literal hread _ ih =>
    cases h' with
    | sql hc _ => exact absurd rfl hc
    | literal hread' hrest =>
      rw [hread] at hread'
      cases hread'
      obtain ⟨rfl, rfl⟩ := ih hrest
      exact ⟨rfl, rfl⟩

/-- Without quotes a text is SQL, also in front of other text. -/
theorem ReadsAs.prepend (h : ReadsAs text sql literals) (hbefore : '\'' ∉ before) :
    ReadsAs (before ++ text) (before ++ sql) literals := by
  induction before with
  | nil => exact h
  | cons c before ih =>
    rw [List.mem_cons, not_or] at hbefore
    exact .sql (Ne.symm hbefore.1) (ih hbefore.2)

theorem readsAs_of_notMem (h : '\'' ∉ text) : ReadsAs text text [] := by
  have hreads := ReadsAs.done.prepend h
  rwa [List.append_nil] at hreads

/-- **What has been written as a literal is read as that,** and what stands around it as SQL. -/
theorem readsAs_write (s : String) (hbefore : '\'' ∉ before) (hafter : '\'' ∉ after) :
    ReadsAs (before ++ ((write s).toList ++ after)) (before ++ '\'' :: '\'' :: after)
      [s.toList] := by
  have hend : after.head? ≠ some '\'' := fun hhead => hafter (List.mem_of_head? hhead)
  have hchars : (write s).toList ++ after = '\'' :: (doubled s.toList ++ '\'' :: after) := by
    simp [write]
  rw [hchars]
  exact (ReadsAs.literal (read?_doubled s.toList after hend) (readsAs_of_notMem hafter)).prepend hbefore

end Sql.Literal

namespace Seed

open Storage Storage.Connection

variable {δ α β : Type}

/-! ### Statements in turn -/

/-- A statement without parameters as its driver notes it. -/
def noted (sql : String) (refusal : Option Refusal) : Noted :=
  ⟨.execute sql none, refusal⟩

/-- How planned statements are sent: in turn, up to the first that is refused. -/
inductive InTurn : (plan : List String) → List Noted → Prop
  | done : InTurn [] []
  | refused (sql : String) (rest : List String) (r : Refusal) :
      InTurn (sql :: rest) [noted sql (some r)]
  | executed {sql : String} {rest : List String} {sent : List Noted} : InTurn rest sent →
      InTurn (sql :: rest) (noted sql none :: sent)

/-- A part of a load. -/
abbrev Loading (δ α : Type) := ExceptT SeedFault (StateM (Connection δ)) α

/-- That planned statements are what the driver of an open connection gets. -/
def Sends (plan : List String) (x : Loading (δ × List Noted) α) : Prop :=
  ∀ c, c.isOpen = true → ∃ sent, (x.run.run c).2.notes = sent.reverse ++ c.notes ∧ InTurn plan sent

/-- That the driver of an open connection gets one statement, and that it fails only if that is
    refused. -/
def Calls (sql : String) (x : Loading (δ × List Noted) α) : Prop :=
  ∀ c, c.isOpen = true → (∃ a y, x.run.run c = (.ok a, c.after y (noted sql none)))
    ∨ ∃ e y r, x.run.run c = (.error e, c.after y (noted sql (some r)))

variable {sql : String} {plan : List String}

theorem pure_sends (a : α) : Sends [] (pure a : Loading (δ × List Noted) α) :=
  fun _ _ => ⟨[], rfl, .done⟩

theorem throw_sends (e : SeedFault) : Sends [] (throw e : Loading (δ × List Noted) α) :=
  fun _ _ => ⟨[], rfl, .done⟩

theorem Calls.bind {x : Loading (δ × List Noted) α} {k : α → Loading (δ × List Noted) β}
    (hx : Calls sql x) (hk : ∀ a, Sends plan (k a)) : Sends (sql :: plan) (x >>= k) := by
  intro c hopen
  rcases hx c hopen with ⟨a, y, hrun⟩ | ⟨e, y, r, hrun⟩
  · obtain ⟨sent, hsent, hturn⟩ := hk a (c.after y (noted sql none)) hopen
    refine ⟨noted sql none :: sent, ?_, .executed hturn⟩
    rw [run_bind_of_ok hrun, hsent, notes_after]
    simp
  · refine ⟨[noted sql (some r)], ?_, .refused sql plan r⟩
    rw [run_bind_of_error hrun]
    rfl

/-- What is made of the answer to a statement asks for nothing more. -/
theorem calls_execute (d : Driver δ) (wrap : String → Fault) (sql : String) (f : Cursor → α) :
    Calls sql ((do
      requireOpen
      let cursor ← callDriver wrap (d.noting.execute sql none)
      return f cursor : Operation (δ × List Noted) α).adapt SeedFault.store) := by
  intro c hopen
  rw [Transaction.run_adapt, perform_bind_of_ok (perform_requireOpen_of_open hopen)]
  rcases hcall : (d.execute sql none).run.run c.driver.1 with ⟨answer, y⟩
  cases answer with
  | ok cursor =>
    left
    rw [Driver.noting, perform_bind_of_ok (perform_noting_of_ok hcall)]
    exact ⟨f cursor, y, rfl⟩
  | error r =>
    right
    rw [Driver.noting, perform_bind_of_error (perform_noting_of_error hcall)]
    exact ⟨_, y, r, rfl⟩

theorem calls_statement (d : Driver δ) (sql : String) :
    Calls sql ((executeStatement d.noting sql).adapt SeedFault.store) :=
  calls_execute d (failing "execute DDL") sql fun _ => ()

/-! ### The statements of a load -/

/-- The statements before the file is looked at. -/
def preparation (s : Seed) : List String :=
  if s.schema.isEmpty then ["DROP TABLE IF EXISTS " ++ s.fullName]
  else ["CREATE SCHEMA IF NOT EXISTS " ++ s.schema, "DROP TABLE IF EXISTS " ++ s.fullName]

/-- The statement that creates the table from the file. -/
def reading (s : Seed) : String :=
  "CREATE TABLE " ++ s.fullName ++ " AS " ++ s.query

/-- The statements of a load, which depend on whether there is anything in the file. -/
def statements (files : FileTree) (s : Seed) : List String :=
  s.preparation ++ match files.readTextLossy s.path with
    | .error _ => []
    | .ok text =>
        if Text.isAllBlank text then ["CREATE TABLE " ++ s.fullName ++ " (empty_file BOOLEAN)"]
        else [s.reading, "SELECT COUNT(*) FROM " ++ s.fullName]

/-- The statements before the file is looked at come before what is done with it. -/
theorem prepared_sends (d : Driver δ) (s : Seed) {x : Loading (δ × List Noted) α}
    (hx : Sends plan x) :
    Sends (s.preparation ++ plan) (do
      if !s.schema.isEmpty then
        (executeStatement d.noting ("CREATE SCHEMA IF NOT EXISTS " ++ s.schema)).adapt SeedFault.store
      (executeStatement d.noting ("DROP TABLE IF EXISTS " ++ s.fullName)).adapt SeedFault.store
      x) := by
  rw [preparation]
  cases s.schema.isEmpty with
  | true => exact (calls_statement d _).bind fun _ => hx
  | false => exact (calls_statement d _).bind fun _ => (calls_statement d _).bind fun _ => hx

/-- **What the driver gets of a load is what is planned.** -/
theorem load_sends (d : Driver δ) (files : FileTree) (s : Seed) :
    Sends (s.statements files) (s.load d.noting files) := by
  unfold load statements
  refine prepared_sends d s ?_
  cases files.readTextLossy s.path with
  | error e => exact throw_sends _
  | ok text =>
    dsimp only
    split
    · exact (calls_statement d _).bind fun _ => pure_sends _
    · refine (calls_statement d _).bind fun _ => ?_
      have hcount := calls_execute d (failing "execute query") ("SELECT COUNT(*) FROM " ++ s.fullName)
        fun cursor => (⟨cursor.columns.getD [], cursor.rows, cursor.rows.length⟩ : QueryResult)
      refine hcount.bind fun counted => ?_
      cases countIn counted.rows with
      | ok count => exact pure_sends _
      | error e => exact throw_sends _

/-! ### The path -/

theorem quote_notMem_fullName {s : Seed} (hname : Identifier.isValid s.name = true)
    (hschema : s.schema = "" ∨ Identifier.isValid s.schema = true) : '\'' ∉ s.fullName.toList := by
  have hquote : ∀ {name : String}, Identifier.isValid name = true → '\'' ∉ name.toList := by
    intro name h hmem
    rcases Identifier.mem_of_isValid h '\'' hmem with hpart | hnewline
    · exact absurd hpart (by decide)
    · exact absurd hnewline (by decide)
  rw [fullName]
  rcases hschema with hempty | hvalid
  · rw [hempty, qualify_empty]
    exact hquote hname
  · by_cases hempty : s.schema = ""
    · rw [hempty, qualify_empty]
      exact hquote hname
    · rw [toList_qualify hempty]
      simp [hquote hvalid, hquote hname]

/-- How the statement is read that creates the table of a seed. -/
structure Quoted (s : Seed) (sql : String) : Prop where
  -- behind the opening quote the path is read, and what is left is the rest of the statement
  literal : ∃ text,
    sql.toList = ("CREATE TABLE " ++ s.fullName ++ " AS SELECT * FROM read_csv_auto(").toList
        ++ '\'' :: text
      ∧ Sql.Literal.read? text
        = some (s.path.text.toList, ", header=true, all_varchar=false)".toList)
  -- the path is all that is not SQL, and the SQL is the same for every path
  apart : Identifier.isValid s.name = true → (s.schema = "" ∨ Identifier.isValid s.schema = true) →
    ∀ code literals, Sql.Literal.ReadsAs sql.toList code literals
      ↔ code = ("CREATE TABLE " ++ s.fullName
            ++ " AS SELECT * FROM read_csv_auto('', header=true, all_varchar=false)").toList
        ∧ literals = [s.path.text.toList]

theorem toList_reading (s : Seed) :
    s.reading.toList = ("CREATE TABLE " ++ s.fullName ++ " AS SELECT * FROM read_csv_auto(").toList
      ++ ((Sql.Literal.write s.path.text).toList ++ ", header=true, all_varchar=false)".toList) := by
  have hwords : " AS " ++ "SELECT * FROM read_csv_auto(" = " AS SELECT * FROM read_csv_auto(" := by
    decide +kernel
  unfold reading query
  rw [← hwords]
  simp only [String.toList_append, List.append_assoc]

/-- **The path of a seed is read as it is, and nothing of it as SQL.** -/
theorem quoted_reading (s : Seed) : Quoted s s.reading := by
  constructor
  case literal =>
    refine ⟨Sql.Literal.doubled s.path.text.toList
      ++ '\'' :: ", header=true, all_varchar=false)".toList, ?_, ?_⟩
    · rw [toList_reading]
      simp [Sql.Literal.write]
    · exact Sql.Literal.read?_doubled _ _ (by decide)
  case apart =>
    intro hname hschema code literals
    have hfull := quote_notMem_fullName hname hschema
    have hbefore : '\'' ∉ ("CREATE TABLE " ++ s.fullName ++ " AS SELECT * FROM read_csv_auto(").toList := by
      simp only [String.toList_append, List.mem_append, not_or]
      exact ⟨⟨by decide, hfull⟩, by decide⟩
    have hafter : '\'' ∉ ", header=true, all_varchar=false)".toList := by decide +kernel
    have hreads := Sql.Literal.readsAs_write s.path.text hbefore hafter
    rw [← toList_reading] at hreads
    have hcode : ("CREATE TABLE " ++ s.fullName
            ++ " AS SELECT * FROM read_csv_auto('', header=true, all_varchar=false)").toList
        = ("CREATE TABLE " ++ s.fullName ++ " AS SELECT * FROM read_csv_auto(").toList
          ++ '\'' :: '\'' :: ", header=true, all_varchar=false)".toList := by
      simp
    rw [hcode]
    constructor
    · exact hreads.unique
    · rintro ⟨rfl, rfl⟩
      exact hreads

/-- **Of a file that is not blank the driver gets one statement with the path in it, and there the
    path is a literal.** -/
theorem load_quoted {d : Driver δ} {files : FileTree} {s : Seed} {text : String}
    (htext : files.readTextLossy s.path = .ok text) (hblank : Text.isAllBlank text = false)
    {c : Connection (δ × List Noted)} (hopen : c.isOpen = true) :
    Quoted s s.reading
      ∧ ∃ sent, ((s.load d.noting files).run.run c).2.notes = sent.reverse ++ c.notes
        ∧ InTurn (s.preparation ++ [s.reading, "SELECT COUNT(*) FROM " ++ s.fullName]) sent := by
  have hplan : s.statements files
      = s.preparation ++ [s.reading, "SELECT COUNT(*) FROM " ++ s.fullName] := by
    rw [statements, htext]
    simp [hblank]
  refine ⟨quoted_reading s, ?_⟩
  rw [← hplan]
  exact load_sends d files s c hopen

/-- A seed with quotes in the names of its directories. -/
def besideQuotes : Seed :=
  ⟨⟨"", ["'it''s", "x'", "orders.csv"]⟩, "orders", "raw"⟩

def filesBesideQuotes : FileTree where
  nodes := [(["'it''s"], .directory), (["'it''s", "x'"], .directory),
    (["'it''s", "x'", "orders.csv"], .file ("id\n1\n".toList.map (·.toUInt8)))]
  home := []

theorem load_quoted_besideQuotes :
    filesBesideQuotes.readTextLossy besideQuotes.path = .ok "id\n1\n"
      ∧ Text.isAllBlank "id\n1\n" = false
      ∧ besideQuotes.reading = "CREATE TABLE raw.orders AS SELECT * FROM "
        ++ "read_csv_auto('''it''''s/x''/orders.csv', header=true, all_varchar=false)"
      ∧ Quoted besideQuotes besideQuotes.reading
      ∧ ∃ sent, ((besideQuotes.load Script.driver.noting filesBesideQuotes).run.run
            ⟨":memory:", false, true, ({}, [])⟩).2.notes = sent.reverse
        ∧ InTurn (besideQuotes.preparation
          ++ [besideQuotes.reading, "SELECT COUNT(*) FROM " ++ besideQuotes.fullName]) sent := by
  have htext : filesBesideQuotes.readTextLossy besideQuotes.path = .ok "id\n1\n" := by cbv
  have hblank : Text.isAllBlank "id\n1\n" = false := by decide +kernel
  have hsql : besideQuotes.reading = "CREATE TABLE raw.orders AS SELECT * FROM "
      ++ "read_csv_auto('''it''''s/x''/orders.csv', header=true, all_varchar=false)" := by
    decide +kernel
  obtain ⟨hquoted, sent, hsent, hturn⟩ := load_quoted (d := Script.driver) htext hblank
    (c := ⟨":memory:", false, true, ({}, [])⟩) rfl
  exact ⟨htext, hblank, hsql, hquoted, sent, hsent.trans (List.append_nil _), hturn⟩

end Seed

end SqlPipeline
