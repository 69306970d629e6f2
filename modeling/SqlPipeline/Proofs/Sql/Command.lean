/-
  SqlPipeline/Proofs/Sql/Command.lean
  ===================================
  **What the texts of a merge say.**

  A database is told what to do in texts, so what a statement does is what its text says when
  it is read.  The reader here knows nothing of how statements are written: it cuts a text
  into words, finds the command by its first words, and reads a condition as comparisons of
  columns between `AND` and `OR`, of which `AND` binds more tightly.

  The five statements of a merge are read as the five commands that they are meant to be
  (`read?_stage` to `read?_dropStage`).  The condition of the third is then true for two rows
  that agree in all key columns, and for no others (`selects_iff`).
-/
import SqlPipeline.Proofs.Identifier
import SqlPipeline.Proofs.Materialization
import SqlPipeline.Proofs.Sql.Tables
import SqlPipeline.Proofs.Text.Cut

namespace SqlPipeline

open Text

namespace Sql

/-! ### Words -/

/-- What stands between single spaces. -/
def words (text : String) : List String :=
  (splitAt ' ' text.toList).map .ofList

theorem words_append (a b : String) : words (a ++ " " ++ b) = words a ++ words b := by
  have hspace : (a ++ " " ++ b).toList = a.toList ++ ' ' :: b.toList := by
    rw [String.toList_append, String.toList_append, List.append_assoc]
    rfl
  rw [words, hspace, splitAt_append_cons, List.map_append, words, words]

theorem words_of_notMem {s : String} (h : ' ' ∉ s.toList) : words s = [s] := by
  rw [words, splitAt_of_notMem h, List.map_singleton, String.ofList_toList]

theorem intercalate_words (s : String) : " ".intercalate (words s) = s := by
  apply String.toList_inj.1
  have hwords : (words s).map String.toList = splitAt ' ' s.toList := by
    rw [words, List.map_map]
    exact (List.map_congr_left fun _ _ => String.toList_ofList).trans (List.map_id _)
  rw [String.toList_intercalate, hwords]
  exact intercalate_splitAt ' ' s.toList

theorem words_intercalate {texts : List String} (h : texts ≠ []) :
    words (" AND ".intercalate texts) = ["AND"].intercalate (texts.map words) := by
  induction texts with
  | nil => exact absurd rfl h
  | cons text texts ih =>
    cases texts with
    | nil => rw [String.intercalate_singleton, List.map_singleton, List.intercalate_singleton]
    | cons next texts =>
      have hspaces : " AND ".intercalate (text :: next :: texts)
          = text ++ " " ++ "AND" ++ " " ++ " AND ".intercalate (next :: texts) := by
        rw [String.intercalate_cons_cons]
        simp only [String.append_assoc]
        rfl
      have hand : words "AND" = ["AND"] := by decide
      rw [hspaces, words_append, words_append, hand, ih (List.cons_ne_nil _ _), List.map_cons,
        List.map_cons, List.map_cons, List.intercalate_cons_cons]

/-- What follows a text without a space in front follows its last word. -/
theorem exists_words_append {t : String} (h : ' ' ∉ t.toList) (s : String) :
    ∃ front last, words s = front ++ [last] ∧ words (s ++ t) = front ++ [last ++ t] := by
  obtain ⟨front, last, hs, hst⟩ := exists_splitAt_append h s.toList
  refine ⟨front.map .ofList, .ofList last, ?_, ?_⟩
  · rw [words, hs, List.map_append, List.map_singleton]
  · rw [words, String.toList_append, hst, List.map_append, List.map_singleton, String.ofList_append,
      String.ofList_toList]

/-- The words in front of a parenthesis that closes at the end. -/
def beforeClosing? : List String → Option (List String)
  | [] => none
  | [last] =>
      match last.toList.reverse with
      | ')' :: cs => some [.ofList cs.reverse]
      | _ => none
  | word :: rest => (beforeClosing? rest).map (word :: ·)

theorem beforeClosing?_append (front : List String) (last : String) :
    beforeClosing? (front ++ [last ++ ")"]) = some (front ++ [last]) := by
  induction front with
  | nil =>
    have hreverse : (last ++ ")").toList.reverse = ')' :: last.toList.reverse := by
      rw [String.toList_append, List.reverse_append]
      rfl
    simp only [List.nil_append, beforeClosing?, hreverse]
    rw [List.reverse_reverse, String.ofList_toList]
  | cons word front ih =>
    obtain ⟨next, rest, hnext⟩ := List.exists_cons_of_ne_nil
      (List.append_ne_nil_of_right_ne_nil front (List.cons_ne_nil (last ++ ")") []))
    rw [List.cons_append, hnext, beforeClosing?, ← hnext, ih]
    · rfl
    · exact List.cons_ne_nil _ _

/-! ### Reading conditions -/

/-- A column behind the name of its table, in which there may be dots too. -/
def Column.read? (word : String) : Option Column :=
  (cutAtLast? '.' word.toList).map fun (table, name) => ⟨.ofList table, .ofList name⟩

namespace Condition

def readEqual? : List String → Option Condition
  | [a, "=", b] => do return .equal (← Column.read? a) (← Column.read? b)
  | _ => none

def joined? (join : Condition → Condition → Condition) : List Condition → Option Condition
  | [] => none
  | [c] => some c
  | c :: rest => (joined? join rest).map (join c)

def readBoth? (words : List String) : Option Condition := do
  joined? both (← (words.splitOn "AND").mapM readEqual?)

def read? (words : List String) : Option Condition := do
  joined? either (← (words.splitOn "OR").mapM readBoth?)

end Condition

/-! ### Reading commands -/

inductive Command where
  | stage (temp query : String)                     -- a temporary table from a query
  | createLike (name source : String)               -- an empty table of the same columns, if absent
  | deleteWhere (name other : String) (condition : Condition)
  | insertAll (name source : String)
  | drop (name : String)
deriving Repr, DecidableEq

namespace Command

def ofWords? : List String → Option Command
  | "CREATE" :: "OR" :: "REPLACE" :: "TEMP" :: "TABLE" :: temp :: "AS" :: query =>
      some (.stage temp (" ".intercalate query))
  | ["CREATE", "TABLE", "IF", "NOT", "EXISTS", name, "AS", "SELECT", "*", "FROM", source, "WHERE",
      "1=0"] => some (.createLike name source)
  | "DELETE" :: "FROM" :: name :: "WHERE" :: "EXISTS" :: "(SELECT" :: "1" :: "FROM" :: other
      :: "WHERE" :: condition =>
      ((beforeClosing? condition).bind Condition.read?).map (.deleteWhere name other)
  | ["INSERT", "INTO", name, "SELECT", "*", "FROM", source] => some (.insertAll name source)
  | ["DROP", "TABLE", name] => some (.drop name)
  | _ => none

def read? (text : String) : Option Command :=
  ofWords? (words text)

end Command

/-! ### What commands do -/

section

variable {V : Type} [BEq V]

def Command.effect (answer : String → Tables V → Option (Table V)) (s : Tables V) :
    Command → Option (Tables V)
  | stage temp query => do return s.stage temp (← answer query s)
  | createLike name source => do return s.createLike name (← s.named source)
  | deleteWhere name other condition => s.deleteWhere name other condition
  | insertAll name source => do s.insertAll name (← s.named source)
  | drop name => s.drop name

/-- What a text does to tables where queries have such answers: what it says when it is read. -/
def run (answer : String → Tables V → Option (Table V)) (text : String) (s : Tables V) :
    Option (Tables V) := do
  (← Command.read? text).effect answer s

def runAll (answer : String → Tables V → Option (Table V)) (texts : List String) (s : Tables V) :
    Option (Tables V) :=
  texts.foldlM (fun s text => run answer text s) s

theorem runAll_cons {answer : String → Tables V → Option (Table V)} {text : String}
    {rest : List String} {s s' : Tables V} (h : run answer text s = some s') :
    runAll answer (text :: rest) s = runAll answer rest s' := by
  rw [runAll, List.foldlM_cons, h, Option.bind_eq_bind, Option.bind_some, runAll]

theorem run_of_read? {answer : String → Tables V → Option (Table V)} {text : String}
    {command : Command} (h : Command.read? text = some command) (s : Tables V) :
    run answer text s = command.effect answer s := by
  rw [run, h]
  rfl

end

/-! ### The texts of a merge -/

section Merge

variable {name temp : String} (hname : ' ' ∉ name.toList) (htemp : ' ' ∉ temp.toList)

include htemp in
theorem read?_stage (query : String) :
    Command.read? (Statement.stage temp query).text = some (.stage temp query) := by
  have htext : (Statement.stage temp query).text
      = "CREATE OR REPLACE TEMP TABLE" ++ " " ++ temp ++ " " ++ "AS" ++ " " ++ query := by
    have hparts : (Statement.stage temp query).text
        = "CREATE OR REPLACE TEMP TABLE " ++ temp ++ " AS " ++ query := rfl
    rw [hparts]
    simp only [String.append_assoc]
    rfl
  have hopening : words "CREATE OR REPLACE TEMP TABLE"
      = ["CREATE", "OR", "REPLACE", "TEMP", "TABLE"] := by decide
  have has : words "AS" = ["AS"] := by decide
  rw [Command.read?, htext, words_append, words_append, words_append, hopening,
    words_of_notMem htemp, has]
  have hread : Command.ofWords? ("CREATE" :: "OR" :: "REPLACE" :: "TEMP" :: "TABLE" :: temp :: "AS"
      :: words query) = some (.stage temp (" ".intercalate (words query))) := rfl
  rw [intercalate_words] at hread
  exact hread

include hname htemp in
theorem read?_createLike :
    Command.read? (Statement.createLike name temp).text = some (.createLike name temp) := by
  have htext : (Statement.createLike name temp).text
      = "CREATE TABLE IF NOT EXISTS" ++ " " ++ name ++ " " ++ "AS SELECT * FROM" ++ " " ++ temp
        ++ " " ++ "WHERE 1=0" := by
    have hparts : (Statement.createLike name temp).text
        = "CREATE TABLE IF NOT EXISTS " ++ name ++ " AS SELECT * FROM " ++ temp
          ++ " WHERE 1=0" := rfl
    rw [hparts]
    simp only [String.append_assoc]
    rfl
  have hopening : words "CREATE TABLE IF NOT EXISTS"
      = ["CREATE", "TABLE", "IF", "NOT", "EXISTS"] := by decide
  have hselect : words "AS SELECT * FROM" = ["AS", "SELECT", "*", "FROM"] := by decide
  have hwhere : words "WHERE 1=0" = ["WHERE", "1=0"] := by decide
  rw [Command.read?, htext, words_append, words_append, words_append, words_append, hopening,
    words_of_notMem hname, hselect, words_of_notMem htemp, hwhere]
  rfl

include hname htemp in
theorem read?_insertAll :
    Command.read? (Statement.insertAll name temp).text = some (.insertAll name temp) := by
  have htext : (Statement.insertAll name temp).text
      = "INSERT INTO" ++ " " ++ name ++ " " ++ "SELECT * FROM" ++ " " ++ temp := by
    have hparts : (Statement.insertAll name temp).text
        = "INSERT INTO " ++ name ++ " SELECT * FROM " ++ temp := rfl
    rw [hparts]
    simp only [String.append_assoc]
    rfl
  have hopening : words "INSERT INTO" = ["INSERT", "INTO"] := by decide
  have hselect : words "SELECT * FROM" = ["SELECT", "*", "FROM"] := by decide
  rw [Command.read?, htext, words_append, words_append, words_append, hopening,
    words_of_notMem hname, hselect, words_of_notMem htemp]
  rfl

include htemp in
theorem read?_dropStage :
    Command.read? (Statement.dropStage temp).text = some (.drop temp) := by
  have htext : (Statement.dropStage temp).text = "DROP TABLE" ++ " " ++ temp := rfl
  have hopening : words "DROP TABLE" = ["DROP", "TABLE"] := by decide
  rw [Command.read?, htext, words_append, hopening, words_of_notMem htemp]
  rfl

/-- That a column has the same value in both tables. -/
def Condition.onColumn (name temp column : String) : Condition :=
  .equal ⟨name, column⟩ ⟨temp, column⟩

/-- That a column's name is one word and has no dot, so that it can be found behind the name of
    its table. -/
def IsColumnName (column : String) : Prop :=
  ' ' ∉ column.toList ∧ '.' ∉ column.toList

instance (column : String) : Decidable (IsColumnName column) :=
  inferInstanceAs (Decidable (_ ∧ _))

theorem Column.read?_qualified (name : String) {column : String} (h : '.' ∉ column.toList) :
    Column.read? (name ++ "." ++ column) = some ⟨name, column⟩ := by
  have hdot : (name ++ "." ++ column).toList = name.toList ++ '.' :: column.toList := by
    rw [String.toList_append, String.toList_append, List.append_assoc]
    rfl
  rw [Column.read?, hdot, cutAtLast?_append h, Option.map_some]
  exact congrArg some (congrArg₂ Column.mk String.ofList_toList String.ofList_toList)

/-- The words that compare a column. -/
def comparison (name temp column : String) : List String :=
  [name ++ "." ++ column, "=", temp ++ "." ++ column]

theorem readEqual?_comparison {column : String} (h : IsColumnName column) :
    Condition.readEqual? (comparison name temp column) = some (.onColumn name temp column) := by
  rw [comparison, Condition.readEqual?, Column.read?_qualified name h.2,
    Column.read?_qualified temp h.2]
  rfl

/-- A word with a dot is none of the words between which columns stand. -/
theorem notMem_comparison {word : String} (hdot : '.' ∉ word.toList) (heq : word ≠ "=")
    (column : String) : word ∉ comparison name temp column := by
  have hqualified : ∀ table : String, word ≠ table ++ "." ++ column := by
    rintro table rfl
    apply hdot
    rw [String.toList_append, String.toList_append]
    exact List.mem_append_left _ (List.mem_append_right _ (by decide))
  simp only [comparison, List.mem_cons, List.not_mem_nil, or_false, not_or]
  exact ⟨hqualified name, heq, hqualified temp⟩

include hname htemp in
theorem words_keysMatch {key : List String} (hne : key ≠ [])
    (hkey : ∀ column ∈ key, IsColumnName column) :
    words (Statement.keysMatch name temp key)
      = ["AND"].intercalate (key.map (comparison name temp)) := by
  have hword : ∀ table column : String, ' ' ∉ table.toList → ' ' ∉ column.toList →
      words (table ++ "." ++ column) = [table ++ "." ++ column] := by
    intro table column htable hcolumn
    apply words_of_notMem
    simp [htable, hcolumn]
  rw [Statement.keysMatch, words_intercalate (mt List.map_eq_nil_iff.1 hne), List.map_map]
  refine congrArg _ (List.map_congr_left ?_)
  intro column hcolumn
  obtain ⟨hspace, -⟩ := hkey column hcolumn
  have htext : s!"{name}.{column} = {temp}.{column}"
      = (name ++ "." ++ column) ++ " " ++ "=" ++ " " ++ (temp ++ "." ++ column) := by
    have hparts : s!"{name}.{column} = {temp}.{column}"
        = name ++ "." ++ column ++ " = " ++ temp ++ "." ++ column := rfl
    rw [hparts]
    simp only [String.append_assoc]
    rfl
  have hequal : words "=" = ["="] := by decide
  rw [Function.comp_apply, htext, words_append, words_append, hequal, hword name column hname hspace,
    hword temp column htemp hspace]
  rfl

include hname htemp in
/-- The condition of a merge is read as that the columns of the key are equal, all of them. -/
theorem read?_keysMatch {key : List String} (hne : key ≠ [])
    (hkey : ∀ column ∈ key, IsColumnName column) :
    Condition.read? (words (Statement.keysMatch name temp key))
      = Condition.joined? .both (key.map (.onColumn name temp)) := by
  have hand : ∀ words ∈ key.map (comparison name temp), "AND" ∉ words := by
    intro words hwords
    obtain ⟨column, -, rfl⟩ := List.mem_map.1 hwords
    exact notMem_comparison (by decide) (by decide) column
  have hor : "OR" ∉ ["AND"].intercalate (key.map (comparison name temp)) := by
    apply notMem_intercalate (by decide)
    intro words hwords
    obtain ⟨column, -, rfl⟩ := List.mem_map.1 hwords
    exact notMem_comparison (by decide) (by decide) column
  have hequal : (key.map (comparison name temp)).mapM Condition.readEqual?
      = some (key.map (.onColumn name temp)) := by
    clear hne hand hor
    induction key with
    | nil => rfl
    | cons column key ih =>
      obtain ⟨hcolumn, hkey⟩ := List.forall_mem_cons.1 hkey
      rw [List.map_cons, List.mapM_cons, readEqual?_comparison hcolumn, ih hkey]
      rfl
  have hboth : Condition.readBoth? (["AND"].intercalate (key.map (comparison name temp)))
      = Condition.joined? .both (key.map (.onColumn name temp)) := by
    rw [Condition.readBoth?, List.splitOn_intercalate _ hand (mt List.map_eq_nil_iff.1 hne), hequal]
    rfl
  rw [words_keysMatch hname htemp hne hkey, Condition.read?, List.splitOn_eq_singleton hor,
    List.mapM_cons, hboth]
  cases Condition.joined? .both (key.map (.onColumn name temp)) <;> rfl

namespace Condition

theorem exists_joined? {join : Condition → Condition → Condition} {conditions : List Condition}
    (h : conditions ≠ []) : ∃ c, joined? join conditions = some c := by
  induction conditions with
  | nil => exact absurd rfl h
  | cons first rest ih =>
    cases rest with
    | nil => exact ⟨first, rfl⟩
    | cons next rest =>
      obtain ⟨c, hc⟩ := ih (List.cons_ne_nil _ _)
      exact ⟨join first c, congrArg _ hc⟩

theorem joined?_both_value {V : Type} [BEq V] {conditions : List Condition} {c : Condition}
    (h : joined? both conditions = some c) (cell : Column → Option V) :
    c.value cell = some true ↔ ∀ x ∈ conditions, x.value cell = some true := by
  induction conditions generalizing c with
  | nil => cases h
  | cons first rest ih =>
    cases rest with
    | nil =>
      obtain rfl := Option.some.inj h
      simp
    | cons next rest =>
      obtain ⟨others, hothers, rfl⟩ := Option.map_eq_some_iff.1 h
      rw [value, both_eq_true_iff, ih hothers, List.forall_mem_cons (a := first)]

theorem mem_columns_of_joined? {conditions : List Condition} {c : Condition}
    (h : joined? both conditions = some c) {column : Column} (hcolumn : column ∈ c.columns) :
    ∃ x ∈ conditions, column ∈ x.columns := by
  induction conditions generalizing c with
  | nil => cases h
  | cons first rest ih =>
    cases rest with
    | nil =>
      obtain rfl := Option.some.inj h
      exact ⟨first, List.mem_singleton_self _, hcolumn⟩
    | cons next rest =>
      obtain ⟨others, hothers, rfl⟩ := Option.map_eq_some_iff.1 h
      rcases List.mem_append.1 hcolumn with hfirst | hrest
      · exact ⟨first, List.mem_cons_self, hfirst⟩
      · obtain ⟨x, hx, hmem⟩ := ih hothers hrest
        exact ⟨x, List.mem_cons_of_mem _ hx, hmem⟩

end Condition

section

variable {V : Type} {t u : Table V} {key : List String} {c : Condition}

/-- **Rows meet the condition of a merge just if they agree in all key columns.** -/
theorem selects_iff [BEq V] (hne : temp ≠ name)
    (h : Condition.joined? .both (key.map (.onColumn name temp)) = some c) (row : List (Option V)) :
    t.Selects u temp c row ↔ ∃ other ∈ u.rows, t.Agree u key row other := by
  have hvalue : ∀ other column,
      (Condition.onColumn name temp column).value (t.cellOf u temp row other) = some true
        ↔ equal (t.cell row column) (u.cell other column) = some true := by
    intro other column
    rw [Condition.onColumn, Condition.value, Table.cellOf, Table.cellOf, if_neg hne.symm, if_pos rfl]
  unfold Table.Selects
  simp only [Condition.joined?_both_value h, List.forall_mem_map, hvalue, Table.agree_iff]

theorem isOver_of_joined? (h : Condition.joined? .both (key.map (.onColumn name temp)) = some c)
    (hkey : ∀ column ∈ key, column ∈ t.columns ∧ column ∈ u.columns) : c.IsOver name temp t u := by
  intro column hcolumn
  obtain ⟨x, hx, hmem⟩ := Condition.mem_columns_of_joined? h hcolumn
  obtain ⟨own, hown, rfl⟩ := List.mem_map.1 hx
  obtain ⟨ht, hu⟩ := hkey own hown
  simp only [Condition.onColumn, Condition.columns, List.mem_cons, List.not_mem_nil,
    or_false] at hmem
  rcases hmem with rfl | rfl
  · exact Or.inl ⟨rfl, ht⟩
  · exact Or.inr ⟨rfl, hu⟩

end

include hname htemp in
theorem read?_deleteMatching {key : List String} (hne : key ≠ [])
    (hkey : ∀ column ∈ key, IsColumnName column) :
    ∃ c, Condition.joined? .both (key.map (.onColumn name temp)) = some c
      ∧ Command.read? (Statement.deleteMatching name temp key).text
        = some (.deleteWhere name temp c) := by
  obtain ⟨c, hc⟩ : ∃ c, Condition.joined? .both (key.map (.onColumn name temp)) = some c :=
    Condition.exists_joined? (mt List.map_eq_nil_iff.1 hne)
  refine ⟨c, hc, ?_⟩
  have htext : (Statement.deleteMatching name temp key).text
      = "DELETE FROM" ++ " " ++ name ++ " " ++ "WHERE EXISTS (SELECT 1 FROM" ++ " " ++ temp ++ " "
        ++ "WHERE" ++ " " ++ (Statement.keysMatch name temp key ++ ")") := by
    have hparts : (Statement.deleteMatching name temp key).text
        = "DELETE FROM " ++ name ++ " WHERE EXISTS (SELECT 1 FROM " ++ temp ++ " WHERE "
          ++ Statement.keysMatch name temp key ++ ")" := rfl
    rw [hparts]
    simp only [String.append_assoc]
    rfl
  have hopening : words "DELETE FROM" = ["DELETE", "FROM"] := by decide
  have hexists : words "WHERE EXISTS (SELECT 1 FROM"
      = ["WHERE", "EXISTS", "(SELECT", "1", "FROM"] := by decide
  have hwhere : words "WHERE" = ["WHERE"] := by decide
  obtain ⟨front, last, hcondition, hclosed⟩ := exists_words_append (t := ")") (by decide)
    (Statement.keysMatch name temp key)
  have hread : Condition.read? (front ++ [last]) = some c := by
    rw [← hcondition, read?_keysMatch hname htemp hne hkey, hc]
  have hcommand : Command.ofWords? ("DELETE" :: "FROM" :: name :: "WHERE" :: "EXISTS" :: "(SELECT"
      :: "1" :: "FROM" :: temp :: "WHERE" :: (front ++ [last ++ ")"]))
      = ((beforeClosing? (front ++ [last ++ ")"])).bind Condition.read?).map
          (.deleteWhere name temp) := rfl
  rw [beforeClosing?_append, Option.bind_some, hread] at hcommand
  rw [Command.read?, htext, words_append, words_append, words_append, words_append, words_append,
    hopening, words_of_notMem hname, hexists, words_of_notMem htemp, hwhere, hclosed]
  exact hcommand

end Merge

end Sql

end SqlPipeline
