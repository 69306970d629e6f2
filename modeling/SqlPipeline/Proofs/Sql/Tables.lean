/-
  SqlPipeline/Proofs/Sql/Tables.lean
  ==================================
  **What statements do to tables.**

  A table is a bag of rows, and the cell of a column in a row may have no value.  Conditions
  therefore have three truth values, and a statement acts on the rows for which its condition
  is true, not on those for which it is unknown.  A store holds permanent and temporary
  tables, and a name means a temporary one where there is one of that name.
-/
import Mathlib.Data.Multiset.Filter
import Mathlib.Data.Multiset.AddSub

namespace SqlPipeline

namespace Sql

variable {V : Type}

/-! ### Tables -/

/-- A bag of rows, each with one cell for each column. -/
@[ext]
structure Table (V : Type) where
  columns : List String
  rows : Multiset (List (Option V))
  wide : ∀ row ∈ rows, row.length = columns.length

namespace Table

def cell (t : Table V) (row : List (Option V)) (column : String) : Option V :=
  row[t.columns.idxOf column]?.join

/-- A table with the same columns and no rows. -/
def emptied (t : Table V) : Table V :=
  ⟨t.columns, 0, by simp⟩

/-- That each row has a value in each of these columns. -/
def HasValues (t : Table V) (key : List String) : Prop :=
  ∀ row ∈ t.rows, ∀ column ∈ key, (t.cell row column).isSome

theorem cell_congr {t u : Table V} (h : t.columns = u.columns) : t.cell = u.cell := by
  unfold cell
  rw [h]

/-- A table without the rows that are of some kind. -/
def remove (t : Table V) (p : List (Option V) → Prop) [DecidablePred p] : Table V where
  columns := t.columns
  rows := t.rows.filter fun row => ¬ p row
  wide := fun row hrow => t.wide row (Multiset.mem_of_mem_filter hrow)

theorem remove_congr {t : Table V} {p q : List (Option V) → Prop} [DecidablePred p]
    [DecidablePred q] (h : ∀ row, p row ↔ q row) : t.remove p = t.remove q :=
  Table.ext rfl (Multiset.filter_congr fun row _ => not_congr (h row))

def plus (t u : Table V) (h : u.columns.length = t.columns.length) : Table V where
  columns := t.columns
  rows := t.rows + u.rows
  wide := fun row hrow => by
    rcases Multiset.mem_add.1 hrow with hrow | hrow
    · exact t.wide row hrow
    · rw [u.wide row hrow, h]

end Table

/-! ### Conditions -/

/-- A column, as a condition names it behind the name of its table. -/
structure Column where
  table : String
  name : String
deriving Repr, DecidableEq

inductive Condition where
  | equal (a b : Column)
  | both (a b : Condition)
  | either (a b : Condition)
deriving Repr, DecidableEq

def Condition.columns : Condition → List Column
  | equal a b => [a, b]
  | both a b | either a b => a.columns ++ b.columns

section Conditions

variable [BEq V]

/-- Whether two cells are equal: unknown when one of them has no value. -/
def equal : Option V → Option V → Option Bool
  | some v, some w => some (v == w)
  | _, _ => none

/-- The conjunction of two conditions: false when one is, even if the other is unknown. -/
def both : Option Bool → Option Bool → Option Bool
  | some false, _ => some false
  | _, some false => some false
  | some true, some true => some true
  | _, _ => none

/-- The disjunction of two conditions: true when one is, even if the other is unknown. -/
def either : Option Bool → Option Bool → Option Bool
  | some true, _ => some true
  | _, some true => some true
  | some false, some false => some false
  | _, _ => none

/-- The truth value of a condition where the columns have these cells. -/
def Condition.value (cell : Column → Option V) : Condition → Option Bool
  | equal a b => Sql.equal (cell a) (cell b)
  | both a b => Sql.both (a.value cell) (b.value cell)
  | either a b => Sql.either (a.value cell) (b.value cell)

theorem both_eq_true_iff {a b : Option Bool} :
    both a b = some true ↔ a = some true ∧ b = some true := by
  rcases a with _ | _ | _ <;> rcases b with _ | _ | _ <;> decide

theorem equal_eq_true_iff {x y : Option V} :
    equal x y = some true ↔ ∃ v w, x = some v ∧ y = some w ∧ (v == w) = true := by
  cases x <;> cases y <;> simp [equal]

namespace Table

/-- That two rows have values in all key columns, and equal ones. -/
def Agree (t u : Table V) (key : List String) (row other : List (Option V)) : Prop :=
  ∀ column ∈ key, ∃ v w, t.cell row column = some v ∧ u.cell other column = some w ∧ (v == w) = true

theorem agree_iff {t u : Table V} {key : List String} {row other : List (Option V)} :
    t.Agree u key row other
      ↔ ∀ column ∈ key, equal (t.cell row column) (u.cell other column) = some true := by
  simp only [Agree, equal_eq_true_iff]

instance (t u : Table V) (key : List String) (row other : List (Option V)) :
    Decidable (t.Agree u key row other) :=
  decidable_of_iff _ agree_iff.symm

instance (t u : Table V) (key : List String) (row : List (Option V)) :
    Decidable (∃ other ∈ u.rows, t.Agree u key row other) :=
  Multiset.decidableExistsMultiset

/-- What a row is compared by are the columns of its table, not the other rows. -/
theorem agree_congr {t t' u : Table V} (h : t.columns = t'.columns) {key : List String}
    {row other : List (Option V)} : t.Agree u key row other ↔ t'.Agree u key row other := by
  simp only [Agree, cell_congr h]

/-- A row with values in the key columns has the key of a row of its table: its own. -/
theorem exists_agree_self [ReflBEq V] {t : Table V} {key : List String} (h : t.HasValues key)
    {row : List (Option V)} (hrow : row ∈ t.rows) : ∃ other ∈ t.rows, t.Agree t key row other := by
  refine ⟨row, hrow, ?_⟩
  intro column hcolumn
  obtain ⟨v, hv⟩ := Option.isSome_iff_exists.1 (h row hrow column hcolumn)
  exact ⟨v, v, hv, hv, ReflBEq.rfl⟩

/-- The cell of a column in a row of one table and a row of another; where both tables have the
    name, the second one is meant. -/
def cellOf (t u : Table V) (other : String) (row partner : List (Option V)) (c : Column) : Option V :=
  if c.table = other then u.cell partner c.name else t.cell row c.name

/-- That some row of a table meets a condition together with this one. -/
def Selects (t u : Table V) (other : String) (condition : Condition) (row : List (Option V)) : Prop :=
  ∃ partner ∈ u.rows, condition.value (t.cellOf u other row partner) = some true

instance (t u : Table V) (other : String) (condition : Condition) :
    DecidablePred (t.Selects u other condition) :=
  fun _ => Multiset.decidableExistsMultiset

/-! ### Changes of a table -/

/-- A table without the rows whose key is in another. -/
def without (t u : Table V) (key : List String) : Table V :=
  t.remove fun row => ∃ other ∈ u.rows, t.Agree u key row other

/-- Rows that have been put in the place of those of their keys are what is put in their own
    place. -/
theorem without_plus_without [ReflBEq V] {t u : Table V} {key : List String}
    (hcolumns : u.columns = t.columns) (hvalues : u.HasValues key) :
    ((t.without u key).plus u (congrArg _ hcolumns)).without u key = t.without u key := by
  have hsame : ((t.without u key).plus u (congrArg _ hcolumns)).columns = t.columns := rfl
  have hnone : (u.rows.filter fun row => ¬ ∃ other ∈ u.rows, t.Agree u key row other) = 0 := by
    refine Multiset.filter_eq_nil.2 ?_
    intro row hrow hnot
    apply hnot
    simpa only [agree_congr hcolumns] using exists_agree_self hvalues hrow
  refine Table.ext rfl ?_
  calc ((t.without u key).rows + u.rows).filter (fun row => ¬ ∃ other ∈ u.rows,
          ((t.without u key).plus u (congrArg _ hcolumns)).Agree u key row other)
      = ((t.without u key).rows + u.rows).filter
          (fun row => ¬ ∃ other ∈ u.rows, t.Agree u key row other) := by
        apply Multiset.filter_congr
        intro row _
        simp only [agree_congr hsame]
    _ = (t.without u key).rows.filter (fun row => ¬ ∃ other ∈ u.rows, t.Agree u key row other) := by
        rw [Multiset.filter_add, hnone, Multiset.add_zero]
    _ = (t.without u key).rows := by
        rw [Multiset.filter_eq_self]
        intro row hrow
        exact (Multiset.mem_filter.1 hrow).2

end Table

end Conditions

/-- That all columns of a condition are columns of one of two tables of these names. -/
def Condition.IsOver (name other : String) (t u : Table V) (condition : Condition) : Prop :=
  ∀ c ∈ condition.columns,
    c.table = name ∧ c.name ∈ t.columns ∨ c.table = other ∧ c.name ∈ u.columns

instance (name other : String) (t u : Table V) (condition : Condition) :
    Decidable (condition.IsOver name other t u) :=
  inferInstanceAs (Decidable (∀ c ∈ condition.columns, _))

/-! ### Stores -/

inductive Place where
  | permanent (name : String)
  | temporary (name : String)
deriving Repr, DecidableEq

abbrev Tables (V : Type) := Place → Option (Table V)

namespace Tables

/-- What a name means: the temporary table of that name where there is one. -/
def place (s : Tables V) (name : String) : Place :=
  if (s (.temporary name)).isSome then .temporary name else .permanent name

def named (s : Tables V) (name : String) : Option (Table V) :=
  s (s.place name)

/-- The rows of the table that a name means; none where there is no table. -/
def rowsOf (s : Tables V) (name : String) : Multiset (List (Option V)) :=
  match s.named name with
  | some t => t.rows
  | none => 0

/-- Puts a table in its place, or takes one away. -/
def put (s : Tables V) (p : Place) (t : Option (Table V)) : Tables V :=
  Function.update s p t

@[simp] theorem put_self (s : Tables V) (p : Place) (t : Option (Table V)) : s.put p t p = t :=
  Function.update_self ..

@[simp] theorem put_of_ne {p q : Place} (h : q ≠ p) (s : Tables V) (t : Option (Table V)) :
    s.put p t q = s q :=
  Function.update_of_ne h ..

theorem put_put (s : Tables V) (p : Place) (t u : Option (Table V)) :
    (s.put p t).put p u = s.put p u :=
  Function.update_idem ..

theorem put_comm {p q : Place} (h : p ≠ q) (s : Tables V) (t u : Option (Table V)) :
    (s.put p t).put q u = (s.put q u).put p t :=
  Function.update_comm h ..

theorem put_named {s : Tables V} {name : String} {t : Table V} (h : s.named name = some t) :
    s.put (s.place name) (some t) = s := by
  rw [← h]
  exact Function.update_eq_self ..

theorem place_of_temporary {s : Tables V} {name : String} {t : Table V}
    (h : s (.temporary name) = some t) : s.place name = .temporary name :=
  if_pos (by rw [h, Option.isSome_some])

/-- A name that means nothing is free for a permanent table. -/
theorem place_of_named_eq_none {s : Tables V} {name : String} (h : s.named name = none) :
    s.place name = .permanent name := by
  unfold named place at h
  unfold place
  split at h
  case isTrue hsome =>
    rw [h] at hsome
    cases hsome
  case isFalse hnot => exact if_neg hnot

theorem place_ne {s : Tables V} {name other : String} (h : other ≠ name) :
    s.place name ≠ .temporary other := by
  unfold place
  split
  · rintro ⟨⟩
    exact h rfl
  · rintro ⟨⟩

/-- Whether a name means a temporary table depends on the table of that name alone. -/
theorem place_congr {s s' : Tables V} {name : String}
    (h : (s' (.temporary name)).isSome = (s (.temporary name)).isSome) :
    s'.place name = s.place name := by
  unfold place
  rw [h]

/-! ### What is done to tables -/

def stage (s : Tables V) (temp : String) (t : Table V) : Tables V :=
  s.put (.temporary temp) (some t)

/-- Makes an empty table with the columns of another, unless there is one. -/
def createLike (s : Tables V) (name : String) (t : Table V) : Tables V :=
  match s.named name with
  | some _ => s
  | none => s.put (.permanent name) (some t.emptied)

/-- Adds the rows of a table to another of the same width. -/
def insertAll (s : Tables V) (name : String) (u : Table V) : Option (Tables V) := do
  let t ← s.named name
  if h : u.columns.length = t.columns.length then some (s.put (s.place name) (t.plus u h)) else none

def drop (s : Tables V) (name : String) : Option (Tables V) := do
  let _ ← s.named name
  some (s.put (s.place name) none)

/-- Deletes the rows of a table that meet a condition together with some row of another. -/
def deleteWhere [BEq V] (s : Tables V) (name other : String) (condition : Condition) :
    Option (Tables V) := do
  let t ← s.named name
  let u ← s.named other
  if condition.IsOver name other t u then
    some (s.put (s.place name) (t.remove (t.Selects u other condition)))
  else none

end Tables

end Sql

end SqlPipeline
