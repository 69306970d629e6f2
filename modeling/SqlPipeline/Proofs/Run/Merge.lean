/-
  SqlPipeline/Proofs/Run/Merge.lean
  =================================
  **What a merge does to its table.**

  While a merge is executed its target passes through four states, and the temporary table
  holds the new rows throughout; nothing else changes (`during`).  In the end the new rows
  stand in the place of those that have the same keys, and the temporary table is gone.
  Executing the merge once more then takes out and puts back the same rows.
-/
import SqlPipeline.Proofs.Sql.Command
import SqlPipeline.Proofs.Run.Requests

namespace SqlPipeline

open Sql

variable {V : Type}

/-! ### The target and the temporary table of a merge -/

namespace Sql.Tables

section

variable {s : Tables V} {name temp : String} {t batch : Table V}

/-- A store in the course of a merge: what the target is by then, and the new rows. -/
def during (s : Tables V) (name temp : String) (t batch : Table V) : Tables V :=
  (s.put (s.place name) (some t)).put (.temporary temp) (some batch)

/-- A store at the end of a merge. -/
def after (s : Tables V) (name temp : String) (t : Table V) : Tables V :=
  (s.put (s.place name) (some t)).put (.temporary temp) none

/-- Neither a change of what a name means nor one of another temporary table moves it. -/
theorem place_put_put (h : temp ≠ name) (staged : Option (Table V)) :
    ((s.put (s.place name) (some t)).put (.temporary temp) staged).place name = s.place name := by
  have hne : Place.temporary name ≠ .temporary temp := by
    rintro ⟨⟩
    exact h rfl
  apply place_congr
  rw [put_of_ne hne]
  by_cases hplace : Place.temporary name = s.place name
  · rw [← hplace, put_self]
    unfold place at hplace
    split at hplace
    case isTrue hsome => rw [hsome, Option.isSome_some]
    case isFalse => cases hplace
  · rw [put_of_ne hplace]

theorem place_during (h : temp ≠ name) : (s.during name temp t batch).place name = s.place name :=
  place_put_put h _

theorem named_during (h : temp ≠ name) : (s.during name temp t batch).named name = some t := by
  rw [named, place_during h, during, put_of_ne (place_ne h), put_self]

theorem place_during_temp : (s.during name temp t batch).place temp = .temporary temp :=
  place_of_temporary (put_self ..)

theorem named_during_temp : (s.during name temp t batch).named temp = some batch := by
  rw [named, place_during_temp]
  exact put_self ..

theorem put_during (h : temp ≠ name) (t' : Table V) :
    (s.during name temp t batch).put (s.place name) (some t') = s.during name temp t' batch := by
  rw [during, put_comm (place_ne h).symm, put_put, during]

/-! ### The steps of a merge -/

theorem named_stage : (s.stage temp batch).named temp = some batch := by
  have hplace : (s.stage temp batch).place temp = .temporary temp := place_of_temporary (put_self ..)
  rw [named, hplace]
  exact put_self ..

/-- The first two statements make the temporary table and see to it that there is a target. -/
theorem createLike_stage (h : temp ≠ name) :
    (s.stage temp batch).createLike name batch
      = s.during name temp ((s.named name).getD batch.emptied) batch := by
  have hne : Place.temporary name ≠ .temporary temp := by
    rintro ⟨⟩
    exact h rfl
  have hplace : (s.stage temp batch).place name = s.place name :=
    place_congr (by rw [stage, put_of_ne hne])
  have hnamed : (s.stage temp batch).named name = s.named name := by
    rw [named, hplace, stage, put_of_ne (place_ne h), named]
  rw [createLike, hnamed, during]
  cases hs : s.named name with
  | some t => rw [Option.getD_some, put_named hs, stage]
  | none => rw [Option.getD_none, stage, put_comm (by rintro ⟨⟩), place_of_named_eq_none hs]

theorem deleteWhere_during [BEq V] {condition : Condition} (h : temp ≠ name)
    (hover : condition.IsOver name temp t batch) :
    (s.during name temp t batch).deleteWhere name temp condition
      = some (s.during name temp (t.remove (t.Selects batch temp condition)) batch) := by
  rw [deleteWhere, named_during h, Option.bind_eq_bind, Option.bind_some, named_during_temp,
    Option.bind_some, if_pos hover, place_during h, put_during h]

theorem insertAll_during (h : temp ≠ name) (hwidth : batch.columns.length = t.columns.length) :
    (s.during name temp t batch).insertAll name batch
      = some (s.during name temp (t.plus batch hwidth) batch) := by
  rw [insertAll, named_during h, Option.bind_eq_bind, Option.bind_some, dif_pos hwidth,
    place_during h, put_during h]

theorem drop_during : (s.during name temp t batch).drop temp = some (s.after name temp t) := by
  rw [drop, named_during_temp, Option.bind_eq_bind, Option.bind_some, place_during_temp, during,
    put_put, after]

/-! ### The end of a merge -/

theorem place_after (h : temp ≠ name) : (s.after name temp t).place name = s.place name :=
  place_put_put h _

theorem named_after (h : temp ≠ name) : (s.after name temp t).named name = some t := by
  rw [named, place_after h, after, put_of_ne (place_ne h), put_self]

theorem after_after (h : temp ≠ name) :
    (s.after name temp t).after name temp t = s.after name temp t := by
  have hput : (s.after name temp t).put (s.place name) (some t) = s.after name temp t := by
    rw [← place_after (t := t) h]
    exact put_named (named_after h)
  rw [after, place_after h, hput, after, put_put]

theorem rows_getD_emptied : ((s.named name).getD batch.emptied).rows = s.rowsOf name := by
  rw [rowsOf]
  cases s.named name <;> rfl

variable [BEq V] {key : List String}

/-- What a merge leaves behind: `s` before it, `s'` after it. -/
structure Upserted (s : Tables V) (name temp : String) (batch : Table V) (key : List String)
    (s' : Tables V) : Prop where
  target : ∃ t, s'.named name = some t ∧ t.columns = batch.columns
    ∧ t.rows = (s.rowsOf name).filter (fun row =>
        ¬ ∃ other ∈ batch.rows, batch.Agree batch key row other) + batch.rows
  staged : s' (.temporary temp) = none
  others : ∀ p, p ≠ s.place name → p ≠ .temporary temp → s' p = s p
  place : s'.place name = s.place name

theorem upserted_after (h : temp ≠ name) (ht : (s.named name).getD batch.emptied = t)
    (hcolumns : batch.columns = t.columns) :
    Upserted s name temp batch key
      (s.after name temp ((t.without batch key).plus batch (congrArg _ hcolumns))) where
  target := by
    refine ⟨_, named_after h, hcolumns.symm, ?_⟩
    have hrows : t.rows = s.rowsOf name := by rw [← ht, rows_getD_emptied]
    have hkept : (t.without batch key).rows = (s.rowsOf name).filter fun row =>
        ¬ ∃ other ∈ batch.rows, batch.Agree batch key row other := by
      rw [← hrows]
      apply Multiset.filter_congr
      intro row _
      simp only [Table.agree_congr hcolumns]
    exact congrArg (· + batch.rows) hkept
  staged := put_self ..
  others := by
    intro p hplace htemp
    rw [after, put_of_ne htemp, put_of_ne hplace]
  place := place_after h

end

end Sql.Tables

/-! ### All steps -/

section

variable [BEq V] {answer : String → Tables V → Option (Table V)}

variable {s : Tables V} {name query : String} {batch t : Table V} {key : List String}

/-- The texts of a merge take the rows out of its target that have the keys of new ones, and add
    the new ones. -/
theorem Strategy.runAll_merge (hname : ' ' ∉ name.toList)
    (hplain : ∀ column ∈ key, IsColumnName column) (hne : key ≠ [])
    (hbatch : answer query s = some batch) (ht : (s.named name).getD batch.emptied = t)
    (hcolumns : batch.columns = t.columns) (hkey : ∀ column ∈ key, column ∈ batch.columns) :
    runAll answer ((merge name query key).map Statement.text) s
      = some (s.after name (stageName name)
          ((t.without batch key).plus batch (congrArg _ hcolumns))) := by
  have hdiffer : stageName name ≠ name := stageName_ne name
  have htemp : ' ' ∉ (stageName name).toList := notMem_stageName hname (by decide)
  have hstage : run answer (Statement.stage (stageName name) query).text s
      = some (s.stage (stageName name) batch) := by
    rw [run_of_read? (read?_stage htemp query), Command.effect, hbatch]
    rfl
  have hcreate : run answer (Statement.createLike name (stageName name)).text
      (s.stage (stageName name) batch) = some (s.during name (stageName name) t batch) := by
    rw [run_of_read? (read?_createLike hname htemp), Command.effect, Tables.named_stage, ← ht,
      ← Tables.createLike_stage hdiffer]
    rfl
  have hdelete : run answer (Statement.deleteMatching name (stageName name) key).text
      (s.during name (stageName name) t batch)
        = some (s.during name (stageName name) (t.without batch key) batch) := by
    obtain ⟨c, hc, hread⟩ := read?_deleteMatching hname htemp hne hplain
    have hover : c.IsOver name (stageName name) t batch := by
      refine isOver_of_joined? hc ?_
      intro column hcolumn
      exact ⟨hcolumns ▸ hkey column hcolumn, hkey column hcolumn⟩
    rw [run_of_read? hread, Command.effect, Tables.deleteWhere_during hdiffer hover, Table.without,
      Table.remove_congr (selects_iff hdiffer hc)]
  have hinsert : run answer (Statement.insertAll name (stageName name)).text
      (s.during name (stageName name) (t.without batch key) batch)
        = some (s.during name (stageName name)
            ((t.without batch key).plus batch (congrArg _ hcolumns)) batch) := by
    rw [run_of_read? (read?_insertAll hname htemp), Command.effect, Tables.named_during_temp]
    exact Tables.insertAll_during hdiffer _
  have hdrop : run answer (Statement.dropStage (stageName name)).text
      (s.during name (stageName name) ((t.without batch key).plus batch (congrArg _ hcolumns)) batch)
        = some (s.after name (stageName name)
            ((t.without batch key).plus batch (congrArg _ hcolumns))) := by
    rw [run_of_read? (read?_dropStage htemp)]
    exact Tables.drop_during
  rw [merge, List.map_cons, List.map_cons, List.map_cons, List.map_cons, List.map_cons,
    runAll_cons hstage, runAll_cons hcreate, runAll_cons hdelete, runAll_cons hinsert,
    runAll_cons hdrop]
  rfl

end

/-! ### Sending a merge to a database -/

namespace Storage

/-- That an adapter does with these texts what they say when they are read. -/
def Adapter.Performs [BEq V] (a : Adapter (Tables V)) (answer : String → Tables V → Option (Table V))
    (texts : List String) : Prop :=
  ∀ text ∈ texts, ∀ s s', run answer text s = some s' → a.execute text s = (.ok (), s')

/-- The adapter that reads what it is sent and refuses what it cannot read. -/
def Adapter.reading [BEq V] (answer : String → Tables V → Option (Table V)) :
    Adapter (Tables V) where
  execute sql s :=
    match run answer sql s with
    | some s' => (.ok (), s')
    | none => (.error (.storage "refused"), s)
  tableExists name s := (.ok (s.named name).isSome, s)
  notes _ := []

theorem Adapter.reading_performs [BEq V] (answer : String → Tables V → Option (Table V))
    (texts : List String) : (reading answer).Performs answer texts := by
  intro text _ s s' hrun
  simp only [reading, hrun]

end Storage

namespace Run.Engine

open Storage

/-- That sending these texts leads from one state of the store to another, and none of them
    fails. -/
def Sends {σ : Type} (e : Engine σ) (texts : List String) (a b : σ) : Prop :=
  ∀ s : Session σ, s.store = a →
    ((e.sendAll texts).run s).1 = (texts, none) ∧ ((e.sendAll texts).run s).2.store = b

theorem sends_nil {σ : Type} {e : Engine σ} (a : σ) : e.Sends [] a a :=
  fun _ hs => ⟨rfl, hs⟩

theorem sends_cons {σ : Type} {e : Engine σ} {sql : String} {rest : List String} {a b c : σ}
    (hsql : e.adapter.execute sql a = (.ok (), b)) (hrest : e.Sends rest b c) :
    e.Sends (sql :: rest) a c := by
  intro s hs
  have hexecute : (e.execute sql).run s
      = (.ok (), { s with store := b, log := s.log ++ e.adapter.notes sql }) := by
    simp only [execute, modifyGet, MonadStateOf.modifyGet, StateT.modifyGet, StateT.run, hs, hsql]
    rfl
  obtain ⟨hsent, hstore⟩ := hrest { s with store := b, log := s.log ++ e.adapter.notes sql } rfl
  unfold sendAll
  rw [run_bind, hexecute, run_bind, hsent]
  exact ⟨rfl, hstore⟩

variable [BEq V] {e : Engine (Tables V)} {answer : String → Tables V → Option (Table V)}

theorem sends_of_performs {texts : List String} (h : e.adapter.Performs answer texts)
    {s s' : Tables V} (hrun : runAll answer texts s = some s') : e.Sends texts s s' := by
  induction texts generalizing s with
  | nil =>
    obtain rfl : s = s' := Option.some.inj hrun
    exact sends_nil s
  | cons first rest ih =>
    rw [runAll, List.foldlM_cons, Option.bind_eq_bind, Option.bind_eq_some_iff] at hrun
    obtain ⟨between, hfirst, hrest⟩ := hrun
    have hperforms : e.adapter.Performs answer rest := by
      intro text hmem
      exact h text (List.mem_cons_of_mem _ hmem)
    exact sends_cons (h first List.mem_cons_self s between hfirst) (ih hperforms hrest)

/-- **A merge replaces by keys.**  Whatever the target holds, or if it is not there, sending the
    statements that keep the result of a query by its keys leaves in it the rows that agree with
    no new one in all key columns, and the new ones.  Everything else is left as it was, and
    sending them again changes nothing.  The database is assumed to do what the texts say, and so
    the names in them are such as can be read back. -/
theorem incremental_upserts [ReflBEq V] {name query : String} {m : Materialization}
    (hname : Text.isAllBlank name = false) (hquery : Text.isAllBlank query = false)
    (hkey : m.uniqueKey ≠ []) (hkept : m.fullRefresh = false)
    (hword : ' ' ∉ name.toList) (hplain : ∀ column ∈ m.uniqueKey, IsColumnName column)
    (hperforms : e.adapter.Performs answer
      ((Strategy.merge name query m.uniqueKey).map Statement.text))
    {s : Tables V} {batch : Table V} (hbatch : answer query s = some batch)
    (hcolumns : ∀ column ∈ m.uniqueKey, column ∈ batch.columns)
    (hvalues : batch.HasValues m.uniqueKey)
    (htarget : ∀ t, s.named name = some t → t.columns = batch.columns) :
    ∃ texts s', Strategy.incremental.statements name query m = .ok texts ∧ e.Sends texts s s'
      ∧ s.Upserted name (Strategy.stageName name) batch m.uniqueKey s'
      ∧ (answer query s' = some batch → e.Sends texts s' s') := by
  have hne : Strategy.stageName name ≠ name := Strategy.stageName_ne name
  obtain ⟨t, ht⟩ : ∃ t, (s.named name).getD batch.emptied = t := ⟨_, rfl⟩
  have hsame : batch.columns = t.columns := by
    rw [← ht]
    cases hs : s.named name with
    | none => rfl
    | some t => exact (htarget t hs).symm
  have hfirst := Strategy.runAll_merge hword hplain hkey hbatch ht hsame hcolumns
  refine ⟨_, _, ?_, sends_of_performs hperforms hfirst, Tables.upserted_after hne ht hsame, ?_⟩
  case refine_1 =>
    rw [Strategy.statements, Strategy.plan, hname, hquery, hkept]
    simp only [List.isEmpty_eq_false_iff.2 hkey]
    rfl
  case refine_2 =>
    intro hagain
    have hsecond := Strategy.runAll_merge hword hplain hkey hagain
      (t := (t.without batch m.uniqueKey).plus batch (congrArg _ hsame))
      (by rw [Tables.named_after hne]; rfl) hsame hcolumns
    -- the new rows are taken out and put back
    have hback : ((t.without batch m.uniqueKey).plus batch (congrArg _ hsame)).without batch
        m.uniqueKey = t.without batch m.uniqueKey := Table.without_plus_without hsame hvalues
    simp only [hback, Tables.after_after hne] at hsecond
    exact sends_of_performs hperforms hsecond

/-- Orders by tenant and number. -/
def orders (rows : List (List (Option Nat))) (h : ∀ row ∈ rows, row.length = 3) : Table Nat :=
  ⟨["tenant", "id", "amount"], rows, h⟩

/-- Orders that a shop has, and a temporary table that an earlier merge has left over. -/
def shop : Tables Nat
  | .permanent "mart.orders" =>
      some (orders [[some 1, some 1, some 10], [some 2, some 1, some 20]] (by decide))
  | .temporary "orders__tmp" => some (orders [[some 1, some 7, none]] (by decide))
  | _ => none

/-- An order that has changed and one that is new. -/
def delivery : Table Nat :=
  orders [[some 2, some 1, some 25], [some 2, some 2, none]] (by decide)

/-- What every query answers. -/
def delivered : String → Tables Nat → Option (Table Nat) :=
  fun _ _ => some delivery

/-- The orders by their keys. -/
def ledger : Materialization where
  tag := some "incremental"
  uniqueKey := ["tenant", "id"]

/-- An engine whose store does what it reads. -/
def till : Engine (Tables Nat) where
  adapter := .reading delivered
  delimiters := none

theorem incremental_upserts_orders :
    ∃ texts s', Strategy.incremental.statements "mart.orders" "SELECT * FROM raw" ledger = .ok texts
      ∧ till.Sends texts shop s' ∧ till.Sends texts s' s'
      ∧ s'.rowsOf "mart.orders"
        = {[some 1, some 1, some 10], [some 2, some 1, some 25], [some 2, some 2, none]} := by
  have hbatch : delivered "SELECT * FROM raw" shop = some delivery := rfl
  have hvalues : delivery.HasValues ledger.uniqueKey := by
    unfold Table.HasValues
    decide
  have htarget : ∀ t, shop.named "mart.orders" = some t → t.columns = delivery.columns := by
    rintro t ⟨⟩
    rfl
  obtain ⟨texts, s', htexts, hsends, hupserted, hagain⟩ := incremental_upserts (e := till)
    (by decide) (by decide) (by decide) rfl (by decide) (by decide)
    (Adapter.reading_performs delivered _) hbatch (by decide) hvalues htarget
  obtain ⟨t, hnamed, -, hrows⟩ := hupserted.target
  have hrowsOf : s'.rowsOf "mart.orders" = t.rows := by rw [Tables.rowsOf, hnamed]
  refine ⟨texts, s', htexts, hsends, hagain rfl, ?_⟩
  rw [hrowsOf, hrows]
  decide

end Run.Engine

end SqlPipeline
