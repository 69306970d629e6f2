/-
  SqlPipeline/Proofs/Run/Apart.lean
  =================================
  **Models keep out of each other's tables, temporary ones included, if they have a schema.**

  The tables of models have different names because their ids differ.  The temporary table of
  a merge has no schema in its name, and what is put behind the id is not looked for among the
  other ids.  So when there is no schema, it may have the name of the table of another model,
  and that is the only way in which models can meet (`keepApart`).
-/
import SqlPipeline.Proofs.Identifier
import SqlPipeline.Proofs.Materialization
import SqlPipeline.Proofs.Run.Model
import SqlPipeline.Proofs.Run.Incremental
import Mathlib.Data.List.Pairwise

namespace SqlPipeline

/-! ### The names that statements touch -/

/-- The table or view that a statement creates, replaces, writes or drops. -/
def Statement.touched : Statement → String
  | dropView name => name
  | createView name _ => name
  | dropTable name => name
  | createTable name _ => name
  | stage temp _ => temp
  | createLike name _ => name
  | deleteMatching name _ _ => name
  | insertAll name _ => name
  | dropStage temp => temp

namespace Strategy

variable {strategy : Strategy} {name query : String} {m : Materialization}

theorem mem_touched_plan {statements : List Statement}
    (h : strategy.plan name query m = .ok statements) (relation : String) :
    relation ∈ statements.map Statement.touched ↔ relation = name
      ∨ (strategy = .incremental ∧ m.fullRefresh = false) ∧ relation = stageName name := by
  unfold plan at h
  split at h
  · cases h
  · split at h
    · cases h
    · cases strategy with
      | view =>
        obtain rfl := Except.ok.inj h
        simp [Statement.touched]
      | table =>
        obtain rfl := Except.ok.inj h
        simp [rebuild, Statement.touched]
      | incremental =>
        dsimp only at h
        split at h
        · cases h
        · split at h
          · rename_i hrefresh
            obtain rfl := Except.ok.inj h
            simp [rebuild, Statement.touched, hrefresh]
          · rename_i hrefresh
            obtain rfl := Except.ok.inj h
            simp only [merge, Statement.touched, hrefresh, List.map_cons, List.map_nil, List.mem_cons,
              List.not_mem_nil, or_false, true_and, and_self]
            constructor
            · rintro (h | h | h | h | h) <;> simp [h]
            · rintro (h | h) <;> simp [h]

/-- The temporary table is named behind the schema's last dot. -/
theorem stageName_qualify (schema : String) {id : String} (h : '.' ∉ id.toList) :
    stageName (qualify schema id) = id ++ stageSuffix := by
  rw [stageName, splitQualified_qualify schema h]

theorem isIncremental_of_strategy (h : m.strategy = .ok .incremental) : m.isIncremental = true := by
  have htag : m.tagName = Strategy.incremental.tag := by
    rw [Materialization.strategy, ofTag] at h
    split at h
    · rename_i strategy hfound
      obtain rfl := Except.ok.inj h
      exact (tag_of_ofTag? hfound).symm
    · cases h
  rw [Materialization.isIncremental, beq_iff_eq]
  rw [Materialization.tagName] at htag
  split at htag
  · exact absurd htag (by decide)
  · rename_i tag hsome
    split at htag
    · exact absurd htag (by decide)
    · rw [hsome, htag]

end Strategy

namespace Run.Engine

open Storage

variable {σ : Type} {e : Engine σ} {m m' : Model}

/-! ### One model -/

/-- The statements that are made to keep the result of a model's query; none for a model whose
    text is sent as it is, or that cannot be kept. -/
def generated (e : Engine σ) (m : Model) : List Statement :=
  if Sql.isRawStatement m.sql then []
  else
    match m.materialization.strategy with
    | .error _ => []
    | .ok strategy =>
        match strategy.plan (e.targetName m) m.sql m.materialization with
        | .error _ => []
        | .ok statements => statements

/-- The names that these statements touch. -/
def touched (e : Engine σ) (m : Model) : List String :=
  (e.generated m).map Statement.touched

theorem planned_eq_generated (hraw : Sql.isRawStatement m.sql = false) :
    e.planned m = (e.generated m).map Statement.text := by
  rw [planned, Engine.plan, generated, hraw]
  simp only [Bool.false_eq_true, if_false]
  cases hblank : Text.isAllBlank m.sql with
  | true =>
    -- a blank query is not kept either
    cases m.materialization.strategy with
    | error fault => rfl
    | ok strategy =>
      have hplan : ∃ fault, strategy.plan (e.targetName m) m.sql m.materialization
          = .error fault := by
        unfold Strategy.plan
        rw [hblank]
        cases Text.isAllBlank (e.targetName m) with
        | true => exact ⟨_, rfl⟩
        | false => exact ⟨_, rfl⟩
      obtain ⟨fault, hplan⟩ := hplan
      simp [hplan]
  | false =>
    cases m.materialization.strategy with
    | error fault => rfl
    | ok strategy =>
      simp only [Bool.false_eq_true, if_false, Strategy.statements]
      cases strategy.plan (e.targetName m) m.sql m.materialization with
      | error fault => rfl
      | ok statements => rfl

/-- What is executed for a model is made by the engine, unless it stands in the text. -/
theorem exists_generated_of_mem_executed {s : Session σ} {sql : String}
    (hraw : Sql.isRawStatement ((e.runModel m).run s).1.1.sql = false)
    (h : sql ∈ e.executed m s) :
    ∃ statement ∈ e.generated ((e.runModel m).run s).1.1, statement.text = sql := by
  have hplanned := (e.executed_isPrefix m s).subset h
  rw [planned_eq_generated hraw] at hplanned
  exact List.mem_map.1 hplanned

/-- A model touches its own table or view, and, when it merges, a temporary table. -/
theorem mem_touched_iff {relation : String} : relation ∈ e.touched m ↔ e.generated m ≠ []
    ∧ (relation = e.targetName m ∨ m.materialization.isIncrementalRun = true
      ∧ relation = Strategy.stageName (e.targetName m)) := by
  have hnothing : ∀ P : Prop, relation ∈ ([] : List Statement).map Statement.touched
      ↔ ([] : List Statement) ≠ [] ∧ P := by simp
  rw [touched, generated]
  split
  · exact hnothing _
  · cases hstrategy : m.materialization.strategy with
    | error fault => exact hnothing _
    | ok strategy =>
      dsimp only
      cases hplan : strategy.plan (e.targetName m) m.sql m.materialization with
      | error fault => exact hnothing _
      | ok statements =>
        have hmerges : (strategy = .incremental ∧ m.materialization.fullRefresh = false)
            ↔ m.materialization.isIncrementalRun = true := by
          rw [Materialization.isIncrementalRun, Bool.and_eq_true, Bool.not_eq_true']
          refine and_congr_left fun _ => ⟨?_, fun hincremental => ?_⟩
          · rintro rfl
            exact Strategy.isIncremental_of_strategy hstrategy
          · have hsame := Strategy.strategy_of_isIncremental hincremental
            exact Except.ok.inj (hstrategy.symm.trans hsame)
        have htouched := Strategy.mem_touched_plan hplan
        dsimp only
        rw [htouched, hmerges]
        refine (and_iff_right ?_).symm
        rintro rfl
        simpa using (htouched (e.targetName m)).2 (Or.inl rfl)

/-! ### Two models -/

theorem targetName_eq_iff : e.targetName m = e.targetName m' ↔ m.id = m'.id :=
  (qualify_injective e.schema).eq_iff

theorem stageName_targetName (hm : Identifier.isValid m.id = true) :
    Strategy.stageName (e.targetName m) = m.id ++ Strategy.stageSuffix :=
  Strategy.stageName_qualify e.schema (Identifier.dot_notMem hm)

theorem targetName_eq_stageName_iff (hm : Identifier.isValid m.id = true) :
    e.targetName m' = Strategy.stageName (e.targetName m)
      ↔ e.schema = "" ∧ m'.id = m.id ++ Strategy.stageSuffix := by
  rw [stageName_targetName hm, targetName]
  constructor
  · intro h
    by_cases hschema : e.schema = ""
    · rw [hschema, qualify_empty] at h
      exact ⟨hschema, h⟩
    · -- the dot behind the schema is not in the other name
      have hdot : '.' ∈ (m.id ++ Strategy.stageSuffix).toList := by
        rw [← h, toList_qualify hschema]
        simp
      rw [String.toList_append, List.mem_append] at hdot
      rcases hdot with hdot | hdot
      · exact absurd hdot (Identifier.dot_notMem hm)
      · exact absurd hdot (by decide)
  · rintro ⟨hschema, hid⟩
    rw [hschema, qualify_empty, hid]

/-- That two models touch nothing in common. -/
def Apart (e : Engine σ) (m m' : Model) : Prop :=
  List.Disjoint (e.touched m) (e.touched m')

instance : Std.Symm e.Apart where
  symm _ _ h := List.Disjoint.symm h

/-- That the temporary table of a model has the name of another model's table or view. -/
structure StagesOver (e : Engine σ) (m m' : Model) : Prop where
  schema : e.schema = ""
  id : m'.id = m.id ++ Strategy.stageSuffix
  merges : m.materialization.isIncrementalRun = true
  generates : e.generated m ≠ []
  generates' : e.generated m' ≠ []

theorem apart_iff (hm : Identifier.isValid m.id = true)
    (hm' : Identifier.isValid m'.id = true) (hne : m.id ≠ m'.id) :
    e.Apart m m' ↔ ¬ e.StagesOver m m' ∧ ¬ e.StagesOver m' m := by
  constructor
  · intro hapart
    constructor
    · intro h
      have hname := (targetName_eq_stageName_iff (e := e) hm).2 ⟨h.schema, h.id⟩
      exact hapart (mem_touched_iff.2 ⟨h.generates, Or.inr ⟨h.merges, rfl⟩⟩)
        (mem_touched_iff.2 ⟨h.generates', Or.inl hname.symm⟩)
    · intro h
      have hname := (targetName_eq_stageName_iff (e := e) hm').2 ⟨h.schema, h.id⟩
      exact hapart (mem_touched_iff.2 ⟨h.generates', Or.inl hname.symm⟩)
        (mem_touched_iff.2 ⟨h.generates, Or.inr ⟨h.merges, rfl⟩⟩)
  · rintro ⟨hover, hover'⟩ relation hrelation hrelation'
    obtain ⟨hgenerates, hname⟩ := mem_touched_iff.1 hrelation
    obtain ⟨hgenerates', hname'⟩ := mem_touched_iff.1 hrelation'
    rcases hname with rfl | ⟨hmerges, rfl⟩
    · rcases hname' with htarget | ⟨hmerges, hstage⟩
      · exact hne (targetName_eq_iff.1 htarget)
      · obtain ⟨hschema, hid⟩ := (targetName_eq_stageName_iff hm').1 hstage
        exact hover' ⟨hschema, hid, hmerges, hgenerates', hgenerates⟩
    · rcases hname' with htarget | ⟨-, hstage⟩
      · obtain ⟨hschema, hid⟩ := (targetName_eq_stageName_iff hm).1 htarget.symm
        exact hover ⟨hschema, hid, hmerges, hgenerates, hgenerates'⟩
      · rw [stageName_targetName hm, stageName_targetName hm'] at hstage
        exact hne ((String.append_left_inj _).1 hstage)

/-! ### Many models -/

/-- How far models keep out of each other's tables and views. -/
structure KeepApart (e : Engine σ) (models : List Model) : Prop where
  pairwise_iff : models.Pairwise e.Apart ↔ ∀ m ∈ models, ∀ m' ∈ models, ¬ e.StagesOver m m'
  pairwise_of_schema : e.schema ≠ "" → models.Pairwise e.Apart
  -- what is executed is what has been made, of the model as it has been rendered
  executed : ∀ m ∈ models, ∀ s, Sql.isRawStatement ((e.runModel m).run s).1.1.sql = false →
    ∀ sql ∈ e.executed m s,
      ∃ statement ∈ e.generated ((e.runModel m).run s).1.1, statement.text = sql

theorem not_stagesOver_self (m : Model) : ¬ e.StagesOver m m := by
  intro h
  have hlength := congrArg String.length h.id
  have hsuffix : Strategy.stageSuffix.length = 5 := by decide
  rw [String.length_append, hsuffix] at hlength
  omega

/-- **Models with different ids touch different tables and views,** unless there is no schema and
    one of them is named like the temporary table of another. -/
theorem keepApart {models : List Model} (hnodup : (models.map (·.id)).Nodup)
    (hvalid : ∀ m ∈ models, Identifier.isValid m.id = true) : KeepApart e models := by
  have hiff : models.Pairwise e.Apart ↔ ∀ m ∈ models, ∀ m' ∈ models, ¬ e.StagesOver m m' := by
    constructor
    · intro hpairwise m hm m' hm' hover
      by_cases hsame : m = m'
      · subst hsame
        exact not_stagesOver_self m hover
      · have hne : m.id ≠ m'.id := fun hid =>
          hsame (List.inj_on_of_nodup_map hnodup hm hm' hid)
        have hapart := hpairwise.forall hm hm' hsame
        exact ((apart_iff (hvalid m hm) (hvalid m' hm') hne).1 hapart).1 hover
    · intro hnone
      have hids : models.Pairwise fun m m' => m.id ≠ m'.id := List.pairwise_map.1 hnodup
      refine hids.imp_of_mem fun hm hm' hne => ?_
      exact (apart_iff (hvalid _ hm) (hvalid _ hm') hne).2
        ⟨hnone _ hm _ hm', hnone _ hm' _ hm⟩
  constructor
  case pairwise_iff => exact hiff
  case pairwise_of_schema =>
    intro hschema
    exact hiff.2 fun m _ m' _ hover => hschema hover.schema
  case executed =>
    intro m _ s hraw sql hsql
    exact exists_generated_of_mem_executed hraw hsql

/-- A model that grows, and one that is a table; the id of the second is given. -/
def besides (id : String) : List Model :=
  [{ growing with sql := "select 1 as id" },
    { growing with id := id, sql := "select 2 as id", materialization := {} }]

theorem keepApart_besides : ((besides "items").map (·.id)).Nodup
    ∧ (∀ m ∈ besides "items", Identifier.isValid m.id = true)
    ∧ KeepApart obliging (besides "items") ∧ (besides "items").Pairwise obliging.Apart := by
  have hnodup : ((besides "items").map (·.id)).Nodup := by decide
  have hvalid : ∀ m ∈ besides "items", Identifier.isValid m.id = true := by decide
  have hnone : ∀ m ∈ besides "items", ∀ m' ∈ besides "items",
      m'.id ≠ m.id ++ Strategy.stageSuffix := by decide
  have hapart : KeepApart obliging (besides "items") := keepApart hnodup hvalid
  exact ⟨hnodup, hvalid, hapart,
    hapart.pairwise_iff.2 fun m hm m' hm' hover => hnone m hm m' hm' hover.id⟩

/-- **A table that is named like the temporary table of another model is overwritten by it,** where
    there is no schema. -/
theorem staged_over : ((besides "orders__tmp").map (·.id)).Nodup
    ∧ (∀ m ∈ besides "orders__tmp", Identifier.isValid m.id = true
        ∧ Sql.isRawStatement m.sql = false)
    ∧ (besides "orders__tmp").map obliging.touched
        = [["orders__tmp", "orders", "orders", "orders", "orders__tmp"],
          ["orders__tmp", "orders__tmp"]]
    ∧ ¬ (besides "orders__tmp").Pairwise obliging.Apart := by
  refine ⟨by decide, by decide +kernel, by decide +kernel, fun hpairwise => ?_⟩
  have hapart := List.pairwise_pair.1 hpairwise
  exact hapart (a := "orders__tmp") (by decide +kernel) (by decide +kernel)

end Run.Engine

end SqlPipeline
