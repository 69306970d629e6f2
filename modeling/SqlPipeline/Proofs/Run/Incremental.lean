/-
  SqlPipeline/Proofs/Run/Incremental.lean
  =======================================
  **A run that adds to a table never overwrites it.**

  Whether a run adds to a table is decided twice: when the template is rendered, which may
  then leave rows out, and when the statements are planned.  The two decisions agree
  (`runModel_incremental`): where the template was told that the run adds to a table, only
  the statements of a merge are sent, and where the table is dropped and built anew, the
  template was told that it is not so.
-/
import SqlPipeline.Proofs.Materialization
import SqlPipeline.Proofs.Sql.Leading
import SqlPipeline.Proofs.Template.Function
import SqlPipeline.Proofs.Run.Model
import SqlPipeline.Proofs.Run.Visits

namespace SqlPipeline.Run.Engine

open Storage

variable {σ : Type} {e : Engine σ}

/-! ### Plans -/

/-- A model that adds to a table is planned as a merge, unless it cannot be planned. -/
theorem mem_merge_of_mem_planned {m : Model} (hm : m.materialization.isIncrementalRun = true)
    (hraw : Sql.isRawStatement m.sql = false) {sql : String} (h : sql ∈ e.planned m) :
    sql ∈ (Strategy.merge (e.targetName m) m.sql m.materialization.uniqueKey).map
      Statement.text := by
  rw [Materialization.isIncrementalRun, Bool.and_eq_true, Bool.not_eq_true'] at hm
  obtain ⟨hincremental, hrefresh⟩ := hm
  rw [planned, plan, hraw, Strategy.strategy_of_isIncremental hincremental] at h
  cases hblank : Text.isAllBlank m.sql with
  | true =>
    rw [hblank] at h
    cases h
  | false =>
    rw [hblank] at h
    cases hstatements : Strategy.incremental.statements (e.targetName m) m.sql m.materialization with
    | error fault =>
      simp only [hstatements, Bool.false_eq_true, if_false, List.not_mem_nil] at h
    | ok texts =>
      simp only [hstatements, Bool.false_eq_true, if_false] at h
      rwa [Strategy.incremental_statements_eq hrefresh hstatements] at h

/-- A statement that stands in the text of a model cannot build a table from all of it. -/
theorem createTable_not_mem_planned {m : Model} (hraw : Sql.isRawStatement m.sql = true)
    (name : String) : (Statement.createTable name m.sql).text ∉ e.planned m := by
  intro h
  rw [planned, plan, hraw] at h
  cases hblank : Text.isAllBlank m.sql with
  | true =>
    rw [hblank] at h
    cases h
  | false =>
    rw [hblank] at h
    have hle := Sql.length_le_of_mem_splitStatements h
    have htext : (Statement.createTable name m.sql).text
        = "CREATE TABLE " ++ name ++ " AS " ++ m.sql := rfl
    have hwords : "CREATE TABLE ".length = 13 := by decide
    rw [htext] at hle
    simp only [String.length_append] at hle
    omega

/-! ### Rendering -/

/-- A model is run as it has been rendered, in a context that holds what its template is told. -/
theorem runModel_rendered {d : Template.Delimiters} (hd : e.delimiters = some d) {m : Model}
    (hm : m.template ≠ "") {s : Session σ} (h : e.AnswersFor m s) :
    match e.renderedIn m d (s.context.forModel m.id (e.tellsIncremental m s)) with
    | .ok sql => ((e.runModel m).run s).1.1 = { m with sql := sql }
    | .error _ => ((e.runModel m).run s).1.1 = m ∧ e.executed m s = [] := by
  have hempty : m.template.isEmpty = false := by simpa using hm
  -- the note at the start changes neither the store nor the context
  have hrefresh := refresh_run hd hempty (s := started m s) h
  have hcontext : (started m s).context.forModel m.id (e.tellsIncremental m (started m s))
      = s.context.forModel m.id (e.tellsIncremental m s) := rfl
  rw [hcontext] at hrefresh
  cases hrendered : e.renderedIn m d (s.context.forModel m.id (e.tellsIncremental m s)) with
  | ok sql =>
    rw [hrendered] at hrefresh
    exact of_refresh_ok hrefresh
  | error message =>
    rw [hrendered] at hrefresh
    exact of_refresh_error hrefresh

/-! ### Sending -/

section

variable {m after : Model} {s : Session σ}

/-- When the template was told that the run adds to a table, only a merge is sent. -/
theorem mem_merge_of_mem_executed (hafter : ((e.runModel m).run s).1.1 = after)
    (htold : e.tellsIncremental m s = true) (hraw : Sql.isRawStatement after.sql = false)
    {sql : String} (h : sql ∈ e.executed m s) :
    sql ∈ (Strategy.merge (e.targetName m) after.sql m.materialization.uniqueKey).map
      Statement.text := by
  have hrendered : Rendered m after := by
    rw [← hafter]
    exact (e.runModel_gives m s).1
  have hmaterialization := hrendered.materialization_eq
  have htarget : e.targetName after = e.targetName m := by
    rw [targetName, hrendered.id_eq]
    rfl
  have hrun : after.materialization.isIncrementalRun = true := by
    rw [hmaterialization]
    exact (Bool.and_eq_true_iff.1 htold).1
  have hplanned : sql ∈ e.planned after := by
    rw [← hafter]
    exact (e.executed_isPrefix m s).subset h
  have hmem := mem_merge_of_mem_planned hrun hraw hplanned
  rwa [htarget, hmaterialization] at hmem

theorem told_of_overwrites (hafter : ((e.runModel m).run s).1.1 = after)
    (hraw : Sql.isRawStatement after.sql = false) {sql : String} (h : sql ∈ e.executed m s)
    (hover : Statement.Overwrites (e.targetName m) sql) : e.tellsIncremental m s = false := by
  cases htold : e.tellsIncremental m s with
  | false => rfl
  | true =>
    have hmem := mem_merge_of_mem_executed hafter htold hraw h
    exact absurd hover (Strategy.not_overwrites_of_mem_merge hmem)

end

/-- How a model with a template is run: what its template sees, and what is sent for it. -/
structure IncrementalRun (e : Engine σ) (d : Template.Delimiters) (m : Model) (s : Session σ)
    (after : Model) (seen : Bool) : Prop where
  seen_iff : seen = true ↔ m.materialization.tag = some "incremental"
    ∧ m.materialization.fullRefresh = false
    ∧ (e.adapter.tableExists (e.targetName m) s.store).1 = .ok true
  -- the template is rendered in a context in which it sees this
  rendered : e.AnswersFor m s →
    match e.renderedIn m d (s.context.forModel m.id seen) with
    | .ok sql => after = { m with sql := sql }
    | .error _ => after = m ∧ e.executed m s = []
  sees : ∀ template, Template.read d m.id m.template = .ok template →
    Template.SeesIncremental (s.context.forModel m.id seen) e.environment template.body seen
  -- what is sent when it has seen that the run adds to a table
  merges : seen = true → Sql.isRawStatement after.sql = false → ∀ sql ∈ e.executed m s,
    sql ∈ (Strategy.merge (e.targetName m) after.sql m.materialization.uniqueKey).map Statement.text
      ∧ ¬ Statement.Overwrites (e.targetName m) sql
  stages : Strategy.stageName (e.targetName m) ≠ e.targetName m
  -- what it has seen when the table is dropped, or built from all of its query
  drops : Sql.isRawStatement after.sql = false →
    (Statement.dropTable (e.targetName m)).text ∈ e.executed m s → seen = false
  builds : (Statement.createTable (e.targetName m) after.sql).text ∈ e.executed m s → seen = false

/-- **Rendering and sending agree on whether a run adds to a table.** -/
theorem runModel_incremental {d : Template.Delimiters} (hd : e.delimiters = some d) {m : Model}
    (hm : m.template ≠ "") (s : Session σ) :
    ∃ seen, IncrementalRun e d m s ((e.runModel m).run s).1.1 seen := by
  refine ⟨e.tellsIncremental m s, ?_⟩
  constructor
  case seen_iff =>
    rw [e.tellsIncremental_iff]
    simp [Model.isIncremental, Materialization.isIncremental, Strategy.tag]
  case rendered => exact runModel_rendered hd hm
  case sees => exact fun template _ => Template.seesIncremental _ _ _
  case merges =>
    intro htold hraw sql hsql
    have hmem := mem_merge_of_mem_executed rfl htold hraw hsql
    exact ⟨hmem, Strategy.not_overwrites_of_mem_merge hmem⟩
  case stages => exact Strategy.stageName_ne _
  case drops =>
    intro hraw hdrop
    exact told_of_overwrites rfl hraw hdrop (Or.inl rfl)
  case builds =>
    intro hbuild
    cases hraw : Sql.isRawStatement ((e.runModel m).run s).1.1.sql with
    | true =>
      have hplanned := (e.executed_isPrefix m s).subset hbuild
      exact absurd hplanned (createTable_not_mem_planned hraw _)
    | false => exact told_of_overwrites rfl hraw hbuild (Or.inr (Or.inr ⟨_, rfl⟩))

/-- An engine whose store has every table, and executes everything. -/
def obliging : Engine Unit where
  adapter :=
    { execute := fun _ s => (.ok (), s)
      tableExists := fun _ s => (.ok true, s)
      notes := fun _ => [] }
  delimiters := some {}

/-- A model that grows by the rows of a query. -/
def growing : Model where
  id := "orders"
  path := "orders.sql"
  sql := ""
  template := "select 1 as id"
  materialization := { tag := some "incremental", uniqueKey := ["id"] }
  dependencies := []
  metadata := []

theorem runModel_incremental_growing : growing.template ≠ ""
    ∧ IncrementalRun obliging {} growing ⟨(), {}, []⟩
        ((obliging.runModel growing).run ⟨(), {}, []⟩).1.1 true := by
  have htemplate : growing.template ≠ "" := by decide
  obtain ⟨seen, h⟩ := runModel_incremental (e := obliging) rfl htemplate ⟨(), {}, []⟩
  obtain rfl : seen = true := h.seen_iff.2 ⟨rfl, rfl, rfl⟩
  exact ⟨htemplate, h⟩

end SqlPipeline.Run.Engine
