/-
  SqlPipeline/Proofs/Run/FullRefresh.lean
  =======================================
  **Models that are rebuilt from scratch, whatever tables there are.**

  That models are to be rebuilt is decided when they are compiled, but it has to be heeded
  in three places later on: when the store is asked for the table, when the template is
  told how it is run, and when the statements are planned.  All three do
  (`rebuildsAnew_of_compileAll`): the answers about tables have no influence on what is
  sent, no template sees that its run adds to a table, and an incremental model is sent as
  a table would be.
-/
import SqlPipeline.Proofs.Model.Compile
import SqlPipeline.Proofs.RefScan
import SqlPipeline.Proofs.Run.Alike
import SqlPipeline.Proofs.Run.Incremental
import SqlPipeline.Proofs.Run.Report
import SqlPipeline.Proofs.Template.Plain
import Mathlib

namespace SqlPipeline.Run.Engine

open Storage

variable {σ τ α : Type} {R : σ → τ → Prop} {e : Engine σ} {b : Adapter τ}

/-! ### What is sent -/

/-- The statements that are sent in an action, with the answers to them. -/
def sent (x : Action (σ × List Attempt) α) (s : Session σ) : List Attempt :=
  (x.run (s.map fun store => (store, []))).2.store.2

/-- In actions that go in parallel the same is sent, with the same answers. -/
theorem sent_eq {β : Type} {P : α → β → Prop} {x : Action (σ × List Attempt) α}
    {y : Action (τ × List Attempt) β} (h : Parallel (Observed R) P x y) {s : Session σ}
    {t : Session τ} (hst : s.Alike R t) : sent y t = sent x s := by
  have hbefore : (s.map fun store => (store, [])).Alike (Observed R)
      (t.map fun store => (store, ([] : List Attempt))) := ⟨⟨hst.store, rfl⟩, hst.context⟩
  exact (h _ _ hbefore).2.store.2

/-! ### Incremental models and tables -/

/-- An incremental model that is rebuilt has the plan that it would have if it were kept as a
    table. -/
theorem plan_keptAs_table {m : Model} (hm : m.materialization.isIncrementalRun = false)
    (hincremental : m.isIncremental = true) (hkey : m.materialization.uniqueKey ≠ [])
    {other : Materialization} (hother : other.tag = some Strategy.table.tag) :
    e.plan (m.keptAs other) = e.plan m := by
  have hrefresh : m.materialization.fullRefresh = true := by
    rw [Materialization.isIncrementalRun, Bool.and_eq_false_iff] at hm
    rcases hm with hnot | hrefresh
    · exact absurd (hincremental.symm.trans hnot) (by decide)
    · simpa using hrefresh
  have hkey : m.materialization.uniqueKey.isEmpty = false := by simpa using hkey
  have hstrategy : m.materialization.strategy = .ok .incremental :=
    Strategy.strategy_of_isIncremental hincremental
  have hstrategy' : (m.keptAs other).materialization.strategy = .ok .table := by
    have hname : other.tagName = Strategy.table.tag := by
      rw [Materialization.tagName, hother]
      rfl
    rw [Model.keptAs, Materialization.strategy, hname, Strategy.ofTag, Strategy.ofTag?_tag]
  -- either strategy drops the table and builds it from the query
  have hstatements : Strategy.table.statements (e.targetName m) m.sql other
      = Strategy.incremental.statements (e.targetName m) m.sql m.materialization := by
    simp only [Strategy.statements, Strategy.plan, hkey, hrefresh, Bool.false_eq_true, if_false,
      if_true]
  have hsql : (m.keptAs other).sql = m.sql := rfl
  have htarget : e.targetName (m.keptAs other) = e.targetName m := rfl
  have hkept : (m.keptAs other).materialization = other := rfl
  rw [Engine.plan, Engine.plan, hstrategy, hstrategy', hsql, htarget, hkept]
  simp only [hstatements]

theorem rerendered_keptAs {m : Model} (hm : m.materialization.isIncrementalRun = false)
    {other : Materialization} (hother : other.isIncremental = false) (s : Session σ)
    {t : Session τ} (hcontext : t.context = s.context) :
    (e.withAdapter b).rerendered (m.keptAs other) t
      = (e.rerendered m s).map (·.keptAs other) := by
  have htold := tellsIncremental_of_anew (e := e) hm s
  have htold' : (e.withAdapter b).tellsIncremental (m.keptAs other) t = false :=
    tellsIncremental_of_anew (Bool.and_eq_false_iff.2 (Or.inl hother)) t
  have hdelimiters : (e.withAdapter b).delimiters = e.delimiters := rfl
  have htemplate : (m.keptAs other).template = m.template := rfl
  rw [rerendered, rerendered, hdelimiters, htemplate, htold, htold', hcontext]
  cases e.delimiters with
  | none => rfl
  | some d =>
    cases m.template.isEmpty with
    | true => rfl
    | false =>
      have hrendered : (e.withAdapter b).renderedIn (m.keptAs other) d
          (s.context.forModel (m.keptAs other).id false)
            = e.renderedIn m d (s.context.forModel m.id false) := rfl
      simp only [Bool.false_eq_true, if_false, hrendered]
      cases e.renderedIn m d (s.context.forModel m.id false) with
      | error message => rfl
      | ok sql => rfl

theorem rerendered_rendered {m m' : Model} {s : Session σ} (h : e.rerendered m s = .ok m') :
    Rendered m m' := by
  rw [rerendered] at h
  split at h
  · obtain rfl := Except.ok.inj h
    exact .refl m
  · split at h
    · obtain rfl := Except.ok.inj h
      exact .refl m
    · cases hsql : e.renderedIn m _ (s.context.forModel m.id (e.tellsIncremental m s)) with
      | error message =>
        rw [hsql] at h
        cases h
      | ok sql =>
        rw [hsql] at h
        obtain rfl := Except.ok.inj h
        rfl

/-! ### Compiled models that are rebuilt -/

/-- That the template of a model is rendered where it sees that the run does not add to a table,
    and that the model is sent as it has been rendered there. -/
structure SeesAnew (e : Engine σ) (d : Template.Delimiters) (m : Model) (s : Session σ) :
    Prop where
  rendered : match e.renderedIn m d (s.context.forModel m.id false) with
    | .ok sql => ((e.runModel m).run s).1.1 = { m with sql := sql }
    | .error _ => ((e.runModel m).run s).1.1 = m ∧ e.executed m s = []
  sees : ∀ template, Template.read d m.id m.template = .ok template →
    Template.SeesIncremental (s.context.forModel m.id false) e.environment template.body false

theorem seesAnew {d : Template.Delimiters} (hd : e.delimiters = some d) {m : Model}
    (hm : m.materialization.isIncrementalRun = false) (htemplate : m.template ≠ "")
    {s : Session σ} (h : e.AnswersFor m s) : SeesAnew e d m s where
  rendered := by
    have hrendered := runModel_rendered hd htemplate h
    rwa [tellsIncremental_of_anew hm] at hrendered
  sees := fun _ _ => Template.seesIncremental _ _ _

/-- How an incremental model is run on one store, and on the other as if it were to be kept in
    another way. -/
structure RunsAs (R : σ → τ → Prop) (e : Engine σ) (b : Adapter τ) (m : Model)
    (other : Materialization) : Prop where
  -- it is rendered to the same query, which has the same plan, or fails in the same way
  plans : ∀ s t, t.context = s.context →
    ((e.withAdapter b).rerendered (m.keptAs other) t).map (e.withAdapter b).plan
      = (e.rerendered m s).map e.plan
  -- and when it makes no difference to the store to be asked for a table, the same is sent
  attempts : e.adapter.AsksFreely R → ∀ s t, s.Alike R t →
    (e.withAdapter b).attempts (m.keptAs other) t = e.attempts m s
  outcome : e.adapter.AsksFreely R → ∀ s t, s.Alike R t →
    (((e.withAdapter b).runModel (m.keptAs other)).run t).1.2 = ((e.runModel m).run s).1.2

theorem runsAs_table (hR : e.adapter.ExecutesAlike R b) {m : Model}
    (hm : m.materialization.isIncrementalRun = false) (hincremental : m.isIncremental = true)
    (hkey : m.materialization.uniqueKey ≠ []) {other : Materialization}
    (hother : other.tag = some Strategy.table.tag) : RunsAs R e b m other := by
  have hnever : other.isIncremental = false := by
    rw [Materialization.isIncremental, hother]
    decide
  have hplan : ∀ m', Rendered m m' → e.plan (m'.keptAs other) = e.plan m' := by
    intro m' h
    have hkept := h.materialization_eq
    apply plan_keptAs_table
    · rw [hkept]
      exact hm
    · rw [Model.isIncremental, hkept]
      exact hincremental
    · rw [hkept]
      exact hkey
    · exact hother
  constructor
  case plans =>
    intro s t hcontext
    rw [rerendered_keptAs hm hnever s hcontext]
    cases hrendered : e.rerendered m s with
    | error message => rfl
    | ok m' => exact congrArg Except.ok (hplan m' (rerendered_rendered hrendered))
  case attempts =>
    intro hfree s t hst
    have hparallel := runModel_parallel hR.observed
      (addsToTarget_parallel_keptAs (e := e.observed) hm hR.observed hfree.observed hnever) hplan
    exact sent_eq hparallel hst
  case outcome =>
    intro hfree s t hst
    have hparallel :=
      runModel_parallel hR (addsToTarget_parallel_keptAs hm hR hfree hnever) hplan
    rw [((hparallel s t hst).1).1]

/-- How models are run that are rebuilt from scratch, with two stores that execute statements
    alike, whatever each says about its tables. -/
structure RebuildsAnew (R : σ → τ → Prop) (e : Engine σ) (b : Adapter τ) (models : List Model) :
    Prop where
  -- one after the other, in whatever order
  each : ∀ visited : List Model, (∀ m ∈ visited, m ∈ models) → ∀ s t, s.Alike R t →
    ((visited.mapM (e.withAdapter b).runModel).run t).1 = ((visited.mapM e.runModel).run s).1
      ∧ sent (visited.mapM (e.withAdapter b).observed.runModel) t
          = sent (visited.mapM e.observed.runModel) s
  -- and all of them together
  together : ∀ failFast s t, s.Alike R t →
    (((e.withAdapter b).runModels models failFast).run t).1
        = ((e.runModels models failFast).run s).1
      ∧ sent ((e.withAdapter b).observed.runModels models failFast) t
          = sent (e.observed.runModels models failFast) s
  sees : ∀ m ∈ models, m.template ≠ "" → ∀ d, e.delimiters = some d →
    (∀ s, SeesAnew e d m s) ∧ ∀ t, SeesAnew (e.withAdapter b) d m t
  asTable : ∀ m ∈ models, m.isIncremental = true → m.materialization.uniqueKey ≠ [] →
    ∀ other, other.tag = some Strategy.table.tag → RunsAs R e b m other

/-- **Models that are compiled to be rebuilt from scratch are,** whatever tables there are. -/
theorem rebuildsAnew_of_compileAll {models compiled : List Model} {base left : Context}
    {environment : Entries String}
    (h : Model.compileAll models base environment true = .ok (compiled, left))
    (hR : e.adapter.ExecutesAlike R b) : RebuildsAnew R e b compiled := by
  have hanew := Model.compileAll_fullRefresh h
  have hsame : ∀ {υ ω : Type} {S : υ → ω → Prop} {e : Engine υ} {b : Adapter ω},
      e.adapter.ExecutesAlike S b → ∀ m ∈ compiled,
        Parallel S Eq (e.runModel m) ((e.withAdapter b).runModel m) := by
    intro υ ω S e b hS m hm
    exact (runModel_parallel_self hS (hanew m hm)).mono fun r r' h => h.1.symm
  constructor
  case each =>
    intro visited hvisited s t hst
    constructor
    · exact ((Parallel.mapM fun m hm => hsame hR m (hvisited m hm)) s t hst).1.symm
    · have hobserved : ∀ m ∈ visited, Parallel (Observed R) Eq (e.observed.runModel m)
          ((e.withAdapter b).observed.runModel m) :=
        fun m hm => hsame (e := e.observed) hR.observed m (hvisited m hm)
      exact sent_eq (Parallel.mapM hobserved) hst
  case together =>
    intro failFast s t hst
    constructor
    · exact (runModels_parallel hR failFast hanew s t hst).1.symm
    · exact sent_eq (runModels_parallel (e := e.observed) hR.observed failFast hanew) hst
  case sees =>
    intro m hm htemplate d hd
    constructor
    · exact fun s => seesAnew hd (hanew m hm) htemplate fun escape => hR.left_reports _ _ escape
    · exact fun t => seesAnew (e := e.withAdapter b) hd (hanew m hm) htemplate fun escape =>
        hR.right_reports _ _ escape
  case asTable =>
    intro m hm hincremental hkey other hother
    exact runsAs_table hR (hanew m hm) hincremental hkey hother

/-- A store that cannot tell which tables it has, and executes everything. -/
def forgetful : Adapter Unit where
  execute _ s := (.ok (), s)
  tableExists _ s := (.error (.storage "no catalog"), s)
  notes _ := []

theorem obliging_executesAlike :
    obliging.adapter.ExecutesAlike (fun _ _ => True) forgetful where
  answers _ _ _ _ := rfl
  executes _ _ _ _ := trivial
  asks _ _ _ _ := trivial
  left_reports _ _ escape h := by cases h
  right_reports _ _ escape h := by cases h

/-- The growing model, compiled to be rebuilt. -/
def regrown : Model :=
  { growing with
    sql := "select 1 as id"
    materialization := { growing.materialization with fullRefresh := true } }

theorem compileAll_growing : Model.compileAll [growing] {} [] true = .ok ([regrown], {}) := by
  have hread : Template.read {} growing.id growing.template
      = .ok ⟨"orders", [.output [.data "select 1 as id"]]⟩ :=
    Template.read_braceless (by decide) (by decide) (by decide)
  have hrender : (⟨"orders", [.output [.data "select 1 as id"]]⟩ : Template).renderTracked
      (Context.forModel {} growing.id) [] [] {}
        = (⟨.ok "select 1 as id", [], Context.forModel {} "orders", false, false⟩, {}) := rfl
  have hmentioned : RefScan.refNames growing.template = [] :=
    RefScan.refNames_callless (by decide)
  have hcompiled : Model.compile growing true ["orders"] [] {}
      = .ok (regrown, ⟨{}, {}⟩) :=
    Model.compile_of_tracked hread hrender rfl rfl rfl hmentioned rfl
  exact bind_eq_ok_iff.2 ⟨_, Model.compileEach_cons hcompiled rfl, rfl⟩

theorem rebuildsAnew_of_compileAll_growing :
    Model.compileAll [growing] {} [] true = .ok ([regrown], {})
      ∧ obliging.adapter.ExecutesAlike (fun _ _ => True) forgetful
      ∧ RebuildsAnew (fun _ _ => True) obliging forgetful [regrown] :=
  ⟨compileAll_growing, obliging_executesAlike,
    rebuildsAnew_of_compileAll compileAll_growing obliging_executesAlike⟩

end SqlPipeline.Run.Engine
