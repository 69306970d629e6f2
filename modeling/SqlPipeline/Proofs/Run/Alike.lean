/-
  SqlPipeline/Proofs/Run/Alike.lean
  =================================
  **Runs on two stores that execute statements alike.**

  Two stores may execute every statement alike and still differ in what they say about
  their tables.  The actions of a run are compared step by step on two such stores
  (`Parallel`).  Nothing that is said about a table is listened to when a model is built
  anew, so that a run of such models is the same on both (`runModels_parallel`).
-/
import SqlPipeline.Proofs.Run.Attempts

namespace SqlPipeline

namespace Storage

variable {σ τ : Type}

/-- That two stores execute statements alike from states that go together, whatever each of
    them says about its tables. -/
structure Adapter.ExecutesAlike (R : σ → τ → Prop) (a : Adapter σ) (b : Adapter τ) : Prop where
  answers : ∀ sql s t, R s t → (b.execute sql t).1 = (a.execute sql s).1
  executes : ∀ sql s t, R s t → R (a.execute sql s).2 (b.execute sql t).2
  asks : ∀ name s t, R s t → R (a.tableExists name s).2 (b.tableExists name t).2
  -- each says that a table is there or is not, or fails in a way that is reported
  left_reports : ∀ name s escape, (a.tableExists name s).1 ≠ .error (.escaped escape)
  right_reports : ∀ name t escape, (b.tableExists name t).1 ≠ .error (.escaped escape)

/-- That asking one of two stores for a table does not change which states go together. -/
def Adapter.AsksFreely (R : σ → τ → Prop) (a : Adapter σ) : Prop :=
  ∀ name s t, R s t → R (a.tableExists name s).2 t

/-- States that go together, in which the same attempts have been written down. -/
def Observed (R : σ → τ → Prop) (s : σ × List Attempt) (t : τ × List Attempt) : Prop :=
  R s.1 t.1 ∧ t.2 = s.2

variable {R : σ → τ → Prop} {a : Adapter σ} {b : Adapter τ}

/-- Stores that execute alike still do so when they write down what they answer. -/
theorem Adapter.ExecutesAlike.observed (h : a.ExecutesAlike R b) :
    a.observed.ExecutesAlike (Observed R) b.observed where
  answers sql s t hst := h.answers sql s.1 t.1 hst.1
  executes sql s t hst := by
    refine ⟨h.executes sql s.1 t.1 hst.1, ?_⟩
    have hanswer := h.answers sql s.1 t.1 hst.1
    simp only [Adapter.observed, hanswer, hst.2]
  asks name s t hst := ⟨h.asks name s.1 t.1 hst.1, hst.2⟩
  left_reports name s := h.left_reports name s.1
  right_reports name t := h.right_reports name t.1

theorem Adapter.AsksFreely.observed (h : a.AsksFreely R) : a.observed.AsksFreely (Observed R) :=
  fun name s t hst => ⟨h name s.1 t.1 hst.1, hst.2⟩

end Storage

def Model.keptAs (m : Model) (other : Materialization) : Model :=
  { m with materialization := other }

namespace Run

open Storage

variable {σ τ α β γ δ : Type} {R : σ → τ → Prop}

/-- Points of two runs with the same context, to which the same comes by chance from then on, and
    with stores that go together. -/
structure Session.Alike (R : σ → τ → Prop) (s : Session σ) (t : Session τ) : Prop where
  store : R s.store t.store
  context : t.context = s.context

/-- That two actions give related results from points that are alike, and lead to such points. -/
def Parallel (R : σ → τ → Prop) (P : α → β → Prop) (x : Action σ α) (y : Action τ β) : Prop :=
  ∀ s t, s.Alike R t → P (x.run s).1 (y.run t).1 ∧ (x.run s).2.Alike R (y.run t).2

namespace Parallel

variable {P : α → β → Prop} {Q : γ → δ → Prop}

theorem pure {a : α} {b : β} (h : P a b) :
    Parallel R P (Pure.pure a : Action σ α) (Pure.pure b : Action τ β) :=
  fun _ _ hst => ⟨h, hst⟩

theorem bind {x : Action σ α} {y : Action τ β} {k : α → Action σ γ} {l : β → Action τ δ}
    (hxy : Parallel R P x y) (hkl : ∀ a b, P a b → Parallel R Q (k a) (l b)) :
    Parallel R Q (x >>= k) (y >>= l) := by
  intro s t hst
  obtain ⟨hresult, hafter⟩ := hxy s t hst
  rw [run_bind, run_bind]
  exact hkl _ _ hresult _ _ hafter

/-- Actions with the same result may be followed by what depends on it. -/
theorem bind_eq {x : Action σ α} {y : Action τ α} {k : α → Action σ γ} {l : α → Action τ δ}
    (hxy : Parallel R Eq x y) (hkl : ∀ a, Parallel R Q (k a) (l a)) :
    Parallel R Q (x >>= k) (y >>= l) := by
  apply hxy.bind
  rintro a _ rfl
  exact hkl a

theorem mono {P' : α → β → Prop} {x : Action σ α} {y : Action τ β} (h : Parallel R P x y)
    (hP : ∀ a b, P a b → P' a b) : Parallel R P' x y := by
  intro s t hst
  obtain ⟨hresult, hafter⟩ := h s t hst
  exact ⟨hP _ _ hresult, hafter⟩

/-- Actions done for the items of a list, one after the other. -/
theorem mapM {f : γ → Action σ α} {g : γ → Action τ α} {items : List γ}
    (h : ∀ x ∈ items, Parallel R Eq (f x) (g x)) :
    Parallel R Eq (items.mapM f) (items.mapM g) := by
  induction items with
  | nil => exact .pure rfl
  | cons x rest ih =>
    obtain ⟨hx, hrest⟩ := List.forall_mem_cons.1 h
    rw [List.mapM_cons, List.mapM_cons]
    exact hx.bind_eq fun _ => (ih hrest).bind_eq fun _ => .pure rfl

end Parallel

namespace Engine

variable {e : Engine σ} {b : Adapter τ}

/-! ### What does not ask for tables -/

/-- What is noted may differ. -/
theorem noteAll_parallel (entries entries' : List Log.Entry) :
    Parallel R Eq (noteAll entries : Action σ Unit) (noteAll entries') :=
  fun _ _ hst => ⟨rfl, hst.store, hst.context⟩

theorem failed_parallel (o : Outcome) (message : String) :
    Parallel R Eq (failed o message : Action σ Outcome) (failed o message) :=
  (noteAll_parallel _ _).bind_eq fun _ => .pure rfl

theorem succeeded_parallel (o : Outcome) :
    Parallel R Eq (succeeded o : Action σ Outcome) (succeeded o) :=
  (noteAll_parallel _ _).bind_eq fun _ => .pure rfl

/-- How a model is kept makes no difference to how its template is rendered. -/
theorem renderFor_parallel (m : Model) (other : Materialization) (d : Template.Delimiters)
    (incremental : Bool) :
    Parallel R Eq (e.renderFor m d incremental)
      ((e.withAdapter b).renderFor (m.keptAs other) d incremental) := by
  have htemplate : Template.read d (m.keptAs other).id (m.keptAs other).template
      = Template.read d m.id m.template := rfl
  unfold renderFor
  rw [htemplate]
  cases Template.read d m.id m.template with
  | error fault => exact .pure rfl
  | ok template =>
    intro s t hst
    simp only [modifyGet, MonadStateOf.modifyGet, StateT.modifyGet, StateT.run, hst.context]
    exact ⟨rfl, hst.store, rfl⟩

section Sending

variable (hR : e.adapter.ExecutesAlike R b)
include hR

theorem execute_parallel (sql : String) :
    Parallel R Eq (e.execute sql) ((e.withAdapter b).execute sql) := by
  intro s t hst
  refine ⟨?_, ?_, hst.context⟩
  · exact (hR.answers sql s.store t.store hst.store).symm
  · exact hR.executes sql s.store t.store hst.store

theorem sendAll_parallel (statements : List String) :
    Parallel R Eq (e.sendAll statements) ((e.withAdapter b).sendAll statements) := by
  induction statements with
  | nil => exact .pure rfl
  | cons sql rest ih =>
    apply (execute_parallel hR sql).bind_eq
    intro answer
    cases answer with
    | error fault => exact .pure rfl
    | ok _ => exact ih.bind_eq fun _ => .pure rfl

theorem send_parallel (m m' : Model) (hid : m'.id = m.id) (hsql : m'.sql = m.sql)
    (hplan : e.plan m' = e.plan m) :
    Parallel R Eq (e.send m) ((e.withAdapter b).send m') := by
  have hplan' : (e.withAdapter b).plan m' = e.plan m := hplan
  unfold send
  rw [hplan', hid, hsql]
  apply (noteAll_parallel _ _).bind_eq
  intro _
  cases e.plan m with
  | error message => exact (failed_parallel _ _).bind_eq fun _ => .pure rfl
  | ok statements =>
    apply (sendAll_parallel hR statements).bind_eq
    rintro ⟨sent, fault⟩
    match fault with
    | none => exact (succeeded_parallel _).bind_eq fun _ => .pure rfl
    | some (.storage message) => exact (failed_parallel _ _).bind_eq fun _ => .pure rfl
    | some (.escaped escape) => exact .pure rfl

end Sending

/-! ### What a template is told -/

/-- That neither of two models is told that its run adds to a table. -/
def BothAnew (told told' : Except Escape Bool) : Prop :=
  told = .ok false ∧ told' = .ok false

theorem tellsIncremental_of_anew {m : Model} (hm : m.materialization.isIncrementalRun = false)
    (s : Session σ) : e.tellsIncremental m s = false := by
  rw [tellsIncremental, hm, Bool.false_and]

section Anew

variable {m m' : Model} (hm : m.materialization.isIncrementalRun = false)
  (hR : e.adapter.ExecutesAlike R b)
include hm hR

/-- What is said about a table is not listened to, only asking for it may have an effect. -/
theorem addsToTarget_parallel (hm' : m'.materialization.isIncrementalRun = false)
    (hstore : ∀ s t, R s t → R (e.storeAsked m s) ((e.withAdapter b).storeAsked m' t)) :
    Parallel R BothAnew (e.addsToTarget m) ((e.withAdapter b).addsToTarget m') := by
  intro s t hst
  have hanswers : e.AnswersFor m s := fun escape => hR.left_reports _ _ escape
  have hanswers' : (e.withAdapter b).AnswersFor m' t := fun escape => hR.right_reports _ _ escape
  obtain ⟨s', hs, hsContext, hsStore⟩ := addsToTarget_run hanswers
  obtain ⟨t', ht, htContext, htStore⟩ := addsToTarget_run hanswers'
  rw [hs, ht, tellsIncremental_of_anew hm, tellsIncremental_of_anew hm']
  refine ⟨⟨rfl, rfl⟩, ?_, ?_⟩
  · rw [hsStore, htStore]
    exact hstore _ _ hst.store
  · rw [hsContext, htContext]
    exact hst.context

theorem addsToTarget_parallel_self :
    Parallel R BothAnew (e.addsToTarget m) ((e.withAdapter b).addsToTarget m) := by
  apply addsToTarget_parallel hm hR hm
  intro s t hst
  unfold storeAsked
  by_cases hincremental : m.isIncremental = true
  · rw [if_pos hincremental, if_pos hincremental]
    exact hR.asks _ _ _ hst
  · rw [if_neg hincremental, if_neg hincremental]
    exact hst

/-- A model that is kept in a way that does not ask for its table may stand on the other side. -/
theorem addsToTarget_parallel_keptAs (hfree : e.adapter.AsksFreely R) {other : Materialization}
    (hother : other.isIncremental = false) :
    Parallel R BothAnew (e.addsToTarget m) ((e.withAdapter b).addsToTarget (m.keptAs other)) := by
  have hnever : (m.keptAs other).isIncremental = false := hother
  apply addsToTarget_parallel hm hR (Bool.and_eq_false_iff.2 (Or.inl hother))
  intro s t hst
  unfold storeAsked
  rw [hnever]
  by_cases hincremental : m.isIncremental = true
  · rw [if_pos hincremental]
    exact hfree _ _ _ hst
  · rw [if_neg hincremental]
    exact hst

end Anew

/-! ### Running models -/

section Running

variable {m : Model} {other : Materialization}

theorem refresh_parallel (htold : Parallel R BothAnew (e.addsToTarget m)
      ((e.withAdapter b).addsToTarget (m.keptAs other))) :
    Parallel R (fun r r' => r' = r.map (·.keptAs other) ∧ ∀ m', r = .ok m' → Rendered m m')
      (e.refresh m) ((e.withAdapter b).refresh (m.keptAs other)) := by
  have hdelimiters : (e.withAdapter b).delimiters = e.delimiters := rfl
  have htemplate : (m.keptAs other).template = m.template := rfl
  have hunchanged : ∀ m', Except.ok m = (Except.ok m' : Except Halt Model) → Rendered m m' := by
    rintro m' h
    obtain rfl := Except.ok.inj h
    exact .refl m
  unfold refresh
  rw [hdelimiters, htemplate]
  cases e.delimiters with
  | none => exact .pure ⟨rfl, hunchanged⟩
  | some d =>
    cases m.template.isEmpty with
    | true => exact .pure ⟨rfl, hunchanged⟩
    | false =>
      refine htold.bind fun told told' hanew => ?_
      obtain ⟨rfl, rfl⟩ := hanew
      apply (renderFor_parallel m other d false).bind_eq
      intro rendered
      cases rendered with
      | error message =>
        refine .pure ⟨rfl, fun m' h => ?_⟩
        cases h
      | ok sql =>
        refine .pure ⟨rfl, fun m' h => ?_⟩
        obtain rfl := Except.ok.inj h
        rfl

/-- **One model,** kept in one way or in another: it is run in the same way when it has the same
    plan, and when neither side listens to what is said about a table. -/
theorem runModel_parallel (hR : e.adapter.ExecutesAlike R b)
    (htold : Parallel R BothAnew (e.addsToTarget m)
      ((e.withAdapter b).addsToTarget (m.keptAs other)))
    (hplan : ∀ m', Rendered m m' → e.plan (m'.keptAs other) = e.plan m') :
    Parallel R (fun r r' => r' = (r.1.keptAs other, r.2) ∧ Rendered m r.1)
      (e.runModel m) ((e.withAdapter b).runModel (m.keptAs other)) := by
  unfold runModel
  apply (noteAll_parallel _ _).bind_eq
  intro _
  refine (refresh_parallel htold).bind fun refreshed refreshed' hrefreshed => ?_
  obtain ⟨rfl, hrendered⟩ := hrefreshed
  match refreshed, hrendered with
  | .error (.failed message), _ =>
    exact (failed_parallel _ _).bind_eq fun _ => .pure ⟨rfl, .refl m⟩
  | .error (.escaped escape), _ => exact .pure ⟨rfl, .refl m⟩
  | .ok m', hrendered =>
    have hm' := hrendered m' rfl
    apply (send_parallel hR m' (m'.keptAs other) rfl rfl (hplan m' hm')).bind_eq
    intro result
    exact .pure ⟨rfl, hm'⟩

variable (hR : e.adapter.ExecutesAlike R b)
include hR

/-- A model that is built anew is run in the same way on both stores. -/
theorem runModel_parallel_self (hm : m.materialization.isIncrementalRun = false) :
    Parallel R (fun r r' => r' = r ∧ Rendered m r.1) (e.runModel m)
      ((e.withAdapter b).runModel m) := by
  have hself : ∀ m', Rendered m m' → m'.keptAs m.materialization = m' := by
    intro m' h
    rw [Model.keptAs, ← h.materialization_eq]
  have hplan : ∀ m', Rendered m m' → e.plan (m'.keptAs m.materialization) = e.plan m' := by
    intro m' h
    rw [hself m' h]
  have hparallel := runModel_parallel hR (addsToTarget_parallel_self hm hR) hplan
  refine hparallel.mono fun r r' h => ?_
  obtain ⟨rfl, hrendered⟩ := h
  rw [hself r.1 hrendered]
  exact ⟨rfl, hrendered⟩

theorem runInOrder_parallel {failFast : Bool} {models : List Model} {batch : Batch}
    {order : List String} (hmodels : ∀ m ∈ models, m.materialization.isIncrementalRun = false) :
    Parallel R Eq (e.runInOrder failFast models batch order)
      ((e.withAdapter b).runInOrder failFast models batch order) := by
  induction order generalizing models batch with
  | nil => exact .pure rfl
  | cons id rest ih =>
    unfold runInOrder
    cases hfind : models.find? (·.id == id) with
    | none => exact ih hmodels
    | some m =>
      have hm := hmodels m (List.mem_of_find?_eq_some hfind)
      refine (runModel_parallel_self hR hm).bind fun r r' h => ?_
      obtain ⟨m', result⟩ := r
      obtain ⟨rfl, hrendered⟩ := h
      -- the model that has been rendered is still built anew
      have hafter : ∀ other ∈ replaceModel m' models,
          other.materialization.isIncrementalRun = false := by
        intro other hother
        obtain ⟨before, hbefore, rfl⟩ := List.mem_map.1 hother
        split
        · rw [hrendered.materialization_eq]
          exact hm
        · exact hmodels before hbefore
      dsimp only
      cases result with
      | error escape => exact .pure rfl
      | ok o =>
        dsimp only
        split
        · exact .pure rfl
        · exact ih hafter

/-- **Models that are built anew** are run in the same way on both stores. -/
theorem runModels_parallel {models : List Model} (failFast : Bool)
    (hmodels : ∀ m ∈ models, m.materialization.isIncrementalRun = false) :
    Parallel R Eq (e.runModels models failFast) ((e.withAdapter b).runModels models failFast) := by
  unfold runModels
  cases orderOf models with
  | error fault => exact .pure rfl
  | ok order =>
    apply (noteAll_parallel _ _).bind_eq
    intro _
    apply (runInOrder_parallel hR hmodels).bind_eq
    rintro ⟨models', result⟩
    exact (noteAll_parallel _ _).bind_eq fun _ => .pure rfl

end Running

end Engine

end Run

end SqlPipeline
