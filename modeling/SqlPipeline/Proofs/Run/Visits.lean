/-
  SqlPipeline/Proofs/Run/Visits.lean
  ==================================
  **A run as a sequence of visits to models.**

  A visit runs one model from where the visit before it has left things, and ends with an
  outcome.  A run of many models passes through its visits one by one
  (`runInOrder_append`): what it returns and what it asks of the store are those of the
  visits, joined in order, so whatever is true of each visit is true of the run.
-/
import SqlPipeline.Proofs.Run.Model

namespace SqlPipeline.Run

open Storage

variable {σ α β : Type}

/-! ### What every action gives -/

/-- That an action gives nothing but such results. -/
def Gives (x : Action σ α) (P : α → Prop) : Prop :=
  ∀ s, P (x.run s).1

namespace Gives

theorem pure {P : α → Prop} {a : α} (h : P a) : Gives (Pure.pure a : Action σ α) P :=
  fun _ => h

theorem bind {x : Action σ α} {k : α → Action σ β} {Q : α → Prop} {P : β → Prop}
    (hx : Gives x Q) (hk : ∀ a, Q a → Gives (k a) P) : Gives (x >>= k) P :=
  fun s => hk _ (hx s) _

theorem bind_any {x : Action σ α} {k : α → Action σ β} {P : β → Prop}
    (hk : ∀ a, Gives (k a) P) : Gives (x >>= k) P :=
  fun _ => hk _ _

end Gives

namespace Engine

variable (e : Engine σ)

/-- A model as it may be after its template has been rendered: only its query is new. -/
def Rendered (m m' : Model) : Prop :=
  m' = { m with sql := m'.sql }

theorem Rendered.refl (m : Model) : Rendered m m := rfl

theorem Rendered.id_eq {m m' : Model} (h : Rendered m m') : m'.id = m.id := by
  rw [h]

theorem Rendered.materialization_eq {m m' : Model} (h : Rendered m m') :
    m'.materialization = m.materialization := by
  rw [h]

theorem refresh_gives_rendered (m : Model) :
    Gives (e.refresh m) fun r => ∀ m', r = .ok m' → Rendered m m' := by
  unfold refresh
  cases e.delimiters with
  | none => exact .pure fun m' h => by cases h; rfl
  | some d =>
    cases m.template.isEmpty with
    | true => exact .pure fun m' h => by cases h; rfl
    | false =>
      refine .bind_any fun answer => ?_
      cases answer with
      | error escape => exact .pure fun m' h => by cases h
      | ok incremental =>
        refine .bind_any fun rendered => ?_
        cases rendered with
        | ok sql => exact .pure fun m' h => by cases h; rfl
        | error message => exact .pure fun m' h => by cases h

theorem failed_gives (o : Outcome) (message : String) :
    Gives (failed o message : Action σ Outcome) (· = o.finish .failed message) :=
  .bind_any fun _ => .pure rfl

theorem succeeded_gives (o : Outcome) :
    Gives (succeeded o : Action σ Outcome) (· = o.finish .success) :=
  .bind_any fun _ => .pure rfl

/-- That an outcome is one of a model, which has succeeded or failed. -/
structure Settles (m : Model) (o : Outcome) : Prop where
  modelId : o.modelId = m.id
  status : o.status = .success ∨ o.status = .failed

theorem Settles.finish {m : Model} {o : Outcome} {status : Status} {error : String}
    (hid : o.modelId = m.id) (hstatus : status = .success ∨ status = .failed) :
    Settles m (o.finish status error) :=
  ⟨hid, hstatus⟩

theorem send_gives (m : Model) :
    Gives (e.send m) fun r => ∀ o, r = .ok o → Settles m o := by
  unfold send
  refine .bind_any fun _ => ?_
  cases e.plan m with
  | error message =>
    refine (failed_gives _ _).bind fun o ho => .pure fun o' h => ?_
    cases h
    exact ho ▸ .finish rfl (Or.inr rfl)
  | ok statements =>
    refine .bind_any fun (sent, fault) => ?_
    match fault with
    | none =>
      refine (succeeded_gives _).bind fun o ho => .pure fun o' h => ?_
      cases h
      exact ho ▸ .finish rfl (Or.inl rfl)
    | some (.storage message) =>
      refine (failed_gives _ _).bind fun o ho => .pure fun o' h => ?_
      cases h
      exact ho ▸ .finish rfl (Or.inr rfl)
    | some (.escaped escape) => exact .pure fun o h => by cases h

/-- **One model:** at most its query changes, and its outcome is a success or a failure. -/
theorem runModel_gives (m : Model) :
    Gives (e.runModel m) fun r => Rendered m r.1 ∧ ∀ o, r.2 = .ok o → Settles m o := by
  unfold runModel
  refine .bind_any fun _ => (e.refresh_gives_rendered m).bind fun refreshed hm => ?_
  match refreshed, hm with
  | .error (.failed message), _ =>
    refine (failed_gives _ _).bind fun o ho => .pure ⟨.refl m, fun o' h => ?_⟩
    cases h
    exact ho ▸ .finish rfl (Or.inr rfl)
  | .error (.escaped escape), _ => exact .pure ⟨.refl m, fun o h => by cases h⟩
  | .ok m', hm =>
    have hrendered := hm m' rfl
    refine (e.send_gives m').bind fun result hresult => .pure ⟨hrendered, fun o h => ?_⟩
    have hsettles := hresult o h
    exact ⟨hsettles.modelId.trans hrendered.id_eq, hsettles.status⟩

/-! ### Stores whose faults are all reported -/

section Expected

variable {e}

/-- A template that has no oversight in it is rendered, or it is reported why it is not. -/
theorem refresh_gives_no_escape (h : e.adapter.FailsExpectedly) {m : Model}
    (hm : e.oversight? m = none) :
    Gives (e.refresh m) fun r => ∀ escape, r ≠ .error (.escaped escape) := by
  cases hd : e.delimiters with
  | none =>
    rw [refresh, hd]
    exact .pure fun escape h => by cases h
  | some d =>
    cases htemplate : m.template.isEmpty with
    | true =>
      rw [refresh, hd, htemplate]
      exact .pure fun escape h => by cases h
    | false =>
      intro s escape
      rw [refresh_run hd htemplate (h.tableExists _ s.store)]
      cases e.renderedIn m d (s.context.forModel m.id (e.tellsIncremental m s)) with
      | ok sql => exact fun h => by cases h
      | error message =>
        simp only [haltFor_of_none hm]
        exact fun h => by cases h

theorem sendAll_gives_no_escape (h : e.adapter.FailsExpectedly) (statements : List String) :
    Gives (e.sendAll statements) fun r => ∀ escape, r.2 ≠ some (.escaped escape) := by
  induction statements with
  | nil => exact .pure fun escape h => by cases h
  | cons sql rest ih =>
    have hresult : Gives (e.execute sql) fun r => ∀ escape, r ≠ .error (.escaped escape) :=
      fun s => h.execute sql s.store
    refine hresult.bind fun result hr => ?_
    cases result with
    | error fault =>
      refine .pure fun escape heq => ?_
      cases heq
      exact hr escape rfl
    | ok _ => exact ih.bind fun (sent, fault) hsent => .pure hsent

theorem send_gives_ok (h : e.adapter.FailsExpectedly) (m : Model) :
    Gives (e.send m) fun r => ∃ o, r = .ok o := by
  unfold send
  refine .bind_any fun _ => ?_
  cases e.plan m with
  | error message => exact .bind_any fun o => .pure ⟨o, rfl⟩
  | ok statements =>
    refine (sendAll_gives_no_escape h statements).bind fun (sent, fault) hsent => ?_
    match fault, hsent with
    | none, _ => exact .bind_any fun o => .pure ⟨o, rfl⟩
    | some (.storage message), _ => exact .bind_any fun o => .pure ⟨o, rfl⟩
    | some (.escaped escape), hsent => exact absurd rfl (hsent escape)

/-- A model without an oversight in its template always has an outcome when the store fails only
    in the expected way. -/
theorem runModel_gives_ok (h : e.adapter.FailsExpectedly) {m : Model}
    (hm : e.oversight? m = none) : Gives (e.runModel m) fun r => ∃ o, r.2 = .ok o := by
  unfold runModel
  refine .bind_any fun _ => (refresh_gives_no_escape h hm).bind fun refreshed hr => ?_
  match refreshed, hr with
  | .error (.failed message), _ => exact .bind_any fun o => .pure ⟨o, rfl⟩
  | .error (.escaped escape), hr => exact absurd rfl (hr escape)
  | .ok m', _ => exact (send_gives_ok h m').bind fun r hr => .pure hr

end Expected

/-! ### Visits -/

/-- One model, run. -/
structure Visit where
  model : Model                 -- as it was before
  after : Model                 -- as it was left
  outcome : Outcome
  requests : List Request       -- what the store was asked for it

/-- That visits lead from one point of a run to another, each from where the one before it
    has led. -/
inductive Visits (e : Engine σ) : Session σ → List Visit → Session σ → Prop
  | done {s : Session σ} : Visits e s [] s
  | visit {s t u : Session σ} {m m' : Model} {o : Outcome} {visits : List Visit} :
      (e.runModel m).run s = ((m', .ok o), t) → Visits e t visits u →
      Visits e s (⟨m, m', o, e.modelRequests m s⟩ :: visits) u

/-- The ids of the visited models. -/
def visitedIds (visits : List Visit) : List String :=
  visits.map (·.model.id)

/-- The models after some visits. -/
def leftBy (visits : List Visit) (models : List Model) : List Model :=
  visits.foldl (fun models v => replaceModel v.after models) models

/-- A batch with the outcomes of some visits. -/
def addAll (batch : Batch) (visits : List Visit) : Batch :=
  { batch with outcomes := batch.outcomes ++ visits.map (·.outcome) }

variable {e}

theorem Visits.settles {s t : Session σ} {visits : List Visit} (h : e.Visits s visits t) :
    ∀ v ∈ visits, Rendered v.model v.after ∧ Settles v.model v.outcome := by
  induction h with
  | done => simp
  | @visit s _ _ m _ _ _ hrun _ ih =>
    intro v hv
    rcases List.mem_cons.1 hv with rfl | hmem
    · have hgives := e.runModel_gives m s
      rw [hrun] at hgives
      exact ⟨hgives.1, hgives.2 _ rfl⟩
    · exact ih v hmem

theorem find?_replaceModel {m : Model} {id : String} (hid : id ≠ m.id) (models : List Model) :
    (replaceModel m models).find? (·.id == id) = models.find? (·.id == id) := by
  induction models with
  | nil => rfl
  | cons other models ih =>
    have hcons : replaceModel m (other :: models)
        = (if other.id == m.id then m else other) :: replaceModel m models := rfl
    rw [hcons, List.find?_cons, List.find?_cons, ih]
    by_cases hother : other.id = m.id
    · simp [hother, beq_false_of_ne (Ne.symm hid)]
    · simp [hother]

/-- A visit leaves the other models as they are. -/
theorem find?_leftBy {visits : List Visit} (hv : ∀ v ∈ visits, Rendered v.model v.after)
    {id : String} (hid : id ∉ visitedIds visits) (models : List Model) :
    (leftBy visits models).find? (·.id == id) = models.find? (·.id == id) := by
  induction visits generalizing models with
  | nil => rfl
  | cons v visits ih =>
    rw [visitedIds, List.map_cons, List.mem_cons, not_or] at hid
    rw [leftBy, List.foldl_cons, ← leftBy, ih (fun w hw => hv w (List.mem_cons_of_mem _ hw)) hid.2,
      find?_replaceModel]
    rw [(hv v List.mem_cons_self).id_eq]
    exact hid.1

/-! ### Passing through visits -/

/-- **One step** of a run that goes on: the next model is run, and the rest from there. -/
theorem runInOrder_cons {failFast : Bool} {models : List Model} {batch : Batch} {id : String}
    {rest : List String} {s t : Session σ} {m m' : Model} {o : Outcome}
    (hfind : models.find? (·.id == id) = some m) (hrun : (e.runModel m).run s = ((m', .ok o), t))
    (hgo : o.status = .failed → failFast = false) :
    (e.runInOrder failFast models batch (id :: rest)).run s
      = (e.runInOrder failFast (replaceModel m' models) (batch.add o) rest).run t := by
  rw [runInOrder, hfind]
  simp only [run_bind, hrun]
  split
  · rename_i hstop
    rw [Bool.and_eq_true, beq_iff_eq] at hstop
    rw [hgo hstop.1] at hstop
    exact absurd hstop.2 Bool.false_ne_true
  · rfl

/-- A run that is to stop at the first failure stops there. -/
theorem runInOrder_stop {models : List Model} {batch : Batch} {id : String}
    {rest : List String} {s t : Session σ} {m m' : Model} {o : Outcome}
    (hfind : models.find? (·.id == id) = some m) (hrun : (e.runModel m).run s = ((m', .ok o), t))
    (hfailed : o.status = .failed) :
    (e.runInOrder true models batch (id :: rest)).run s
      = ((replaceModel m' models, .error (.stopped id o.error (batch.add o).complete)), t) := by
  rw [runInOrder, hfind]
  simp only [run_bind, hrun, hfailed, beq_self_eq_true, Bool.and_true, if_true]
  rfl

/-- What nothing handles ends the run. -/
theorem runInOrder_escape {failFast : Bool} {models : List Model} {batch : Batch} {id : String}
    {rest : List String} {s t : Session σ} {m m' : Model} {escape : Escape}
    (hfind : models.find? (·.id == id) = some m)
    (hrun : (e.runModel m).run s = ((m', .error escape), t)) :
    (e.runInOrder failFast models batch (id :: rest)).run s
      = ((replaceModel m' models, .error (.escaped escape)), t) := by
  rw [runInOrder, hfind]
  simp only [run_bind, hrun]
  rfl

section Recording

variable {failFast : Bool} {models : List Model} {batch : Batch} {id : String} {rest : List String}
  {s t : Session σ} {m m' : Model}

theorem recording_runModel_eq {r : Model × Except Escape Outcome}
    (hrun : (e.runModel m).run s = (r, t)) :
    (e.recording.runModel m).run (s.after []) = (r, t.after (e.modelRequests m s)) := by
  rw [(e.records_runModel m).run_after, hrun]
  rfl

theorem orderRequests_cons {o : Outcome} (hfind : models.find? (·.id == id) = some m)
    (hrun : (e.runModel m).run s = ((m', .ok o), t))
    (hgo : o.status = .failed → failFast = false) :
    e.orderRequests failFast models batch (id :: rest) s
      = e.modelRequests m s
          ++ e.orderRequests failFast (replaceModel m' models) (batch.add o) rest t := by
  rw [orderRequests, requests, runInOrder_cons hfind (recording_runModel_eq hrun) hgo,
    (e.records_runInOrder _ _ _ _).run_after]
  rfl

theorem orderRequests_stop {o : Outcome} (hfind : models.find? (·.id == id) = some m)
    (hrun : (e.runModel m).run s = ((m', .ok o), t)) (hfailed : o.status = .failed) :
    e.orderRequests true models batch (id :: rest) s = e.modelRequests m s := by
  rw [orderRequests, requests, runInOrder_stop hfind (recording_runModel_eq hrun) hfailed]
  rfl

theorem orderRequests_escape {escape : Escape} (hfind : models.find? (·.id == id) = some m)
    (hrun : (e.runModel m).run s = ((m', .error escape), t)) :
    e.orderRequests failFast models batch (id :: rest) s = e.modelRequests m s := by
  rw [orderRequests, requests, runInOrder_escape hfind (recording_runModel_eq hrun)]
  rfl

end Recording

/-- That the visited models are those of a list, and no model is visited twice. -/
structure VisitsOf (models : List Model) (visits : List Visit) : Prop where
  nodup : (visitedIds visits).Nodup
  find? : ∀ v ∈ visits, models.find? (·.id == v.model.id) = some v.model

theorem VisitsOf.tail {models : List Model} {v : Visit} {visits : List Visit}
    (h : VisitsOf models (v :: visits)) (hv : Rendered v.model v.after) :
    VisitsOf (replaceModel v.after models) visits := by
  obtain ⟨hhead, htail⟩ := List.nodup_cons.1 h.nodup
  refine ⟨htail, fun w hw => ?_⟩
  rw [find?_replaceModel, h.find? w (List.mem_cons_of_mem _ hw)]
  rw [hv.id_eq]
  rintro heq
  exact hhead (List.mem_map.2 ⟨w, hw, heq⟩)

/-- **A run passes through its visits,** unless it is to stop at a failure among them. -/
theorem runInOrder_append {failFast : Bool} {models : List Model} {batch : Batch}
    {visits : List Visit} {s t : Session σ} (h : e.Visits s visits t)
    (hof : VisitsOf models visits)
    (hgo : ∀ v ∈ visits, v.outcome.status = .failed → failFast = false) (rest : List String) :
    (e.runInOrder failFast models batch (visitedIds visits ++ rest)).run s
        = (e.runInOrder failFast (leftBy visits models) (addAll batch visits) rest).run t
      ∧ e.orderRequests failFast models batch (visitedIds visits ++ rest) s
        = visits.flatMap (·.requests)
            ++ e.orderRequests failFast (leftBy visits models) (addAll batch visits) rest t := by
  induction h generalizing models batch with
  | done => simp [visitedIds, leftBy, addAll]
  | @visit s t u m m' o visits hrun htail ih =>
    have hfind := hof.find? _ List.mem_cons_self
    have hgoHead := hgo _ List.mem_cons_self
    have hrendered : Rendered m m' := ((Visits.visit hrun htail).settles _ List.mem_cons_self).1
    obtain ⟨hrest, hrequests⟩ := @ih (replaceModel m' models) (batch.add o) (hof.tail hrendered)
      fun v hv => hgo v (List.mem_cons_of_mem _ hv)
    have hadd : addAll (batch.add o) visits
        = addAll batch (⟨m, m', o, e.modelRequests m s⟩ :: visits) := by
      simp [addAll, Batch.add]
    rw [hadd] at hrest hrequests
    rw [visitedIds, List.map_cons, List.cons_append, ← visitedIds]
    rw [runInOrder_cons hfind hrun hgoHead, orderRequests_cons hfind hrun hgoHead]
    refine ⟨hrest, ?_⟩
    rw [hrequests, List.flatMap_cons, List.append_assoc]
    rfl

/-- How an order is run when nothing is to stop the run: it passes through visits, and what is
    left behind them is nothing, or starts with a model whose run is ended by what nothing
    handles. -/
structure History (e : Engine σ) (models : List Model) (order : List String) (s : Session σ)
    (visits : List Visit) (rest : List String) (u : Session σ) : Prop where
  split : order = visitedIds visits ++ rest
  passes : e.Visits s visits u
  visitsOf : VisitsOf models visits
  ending : rest = [] ∨ ∃ id later m m' escape w, rest = id :: later
    ∧ models.find? (·.id == id) = some m ∧ (e.runModel m).run u = ((m', .error escape), w)

theorem exists_history {models : List Model} {order : List String} (hnodup : order.Nodup)
    (hall : ∀ id ∈ order, ∃ m, models.find? (·.id == id) = some m) (s : Session σ) :
    ∃ visits rest u, History e models order s visits rest u := by
  induction order generalizing s with
  | nil => exact ⟨[], [], s, rfl, .done, ⟨List.nodup_nil, by simp⟩, Or.inl rfl⟩
  | cons id order ih =>
    obtain ⟨hid, htail⟩ := List.nodup_cons.1 hnodup
    obtain ⟨m, hm⟩ := hall id List.mem_cons_self
    obtain rfl : m.id = id := by simpa using List.find?_some hm
    -- the history goes on behind a model that has an outcome, and ends at one that has none
    match hrun : (e.runModel m).run s with
    | ((m', .error escape), u) =>
      exact ⟨[], m.id :: order, s, rfl, .done, ⟨List.nodup_nil, by simp⟩,
        Or.inr ⟨m.id, order, m, m', escape, u, rfl, hm, hrun⟩⟩
    | ((m', .ok o), t) =>
      obtain ⟨visits, rest, u, rfl, hvisits, hof, hrest⟩ :=
        ih htail (fun id hid => hall id (List.mem_cons_of_mem _ hid)) t
      refine ⟨⟨m, m', o, e.modelRequests m s⟩ :: visits, rest, u, rfl, .visit hrun hvisits,
        ⟨List.nodup_cons.2 ⟨?_, hof.nodup⟩, ?_⟩, hrest⟩
      · exact fun hmem => hid (List.mem_append_left _ hmem)
      · rintro v hv
        rcases List.mem_cons.1 hv with rfl | hmem
        · exact hm
        · exact hof.find? v hmem

namespace History

variable {models : List Model} {order : List String} {s u : Session σ} {visits : List Visit}
  {rest : List String}

theorem rendered (h : History e models order s visits rest u) :
    ∀ v ∈ visits, Rendered v.model v.after :=
  fun v hv => (h.passes.settles v hv).1

/-- A store whose faults are all reported, and templates without an oversight in them, leave no
    model out. -/
theorem rest_eq_nil (h : History e models order s visits rest u)
    (he : e.adapter.FailsExpectedly) (hread : ∀ m ∈ models, e.oversight? m = none) :
    rest = [] := by
  rcases h.ending with hnil | ⟨id, later, m, m', escape, w, -, hfind, hrun⟩
  · exact hnil
  · obtain ⟨o, ho⟩ := runModel_gives_ok he (hread m (List.mem_of_find?_eq_some hfind)) u
    rw [hrun] at ho
    cases ho

/-- The models behind the visits are found as they were. -/
theorem find?_leftBy_of_mem_rest (h : History e models order s visits rest u)
    (hnodup : order.Nodup) {id : String} (hid : id ∈ rest) :
    (leftBy visits models).find? (·.id == id) = models.find? (·.id == id) := by
  rw [h.split] at hnodup
  exact find?_leftBy h.rendered
    (fun hmem => (List.nodup_append.1 hnodup).2.2 id hmem id hid rfl) _

theorem ending_leftBy (h : History e models order s visits rest u) (hnodup : order.Nodup) :
    rest = [] ∨ ∃ id later m m' escape w, rest = id :: later
      ∧ (leftBy visits models).find? (·.id == id) = some m
      ∧ (e.runModel m).run u = ((m', .error escape), w) := by
  rcases h.ending with hnil | ⟨id, later, m, m', escape, w, rfl, hfind, hrun⟩
  · exact Or.inl hnil
  · have hleft := h.find?_leftBy_of_mem_rest hnodup List.mem_cons_self
    exact Or.inr ⟨id, later, m, m', escape, w, rfl, hleft.trans hfind, hrun⟩

/-- The run that goes on, and any run that meets no failure, passes through all visits. -/
theorem runInOrder (h : History e models order s visits rest u) (failFast : Bool)
    (hgo : ∀ v ∈ visits, v.outcome.status = .failed → failFast = false) (batch : Batch) :
    (e.runInOrder failFast models batch order).run s
        = (e.runInOrder failFast (leftBy visits models) (addAll batch visits) rest).run u
      ∧ e.orderRequests failFast models batch order s
        = visits.flatMap (·.requests)
            ++ e.orderRequests failFast (leftBy visits models) (addAll batch visits) rest u := by
  obtain ⟨hpass, hrequests⟩ := @runInOrder_append _ e failFast models batch visits _ _ h.passes
    h.visitsOf hgo rest
  rw [← h.split] at hpass hrequests
  exact ⟨hpass, hrequests⟩

/-- A run of an order that comes to its end has visited all of it. -/
theorem of_run_ok (h : History e models order s visits rest u) (hnodup : order.Nodup)
    {batch batch' : Batch} {after : List Model} {t : Session σ}
    (hrun : (e.runInOrder false models batch order).run s = ((after, .ok batch'), t)) :
    rest = [] ∧ batch' = (addAll batch visits).complete := by
  rw [(h.runInOrder false (fun _ _ _ => rfl) batch).1] at hrun
  rcases h.ending_leftBy hnodup with rfl | ⟨id, later, m, m', escape, w, rfl, hfind, hescape⟩
  · obtain ⟨⟨-, hbatch⟩, -⟩ := (Prod.mk.inj hrun).imp_left Prod.mk.inj
    exact ⟨rfl, (Except.ok.inj hbatch).symm⟩
  · rw [runInOrder_escape hfind hescape] at hrun
    cases hrun

/-- Without a failure it makes no difference whether a run is to stop at one. -/
theorem runInOrder_true_eq (h : History e models order s visits rest u) (hnodup : order.Nodup)
    (hnone : ∀ v ∈ visits, v.outcome.status ≠ .failed) (batch : Batch) :
    (e.runInOrder true models batch order).run s = (e.runInOrder false models batch order).run s
      ∧ e.orderRequests true models batch order s = e.orderRequests false models batch order s := by
  obtain ⟨hstop, hstopRequests⟩ := h.runInOrder true
    (fun v hv hfailed => absurd hfailed (hnone v hv)) batch
  obtain ⟨hgo, hgoRequests⟩ := h.runInOrder false (fun _ _ _ => rfl) batch
  rw [hstop, hgo, hstopRequests, hgoRequests]
  -- behind the visits the run is at its end, or ended by what nothing handles
  rcases h.ending_leftBy hnodup with rfl | ⟨id, later, m, m', escape, w, rfl, hfind, hescape⟩
  · exact ⟨rfl, rfl⟩
  · rw [runInOrder_escape hfind hescape, runInOrder_escape hfind hescape,
      orderRequests_escape hfind hescape, orderRequests_escape hfind hescape]
    exact ⟨rfl, rfl⟩

end History

theorem Visits.split {s u : Session σ} {before later : List Visit} {v : Visit}
    (h : e.Visits s (before ++ v :: later) u) :
    ∃ t t', e.Visits s before t ∧ (e.runModel v.model).run t = ((v.after, .ok v.outcome), t')
      ∧ v.requests = e.modelRequests v.model t := by
  induction before generalizing s with
  | nil =>
    cases h with
    | @visit _ t' _ m m' o _ hrun _ => exact ⟨s, t', .done, hrun, rfl⟩
  | cons w before ih =>
    cases h with
    | visit hrun htail =>
      obtain ⟨t, t', hbefore, hv, hrequests⟩ := ih htail
      exact ⟨t, t', .visit hrun hbefore, hv, hrequests⟩

/-- At the first failure a run that is to stop there has made the visits up to it. -/
theorem History.runInOrder_first_failure {models : List Model} {order : List String}
    {s u : Session σ} {before later : List Visit} {v : Visit} {rest : List String}
    (h : History e models order s (before ++ v :: later) rest u)
    (hbefore : ∀ w ∈ before, w.outcome.status ≠ .failed) (hfailed : v.outcome.status = .failed)
    (batch : Batch) :
    (∃ t, (e.runInOrder true models batch order).run s
        = ((leftBy (before ++ [v]) models, .error (.stopped v.model.id v.outcome.error
            (addAll batch (before ++ [v])).complete)), t))
      ∧ e.orderRequests true models batch order s = (before ++ [v]).flatMap (·.requests) := by
  obtain ⟨t, t', hto, hrun, hasked⟩ := h.passes.split
  have hids : (visitedIds before ++ v.model.id :: visitedIds later).Nodup := by
    simpa [visitedIds] using h.visitsOf.nodup
  -- the visits before the failure leave the model that fails as it was
  have hof : VisitsOf models before :=
    ⟨(List.nodup_append.1 hids).1, fun w hw => h.visitsOf.find? w (List.mem_append_left _ hw)⟩
  have hfind : (leftBy before models).find? (·.id == v.model.id) = some v.model := by
    rw [find?_leftBy fun w hw => h.rendered w (List.mem_append_left _ hw)]
    · exact h.visitsOf.find? v (by simp)
    · exact fun hmem => (List.nodup_append.1 hids).2.2 _ hmem _ List.mem_cons_self rfl
  obtain ⟨hpass, hrequests⟩ := @runInOrder_append _ e true models batch before _ _ hto hof
    (fun w hw hw' => absurd hw' (hbefore w hw)) (v.model.id :: (visitedIds later ++ rest))
  have horder : visitedIds before ++ v.model.id :: (visitedIds later ++ rest) = order := by
    simp [h.split, visitedIds]
  have hleft : replaceModel v.after (leftBy before models) = leftBy (before ++ [v]) models := by
    simp [leftBy]
  have hadd : (addAll batch before).add v.outcome = addAll batch (before ++ [v]) := by
    simp [addAll, Batch.add]
  rw [horder, runInOrder_stop hfind hrun hfailed, hleft, hadd] at hpass
  rw [horder, orderRequests_stop hfind hrun hfailed, ← hasked] at hrequests
  exact ⟨⟨t', hpass⟩, by simpa using hrequests⟩

end Engine

end SqlPipeline.Run
