/-
  SqlPipeline/Proofs/Run/Batch.lean
  =================================
  **Running many models: all of them, or up to the first failure.**

  Models can be brought into an order exactly when their ids are distinct, they depend on
  each other only and not in a circle (`exists_orderOf_iff`).  A run that goes on past
  failures then visits every model once and in that order (`runModels_fullRun`).  A run
  that stops at the first failure makes the same visits up to that one, and none after it
  (`runModels_failFast`).
-/
import SqlPipeline.Proofs.Run.Visits

namespace SqlPipeline.Run

open Storage

variable {σ : Type}

namespace Engine

/-! ### Models that can be brought into an order -/

/-- That one of the models is the first, and depends directly on the second. -/
def DependsAmong (models : List Model) (a b : String) : Prop :=
  ∃ m ∈ models, m.id = a ∧ b ∈ m.dependencies

/-- Models with distinct ids that depend on each other only, and not in a circle. -/
structure Sortable (models : List Model) : Prop where
  nodup_ids : (models.map (·.id)).Nodup
  known : ∀ m ∈ models, ∀ dep ∈ m.dependencies, dep ∈ models.map (·.id)
  acyclic : Acyclic (DependsAmong models)

/-- What the graph of models is built from. -/
def entriesOf (models : List Model) : List (String × List String) :=
  models.map fun m => (m.id, m.dependencies)

theorem entriesOf_ids (models : List Model) : (entriesOf models).map (·.1) = models.map (·.id) := by
  simp [entriesOf]

theorem entryDependsOn_entriesOf {models : List Model} {a b : String} :
    Graph.EntryDependsOn (entriesOf models) a b ↔ DependsAmong models a b := by
  simp only [Graph.EntryDependsOn, entriesOf, List.mem_map, Prod.mk.injEq, DependsAmong]
  constructor
  · rintro ⟨_, ⟨m, hm, rfl, rfl⟩, hb⟩
    exact ⟨m, hm, rfl, hb⟩
  · rintro ⟨m, hm, rfl, hb⟩
    exact ⟨_, ⟨m, hm, rfl, rfl⟩, hb⟩

theorem orderOf_eq_ok_iff {models : List Model} {order : List String} :
    orderOf models = .ok order ↔ ∃ g nodes, Graph.ofEntries (entriesOf models) "model" = .ok g
      ∧ g.topologicalOrder = .ok nodes ∧ order = nodes.map (·.id) := by
  simp only [orderOf, bind_eq_ok_iff]
  constructor
  · rintro ⟨g, hg, nodes, hnodes, heq⟩
    exact ⟨g, nodes, hg, hnodes, (Except.ok.inj heq).symm⟩
  · rintro ⟨g, nodes, hg, hnodes, rfl⟩
    exact ⟨g, hg, nodes, hnodes, rfl⟩

/-- The order names every model once, and each behind those that it depends on. -/
theorem orderOf_ok {models : List Model} {order : List String} (h : orderOf models = .ok order) :
    order.Nodup ∧ order.Perm (models.map (·.id))
      ∧ ∀ m ∈ models, ∀ dep ∈ m.dependencies, order.idxOf dep < order.idxOf m.id := by
  obtain ⟨g, nodes, hbuilt, hnodes, rfl⟩ := orderOf_eq_ok_iff.1 h
  obtain ⟨hg, hids, hdeps⟩ := Graph.ofEntries_ok hbuilt
  have horder := Graph.isDependencyOrder_of_topologicalOrder hg hnodes
  refine ⟨horder.nodup, ?_, fun m hm dep hdep => ?_⟩
  · rw [← entriesOf_ids, ← hids]
    exact horder.perm.map _
  · refine horder.idxOf_lt m.id dep (Graph.hasEdge_iff.2 ?_)
    rw [hdeps, entryDependsOn_entriesOf]
    exact ⟨m, hm, rfl, hdep⟩

/-- **There is an order exactly for the models that can be brought into one.** -/
theorem exists_orderOf_iff {models : List Model} :
    (∃ order, orderOf models = .ok order) ↔ Sortable models := by
  have hbuild := @Graph.exists_ofEntries_iff "model" (entriesOf models)
  rw [entriesOf_ids] at hbuild
  have hknown : (∀ entry ∈ entriesOf models, ∀ dep ∈ entry.2, dep ∈ models.map (·.id))
      ↔ ∀ m ∈ models, ∀ dep ∈ m.dependencies, dep ∈ models.map (·.id) := by
    simp [entriesOf]
  rw [hknown] at hbuild
  have hacyclic : ∀ g, Graph.ofEntries (entriesOf models) "model" = .ok g →
      (Acyclic g.DependsOn ↔ Acyclic (DependsAmong models)) := by
    intro g hg
    have heq : g.DependsOn = DependsAmong models := by
      funext a b
      rw [Graph.DependsOn, Graph.hasEdge_iff, (Graph.ofEntries_ok hg).2.2,
        entryDependsOn_entriesOf]
    rw [heq]
  constructor
  · rintro ⟨order, h⟩
    obtain ⟨g, nodes, hg, hnodes, -⟩ := orderOf_eq_ok_iff.1 h
    obtain ⟨hnodup, hdeps⟩ := hbuild.1 ⟨g, hg⟩
    have hsorted := (Graph.exists_topologicalOrder_iff (Graph.ofEntries_ok hg).1).1 ⟨nodes, hnodes⟩
    exact ⟨hnodup, hdeps, (hacyclic g hg).1 hsorted⟩
  · intro h
    obtain ⟨g, hg⟩ := hbuild.2 ⟨h.nodup_ids, h.known⟩
    obtain ⟨nodes, hnodes⟩ := (Graph.exists_topologicalOrder_iff (Graph.ofEntries_ok hg).1).2
      ((hacyclic g hg).2 h.acyclic)
    exact ⟨_, orderOf_eq_ok_iff.2 ⟨g, nodes, hg, hnodes, rfl⟩⟩

theorem exists_find?_of_mem_order {models : List Model} {order : List String}
    (h : orderOf models = .ok order) {id : String} (hid : id ∈ order) :
    ∃ m, models.find? (·.id == id) = some m := by
  obtain ⟨m, hm, rfl⟩ := List.mem_map.1 ((orderOf_ok h).2.1.subset hid)
  exact Option.isSome_iff_exists.1 (List.find?_isSome.2 ⟨m, hm, beq_self_eq_true _⟩)

/-! ### The run of an order and the run of models -/

variable {e : Engine σ}

/-- The point from which the first model is run. -/
def announced (order : List String) (s : Session σ) : Session σ :=
  ((announce order : Action σ Unit).run s).2

theorem runModels_run {models : List Model} {order : List String} {failFast : Bool}
    (h : orderOf models = .ok order) {s t : Session σ}
    {r : List Model × Except Interruption Batch}
    (hrun : (e.runInOrder failFast models {} order).run (announced order s) = (r, t)) :
    (e.runModels models failFast).run s = (r, ((noteAll (closingNotes r.2)).run t).2) := by
  rw [runModels, h]
  simp only [run_bind]
  rw [show ((announce order : Action σ Unit).run s).2 = announced order s from rfl, hrun]
  rfl

theorem runRequests_eq {models : List Model} {order : List String}
    (h : orderOf models = .ok order) (failFast : Bool) (s : Session σ) :
    e.runRequests models failFast s
      = e.orderRequests failFast models {} order (announced order s) := by
  rw [runRequests, requests, runModels, h]
  simp only [run_bind]
  rfl


/-! ### A run that goes on past failures -/

/-- What is asked for each model, one request after the other. -/
def askedFor (visits : List Visit) : List (Model × Request) :=
  visits.flatMap fun v => v.requests.map fun request => (v.model, request)

/-- A run of all models that has come to its end, with its visits. -/
structure FullRun (e : Engine σ) (models : List Model) (s : Session σ) (order : List String)
    (visits : List Visit) (batch : Batch) : Prop where
  sorted : orderOf models = .ok order
  returns : ∃ after t, (e.runModels models false).run s = ((after, .ok batch), t)
  each_once : order.Perm (models.map (·.id))
  named : batch.outcomes.map (·.modelId) = order
  -- the visits, of the models of the list in this order, each from where the last has led
  passes : ∃ t, e.Visits (announced order s) visits t
  visited : visitedIds visits = order
  given : ∀ v ∈ visits, v.model ∈ models
  outcomes : batch.outcomes = visits.map (·.outcome)
  requests : e.runRequests models false s = visits.flatMap (·.requests)
  dependencies_first :
    (askedFor visits).Pairwise fun earlier later => later.1.id ∉ earlier.1.dependencies
  -- what the batch says
  settled : ∀ o ∈ batch.outcomes, o.status = .success ∨ o.status = .failed
  counted : batch.successes + batch.failures = models.length
  status : batch.status = .failed ↔ ∃ o ∈ batch.outcomes, o.status = .failed

theorem pairwise_idxOf_lt {order : List String} (h : order.Nodup) :
    order.Pairwise fun a b => order.idxOf a < order.idxOf b := by
  refine List.pairwise_iff_getElem.2 fun i j hi hj hij => ?_
  rwa [h.idxOf_getElem i hi, h.idxOf_getElem j hj]

theorem askedFor_pairwise {models : List Model} {order : List String}
    (h : orderOf models = .ok order) {visits : List Visit} (hvisited : visitedIds visits = order)
    (hgiven : ∀ v ∈ visits, v.model ∈ models) :
    (askedFor visits).Pairwise fun earlier later => later.1.id ∉ earlier.1.dependencies := by
  obtain ⟨hnodup, -, hbefore⟩ := orderOf_ok h
  refine List.pairwise_flatMap.2 ⟨fun v hv => ?_, ?_⟩
  · -- a model does not depend on itself
    refine List.pairwise_map.2 (List.pairwise_of_forall fun _ _ hself => ?_)
    exact Nat.lt_irrefl _ (hbefore v.model (hgiven v hv) _ hself)
  · have hsorted := pairwise_idxOf_lt hnodup
    rw [← hvisited, visitedIds, List.pairwise_map] at hsorted
    refine hsorted.imp_of_mem fun {v w} hv _ hlt => ?_
    rintro _ hx _ hy hdep
    obtain ⟨_, -, rfl⟩ := List.mem_map.1 hx
    obtain ⟨_, -, rfl⟩ := List.mem_map.1 hy
    have hgt := hbefore v.model (hgiven v hv) _ hdep
    rw [← hvisited, visitedIds] at hgt
    exact Nat.lt_asymm hlt hgt

theorem successes_add_failures {outcomes : List Outcome}
    (h : ∀ o ∈ outcomes, o.status = .success ∨ o.status = .failed) :
    outcomes.countP (·.status == .success) + outcomes.countP (·.status == .failed)
      = outcomes.length := by
  induction outcomes with
  | nil => rfl
  | cons o outcomes ih =>
    obtain ⟨ho, htail⟩ := List.forall_mem_cons.1 h
    have := ih htail
    rcases ho with ho | ho
    · simp [ho]
      omega
    · simp [ho]
      omega

theorem complete_status_eq_failed_iff (batch : Batch) :
    batch.complete.status = .failed ↔ ∃ o ∈ batch.outcomes, o.status = .failed := by
  have hcount : batch.failures = 0 ↔ ∀ o ∈ batch.outcomes, o.status ≠ .failed := by
    simp [Batch.failures, Batch.count, List.countP_eq_zero]
  by_cases hnone : batch.failures = 0
  · simpa [Batch.complete, hnone] using hcount.1 hnone
  · simpa [Batch.complete, hnone] using mt hcount.2 hnone

/-- **A run that goes on past failures runs every model once, dependencies first, whatever the
    store refuses,** unless an oversight keeps a template from being read. -/
theorem runModels_fullRun (he : e.adapter.FailsExpectedly) {models : List Model}
    (hm : Sortable models) (hread : ∀ m ∈ models, e.oversight? m = none) (s : Session σ) :
    ∃ order visits batch, FullRun e models s order visits batch := by
  obtain ⟨order, h⟩ := exists_orderOf_iff.2 hm
  obtain ⟨hnodup, hperm, -⟩ := orderOf_ok h
  obtain ⟨visits, rest, u, hhistory⟩ :=
    e.exists_history hnodup (fun _ => exists_find?_of_mem_order h) (announced order s)
  -- since every model has an outcome the visits are all there is
  obtain rfl := hhistory.rest_eq_nil he hread
  have hvisited : visitedIds visits = order := by
    rw [hhistory.split, List.append_nil]
  obtain ⟨hpass, hrequests⟩ := hhistory.runInOrder false (fun _ _ _ => rfl) {}
  have houtcomes : (addAll {} visits).complete.outcomes = visits.map (·.outcome) := by
    simp [addAll, Batch.complete]
  have hsettles : ∀ o ∈ (addAll {} visits).complete.outcomes,
      o.status = .success ∨ o.status = .failed := by
    rw [houtcomes]
    intro o ho
    obtain ⟨v, hv, rfl⟩ := List.mem_map.1 ho
    exact (hhistory.passes.settles v hv).2.status
  have hgiven : ∀ v ∈ visits, v.model ∈ models := fun v hv =>
    List.mem_of_find?_eq_some (hhistory.visitsOf.find? v hv)
  refine ⟨order, visits, (addAll {} visits).complete, ?_⟩
  constructor
  case sorted => exact h
  case returns => exact ⟨_, _, runModels_run h hpass⟩
  case each_once => exact hperm
  case named =>
    rw [houtcomes, ← hvisited, visitedIds, List.map_map]
    exact List.map_congr_left fun v hv => (hhistory.passes.settles v hv).2.modelId
  case passes => exact ⟨u, hhistory.passes⟩
  case visited => exact hvisited
  case given => exact hgiven
  case outcomes => exact houtcomes
  case requests =>
    rw [runRequests_eq h, hrequests]
    exact List.append_nil _
  case dependencies_first => exact askedFor_pairwise h hvisited hgiven
  case settled => exact hsettles
  case counted =>
    have hlength : visits.length = models.length := by
      simpa [← hvisited, visitedIds] using hperm.length_eq
    rw [Batch.successes, Batch.failures, Batch.count, Batch.count, successes_add_failures hsettles,
      houtcomes, List.length_map, hlength]
  case status => exact complete_status_eq_failed_iff _

/-- An engine whose store counts the statements that it is sent, and refuses the first. -/
def refusing : Engine Nat where
  adapter :=
    { execute := fun _ n => (if n = 0 then .error (.storage "refused") else .ok (), n + 1)
      tableExists := fun _ n => (.ok true, n)
      notes := fun _ => [] }
  delimiters := none

theorem refusing_failsExpectedly : refusing.adapter.FailsExpectedly where
  execute sql n escape h := by
    simp only [refusing] at h
    split at h
    · cases h
    · cases h
  tableExists _ _ _ h := by cases h

/-- Two models, the first of which reads the second. -/
def pair : List Model :=
  [⟨"b", "b.sql", "select * from a", "", {}, ["a"], []⟩,
    ⟨"a", "a.sql", "select 1", "", {}, [], []⟩]

theorem pair_sortable : Sortable pair where
  nodup_ids := by decide
  known := by decide
  acyclic := by
    refine .of_rank (fun id => if id = "b" then 1 else 0) fun a b h => ?_
    obtain ⟨m, hm, rfl, hb⟩ := h
    rcases List.mem_pair.1 hm with rfl | rfl
    · obtain rfl : b = "a" := by simpa using hb
      decide
    · cases hb

theorem runModels_fullRun_pair :
    refusing.adapter.FailsExpectedly ∧ Sortable pair ∧ (∀ m ∈ pair, refusing.oversight? m = none)
      ∧ ∃ order visits batch, FullRun refusing pair ⟨0, {}, []⟩ order visits batch :=
  ⟨refusing_failsExpectedly, pair_sortable, fun _ _ => rfl,
    runModels_fullRun refusing_failsExpectedly pair_sortable (fun _ _ => rfl) _⟩

/-! ### A run that stops at the first failure -/

theorem find?_eq_of_mem {models : List Model} (hnodup : (models.map (·.id)).Nodup) {m : Model}
    (hm : m ∈ models) : models.find? (·.id == m.id) = some m := by
  obtain ⟨m', hm'⟩ := Option.isSome_iff_exists.1
    (List.find?_isSome.2 ⟨m, hm, by simp⟩ : (models.find? (·.id == m.id)).isSome)
  have hid : m'.id = m.id := by simpa using List.find?_some hm'
  rw [hm', List.inj_on_of_nodup_map hnodup (List.mem_of_find?_eq_some hm') hm hid]

/-- A run that stops at the first failure has stopped at a visit: what it raises, what it has
    asked and what it has left alone. -/
structure StopsAt (e : Engine σ) (models : List Model) (s : Session σ) (before : List Visit)
    (v : Visit) : Prop where
  raises : ∃ after t batch,
    (e.runModels models true).run s
        = ((after, .error (.stopped v.model.id v.outcome.error batch)), t)
      ∧ batch.outcomes = (before ++ [v]).map (·.outcome)
      ∧ batch.status = .failed ∧ batch.hasEnded = true
      ∧ ∀ m ∈ models, m.id ∉ visitedIds (before ++ [v]) → after.find? (·.id == m.id) = some m
  requests : e.runRequests models true s = (before ++ [v]).flatMap (·.requests)
  requests_go_on : e.runRequests models true s <+: e.runRequests models false s

/-- The visits of a run that goes on past failures, and what a run that stops at the first one
    makes of them. -/
structure SameUpToFailure (e : Engine σ) (models : List Model) (s : Session σ)
    (order : List String) (visits : List Visit) : Prop where
  sorted : orderOf models = .ok order
  passes : ∃ t, e.Visits (announced order s) visits t
  visited : visitedIds visits <+: order
  -- a run that goes on visits all, unless it is ended by what nothing handles
  ends : visitedIds visits = order ∨ ∃ after escape t,
    (e.runModels models false).run s = ((after, .error (.escaped escape)), t)
  returns : ∀ after batch t, (e.runModels models false).run s = ((after, .ok batch), t) →
    visitedIds visits = order ∧ batch.outcomes = visits.map (·.outcome)
      ∧ e.runRequests models false s = visits.flatMap (·.requests)
  without_failure : (∀ v ∈ visits, v.outcome.status ≠ .failed) →
    (e.runModels models true).run s = (e.runModels models false).run s
      ∧ e.runRequests models true s = e.runRequests models false s
  first_failure : ∀ before v later, visits = before ++ v :: later →
    (∀ w ∈ before, w.outcome.status ≠ .failed) → v.outcome.status = .failed →
    StopsAt e models s before v

theorem History.stopsAt {models : List Model} {order : List String}
    (h : orderOf models = .ok order) (hnodup : (models.map (·.id)).Nodup) {s u : Session σ}
    {before later : List Visit} {v : Visit} {rest : List String}
    (hhistory : History e models order (announced order s) (before ++ v :: later) rest u)
    (hbefore : ∀ w ∈ before, w.outcome.status ≠ .failed) (hfailed : v.outcome.status = .failed) :
    StopsAt e models s before v := by
  obtain ⟨⟨t, hstop⟩, hstopRequests⟩ := hhistory.runInOrder_first_failure hbefore hfailed {}
  have hrequests : e.runRequests models true s = (before ++ [v]).flatMap (·.requests) := by
    rw [runRequests_eq h, hstopRequests]
  refine ⟨⟨_, _, _, runModels_run h hstop, ?_, ?_, rfl, ?_⟩, hrequests, ?_⟩
  · simp [addAll, Batch.complete]
  · refine (complete_status_eq_failed_iff _).2 ⟨v.outcome, ?_, hfailed⟩
    simp [addAll]
  · intro m hmem hout
    have hrendered : ∀ w ∈ before ++ [v], Rendered w.model w.after := by
      intro w hw
      refine hhistory.rendered w ?_
      rw [← List.singleton_append, ← List.append_assoc]
      exact List.mem_append_left _ hw
    rw [find?_leftBy hrendered hout]
    exact find?_eq_of_mem hnodup hmem
  · obtain ⟨-, hgoOn⟩ := hhistory.runInOrder false (fun _ _ _ => rfl) {}
    have hjoin : (before ++ v :: later).flatMap (·.requests)
        = (before ++ [v]).flatMap (·.requests) ++ later.flatMap (·.requests) := by simp
    rw [hrequests, runRequests_eq h, hgoOn, hjoin, List.append_assoc]
    exact List.prefix_append _ _

/-- **A run that stops at the first failure does what a run that goes on does, up to there,** when
    both start from the same point and the same comes to them by chance. -/
theorem runModels_failFast {models : List Model} (hm : Sortable models) (s : Session σ) :
    ∃ order visits, SameUpToFailure e models s order visits := by
  obtain ⟨order, h⟩ := exists_orderOf_iff.2 hm
  obtain ⟨hnodup, -, -⟩ := orderOf_ok h
  obtain ⟨visits, rest, u, hhistory⟩ :=
    e.exists_history hnodup (fun _ => exists_find?_of_mem_order h) (announced order s)
  refine ⟨order, visits, ?_⟩
  constructor
  case sorted => exact h
  case passes => exact ⟨u, hhistory.passes⟩
  case visited => exact ⟨rest, hhistory.split.symm⟩
  case ends =>
    rcases hhistory.ending_leftBy hnodup with rfl | ⟨id, later, m, m', escape, t, rfl, hfind, hrun⟩
    · left
      rw [hhistory.split, List.append_nil]
    · right
      obtain ⟨hpass, -⟩ := hhistory.runInOrder false (fun _ _ _ => rfl) {}
      rw [runInOrder_escape hfind hrun] at hpass
      exact ⟨_, _, _, runModels_run h hpass⟩
  case returns =>
    intro after batch t hrun
    obtain ⟨-, hrequests⟩ := hhistory.runInOrder false (fun _ _ _ => rfl) {}
    -- the notes at the end leave the result as it is
    rw [runModels_run h rfl] at hrun
    obtain ⟨⟨-, hresult⟩, -⟩ := (Prod.mk.inj hrun).imp_left Prod.ext_iff.1
    obtain ⟨rfl, rfl⟩ := hhistory.of_run_ok hnodup (Prod.ext (Prod.ext rfl hresult) rfl)
    refine ⟨by rw [hhistory.split, List.append_nil], by simp [addAll, Batch.complete], ?_⟩
    rw [runRequests_eq h, hrequests]
    exact List.append_nil _
  case without_failure =>
    intro hnone
    obtain ⟨hsame, hsameRequests⟩ := hhistory.runInOrder_true_eq hnodup hnone {}
    rw [runModels_run h hsame, runModels_run h rfl, runRequests_eq h, runRequests_eq h,
      hsameRequests]
    exact ⟨rfl, rfl⟩
  case first_failure =>
    rintro before v later rfl hbefore hfailed
    exact hhistory.stopsAt h hm.nodup_ids hbefore hfailed

theorem runModels_failFast_pair :
    Sortable pair ∧ ∃ order visits, SameUpToFailure refusing pair ⟨0, {}, []⟩ order visits :=
  ⟨pair_sortable, runModels_failFast pair_sortable _⟩

end Engine

end SqlPipeline.Run
