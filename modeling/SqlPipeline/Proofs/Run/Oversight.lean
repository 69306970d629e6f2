/-
  SqlPipeline/Proofs/Run/Oversight.lean
  =====================================
  **Every model has an outcome, unless an oversight keeps its template from being read.**

  What is wrong with a template is reported as a failure of its model, and so is what a store
  refuses.  Only an oversight of the reader ends a run: a number that it takes for one but
  cannot read, or a name that is given twice.  So on a store whose faults are all reported a
  model has an outcome exactly when there is none in its template (`exists_outcome_iff`), and
  a run that goes on past failures attempts its models up to the first one with an oversight
  (`exists_runsUpTo`).
-/
import SqlPipeline.Proofs.Run.Batch
import SqlPipeline.Proofs.Run.Incremental
import SqlPipeline.Proofs.Run.Report
import Mathlib

namespace SqlPipeline.Run.Engine

open Storage

variable {σ : Type} {e : Engine σ} {m : Model} {s t : Session σ}

/-! ### One model -/

/-- **A model has an outcome exactly when there is no oversight in its template.** -/
theorem exists_outcome_iff (he : e.adapter.FailsExpectedly) :
    (∃ o, ((e.runModel m).run s).1.2 = .ok o ∧ Settles m o) ↔ e.oversight? m = none := by
  constructor
  · rintro ⟨o, ho, -⟩
    cases hm : e.oversight? m with
    | none => rfl
    | some oversight =>
      rw [(runModel_of_oversight he hm).1] at ho
      cases ho
  · intro hm
    obtain ⟨o, ho⟩ := runModel_gives_ok he hm s
    exact ⟨o, ho, (e.runModel_gives m s).2 o ho⟩

/-- What ends the run of a model is an oversight in its template. -/
theorem oversight_of_escape (he : e.adapter.FailsExpectedly) {m' : Model} {escape : Escape}
    (h : (e.runModel m).run s = ((m', .error escape), t)) :
    ∃ oversight, e.oversight? m = some oversight ∧ escape = .oversight oversight := by
  cases hm : e.oversight? m with
  | none =>
    obtain ⟨o, ho⟩ := runModel_gives_ok he hm s
    rw [h] at ho
    cases ho
  | some oversight =>
    have hrun := (runModel_of_oversight (s := s) he hm).1
    rw [h] at hrun
    obtain ⟨-, hescape⟩ := Prod.mk.inj hrun
    exact ⟨oversight, rfl, Except.error.inj hescape⟩

/-- How a model is run on a store whose faults are all reported. -/
structure SettlesUnlessOversight (e : Engine σ) (m : Model) (s : Session σ) : Prop where
  settles_iff : (∃ o, ((e.runModel m).run s).1.2 = .ok o ∧ Settles m o) ↔ e.oversight? m = none
  escapes : ∀ oversight, e.oversight? m = some oversight →
    ((e.runModel m).run s).1 = (m, .error (.oversight oversight)) ∧ e.attempts m s = []

/-! ### Many models -/

/-- Each visit was a run of its model. -/
theorem Visits.exists_run {visits : List Visit} (h : e.Visits s visits t) {v : Visit}
    (hv : v ∈ visits) : ∃ before after : Session σ,
      (e.runModel v.model).run before = ((v.after, .ok v.outcome), after) := by
  obtain ⟨earlier, later, rfl⟩ := List.append_of_mem hv
  obtain ⟨before, after, -, hrun, -⟩ := h.split
  exact ⟨before, after, hrun⟩

/-- A run of models that goes on past failures: the models that it visits, and those that it does
    not attempt, the first of which has an oversight in its template. -/
structure RunsUpTo (e : Engine σ) (models : List Model) (s : Session σ) (order : List String)
    (visits : List Visit) (rest : List String) : Prop where
  sorted : orderOf models = .ok order
  split : order = visitedIds visits ++ rest
  passes : ∃ t, e.Visits (announced order s) visits t
  settled : ∀ v ∈ visits, v.model ∈ models ∧ e.oversight? v.model = none
    ∧ Settles v.model v.outcome
  -- it comes to its end when no model is left, and else ends at the first that is
  returns : rest = [] → ∃ after batch t, (e.runModels models false).run s = ((after, .ok batch), t)
    ∧ batch.outcomes = visits.map (·.outcome)
  ends : ∀ id later, rest = id :: later → ∃ m ∈ models, ∃ oversight, m.id = id
    ∧ e.oversight? m = some oversight
    ∧ ∃ after t, (e.runModels models false).run s = ((after, .error (.escaped (.oversight oversight))), t)
  rest_eq_nil_iff : rest = [] ↔ ∀ m ∈ models, e.oversight? m = none

theorem exists_runsUpTo (he : e.adapter.FailsExpectedly) {models : List Model}
    (hm : Sortable models) (s : Session σ) :
    ∃ order visits rest, RunsUpTo e models s order visits rest := by
  obtain ⟨order, h⟩ := exists_orderOf_iff.2 hm
  obtain ⟨hnodup, hperm, -⟩ := orderOf_ok h
  obtain ⟨visits, rest, u, hhistory⟩ :=
    e.exists_history hnodup (fun _ => exists_find?_of_mem_order h) (announced order s)
  obtain ⟨hpass, -⟩ := hhistory.runInOrder false (fun _ _ _ => rfl) {}
  have hsettled : ∀ v ∈ visits, v.model ∈ models ∧ e.oversight? v.model = none
      ∧ Settles v.model v.outcome := by
    intro v hv
    have hsettles := (hhistory.passes.settles v hv).2
    obtain ⟨before, after, hrun⟩ := hhistory.passes.exists_run hv
    refine ⟨List.mem_of_find?_eq_some (hhistory.visitsOf.find? v hv), ?_, hsettles⟩
    exact (exists_outcome_iff (s := before) he).1 ⟨v.outcome, by rw [hrun], hsettles⟩
  have hends : ∀ id later, rest = id :: later → ∃ m ∈ models, ∃ oversight, m.id = id
      ∧ e.oversight? m = some oversight ∧ ∃ after t,
        (e.runModels models false).run s = ((after, .error (.escaped (.oversight oversight))), t) := by
    rintro id later rfl
    rcases hhistory.ending_leftBy hnodup with hnil | ⟨_, _, m, m', escape, w, hcons, hfind, hrun⟩
    · cases hnil
    · obtain ⟨rfl, rfl⟩ := List.cons.inj hcons
      obtain ⟨oversight, hoversight, rfl⟩ := oversight_of_escape he hrun
      rw [runInOrder_escape hfind hrun] at hpass
      rw [hhistory.find?_leftBy_of_mem_rest hnodup List.mem_cons_self] at hfind
      have hid : m.id = id := by simpa using List.find?_some hfind
      exact ⟨m, List.mem_of_find?_eq_some hfind, oversight, hid, hoversight, _, _,
        runModels_run h hpass⟩
  refine ⟨order, visits, rest, ?_⟩
  constructor
  case sorted => exact h
  case split => exact hhistory.split
  case passes => exact ⟨u, hhistory.passes⟩
  case settled => exact hsettled
  case returns =>
    rintro rfl
    exact ⟨_, _, _, runModels_run h hpass, by simp [addAll, Batch.complete]⟩
  case ends => exact hends
  case rest_eq_nil_iff =>
    constructor
    · rintro rfl m hmem
      -- every model is visited, and what is visited has an outcome
      have hvisited : m.id ∈ visitedIds visits := by
        have hids := hperm.mem_iff.2 (List.mem_map_of_mem hmem)
        rwa [hhistory.split, List.append_nil] at hids
      obtain ⟨v, hv, hid⟩ := List.mem_map.1 hvisited
      have hfind := hhistory.visitsOf.find? v hv
      rw [hid, find?_eq_of_mem hm.nodup_ids hmem] at hfind
      rw [Option.some.inj hfind]
      exact (hsettled v hv).2.1
    · intro hread
      exact hhistory.rest_eq_nil he hread

/-- **Nothing but an oversight keeps a model from its outcome,** whatever its template, its query
    and its settings are, nor the models behind it from being attempted. -/
theorem settles_unless_oversight (he : e.adapter.FailsExpectedly) :
    (∀ m s, SettlesUnlessOversight e m s)
      ∧ ∀ models, Sortable models → ∀ s, ∃ order visits rest, RunsUpTo e models s order visits rest :=
  ⟨fun _ _ => ⟨exists_outcome_iff he, fun _ => runModel_of_oversight he⟩,
    fun _ => exists_runsUpTo he⟩

theorem obliging_failsExpectedly : obliging.adapter.FailsExpectedly where
  execute _ _ _ h := by cases h
  tableExists _ _ _ h := by cases h

/-- A model whose template has a fraction in it that is written in digits of another script. -/
def arabic : Model :=
  ⟨"a", "m/a.sql", "", "\x7b\x7b ١.٢ \x7d\x7d", {}, [], []⟩

/-- A model whose template asks for something that there is not. -/
def unfilled : Model :=
  ⟨"b", "m/b.sql", "", "\x7b\x7b total \x7d\x7d", {}, [], []⟩

/-- The digits are taken for a fraction, which is then refused. -/
theorem takeAtom_arabic : Template.takeAtom? false "١.٢ \x7d\x7d".toList
    = some (.error (.oversight (.foreignDigit '١')), " \x7d\x7d".toList) := by
  have hfraction : Template.takeFraction? "١.٢ \x7d\x7d".toList
      = some ("١.٢".toList, " \x7d\x7d".toList) := by decide +kernel
  have hmarks : "١.٢".toList.filter (· != '_') = "١.٢".toList := by decide +kernel
  have hfault : Template.fractionFault? "١.٢".toList = some (.foreignDigit '١') := by decide +kernel
  have hread : Template.readFraction "١.٢".toList = .error (.foreignDigit '١') := by
    rw [Template.readFraction, hfault]
  unfold Template.takeAtom?
  dsimp only
  rw [if_neg Bool.false_ne_true, hfraction]
  dsimp only
  rw [hmarks, hread]
  rfl

theorem scan_arabic : Template.scan {} arabic.template
    = ⟨[⟨.exprBegin, 1⟩], some ⟨.oversight (.foreignDigit '١'), 1⟩⟩ := by
  have hunify : Text.unifyNewlines arabic.template.toList = "\x7b\x7b ١.٢ \x7d\x7d".toList := by
    decide +kernel
  have hscan : Template.scan {} arabic.template
      = Template.scanWithin {} 9 22 .outside true 1 "\x7b\x7b ١.٢ \x7d\x7d".toList := by
    rw [Template.scan, hunify]
    rfl
  -- the marker is found, the blank behind it is passed, and the fraction ends it
  have hfind : Template.findFirst? (Template.tagAt? {}) "\x7b\x7b ١.٢ \x7d\x7d".toList
      = some ([], .expr, .none, " ١.٢ \x7d\x7d".toList) := by cbv
  have hstart : Template.scanWithin {} 9 22 .outside true 1 "\x7b\x7b ١.٢ \x7d\x7d".toList
      = (Template.scanWithin {} 9 21 (.tag true [] false) false 1 " ١.٢ \x7d\x7d".toList).cons
          .exprBegin 1 := by
    unfold Template.scanWithin
    rw [hfind]
    rfl
  have hblank : Template.scanWithin {} 9 21 (.tag true [] false) false 1 " ١.٢ \x7d\x7d".toList
      = Template.scanWithin {} 9 20 (.tag true [] false) false 1 "١.٢ \x7d\x7d".toList := rfl
  have hstop : Template.scanWithin {} 9 20 (.tag true [] false) false 1 "١.٢ \x7d\x7d".toList
      = .failing (.oversight (.foreignDigit '١')) 1 := by
    have hchars : "١.٢ \x7d\x7d".toList = '١' :: ".٢ \x7d\x7d".toList := rfl
    have hatom := takeAtom_arabic
    rw [hchars] at hatom ⊢
    unfold Template.scanWithin
    dsimp only
    rw [hatom]
    rfl
  rw [hscan, hstart, hblank, hstop]
  rfl

theorem oversight_arabic : obliging.oversight? arabic = some (.foreignDigit '١') := by
  have hparse : Template.parse {} arabic.template = .error ⟨.oversight (.foreignDigit '١'), 1⟩ := by
    unfold Template.parse
    rw [scan_arabic]
    cbv
  have hread : Template.read {} arabic.id arabic.template
      = .error (.oversight (.foreignDigit '١')) := by
    unfold Template.read
    rw [hparse]
    rfl
  simp only [oversight?, obliging, hread]
  rfl

theorem oversight_unfilled : obliging.oversight? unfilled = none := by
  have hread : Template.read {} unfilled.id unfilled.template
      = .ok ⟨"b", [.output [.expr (.name "total" 1)]]⟩ := by cbv
  simp only [oversight?, obliging, hread]
  rfl

theorem sortable_of_independent {models : List Model} (hnodup : (models.map (·.id)).Nodup)
    (hindependent : ∀ m ∈ models, m.dependencies = []) : Sortable models where
  nodup_ids := hnodup
  known := by
    intro m hm dep hdep
    rw [hindependent m hm] at hdep
    cases hdep
  acyclic := by
    refine .of_rank (fun _ => 0) fun a b h => ?_
    obtain ⟨m, hm, -, hb⟩ := h
    rw [hindependent m hm] at hb
    cases hb

/-- Of two models the one has an outcome, a failure, and the other none. -/
theorem settles_unless_oversight_arabic :
    obliging.adapter.FailsExpectedly ∧ Sortable [arabic, unfilled]
      ∧ obliging.oversight? unfilled = none ∧ obliging.oversight? arabic ≠ none
      ∧ SettlesUnlessOversight obliging unfilled ⟨(), {}, []⟩
      ∧ SettlesUnlessOversight obliging arabic ⟨(), {}, []⟩
      ∧ ∃ order visits rest, RunsUpTo obliging [arabic, unfilled] ⟨(), {}, []⟩ order visits rest := by
  have hsortable : Sortable [arabic, unfilled] :=
    sortable_of_independent (by decide) (by simp [arabic, unfilled])
  obtain ⟨hone, hmany⟩ := settles_unless_oversight obliging_failsExpectedly
  refine ⟨obliging_failsExpectedly, hsortable, oversight_unfilled, ?_, hone _ _, hone _ _,
    hmany _ hsortable _⟩
  simp [oversight_arabic]

/-- **A number that the reader takes for one but cannot read ends the run:** the model that it
    stands in has no outcome, and the model behind that is not attempted. -/
theorem outcome_kept_by_oversight :
    obliging.adapter.FailsExpectedly ∧ Sortable [arabic, unfilled]
      ∧ ((obliging.runModel arabic).run ⟨(), {}, []⟩).1
        = (arabic, .error (.oversight (.foreignDigit '١')))
      ∧ orderOf [arabic, unfilled] = .ok ["a", "b"]
      ∧ ∃ t, (obliging.runModels [arabic, unfilled] false).run ⟨(), {}, []⟩
        = (([arabic, unfilled], .error (.escaped (.oversight (.foreignDigit '١')))), t) := by
  have horder : orderOf [arabic, unfilled] = .ok ["a", "b"] := by decide +kernel
  have hrun (s : Session Unit) : ∃ t, (obliging.runModel arabic).run s
      = ((arabic, .error (.oversight (.foreignDigit '١'))), t) :=
    ⟨_, Prod.ext (runModel_of_oversight obliging_failsExpectedly oversight_arabic).1 rfl⟩
  obtain ⟨t, hfirst⟩ := hrun (announced ["a", "b"] ⟨(), {}, []⟩)
  have hends : (obliging.runInOrder false [arabic, unfilled] {} ["a", "b"]).run
      (announced ["a", "b"] ⟨(), {}, []⟩) = ((replaceModel arabic [arabic, unfilled],
        .error (.escaped (.oversight (.foreignDigit '١')))), t) :=
    runInOrder_escape rfl hfirst
  obtain ⟨u, hone⟩ := hrun ⟨(), {}, []⟩
  exact ⟨obliging_failsExpectedly, sortable_of_independent (by decide) (by simp [arabic, unfilled]),
    congrArg Prod.fst hone, horder, _, runModels_run horder hends⟩

end SqlPipeline.Run.Engine
