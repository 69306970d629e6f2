/-
  SqlPipeline/Proofs/Run/Report.lean
  ==================================
  **The outcome of a model tells what the store has done.**

  A model can fail before anything is sent for it, when it cannot be rendered or has no
  plan, and while it is sent, at any statement of its plan.  However it ends, its outcome
  holds the statements that the store has accepted and no others, names a success only when
  these are the whole plan, and otherwise says what went wrong (`runModel_report`).  A model
  has no outcome when an oversight keeps its template from being read: nothing is sent then.

  Of a model whose text starts with a statement the plan is the pieces of that text, so nothing
  in it is lost, sent twice or sent out of turn.
-/
import SqlPipeline.Proofs.Run.Attempts
import SqlPipeline.Proofs.Sql.Pieces

namespace SqlPipeline.Run.Engine

open Storage

variable {σ : Type} {e : Engine σ} {m m' : Model} {s : Session σ} {plan : List String}
  {message : String}

/-! ### Plans -/

/-- The statements that are planned for a model: those of its text if it starts with one, else
    those of the strategy that it asks for. -/
inductive IsPlan (e : Engine σ) (m : Model) : List String → Prop
  | raw : Sql.isRawStatement m.sql = true → IsPlan e m (Sql.splitStatements m.sql)
  | materialized {strategy : Strategy} {plan : List String} :
      Sql.isRawStatement m.sql = false → m.materialization.strategy = .ok strategy →
      strategy.statements (e.targetName m) m.sql m.materialization = .ok plan → IsPlan e m plan

/-- Why nothing can be planned for a model. -/
inductive Unplannable (e : Engine σ) (m : Model) : (message : String) → Prop
  | blank : Text.isAllBlank m.sql = true → Unplannable e m "model has no compiled SQL"
  | strategy {fault : MaterializationError} :
      Text.isAllBlank m.sql = false → Sql.isRawStatement m.sql = false →
      m.materialization.strategy = .error fault →
      Unplannable e m ("failed to get strategy: " ++ fault.message)
  | statements {strategy : Strategy} {fault : MaterializationError} :
      Text.isAllBlank m.sql = false → Sql.isRawStatement m.sql = false →
      m.materialization.strategy = .ok strategy →
      strategy.statements (e.targetName m) m.sql m.materialization = .error fault →
      Unplannable e m ("failed to generate SQL: " ++ fault.message)

theorem IsPlan.unique {other : List String} (h : IsPlan e m plan) (hother : IsPlan e m other) :
    plan = other := by
  cases h with
  | raw hraw =>
    cases hother with
    | raw _ => rfl
    | materialized hnot _ _ =>
      rw [hraw] at hnot
      cases hnot
  | materialized hnot hstrategy hplan =>
    cases hother with
    | raw hraw =>
      rw [hraw] at hnot
      cases hnot
    | materialized _ hstrategy' hplan' =>
      rw [hstrategy] at hstrategy'
      obtain rfl := Except.ok.inj hstrategy'
      rw [hplan] at hplan'
      exact Except.ok.inj hplan'

/-- What a plan starts with is a start of every plan. -/
theorem IsPlan.isPrefix {sent : List String} (h : IsPlan e m plan) (hsent : sent <+: plan) :
    ∀ other, IsPlan e m other → sent <+: other := by
  intro other hother
  rwa [← h.unique hother]

theorem IsPlan.plan_eq (hblank : Text.isAllBlank m.sql = false) (h : IsPlan e m plan) :
    e.plan m = .ok plan := by
  cases h with
  | raw hraw => simp [Engine.plan, hblank, hraw]
  | materialized hraw hstrategy hplan => simp [Engine.plan, hblank, hraw, hstrategy, hplan]

theorem Unplannable.plan_eq (h : Unplannable e m message) : e.plan m = .error message := by
  cases h with
  | blank hblank => simp [Engine.plan, hblank]
  | strategy hblank hraw hstrategy => simp [Engine.plan, hblank, hraw, hstrategy]
  | statements hblank hraw hstrategy hplan =>
    simp [Engine.plan, hblank, hraw, hstrategy, hplan]

theorem Unplannable.ne_empty (h : Unplannable e m message) : message ≠ "" := by
  cases h with
  | blank _ => decide
  | strategy _ _ _ => simp
  | statements _ _ _ _ => simp

theorem plan_cases (e : Engine σ) (m : Model) :
    (∃ plan, Text.isAllBlank m.sql = false ∧ IsPlan e m plan)
      ∨ ∃ message, Unplannable e m message := by
  cases hblank : Text.isAllBlank m.sql with
  | true => exact Or.inr ⟨_, .blank hblank⟩
  | false =>
    cases hraw : Sql.isRawStatement m.sql with
    | true => exact Or.inl ⟨_, rfl, .raw hraw⟩
    | false =>
      cases hstrategy : m.materialization.strategy with
      | error fault => exact Or.inr ⟨_, .strategy hblank hraw hstrategy⟩
      | ok strategy =>
        cases hplan : strategy.statements (e.targetName m) m.sql m.materialization with
        | error fault => exact Or.inr ⟨_, .statements hblank hraw hstrategy hplan⟩
        | ok plan => exact Or.inl ⟨_, rfl, .materialized hraw hstrategy hplan⟩

theorem isPlan_of_plan_eq (h : e.plan m = .ok plan) : IsPlan e m plan := by
  rcases plan_cases e m with ⟨other, hblank, hother⟩ | ⟨message, hmessage⟩
  · rw [hother.plan_eq hblank] at h
    obtain rfl := Except.ok.inj h
    exact hother
  · rw [hmessage.plan_eq] at h
    cases h

theorem plan_eq_error_iff : e.plan m = .error message ↔ Unplannable e m message := by
  refine ⟨fun h => ?_, Unplannable.plan_eq⟩
  rcases plan_cases e m with ⟨other, hblank, hother⟩ | ⟨message', hmessage⟩
  · rw [hother.plan_eq hblank] at h
    cases h
  · rw [hmessage.plan_eq] at h
    obtain rfl := Except.error.inj h
    exact hmessage

/-! ### Before anything is sent -/

/-- The model as it is rendered again, where it can be, or why its template fails. -/
def rerendered (e : Engine σ) (m : Model) (s : Session σ) : Except String Model :=
  match e.delimiters with
  | none => .ok m
  | some d =>
      if m.template.isEmpty then .ok m
      else
        (e.renderedIn m d (s.context.forModel m.id (e.tellsIncremental m s))).map fun sql =>
          { m with sql := sql }

/-- What is wrong with a model before anything is sent for it. -/
inductive FailsBefore (e : Engine σ) (m : Model) (s : Session σ) : (message : String) → Prop
  | rendering {message : String} : e.rerendered m s = .error message →
      FailsBefore e m s ("failed to render template: " ++ message)
  | planning {m' : Model} {message : String} : e.rerendered m s = .ok m' →
      Unplannable e m' message → FailsBefore e m s message

theorem failsBefore_iff_of_ok (h : e.rerendered m s = .ok m') :
    FailsBefore e m s message ↔ e.plan m' = .error message := by
  rw [plan_eq_error_iff]
  refine ⟨fun hfails => ?_, .planning h⟩
  cases hfails with
  | rendering herror =>
    rw [h] at herror
    cases herror
  | planning hok hplan =>
    rw [h] at hok
    obtain rfl := Except.ok.inj hok
    exact hplan

theorem not_failsBefore (h : e.rerendered m s = .ok m') (hplan : e.plan m' = .ok plan) :
    ∀ message, ¬ FailsBefore e m s message := by
  intro message hfails
  rw [failsBefore_iff_of_ok h, hplan] at hfails
  cases hfails

theorem failsBefore_iff_of_error {reason : String} (h : e.rerendered m s = .error reason) :
    FailsBefore e m s message ↔ message = "failed to render template: " ++ reason := by
  constructor
  · intro hfails
    cases hfails with
    | rendering herror =>
      rw [h] at herror
      rw [Except.error.inj herror]
    | planning hok _ =>
      rw [h] at hok
      cases hok
  · rintro rfl
    exact .rendering h

theorem refresh_run_started (h : e.AnswersFor m s) :
    ((e.refresh m).run (started m s)).1
      = (e.rerendered m s).mapError (e.haltFor m) := by
  cases hd : e.delimiters with
  | none =>
    rw [rerendered, refresh, hd]
    rfl
  | some d =>
    cases hm : m.template.isEmpty with
    | true =>
      rw [rerendered, refresh, hd, hm]
      rfl
    | false =>
      have hrerendered : e.rerendered m s
          = (e.renderedIn m d (s.context.forModel m.id (e.tellsIncremental m s))).map fun sql =>
              { m with sql := sql } := by
        rw [rerendered, hd, hm]
        rfl
      have hcontext : (started m s).context.forModel m.id (e.tellsIncremental m (started m s))
          = s.context.forModel m.id (e.tellsIncremental m s) := rfl
      rw [refresh_run hd hm (s := started m s) h, hrerendered, hcontext]
      cases e.renderedIn m d (s.context.forModel m.id (e.tellsIncremental m s)) with
      | ok sql => rfl
      | error reason => rfl

/-- A template that an oversight keeps from being read is not rendered. -/
theorem rerendered_of_oversight {o : Template.Oversight} (h : e.oversight? m = some o) :
    e.rerendered m s = .error o.message := by
  unfold oversight? at h
  unfold rerendered
  cases hd : e.delimiters with
  | none => simp [hd] at h
  | some d =>
    cases hm : m.template.isEmpty with
    | true => simp [hd, hm] at h
    | false =>
      simp only [hd, hm, Bool.false_eq_true, if_false] at h ⊢
      rw [renderedIn]
      cases hread : Template.read d m.id m.template with
      | ok template => simp [hread] at h
      | error fault =>
        cases fault with
        | oversight o' =>
          rw [hread] at h
          obtain rfl := Option.some.inj h
          rfl
        | _ => simp [hread] at h

/-! ### One model -/

variable (he : e.adapter.FailsExpectedly)
include he

/-- The run of a model that is written down, from behind its rendering on. -/
theorem observed_runModel_run :
    ∃ t, t.store.2 = [] ∧ (e.observed.runModel m).run (s.map fun store => (store, []))
      = (e.observed.sendRefreshed m ((e.rerendered m s).mapError (e.haltFor m))).run t := by
  have hanswers : e.observed.AnswersFor m (s.map fun store => (store, [])) := fun escape =>
    he.tableExists (e.targetName m) s.store escape
  refine ⟨_, e.refresh_silent m (started m (s.map fun store => (store, []))), ?_⟩
  rw [runModel_run, refresh_run_started hanswers]
  rfl

/-- A model whose template cannot be read is left as it is, and nothing is sent for it. -/
theorem runModel_of_oversight {o : Template.Oversight} (hm : e.oversight? m = some o) :
    ((e.runModel m).run s).1 = (m, .error (.oversight o)) ∧ e.attempts m s = [] := by
  obtain ⟨t, ht, hrun⟩ := @observed_runModel_run _ e m s he
  have hsame := congrArg Prod.fst (e.observed_runModel m (s.map fun store => (store, [])))
  have hhalt : (e.rerendered m s).mapError (e.haltFor m) = .error (.escaped (.oversight o)) := by
    rw [rerendered_of_oversight hm, Except.mapError, haltFor_of_some hm]
  rw [attempts, hrun, hhalt]
  rw [hrun, hhalt] at hsame
  exact ⟨hsame, ht⟩

/-- A model whose template fails is left as it is, and nothing is sent for it. -/
theorem runModel_of_unrendered (hm : e.oversight? m = none)
    (h : e.rerendered m s = .error message) :
    ((e.runModel m).run s).1
        = (m, .ok (Outcome.finish { modelId := m.id } .failed
            ("failed to render template: " ++ message)))
      ∧ e.attempts m s = [] := by
  obtain ⟨t, ht, hrun⟩ := @observed_runModel_run _ e m s he
  have hsame := congrArg Prod.fst (e.observed_runModel m (s.map fun store => (store, [])))
  have hhalt : (e.rerendered m s).mapError (e.haltFor m) = .error (.ofMessage message) := by
    rw [h, Except.mapError, haltFor_of_none hm]
  rw [attempts, hrun, hhalt]
  rw [hrun, hhalt] at hsame
  exact ⟨hsame, ht⟩

/-- A model that has been rendered ends in one of the ways in which it can be sent. -/
theorem runModel_of_rendered (h : e.rerendered m s = .ok m') :
    ∃ o, ((e.runModel m).run s).1 = (m', .ok o) ∧ Ends e m' o (e.attempts m s) := by
  obtain ⟨t, ht, hrun⟩ := @observed_runModel_run _ e m s he
  have hsame := congrArg Prod.fst (e.observed_runModel m (s.map fun store => (store, [])))
  obtain ⟨made, hmade, o, ho, hends⟩ := send_logs he m' t
  rw [ht, List.nil_append] at hmade
  rw [h] at hrun
  refine ⟨o, ?_, ?_⟩
  · rw [← ho]
    exact hsame.trans (by rw [hrun]; rfl)
  · rw [attempts, hrun]
    exact hmade ▸ hends

omit he

/-! ### Reports -/

/-- That the outcome of a model says what has been done for it: `after` is the model as it is
    left, and `attempts` are the statements that the store was sent, with its answers. -/
structure Report (e : Engine σ) (m : Model) (s : Session σ) (after : Model) (o : Outcome)
    (attempts : List Attempt) : Prop where
  settles : Settles m o
  rendered : after = match e.rerendered m s with | .ok m' => m' | .error _ => m
  planned : (∃ plan, IsPlan e after plan) ∨ ∃ message, FailsBefore e m s message
  -- the plan is sent in order, up to the first statement that is refused
  attempts_isPrefix : ∀ plan, IsPlan e after plan → attempts.map (·.sql) <+: plan
  attempts_go_on : ∀ a ∈ attempts.dropLast, a.answer = .ok ()
  attempts_all : (∀ a ∈ attempts, a.answer = .ok ()) → (∀ message, ¬ FailsBefore e m s message) →
    IsPlan e after (attempts.map (·.sql))
  -- what was accepted of it is reported
  statements : o.statements = (attempts.filter (·.isAccepted)).map (·.sql)
  statements_isPrefix : ∀ plan, IsPlan e after plan → o.statements <+: plan
  success_iff : o.status = .success
    ↔ IsPlan e after o.statements ∧ ∀ message, ¬ FailsBefore e m s message
  error_iff : o.error = "" ↔ o.status = .success
  -- and so is what kept the rest of it from being sent
  refused : ∀ a ∈ attempts, ∀ message, a.answer = .error (.storage message) →
    o.error = "failed to execute SQL: " ++ message
  before : ∀ message, FailsBefore e m s message →
    attempts = [] ∧ o.statements = [] ∧ o.status = .failed ∧ o.error = message

theorem FailsBefore.unique {other : String} (h : FailsBefore e m s message)
    (hother : FailsBefore e m s other) : message = other := by
  cases hrendered : e.rerendered m s with
  | error reason =>
    rw [failsBefore_iff_of_error hrendered] at h hother
    rw [h, hother]
  | ok m' =>
    rw [failsBefore_iff_of_ok hrendered] at h hother
    rw [h] at hother
    exact Except.error.inj hother

theorem FailsBefore.ne_empty (h : FailsBefore e m s message) : message ≠ "" := by
  cases h with
  | rendering _ => simp
  | planning _ hplan => exact hplan.ne_empty

namespace Report

variable {after : Model} {id : String} (hid : id = m.id)
  (hafter : after = match e.rerendered m s with | .ok m' => m' | .error _ => m)
include hid hafter

/-- A model that fails before anything is sent for it. -/
theorem failed (h : FailsBefore e m s message) :
    Report e m s after (Outcome.finish { modelId := id } .failed message) [] := by
  have hnot : ¬ ∀ message, ¬ FailsBefore e m s message := fun hall => hall message h
  constructor
  case settles => exact .finish hid (Or.inr rfl)
  case rendered => exact hafter
  case planned => exact Or.inr ⟨message, h⟩
  case attempts_isPrefix => exact fun plan _ => List.nil_prefix
  case attempts_go_on => simp
  case attempts_all => exact fun _ hall => absurd hall hnot
  case statements => rfl
  case statements_isPrefix => exact fun plan _ => List.nil_prefix
  case success_iff => exact iff_of_false (by simp [Outcome.finish]) fun h => hnot h.2
  case error_iff => exact iff_of_false h.ne_empty (by simp [Outcome.finish])
  case refused => simp
  case before => exact fun other hother => ⟨rfl, rfl, rfl, h.unique hother⟩

/-- A model whose plan is accepted as a whole. -/
theorem completed (hplan : IsPlan e after plan) (hnone : ∀ message, ¬ FailsBefore e m s message) :
    Report e m s after (Outcome.finish { modelId := id, statements := plan } .success)
      (Attempt.accepted plan) := by
  constructor
  case settles => exact .finish hid (Or.inl rfl)
  case rendered => exact hafter
  case planned => exact Or.inl ⟨plan, hplan⟩
  case attempts_isPrefix => exact hplan.isPrefix (by rw [Attempt.map_sql_accepted])
  case attempts_go_on =>
    exact fun a ha => Attempt.answer_of_mem_accepted (List.mem_of_mem_dropLast ha)
  case attempts_all =>
    intro _ _
    rwa [Attempt.map_sql_accepted]
  case statements => simp [Outcome.finish]
  case statements_isPrefix => exact hplan.isPrefix List.prefix_rfl
  case success_iff => exact iff_of_true rfl ⟨hplan, hnone⟩
  case error_iff => exact iff_of_true rfl rfl
  case refused =>
    intro a ha message hrefused
    rw [Attempt.answer_of_mem_accepted ha] at hrefused
    cases hrefused
  case before => exact fun message h => absurd h (hnone message)

/-- A model of whose plan a statement is refused. -/
theorem interrupted {sent rest : List String} {sql : String}
    (hplan : IsPlan e after (sent ++ sql :: rest))
    (hnone : ∀ message, ¬ FailsBefore e m s message) :
    Report e m s after (Outcome.finish { modelId := id, statements := sent } .failed
        ("failed to execute SQL: " ++ message))
      (Attempt.accepted sent ++ [⟨sql, .error (.storage message)⟩]) := by
  have hrefused : (⟨sql, .error (.storage message)⟩ : Attempt).isAccepted = false := rfl
  constructor
  case settles => exact .finish hid (Or.inr rfl)
  case rendered => exact hafter
  case planned => exact Or.inl ⟨_, hplan⟩
  case attempts_isPrefix => exact hplan.isPrefix (by simp)
  case attempts_go_on =>
    intro a ha
    rw [List.dropLast_concat] at ha
    exact Attempt.answer_of_mem_accepted ha
  case attempts_all =>
    intro hall
    have hlast := hall _ (List.mem_append_right _ List.mem_cons_self)
    cases hlast
  case statements => simp [Outcome.finish, List.filter_append, hrefused]
  case statements_isPrefix => exact hplan.isPrefix (List.prefix_append _ _)
  case success_iff =>
    -- what was sent is not the plan, since that goes on behind it
    refine iff_of_false (by simp [Outcome.finish]) fun h => ?_
    have hsame := hplan.unique h.1
    simp [Outcome.finish] at hsame
  case error_iff => exact iff_of_false (by simp [Outcome.finish]) (by simp [Outcome.finish])
  case refused =>
    intro a ha other hother
    rcases List.mem_append.1 ha with hmem | hmem
    · rw [Attempt.answer_of_mem_accepted hmem] at hother
      cases hother
    · obtain rfl := List.mem_singleton.1 hmem
      cases hother
      rfl
  case before => exact fun other h => absurd h (hnone other)

end Report

/-- A model whose template can be read has an outcome, and that is an honest report. -/
theorem exists_report (he : e.adapter.FailsExpectedly) (hm : e.oversight? m = none)
    (s : Session σ) :
    ∃ o, ((e.runModel m).run s).1.2 = .ok o
      ∧ Report e m s ((e.runModel m).run s).1.1 o (e.attempts m s) := by
  cases hrendered : e.rerendered m s with
  | error message =>
    obtain ⟨hrun, hattempts⟩ := runModel_of_unrendered he hm hrendered
    rw [hrun, hattempts]
    exact ⟨_, rfl, .failed rfl (by rw [hrendered]) (.rendering hrendered)⟩
  | ok m' =>
    obtain ⟨o, hrun, hends⟩ := runModel_of_rendered he hrendered
    have hafter : m' = match e.rerendered m s with | .ok m' => m' | .error _ => m := by
      rw [hrendered]
    have hid : m'.id = m.id := by
      have hgives := (e.runModel_gives m s).1
      rw [hrun] at hgives
      exact hgives.id_eq
    rw [hrun]
    refine ⟨o, rfl, ?_⟩
    generalize e.attempts m s = attempts at hends
    cases hends with
    | unplanned hplan =>
      exact .failed hid hafter ((failsBefore_iff_of_ok hrendered).2 hplan)
    | completed hplan =>
      exact .completed hid hafter (isPlan_of_plan_eq hplan) (not_failsBefore hrendered hplan)
    | refused hplan =>
      exact .interrupted hid hafter (isPlan_of_plan_eq hplan) (not_failsBefore hrendered hplan)

/-- **The outcome of a model is an honest report,** whatever the store refuses; there is none
    only where an oversight keeps the template from being read, and then nothing is sent. -/
theorem runModel_report (he : e.adapter.FailsExpectedly) (m : Model) (s : Session σ) :
    (∃ oversight, e.oversight? m = some oversight
        ∧ ((e.runModel m).run s).1 = (m, .error (.oversight oversight)) ∧ e.attempts m s = [])
      ∨ (e.oversight? m = none ∧ ∃ o, ((e.runModel m).run s).1.2 = .ok o
        ∧ Report e m s ((e.runModel m).run s).1.1 o (e.attempts m s)) := by
  cases hm : e.oversight? m with
  | none => exact Or.inr ⟨rfl, exists_report he hm s⟩
  | some oversight => exact Or.inl ⟨oversight, rfl, runModel_of_oversight he hm⟩

/-- An engine whose store has room for some more statements. -/
def filling : Engine Nat where
  adapter :=
    { execute := fun _ room =>
        match room with
        | 0 => (.error (.storage "full"), 0)
        | room + 1 => (.ok (), room)
      tableExists := fun _ room => (.ok true, room)
      notes := fun _ => [] }
  delimiters := none

theorem filling_failsExpectedly : filling.adapter.FailsExpectedly where
  execute sql room escape h := by
    cases room with
    | zero => cases h
    | succ room => cases h
  tableExists _ _ _ h := by cases h

/-- A model that keeps a query as a view. -/
def recent : Model :=
  ⟨"recent", "recent.sql", "select 1", "", { tag := some "view" }, [], []⟩

theorem runModel_report_filling :
    filling.adapter.FailsExpectedly
      ∧ ∃ o, ((filling.runModel recent).run ⟨1, {}, []⟩).1.2 = .ok o
        ∧ o.statements = ["DROP VIEW IF EXISTS recent"]
        ∧ o.error = "failed to execute SQL: full"
        ∧ Report filling recent ⟨1, {}, []⟩ ((filling.runModel recent).run ⟨1, {}, []⟩).1.1 o
            (filling.attempts recent ⟨1, {}, []⟩) := by
  obtain ⟨oversight, hoversight, -⟩ | ⟨-, o, ho, hreport⟩ :=
    runModel_report filling_failsExpectedly recent ⟨1, {}, []⟩
  · cases hoversight
  have hrun : ((filling.runModel recent).run ⟨1, {}, []⟩).1.2
      = .ok ⟨"recent", .failed, "failed to execute SQL: full", ["DROP VIEW IF EXISTS recent"],
          some 0⟩ := by rfl
  have heq := Except.ok.inj (ho.symm.trans hrun)
  exact ⟨filling_failsExpectedly, o, ho, by rw [heq], by rw [heq], hreport⟩

/-! ### Plans that are sent as a whole -/

theorem sendAll_of_no_fault {plan : List String} {t : Session (σ × List Request)}
    (h : ((e.recording.sendAll plan).run t).1.2 = none) :
    ((e.recording.sendAll plan).run t).1.1 = plan
      ∧ ((e.recording.sendAll plan).run t).2.store.2 = t.store.2 ++ plan.map .execute := by
  induction plan generalizing t with
  | nil => exact ⟨rfl, (List.append_nil _).symm⟩
  | cons sql rest ih =>
    unfold sendAll at h ⊢
    rw [run_bind] at h ⊢
    -- the statement is written down whatever comes of it
    generalize hstep : (e.recording.execute sql).run t = step at h ⊢
    have hstore : step.2.store.2 = t.store.2 ++ [.execute sql] := by
      rw [← hstep]
      rfl
    obtain ⟨result, t'⟩ := step
    cases result with
    | error fault => cases h
    | ok accepted =>
      obtain ⟨hsent, hasked⟩ := ih (t := t') h
      refine ⟨congrArg (sql :: ·) hsent, ?_⟩
      rw [List.map_cons, List.append_cons, ← hstore]
      exact hasked

theorem send_of_success {t : Session (σ × List Request)} {o : Outcome}
    (h : ((e.recording.send m).run t).1 = .ok o) (ho : o.status = .success) :
    o.statements = e.planned m
      ∧ ((e.recording.send m).run t).2.store.2 = t.store.2 ++ (e.planned m).map .execute := by
  have hplan : e.recording.plan m = e.plan m := rfl
  unfold send at h ⊢
  rw [hplan, run_bind] at h ⊢
  rw [planned]
  -- notes are no requests
  generalize hnoted : ((noteAll _ : Action (σ × List Request) Unit).run t).2 = u at h ⊢
  have hstore : u.store.2 = t.store.2 := by
    rw [← hnoted]
    rfl
  cases hm : e.plan m with
  | error message =>
    rw [hm] at h
    obtain rfl := Except.ok.inj h
    cases ho
  | ok plan =>
    rw [hm] at h
    dsimp only at h ⊢
    rw [run_bind] at h ⊢
    have hall := @sendAll_of_no_fault _ e plan u
    rcases hsend : (e.recording.sendAll plan).run u with ⟨⟨sent, fault⟩, v⟩
    rw [hsend] at h hall
    cases fault with
    | none =>
      obtain ⟨hsent, hasked⟩ := hall rfl
      obtain rfl := Except.ok.inj h
      rw [hstore] at hasked
      exact ⟨hsent, hasked⟩
    | some fault =>
      cases fault with
      | storage message =>
        obtain rfl := Except.ok.inj h
        cases ho
      | escaped escape => cases h

theorem sendRefreshed_of_success {refreshed : Except Halt Model} {s : Session σ} {o : Outcome}
    (h : ((e.sendRefreshed m refreshed).run s).1.2 = .ok o) (ho : o.status = .success) :
    o.statements = e.planned ((e.sendRefreshed m refreshed).run s).1.1
      ∧ requests (e.recording.sendRefreshed m refreshed) s
        = (e.planned ((e.sendRefreshed m refreshed).run s).1.1).map .execute := by
  match refreshed with
  | .error (.failed message) =>
    obtain rfl := Except.ok.inj h
    cases ho
  | .error (.escaped escape) => cases h
  | .ok m' =>
    have hrecorded := (e.records_sendRefreshed m (.ok m')).run_after s []
    have hsent : ((e.recording.send m').run (s.after [])).1 = .ok o := by
      have hresult := congrArg (fun r => r.1.2) hrecorded
      exact hresult.trans h
    obtain ⟨hstatements, hasked⟩ := send_of_success hsent ho
    exact ⟨hstatements, hasked⟩

/-- **A model that succeeds has had its whole plan executed, statement by statement.** -/
theorem executed_of_success {s : Session σ} {o : Outcome}
    (h : ((e.runModel m).run s).1.2 = .ok o) (ho : o.status = .success) :
    e.executed m s = e.planned ((e.runModel m).run s).1.1
      ∧ o.statements = e.planned ((e.runModel m).run s).1.1 := by
  rw [runModel_run] at h ⊢
  obtain ⟨hstatements, hasked⟩ := sendRefreshed_of_success h ho
  refine ⟨?_, hstatements⟩
  rw [executed_eq, hasked, List.filterMap_map]
  exact List.filterMap_some

/-! ### Texts of statements -/

theorem planned_of_raw (h : Sql.isRawStatement m.sql = true) :
    e.planned m = Sql.splitStatements m.sql := by
  rw [planned, plan, h]
  cases hblank : Text.isAllBlank m.sql with
  | true => exact (Sql.splitStatements_of_isAllBlank hblank).symm
  | false => rfl

/-- What is sent for a model whose text consists of these statements. -/
structure PassesThrough (e : Engine σ) (m : Model) (s : Session σ) (statements : List String) :
    Prop where
  -- a statement that is refused is the last one
  executed_isPrefix : e.executed m s <+: statements
  success : ∀ o, ((e.runModel m).run s).1.2 = .ok o → o.status = .success →
    e.executed m s = statements ∧ o.statements = statements

theorem passesThrough (h : Sql.isRawStatement ((e.runModel m).run s).1.1.sql = true) :
    PassesThrough e m s (Sql.splitStatements ((e.runModel m).run s).1.1.sql) := by
  rw [← planned_of_raw (e := e) h]
  exact ⟨e.executed_isPrefix m s, fun _ => executed_of_success⟩

/-- **Every text is split into its statements and nothing else, and these are what is sent for a
    model whose text, as it has been rendered, is sent as it stands.** -/
theorem statements_passThrough :
    (∀ sql, Sql.Splits sql (Sql.splitStatements sql))
      ∧ ∀ {σ : Type} (e : Engine σ) (m : Model) (s : Session σ),
          Sql.isRawStatement ((e.runModel m).run s).1.1.sql = true →
          PassesThrough e m s (Sql.splitStatements ((e.runModel m).run s).1.1.sql) :=
  ⟨Sql.splits, fun _ _ _ => passesThrough⟩

/-- A model that fills a table by hand. -/
def handWritten : Model :=
  ⟨"rates", "rates.sql", "CREATE TABLE rates (id INT);\n;\n\tINSERT INTO rates VALUES (1);  ;\n", "",
    {}, [], []⟩

theorem statements_passThrough_handWritten :
    Sql.isRawStatement ((filling.runModel handWritten).run ⟨2, {}, []⟩).1.1.sql = true
      ∧ PassesThrough filling handWritten ⟨2, {}, []⟩
          ["CREATE TABLE rates (id INT)", "INSERT INTO rates VALUES (1)"] := by
  -- without a template it is run as it is
  have hsame : ((filling.runModel handWritten).run ⟨2, {}, []⟩).1.1 = handWritten :=
    of_refresh_ok rfl
  have hraw : Sql.isRawStatement ((filling.runModel handWritten).run ⟨2, {}, []⟩).1.1.sql
      = true := by
    rw [hsame]
    decide +kernel
  have hpieces : Sql.splitStatements handWritten.sql
      = ["CREATE TABLE rates (id INT)", "INSERT INTO rates VALUES (1)"] := by decide +kernel
  have hpasses := statements_passThrough.2 filling handWritten ⟨2, {}, []⟩ hraw
  rw [hsame, hpieces] at hpasses
  exact ⟨hraw, hpasses⟩

end SqlPipeline.Run.Engine
