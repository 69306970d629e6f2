/-
  SqlPipeline/Proofs/Run/Model.lean
  =================================
  **What running one model asks of the store.**

  Rendering a model again asks at most whether its table is there.  Sending it then asks
  for its planned statements one by one, up to the first that the store refuses.  So what
  is executed for a model is a start of the plan of the model as it has been rendered
  (`executed_isPrefix`).
-/
import SqlPipeline.Proofs.Run.Requests

namespace SqlPipeline.Run

open Storage

variable {σ α β : Type}

namespace Engine

variable (e : Engine σ)

/-! ### What the template is told -/

/-- Whether the store says that the table of a model is there. -/
def tableIsThere (m : Model) (s : Session σ) : Bool :=
  match (e.adapter.tableExists (e.targetName m) s.store).1 with
  | .ok there => there
  | .error _ => false

/-- Whether a model is told that its run adds to a table that is there. -/
def tellsIncremental (m : Model) (s : Session σ) : Bool :=
  m.materialization.isIncrementalRun && e.tableIsThere m s

theorem tellsIncremental_iff (m : Model) (s : Session σ) :
    e.tellsIncremental m s = true ↔ m.isIncremental = true
      ∧ m.materialization.fullRefresh = false
      ∧ (e.adapter.tableExists (e.targetName m) s.store).1 = .ok true := by
  have hthere : e.tableIsThere m s = true
      ↔ (e.adapter.tableExists (e.targetName m) s.store).1 = .ok true := by
    rw [tableIsThere]
    cases (e.adapter.tableExists (e.targetName m) s.store).1 with
    | ok there => simp
    | error fault => simp
  simp only [tellsIncremental, Materialization.isIncrementalRun, Bool.and_eq_true, hthere,
    Bool.not_eq_true', and_assoc]
  rfl

/-- That the store has an answer when it is asked for the table of a model, or a fault that is
    reported. -/
def AnswersFor (m : Model) (s : Session σ) : Prop :=
  ∀ escape, (e.adapter.tableExists (e.targetName m) s.store).1 ≠ .error (.escaped escape)

variable {e}

theorem tableExists_run (name : String) (s : Session σ) :
    (e.tableExists name).run s = ((e.adapter.tableExists name s.store).1,
      { s with store := (e.adapter.tableExists name s.store).2 }) := rfl

/-- The store once it has been asked for the table of a model, which it is only for an
    incremental one. -/
def storeAsked (e : Engine σ) (m : Model) (store : σ) : σ :=
  if m.isIncremental then (e.adapter.tableExists (e.targetName m) store).2 else store

theorem targetExists_run {m : Model} {s : Session σ} (h : e.AnswersFor m s) :
    ∃ t, (e.targetExists m).run s = (.ok (m.isIncremental && e.tableIsThere m s), t)
      ∧ t.context = s.context ∧ t.store = e.storeAsked m s.store := by
  unfold targetExists storeAsked
  cases m.isIncremental with
  | false => exact ⟨s, rfl, rfl, rfl⟩
  | true =>
    simp only [if_true, run_bind, tableExists_run, tableIsThere, Bool.true_and]
    cases hanswer : (e.adapter.tableExists (e.targetName m) s.store).1 with
    | ok there => exact ⟨_, rfl, rfl, rfl⟩
    | error fault =>
      cases fault with
      | storage message => exact ⟨_, rfl, rfl, rfl⟩
      | escaped escape => exact absurd hanswer (h escape)

/-- What the template is told; its context stays as it is. -/
theorem addsToTarget_run {m : Model} {s : Session σ} (h : e.AnswersFor m s) :
    ∃ t, (e.addsToTarget m).run s = (.ok (e.tellsIncremental m s), t)
      ∧ t.context = s.context ∧ t.store = e.storeAsked m s.store := by
  obtain ⟨t, hrun, hrest⟩ := targetExists_run h
  refine ⟨t, ?_, hrest⟩
  rw [addsToTarget, run_bind, hrun]
  have htold : (m.materialization.isIncrementalRun && (m.isIncremental && e.tableIsThere m s))
      = e.tellsIncremental m s := by
    rw [tellsIncremental, Materialization.isIncrementalRun, Model.isIncremental]
    cases m.materialization.isIncremental <;> simp
  rw [← htold]
  rfl

/-! ### The template, rendered again -/

/-- What the template of a model is rendered to in a context. -/
def renderedIn (e : Engine σ) (m : Model) (d : Template.Delimiters) (c : Context) :
    Except String String :=
  match Template.read d m.id m.template with
  | .error fault => .error fault.message
  | .ok template => (template.render c e.environment []).result.mapError (·.message)

/-- The oversight that keeps the template of a model from being read when it is to be rendered
    again. -/
def oversight? (e : Engine σ) (m : Model) : Option Template.Oversight :=
  match e.delimiters with
  | none => none
  | some d =>
      if m.template.isEmpty then none
      else
        match Template.read d m.id m.template with
        | .error (.oversight o) => some o
        | _ => none

/-- What keeps a model from being run when it cannot be rendered. -/
def haltFor (e : Engine σ) (m : Model) (message : String) : Halt :=
  match e.oversight? m with
  | some o => .escaped (.oversight o)
  | none => .ofMessage message

theorem haltFor_of_none {m : Model} (h : e.oversight? m = none) (message : String) :
    e.haltFor m message = .ofMessage message := by
  rw [haltFor, h]

theorem haltFor_of_some {m : Model} {o : Template.Oversight} (h : e.oversight? m = some o)
    (message : String) : e.haltFor m message = .escaped (.oversight o) := by
  rw [haltFor, h]

theorem renderFor_run {d : Template.Delimiters} (hd : e.delimiters = some d) {m : Model}
    (hm : m.template.isEmpty = false) (incremental : Bool) (s : Session σ) :
    ((e.renderFor m d incremental).run s).1
      = (e.renderedIn m d (s.context.forModel m.id incremental)).mapError (e.haltFor m) := by
  have hoversight : e.oversight? m = match Template.read d m.id m.template with
      | .error (.oversight o) => some o
      | _ => none := by
    rw [oversight?, hd, hm]
    rfl
  unfold renderFor renderedIn haltFor
  rw [hoversight]
  cases Template.read d m.id m.template with
  | error fault => cases fault <;> rfl
  | ok template =>
    simp only [modifyGet, MonadStateOf.modifyGet, StateT.modifyGet, StateT.run]
    cases (template.render (s.context.forModel m.id incremental) e.environment []).result <;> rfl

/-- The model as it is rendered again, or why there is none. -/
theorem refresh_run {d : Template.Delimiters} (hd : e.delimiters = some d) {m : Model}
    (hm : m.template.isEmpty = false) {s : Session σ} (h : e.AnswersFor m s) :
    ((e.refresh m).run s).1
      = match e.renderedIn m d (s.context.forModel m.id (e.tellsIncremental m s)) with
        | .ok sql => .ok { m with sql := sql }
        | .error message => .error (e.haltFor m message) := by
  obtain ⟨t, hrun, hcontext, -⟩ := addsToTarget_run h
  have hrendered := renderFor_run hd hm (e.tellsIncremental m s) t
  rw [hcontext] at hrendered
  unfold refresh
  rw [hd, hm]
  simp only [Bool.false_eq_true, if_false, run_bind, hrun, hrendered]
  cases e.renderedIn m d (s.context.forModel m.id (e.tellsIncremental m s)) with
  | ok sql => rfl
  | error message => rfl

/-! ### What is asked on the way -/

variable (e)

/-- That an action puts requests of that sort behind those that are written down. -/
def Asks (P : List Request → Prop) (x : Action (σ × List Request) α) : Prop :=
  ∀ s, ∃ asked, (x.run s).2.store.2 = s.store.2 ++ asked ∧ P asked

namespace Asks

variable {P : List Request → Prop} {x : Action (σ × List Request) α}

theorem requests (h : Asks P x) (s : Session σ) : P (requests x s) := by
  obtain ⟨asked, hasked, hP⟩ := h (s.after [])
  have heq : Run.requests x s = asked := hasked
  rwa [heq]

theorem nothing (h : ∀ s, (x.run s).2.store = s.store) : Asks (· = []) x :=
  fun s => ⟨[], by rw [h, List.append_nil], rfl⟩

theorem mono {Q : List Request → Prop} (h : Asks P x) (hPQ : ∀ asked, P asked → Q asked) :
    Asks Q x := by
  intro s
  obtain ⟨asked, hasked, hP⟩ := h s
  exact ⟨asked, hasked, hPQ asked hP⟩

/-- What asks nothing may be put in front. -/
theorem after_nothing {k : α → Action (σ × List Request) β} (hx : Asks (· = []) x)
    (hk : ∀ a, Asks P (k a)) : Asks P (x >>= k) := by
  intro s
  obtain ⟨_, hx', rfl⟩ := hx s
  obtain ⟨asked, hasked, hP⟩ := hk (x.run s).1 (x.run s).2
  refine ⟨asked, ?_, hP⟩
  rw [run_bind, hasked, hx', List.append_nil]

/-- What asks nothing may be put behind. -/
theorem then_nothing {k : α → Action (σ × List Request) β} (hx : Asks P x)
    (hk : ∀ a, Asks (· = []) (k a)) : Asks P (x >>= k) := by
  intro s
  obtain ⟨asked, hx', hP⟩ := hx s
  obtain ⟨_, hk', rfl⟩ := hk (x.run s).1 (x.run s).2
  refine ⟨asked, ?_, hP⟩
  rw [run_bind, hk', List.append_nil, hx']

end Asks

theorem noteAll_asks (entries : List Log.Entry) :
    Asks (· = []) (noteAll entries : Action (σ × List Request) Unit) :=
  .nothing fun _ => rfl

theorem failed_asks (o : Outcome) (message : String) :
    Asks (· = []) (failed o message : Action (σ × List Request) Outcome) :=
  .nothing fun _ => rfl

theorem succeeded_asks (o : Outcome) :
    Asks (· = []) (succeeded o : Action (σ × List Request) Outcome) :=
  .nothing fun _ => rfl

theorem pure_asks (a : α) : Asks (· = []) (pure a : Action (σ × List Request) α) :=
  .nothing fun _ => rfl

theorem tableExists_asks (name : String) :
    Asks (· = [.tableExists name]) (e.recording.tableExists name) :=
  fun _ => ⟨_, rfl, rfl⟩

theorem renderFor_asks (m : Model) (d : Template.Delimiters) (incremental : Bool) :
    Asks (· = []) (e.recording.renderFor m d incremental) := by
  refine .nothing fun s => ?_
  unfold renderFor
  cases Template.read d m.id m.template with
  | error fault => rfl
  | ok template => rfl

/-- The model that is rendered again, and whether the store is asked for its table. -/
theorem addsToTarget_asks (m : Model) :
    Asks (· = if m.isIncremental then [.tableExists (e.targetName m)] else [])
      (e.recording.addsToTarget m) := by
  refine Asks.then_nothing ?_ fun _ => pure_asks _
  unfold targetExists
  cases m.isIncremental with
  | false => exact pure_asks _
  | true =>
    refine (e.tableExists_asks _).then_nothing fun answer => ?_
    match answer with
    | .ok there => exact pure_asks _
    | .error (.storage message) => exact (noteAll_asks _).after_nothing fun _ => pure_asks _
    | .error (.escaped escape) => exact pure_asks _

/-- Rendering a model again asks for its table at most. -/
theorem refresh_asks_table (m : Model) :
    Asks (fun asked => asked = [] ∨ asked = [.tableExists (e.targetName m)])
      (e.recording.refresh m) := by
  have hnothing : ∀ r : Except Halt Model,
      Asks (fun asked => asked = [] ∨ asked = [.tableExists (e.targetName m)])
        (pure r : Action (σ × List Request) (Except Halt Model)) := fun r =>
    (pure_asks r).mono fun asked h => Or.inl h
  have hdelimiters : e.recording.delimiters = e.delimiters := rfl
  unfold refresh
  rw [hdelimiters]
  cases e.delimiters with
  | none => exact hnothing _
  | some d =>
    cases m.template.isEmpty with
    | true => exact hnothing _
    | false =>
      refine ((e.addsToTarget_asks m).mono fun asked h => ?_).then_nothing fun answer => ?_
      · rw [h]
        split
        · exact Or.inr rfl
        · exact Or.inl rfl
      · cases answer with
        | error escape => exact pure_asks _
        | ok incremental =>
          refine (e.renderFor_asks m d incremental).after_nothing fun rendered => ?_
          cases rendered with
          | ok sql => exact pure_asks _
          | error message => exact pure_asks _

/-- Rendering a model again executes nothing. -/
theorem refresh_asks (m : Model) :
    Asks (fun asked => asked.filterMap Request.statement? = []) (e.recording.refresh m) := by
  refine (e.refresh_asks_table m).mono fun asked h => ?_
  rcases h with rfl | rfl
  · rfl
  · rfl

/-- Statements are sent in order, up to the last or to one that is refused. -/
theorem sendAll_asks (statements : List String) :
    Asks (fun asked => ∃ sent, sent <+: statements ∧ asked = sent.map .execute)
      (e.recording.sendAll statements) := by
  induction statements with
  | nil => exact fun s => ⟨[], (List.append_nil _).symm, [], List.prefix_rfl, rfl⟩
  | cons sql rest ih =>
    intro s
    unfold sendAll
    rw [run_bind]
    -- the statement is written down whether it is refused or not
    generalize hstep : (e.recording.execute sql).run s = step
    have hstore : step.2.store.2 = s.store.2 ++ [.execute sql] := by
      rw [← hstep]
      rfl
    obtain ⟨result, t⟩ := step
    cases result with
    | error fault =>
      exact ⟨[.execute sql], hstore, [sql], List.prefix_append [sql] rest, rfl⟩
    | ok _ =>
      obtain ⟨asked, hasked, sent, hsent, rfl⟩ := ih t
      refine ⟨.execute sql :: sent.map .execute, ?_, sql :: sent, ?_, rfl⟩
      · rw [List.append_cons, ← hstore]
        exact hasked
      · exact List.prefix_cons_inj sql |>.2 hsent

/-- The statements that are to be sent for a model; none when there is no plan. -/
def planned (e : Engine σ) (m : Model) : List String :=
  match e.plan m with
  | .ok statements => statements
  | .error _ => []

theorem send_asks (m : Model) :
    Asks (fun asked => ∃ sent, sent <+: e.planned m ∧ asked = sent.map .execute)
      (e.recording.send m) := by
  have hplan : e.recording.plan m = e.plan m := rfl
  unfold send
  rw [hplan, planned]
  refine (noteAll_asks _).after_nothing fun _ => ?_
  cases e.plan m with
  | error message =>
    refine Asks.mono ?_ fun asked (h : asked = []) => ⟨[], List.nil_prefix, h⟩
    exact (failed_asks _ _).after_nothing fun _ => pure_asks _
  | ok statements =>
    refine (e.sendAll_asks statements).then_nothing fun (sent, fault) => ?_
    match fault with
    | none => exact (succeeded_asks _).after_nothing fun _ => pure_asks _
    | some (.storage message) => exact (failed_asks _ _).after_nothing fun _ => pure_asks _
    | some (.escaped escape) => exact pure_asks _

/-! ### What is executed -/

variable {e}

/-- The statements that the store is asked to execute while a model is run. -/
def executed (e : Engine σ) (m : Model) (s : Session σ) : List String :=
  (e.modelRequests m s).filterMap Request.statement?

/-- The point at which a model is rendered again. -/
def started (m : Model) (s : Session σ) : Session σ :=
  ((note .info s!"Running model {m.id}" : Action σ Unit).run s).2

theorem runModel_run (m : Model) (s : Session σ) :
    (e.runModel m).run s
      = (e.sendRefreshed m ((e.refresh m).run (started m s)).1).run
          ((e.refresh m).run (started m s)).2 := rfl

/-- What is asked while a model is rendered again, and then what is asked while it is sent. -/
theorem modelRequests_eq (m : Model) (s : Session σ) :
    e.modelRequests m s
      = requests (e.recording.refresh m) (started m s)
        ++ requests (e.recording.sendRefreshed m ((e.refresh m).run (started m s)).1)
          ((e.refresh m).run (started m s)).2 :=
  (e.records_refresh m).requests_bind (e.records_sendRefreshed m) (started m s)

theorem executed_eq (m : Model) (s : Session σ) :
    e.executed m s
      = (requests (e.recording.sendRefreshed m ((e.refresh m).run (started m s)).1)
          ((e.refresh m).run (started m s)).2).filterMap Request.statement? := by
  rw [executed, modelRequests_eq, List.filterMap_append, (e.refresh_asks m).requests, List.nil_append]

/-- Once a model has been rendered again, or has not, the store is asked for no table. -/
theorem sendRefreshed_asks (m : Model) (refreshed : Except Halt Model) :
    Asks (fun asked => ∃ sent : List String, asked = sent.map .execute)
      (e.recording.sendRefreshed m refreshed) := by
  match refreshed with
  | .error (.failed message) =>
    have hfailed : Asks (· = []) (e.recording.sendRefreshed m (.error (.failed message))) :=
      (failed_asks _ _).after_nothing fun _ => pure_asks _
    exact hfailed.mono fun asked h => ⟨[], h⟩
  | .error (.escaped escape) => exact (pure_asks _).mono fun asked h => ⟨[], h⟩
  | .ok m' =>
    have hsend := (e.send_asks m').mono fun asked h =>
      (h.imp fun sent h => h.2 : ∃ sent : List String, asked = sent.map .execute)
    exact hsend.then_nothing fun _ => pure_asks _

/-- **While a model is run the store is asked for no table but that of the model.** -/
theorem name_of_mem_modelRequests {m : Model} {s : Session σ} {name : String}
    (h : .tableExists name ∈ e.modelRequests m s) : name = e.targetName m := by
  rw [modelRequests_eq, List.mem_append] at h
  rcases h with h | h
  · rcases (e.refresh_asks_table m).requests (started m s) with hnone | hone
    · rw [hnone] at h
      cases h
    · rw [hone, List.mem_singleton] at h
      exact Request.tableExists.inj h
  · obtain ⟨sent, hsent⟩ := (sendRefreshed_asks m ((e.refresh m).run (started m s)).1).requests
      ((e.refresh m).run (started m s)).2
    rw [hsent] at h
    obtain ⟨sql, -, hsql⟩ := List.mem_map.1 h
    cases hsql

/-- A model that could not be rendered again stays as it is, and nothing is executed for it. -/
theorem of_refresh_error {m : Model} {s : Session σ} {halt : Halt}
    (h : ((e.refresh m).run (started m s)).1 = .error halt) :
    ((e.runModel m).run s).1.1 = m ∧ e.executed m s = [] := by
  rw [runModel_run, executed_eq, h]
  cases halt with
  | failed message => exact ⟨rfl, rfl⟩
  | escaped escape => exact ⟨rfl, rfl⟩

theorem of_refresh_ok {m m' : Model} {s : Session σ}
    (h : ((e.refresh m).run (started m s)).1 = .ok m') : ((e.runModel m).run s).1.1 = m' := by
  rw [runModel_run, h]
  rfl

/-- **What is executed for a model is a start of its plan,** as it has been rendered. -/
theorem executed_isPrefix (m : Model) (s : Session σ) :
    e.executed m s <+: e.planned ((e.runModel m).run s).1.1 := by
  cases hrefresh : ((e.refresh m).run (started m s)).1 with
  | error halt =>
    rw [(of_refresh_error hrefresh).2]
    exact List.nil_prefix
  | ok m' =>
    have hsend : Asks (fun asked => ∃ sent, sent <+: e.planned m' ∧ asked = sent.map .execute)
        (e.recording.sendRefreshed m (.ok m')) :=
      (e.send_asks m').then_nothing fun _ => pure_asks _
    obtain ⟨sent, hsent, hasked⟩ := hsend.requests ((e.refresh m).run (started m s)).2
    have hstatements : (sent.map Request.execute).filterMap Request.statement? = sent := by
      rw [List.filterMap_map]
      exact List.filterMap_some
    rw [runModel_run, executed_eq, hrefresh, hasked, hstatements]
    exact hsent

end Engine

end SqlPipeline.Run
