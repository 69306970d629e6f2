/-
  SqlPipeline/Proofs/Run/Attempts.lean
  ====================================
  **What a store answers to the statements of a model.**

  A store can be made to write down every statement that it is sent, together with its
  answer.  Sending follows a plan for as long as the answers allow it (`Sending`): what is
  written down is what was accepted, and behind it at most one refusal, which ends it.
-/
import SqlPipeline.Proofs.Run.Model
import SqlPipeline.Proofs.Run.Visits

namespace SqlPipeline

namespace Storage

variable {σ : Type}

/-- A statement that a store was sent, with its answer. -/
structure Attempt where
  sql : String
  answer : Except Fault Unit
deriving DecidableEq

namespace Attempt

def isAccepted (a : Attempt) : Bool :=
  match a.answer with
  | .ok _ => true
  | .error _ => false

/-- Statements that were accepted, one after the other. -/
def accepted (statements : List String) : List Attempt :=
  statements.map (⟨·, .ok ()⟩)

variable {statements : List String} {a : Attempt}

@[simp] theorem map_sql_accepted : (accepted statements).map (·.sql) = statements := by
  simp [accepted, Function.comp_def]

theorem answer_of_mem_accepted (h : a ∈ accepted statements) : a.answer = .ok () := by
  obtain ⟨sql, -, rfl⟩ := List.mem_map.1 h
  rfl

@[simp] theorem filter_accepted :
    (accepted statements).filter (·.isAccepted) = accepted statements := by
  refine List.filter_eq_self.2 fun a ha => ?_
  rw [isAccepted, answer_of_mem_accepted ha]

end Attempt

/-- The store that writes down what it answers to each statement. -/
def Adapter.observed (a : Adapter σ) : Adapter (σ × List Attempt) where
  execute sql s :=
    let (answer, store) := a.execute sql s.1
    (answer, store, s.2 ++ [⟨sql, answer⟩])
  tableExists name s :=
    let (answer, store) := a.tableExists name s.1
    (answer, store, s.2)
  notes := a.notes

/-- Writing down makes no difference to the store. -/
theorem Adapter.observed_maps_fst (a : Adapter σ) : Maps Prod.fst a.observed a where
  execute _ _ := rfl
  tableExists _ _ := rfl
  notes := rfl

end Storage

namespace Run

open Storage

variable {σ α β : Type}

/-! ### What an action writes down -/

/-- That an action sends no statement. -/
def Silent (x : Action (σ × List Attempt) α) : Prop :=
  ∀ s, (x.run s).2.store.2 = s.store.2

theorem Silent.pure (a : α) : Silent (Pure.pure a : Action (σ × List Attempt) α) :=
  fun _ => rfl

theorem Silent.bind {x : Action (σ × List Attempt) α} {k : α → Action (σ × List Attempt) β}
    (hx : Silent x) (hk : ∀ a, Silent (k a)) : Silent (x >>= k) := by
  intro s
  rw [run_bind, hk, hx]

theorem noteAll_silent (entries : List Log.Entry) :
    Silent (Engine.noteAll entries : Action (σ × List Attempt) Unit) :=
  fun _ => rfl

/-- That an action puts attempts behind those that are written down, which go with its result. -/
def Logs (P : List Attempt → α → Prop) (x : Action (σ × List Attempt) α) : Prop :=
  ∀ s, ∃ made, (x.run s).2.store.2 = s.store.2 ++ made ∧ P made (x.run s).1

namespace Logs

variable {P : List Attempt → α → Prop} {Q : List Attempt → β → Prop}
  {x : Action (σ × List Attempt) α} {k : α → Action (σ × List Attempt) β}

theorem pure {a : α} (h : P [] a) : Logs P (Pure.pure a : Action (σ × List Attempt) α) :=
  fun _ => ⟨[], (List.append_nil _).symm, h⟩

/-- When only the first of two actions writes something down, the result of the second goes with
    that. -/
theorem bind (hx : Logs P x) (hk : ∀ made a, P made a →
    Logs (fun later b => later = [] ∧ Q made b) (k a)) : Logs Q (x >>= k) := by
  intro s
  obtain ⟨made, hmade, hP⟩ := hx s
  obtain ⟨_, hlater, rfl, hQ⟩ := hk made _ hP (x.run s).2
  exact ⟨made, by rw [run_bind, hlater, List.append_nil, hmade], hQ⟩

theorem after_silent (hx : Silent x) (hk : ∀ s, Logs Q (k (x.run s).1)) : Logs Q (x >>= k) := by
  intro s
  obtain ⟨made, hmade, hQ⟩ := hk s (x.run s).2
  exact ⟨made, by rw [run_bind, hmade, hx], hQ⟩

end Logs

namespace Engine

/-- The engine whose store writes down what it answers. -/
def observed (e : Engine σ) : Engine (σ × List Attempt) :=
  e.withAdapter e.adapter.observed

/-- The statements that are sent while a model is run, with their answers. -/
def attempts (e : Engine σ) (m : Model) (s : Session σ) : List Attempt :=
  ((e.observed.runModel m).run (s.map fun store => (store, []))).2.store.2

variable {e : Engine σ} {m : Model}

/-- Writing down what is answered makes no difference to the run of a model. -/
theorem observed_runModel (e : Engine σ) (m : Model) :
    Carries Prod.fst (e.observed.runModel m) (e.runModel m) :=
  @runModel_map _ _ Prod.fst e.adapter e.observed e.adapter.observed_maps_fst m

/-! ### Rendering -/

theorem addsToTarget_silent (e : Engine σ) (m : Model) : Silent (e.observed.addsToTarget m) := by
  refine Silent.bind ?_ fun _ => .pure _
  unfold targetExists
  cases m.isIncremental with
  | false => exact .pure _
  | true =>
    -- asking for a table is not written down
    have hask : Silent (e.observed.tableExists (e.observed.targetName m)) := fun _ => rfl
    refine hask.bind fun answer => ?_
    match answer with
    | .ok there => exact .pure _
    | .error (.storage message) => exact (noteAll_silent _).bind fun _ => .pure _
    | .error (.escaped escape) => exact .pure _

theorem renderFor_silent (e : Engine σ) (m : Model) (d : Template.Delimiters)
    (incremental : Bool) : Silent (e.observed.renderFor m d incremental) := by
  intro s
  unfold renderFor
  cases Template.read d m.id m.template with
  | error fault => rfl
  | ok template => rfl

/-- Rendering a model again sends nothing. -/
theorem refresh_silent (e : Engine σ) (m : Model) : Silent (e.observed.refresh m) := by
  have hdelimiters : e.observed.delimiters = e.delimiters := rfl
  unfold refresh
  rw [hdelimiters]
  cases e.delimiters with
  | none => exact .pure _
  | some d =>
    cases m.template.isEmpty with
    | true => exact .pure _
    | false =>
      refine (addsToTarget_silent e m).bind fun answer => ?_
      cases answer with
      | error escape => exact .pure _
      | ok incremental =>
        refine (renderFor_silent e m d incremental).bind fun rendered => ?_
        cases rendered with
        | ok sql => exact .pure _
        | error message => exact .pure _

/-! ### Sending -/

/-- How statements are sent: what is attempted, what is accepted and what is refused. -/
inductive Sending : (plan : List String) → List Attempt → (sent : List String) →
    Option Fault → Prop
  | done : Sending [] [] [] none
  | refused {sql : String} {rest : List String} {message : String} :
      Sending (sql :: rest) [⟨sql, .error (.storage message)⟩] [] (some (.storage message))
  | accepted {sql : String} {rest : List String} {attempts : List Attempt} {sent : List String}
      {fault : Option Fault} : Sending rest attempts sent fault →
      Sending (sql :: rest) (⟨sql, .ok ()⟩ :: attempts) (sql :: sent) fault

/-- All statements are accepted, or some are and the next one is not. -/
theorem Sending.split {plan sent : List String} {attempts : List Attempt} {fault : Option Fault}
    (h : Sending plan attempts sent fault) :
    (fault = none ∧ sent = plan ∧ attempts = Attempt.accepted plan)
      ∨ ∃ sql rest message, fault = some (.storage message) ∧ plan = sent ++ sql :: rest
        ∧ attempts = Attempt.accepted sent ++ [⟨sql, .error (.storage message)⟩] := by
  induction h with
  | done => exact Or.inl ⟨rfl, rfl, rfl⟩
  | refused => exact Or.inr ⟨_, _, _, rfl, rfl, rfl⟩
  | accepted _ ih =>
    rcases ih with ⟨hfault, rfl, rfl⟩ | ⟨sql, rest, message, hfault, rfl, rfl⟩
    · exact Or.inl ⟨hfault, rfl, rfl⟩
    · exact Or.inr ⟨sql, rest, message, hfault, rfl, rfl⟩

theorem sendAll_logs (he : e.adapter.FailsExpectedly) (plan : List String) :
    Logs (fun made r => Sending plan made r.1 r.2) (e.observed.sendAll plan) := by
  induction plan with
  | nil => exact .pure .done
  | cons sql rest ih =>
    intro s
    unfold sendAll
    rw [run_bind]
    -- the statement is written down with its answer, which is no fault that nothing handles
    generalize hstep : (e.observed.execute sql).run s = step
    have hlog : step.2.store.2 = s.store.2 ++ [⟨sql, step.1⟩] := by
      rw [← hstep]
      rfl
    have hanswer : ∀ escape, step.1 ≠ .error (.escaped escape) := by
      rw [← hstep]
      exact he.execute sql s.store.1
    obtain ⟨answer, t⟩ := step
    cases answer with
    | error fault =>
      cases fault with
      | storage message => exact ⟨_, hlog, .refused⟩
      | escaped escape => exact absurd rfl (hanswer escape)
    | ok accepted =>
      obtain ⟨made, hmade, hsending⟩ := ih t
      refine ⟨⟨sql, .ok ()⟩ :: made, ?_, hsending.accepted⟩
      rw [List.append_cons, ← hlog]
      exact hmade

/-- How a model ends once it has been rendered: without a plan, or with one that has been
    followed to its end or to a refusal. -/
inductive Ends (e : Engine σ) (m : Model) : Outcome → List Attempt → Prop
  | unplanned {message : String} : e.plan m = .error message →
      Ends e m (Outcome.finish { modelId := m.id } .failed message) []
  | completed {plan : List String} : e.plan m = .ok plan →
      Ends e m (Outcome.finish { modelId := m.id, statements := plan } .success)
        (Attempt.accepted plan)
  | refused {sent : List String} {sql : String} {rest : List String} {message : String} :
      e.plan m = .ok (sent ++ sql :: rest) →
      Ends e m (Outcome.finish { modelId := m.id, statements := sent } .failed
          ("failed to execute SQL: " ++ message))
        (Attempt.accepted sent ++ [⟨sql, .error (.storage message)⟩])

theorem send_logs (he : e.adapter.FailsExpectedly) (m : Model) :
    Logs (fun made r => ∃ o, r = .ok o ∧ Ends e m o made) (e.observed.send m) := by
  have hplan : e.observed.plan m = e.plan m := rfl
  unfold send
  rw [hplan]
  refine Logs.after_silent (noteAll_silent _) fun _ => ?_
  cases h : e.plan m with
  | error message =>
    exact Logs.after_silent (fun _ => rfl) fun _ => .pure ⟨_, rfl, .unplanned h⟩
  | ok plan =>
    refine (sendAll_logs he plan).bind fun made (sent, fault) hsending => ?_
    rcases hsending.split with ⟨rfl, rfl, rfl⟩ | ⟨sql, rest, message, rfl, rfl, rfl⟩
    · exact Logs.after_silent (fun _ => rfl) fun _ => .pure ⟨rfl, _, rfl, .completed h⟩
    · exact Logs.after_silent (fun _ => rfl) fun _ => .pure ⟨rfl, _, rfl, .refused h⟩

end Engine

end Run

end SqlPipeline
