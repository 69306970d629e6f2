/-
  SqlPipeline/Proofs/Run/Context.lean
  ===================================
  **What a run does to the context in which templates are rendered.**

  The engine itself does not touch the context: only a template changes it, and of it only the
  settings.  So whatever every rendering keeps holds through a whole run (`reached_keeps`).
-/
import SqlPipeline.Proofs.Run.Requests

namespace SqlPipeline.Run

variable {σ α β : Type} {P : Context → Prop}

/-- That an action keeps what holds of the context. -/
def Keeps (P : Context → Prop) (x : Action σ α) : Prop :=
  ∀ s, P s.context → P (x.run s).2.context

namespace Keeps

theorem pure (a : α) : Keeps P (Pure.pure a : Action σ α) :=
  fun _ h => h

theorem bind {x : Action σ α} {k : α → Action σ β} (hx : Keeps P x) (hk : ∀ a, Keeps P (k a)) :
    Keeps P (x >>= k) := by
  intro s h
  rw [run_bind]
  exact hk _ _ (hx s h)

theorem mapM {k : α → Action σ β} {items : List α} (hk : ∀ a ∈ items, Keeps P (k a)) :
    Keeps P (items.mapM k) := by
  induction items with
  | nil => exact pure _
  | cons item items ih =>
    obtain ⟨hitem, hitems⟩ := List.forall_mem_cons.1 hk
    rw [List.mapM_cons]
    exact hitem.bind fun _ => (ih hitems).bind fun _ => pure _

end Keeps

namespace Engine

variable {e : Engine σ} {m : Model}

/-! ### The parts of a run -/

theorem noteAll_keeps (entries : List Log.Entry) : Keeps P (noteAll entries : Action σ Unit) :=
  fun _ h => h

theorem failed_keeps (o : Outcome) (message : String) :
    Keeps P (failed o message : Action σ Outcome) :=
  (noteAll_keeps _).bind fun _ => .pure _

theorem succeeded_keeps (o : Outcome) : Keeps P (succeeded o : Action σ Outcome) :=
  (noteAll_keeps _).bind fun _ => .pure _

theorem addsToTarget_keeps (e : Engine σ) (m : Model) : Keeps P (e.addsToTarget m) := by
  have hasked : Keeps P (e.tableExists (e.targetName m)) := fun _ h => h
  refine Keeps.bind ?_ fun _ => .pure _
  unfold targetExists
  cases m.isIncremental with
  | false => exact .pure _
  | true =>
    refine hasked.bind fun answer => ?_
    match answer with
    | .ok there => exact .pure _
    | .error (.storage message) => exact (noteAll_keeps _).bind fun _ => .pure _
    | .error (.escaped escape) => exact .pure _

/-- That rendering the template of a model keeps what holds of the context, also if it fails. -/
def RenderingKeeps (e : Engine σ) (P : Context → Prop) (m : Model) : Prop :=
  ∀ d template incremental c, e.delimiters = some d →
    Template.read d m.id m.template = .ok template → P c →
    P (c.withSettingsOf
      (template.render (c.forModel m.id incremental) e.environment []).context)

theorem renderFor_keeps (h : e.RenderingKeeps P m) {d : Template.Delimiters}
    (hd : e.delimiters = some d) (incremental : Bool) : Keeps P (e.renderFor m d incremental) := by
  unfold renderFor
  cases hread : Template.read d m.id m.template with
  | error fault => exact .pure _
  | ok template => exact fun s hs => h d template incremental s.context hd hread hs

theorem refresh_keeps (h : e.RenderingKeeps P m) : Keeps P (e.refresh m) := by
  unfold refresh
  cases hd : e.delimiters with
  | none => exact .pure _
  | some d =>
    cases m.template.isEmpty with
    | true => exact .pure _
    | false =>
      refine (e.addsToTarget_keeps m).bind fun answer => ?_
      cases answer with
      | error escape => exact .pure _
      | ok incremental =>
        refine (renderFor_keeps h hd incremental).bind fun rendered => ?_
        cases rendered with
        | ok sql => exact .pure _
        | error message => exact .pure _

theorem sendAll_keeps (e : Engine σ) (statements : List String) :
    Keeps P (e.sendAll statements) := by
  induction statements with
  | nil => exact .pure _
  | cons sql rest ih =>
    have hsent : Keeps P (e.execute sql) := fun _ h => h
    refine hsent.bind fun result => ?_
    cases result with
    | error fault => exact .pure _
    | ok _ => exact ih.bind fun _ => .pure _

theorem send_keeps (e : Engine σ) (m : Model) : Keeps P (e.send m) := by
  unfold send
  refine (noteAll_keeps _).bind fun _ => ?_
  cases e.plan m with
  | error message => exact (failed_keeps _ _).bind fun _ => .pure _
  | ok statements =>
    refine (e.sendAll_keeps statements).bind fun (sent, fault) => ?_
    match fault with
    | none => exact (succeeded_keeps _).bind fun _ => .pure _
    | some (.storage message) => exact (failed_keeps _ _).bind fun _ => .pure _
    | some (.escaped escape) => exact .pure _

/-- **Running a model keeps** what rendering its template keeps. -/
theorem runModel_keeps (h : e.RenderingKeeps P m) : Keeps P (e.runModel m) := by
  refine (noteAll_keeps _).bind fun _ => (refresh_keeps h).bind fun refreshed => ?_
  match refreshed with
  | .error (.failed message) => exact (failed_keeps _ _).bind fun _ => .pure _
  | .error (.escaped escape) => exact .pure _
  | .ok m' => exact (e.send_keeps m').bind fun _ => .pure _

/-! ### A run -/

/-- How a run goes on from a start: models are run one after the other. -/
def reached (e : Engine σ) (visited : List Model) (start : Session σ) : Session σ :=
  ((visited.mapM e.runModel).run start).2

/-- **What every rendering keeps holds through a whole run.** -/
theorem reached_keeps {visited : List Model} (h : ∀ m ∈ visited, e.RenderingKeeps P m)
    {start : Session σ} (hstart : P start.context) : P (e.reached visited start).context :=
  Keeps.mapM (fun m hm => runModel_keeps (h m hm)) start hstart

end Engine

end SqlPipeline.Run
