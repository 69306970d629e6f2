/-
  SqlPipeline/Proofs/Run/Requests.lean
  ====================================
  **What a store is asked while models are run.**

  A store can be made to write down what it is asked.  It answers as before, and what it
  has written down earlier has no influence on what is asked later: both hold because a
  run only ever uses a store through its operations, so that it carries over along every
  map between stores that keeps these (`runModels_map`).
-/
import SqlPipeline.Run.Engine
import SqlPipeline.Proofs.Graph.Build

namespace SqlPipeline

/-! ### Maps between stores -/

namespace Storage

variable {σ τ : Type}

/-- That every fault of a store is one that a run reports. -/
structure Adapter.FailsExpectedly (a : Adapter σ) : Prop where
  execute : ∀ sql s escape, (a.execute sql s).1 ≠ .error (.escaped escape)
  tableExists : ∀ name s escape, (a.tableExists name s).1 ≠ .error (.escaped escape)

/-- A map between the states of two stores that answer alike. -/
structure Adapter.Maps (f : τ → σ) (a : Adapter τ) (b : Adapter σ) : Prop where
  execute : ∀ sql s, b.execute sql (f s) = ((a.execute sql s).1, f (a.execute sql s).2)
  tableExists : ∀ name s,
    b.tableExists name (f s) = ((a.tableExists name s).1, f (a.tableExists name s).2)
  notes : b.notes = a.notes

/-- Something that a store is asked. -/
inductive Request where
  | execute (sql : String)
  | tableExists (name : String)
deriving Repr, DecidableEq

/-- The statement that is to be executed, if it is one. -/
def Request.statement? : Request → Option String
  | execute sql => some sql
  | tableExists _ => none

/-- The store that writes down what it is asked, also when it fails. -/
def Adapter.recording (a : Adapter σ) : Adapter (σ × List Request) where
  execute sql s :=
    let (result, store) := a.execute sql s.1
    (result, store, s.2 ++ [.execute sql])
  tableExists name s :=
    let (result, store) := a.tableExists name s.1
    (result, store, s.2 ++ [.tableExists name])
  notes := a.notes

/-- Writing down makes no difference to the store. -/
theorem Adapter.recording_maps_fst (a : Adapter σ) : Maps Prod.fst a.recording a where
  execute _ _ := rfl
  tableExists _ _ := rfl
  notes := rfl

/-- What has been written down before makes no difference. -/
theorem Adapter.recording_maps_append (a : Adapter σ) (earlier : List Request) :
    Maps (fun s : σ × List Request => (s.1, earlier ++ s.2)) a.recording a.recording where
  execute _ _ := by simp [recording]
  tableExists _ _ := by simp [recording]
  notes := rfl

end Storage

namespace Run

open Storage

variable {σ τ α β : Type}

/-- The same point of a run, with another store. -/
def Session.map (f : τ → σ) (s : Session τ) : Session σ :=
  ⟨f s.store, s.context, s.log⟩

theorem run_bind (x : Action σ α) (k : α → Action σ β) (s : Session σ) :
    (x >>= k).run s = (k (x.run s).1).run (x.run s).2 := rfl

/-- That two actions do the same on stores one of which is mapped to the other. -/
def Carries (f : τ → σ) (x : Action τ α) (y : Action σ α) : Prop :=
  ∀ s, y.run (s.map f) = ((x.run s).1, (x.run s).2.map f)

namespace Carries

variable {f : τ → σ}

theorem pure (a : α) : Carries f (Pure.pure a) (Pure.pure a) :=
  fun _ => rfl

theorem bind {x : Action τ α} {y : Action σ α} {k : α → Action τ β} {l : α → Action σ β}
    (hx : Carries f x y) (hk : ∀ a, Carries f (k a) (l a)) : Carries f (x >>= k) (y >>= l) := by
  intro s
  rw [run_bind, run_bind, hx s]
  exact hk _ _

end Carries

namespace Engine

/-- The engine with another store. -/
def withAdapter (e : Engine τ) (b : Adapter σ) : Engine σ :=
  ⟨b, e.delimiters, e.schema, e.environment⟩

section Maps

variable {f : τ → σ} {b : Adapter σ} (e : Engine τ)

theorem noteAll_map (entries : List Log.Entry) :
    Carries f (noteAll entries : Action τ Unit) (noteAll entries) :=
  fun _ => rfl

theorem note_map (level : Log.Level) (message : String) :
    Carries f (note level message : Action τ Unit) (note level message) :=
  noteAll_map _

theorem failed_map (o : Outcome) (message : String) :
    Carries f (failed o message : Action τ Outcome) (failed o message) :=
  (note_map _ _).bind fun _ => .pure _

theorem succeeded_map (o : Outcome) :
    Carries f (succeeded o : Action τ Outcome) (succeeded o) :=
  (note_map _ _).bind fun _ => .pure _

theorem renderFor_map (m : Model) (d : Template.Delimiters) (incremental : Bool) :
    Carries f (e.renderFor m d incremental) ((e.withAdapter b).renderFor m d incremental) := by
  unfold renderFor
  cases Template.read d m.id m.template with
  | error fault => exact .pure _
  | ok template => exact fun _ => rfl

variable {e}

theorem execute_map (h : e.adapter.Maps f b) (sql : String) :
    Carries f (e.execute sql) ((e.withAdapter b).execute sql) := by
  intro s
  have hstore := h.execute sql s.store
  simp only [execute, modifyGet, MonadStateOf.modifyGet, StateT.modifyGet, StateT.run, Session.map,
    withAdapter, hstore, h.notes]
  rfl

theorem tableExists_map (h : e.adapter.Maps f b) (name : String) :
    Carries f (e.tableExists name) ((e.withAdapter b).tableExists name) := by
  intro s
  have hstore := h.tableExists name s.store
  simp only [tableExists, modifyGet, MonadStateOf.modifyGet, StateT.modifyGet, StateT.run,
    Session.map, withAdapter, hstore]
  rfl

theorem targetExists_map (h : e.adapter.Maps f b) (m : Model) :
    Carries f (e.targetExists m) ((e.withAdapter b).targetExists m) := by
  unfold targetExists
  cases m.isIncremental with
  | false => exact .pure _
  | true =>
    refine (tableExists_map h _).bind fun answer => ?_
    match answer with
    | .ok there => exact .pure _
    | .error (.storage message) => exact (note_map _ _).bind fun _ => .pure _
    | .error (.escaped escape) => exact .pure _

theorem addsToTarget_map (h : e.adapter.Maps f b) (m : Model) :
    Carries f (e.addsToTarget m) ((e.withAdapter b).addsToTarget m) :=
  (targetExists_map h m).bind fun _ => .pure _

theorem refresh_map (h : e.adapter.Maps f b) (m : Model) :
    Carries f (e.refresh m) ((e.withAdapter b).refresh m) := by
  unfold refresh withAdapter
  cases e.delimiters with
  | none => exact .pure _
  | some d =>
    cases m.template.isEmpty with
    | true => exact .pure _
    | false =>
      refine (addsToTarget_map h m).bind fun answer => ?_
      cases answer with
      | error escape => exact .pure _
      | ok incremental =>
        refine (renderFor_map (b := b) e m d incremental).bind fun rendered => ?_
        cases rendered with
        | ok sql => exact .pure _
        | error message => exact .pure _

theorem sendAll_map (h : e.adapter.Maps f b) (statements : List String) :
    Carries f (e.sendAll statements) ((e.withAdapter b).sendAll statements) := by
  induction statements with
  | nil => exact .pure _
  | cons sql rest ih =>
    refine (execute_map h sql).bind fun result => ?_
    cases result with
    | error fault => exact .pure _
    | ok _ => exact ih.bind fun _ => .pure _

theorem send_map (h : e.adapter.Maps f b) (m : Model) :
    Carries f (e.send m) ((e.withAdapter b).send m) := by
  have hplan : (e.withAdapter b).plan m = e.plan m := rfl
  unfold send
  rw [hplan]
  refine (noteAll_map _).bind fun _ => ?_
  cases e.plan m with
  | error message => exact (failed_map _ _).bind fun _ => .pure _
  | ok statements =>
    refine (sendAll_map h statements).bind fun (sent, fault) => ?_
    match fault with
    | none => exact (succeeded_map _).bind fun _ => .pure _
    | some (.storage message) => exact (failed_map _ _).bind fun _ => .pure _
    | some (.escaped escape) => exact .pure _

theorem sendRefreshed_map (h : e.adapter.Maps f b) (m : Model) (refreshed : Except Halt Model) :
    Carries f (e.sendRefreshed m refreshed) ((e.withAdapter b).sendRefreshed m refreshed) := by
  match refreshed with
  | .error (.failed message) => exact (failed_map _ _).bind fun _ => .pure _
  | .error (.escaped escape) => exact .pure _
  | .ok m' => exact (send_map h m').bind fun _ => .pure _

theorem runModel_map (h : e.adapter.Maps f b) (m : Model) :
    Carries f (e.runModel m) ((e.withAdapter b).runModel m) :=
  (note_map _ _).bind fun _ => (refresh_map h m).bind (sendRefreshed_map h m)

theorem runInOrder_map (h : e.adapter.Maps f b) (failFast : Bool) (models : List Model)
    (batch : Batch) (order : List String) :
    Carries f (e.runInOrder failFast models batch order)
      ((e.withAdapter b).runInOrder failFast models batch order) := by
  induction order generalizing models batch with
  | nil => exact .pure _
  | cons id rest ih =>
    unfold runInOrder
    cases models.find? (·.id == id) with
    | none => exact ih models batch
    | some m =>
      refine (runModel_map h m).bind fun (m', result) => ?_
      cases result with
      | error escape => exact .pure _
      | ok o =>
        dsimp only
        split
        · exact .pure _
        · exact ih _ _

/-- **A run carries over along every map between stores that keeps their operations.** -/
theorem runModels_map (h : e.adapter.Maps f b) (models : List Model) (failFast : Bool) :
    Carries f (e.runModels models failFast) ((e.withAdapter b).runModels models failFast) := by
  unfold runModels
  cases orderOf models with
  | error fault => exact .pure _
  | ok order =>
    refine (note_map _ _).bind fun _ => ?_
    refine (runInOrder_map h failFast models {} order).bind fun _ => ?_
    exact (noteAll_map _).bind fun _ => .pure _

end Maps

/-! ### Runs whose store writes down what it is asked -/

/-- The engine whose store writes down what it is asked. -/
def recording (e : Engine σ) : Engine (σ × List Request) :=
  e.withAdapter e.adapter.recording

end Engine

/-- The same point of a run, where something has been written down before. -/
def Session.after (earlier : List Request) (s : Session σ) : Session (σ × List Request) :=
  s.map fun store => (store, earlier)

/-- What the store is asked in an action that writes it down. -/
def requests (x : Action (σ × List Request) α) (s : Session σ) : List Request :=
  (x.run (s.after [])).2.store.2

/-- That an action writes down what another asks, and is the same otherwise. -/
structure Records (x : Action (σ × List Request) α) (y : Action σ α) : Prop where
  forgets : Carries Prod.fst x y
  appends : ∀ earlier, Carries (fun s : σ × List Request => (s.1, earlier ++ s.2)) x x

namespace Records

/-- It puts its requests behind those that are there. -/
theorem run_after {x : Action (σ × List Request) α} {y : Action σ α} (h : Records x y)
    (s : Session σ) (earlier : List Request) :
    x.run (s.after earlier)
      = ((y.run s).1, (y.run s).2.after (earlier ++ requests x s)) := by
  -- both maps start from the point where nothing has been written down
  have hplain := h.forgets (s.after [])
  have hlater := h.appends earlier (s.after [])
  have hs : (s.after []).map Prod.fst = s := rfl
  have hearlier : (s.after []).map (fun s => (s.1, earlier ++ s.2)) = s.after earlier := by
    simp [Session.after, Session.map]
  rw [hs] at hplain
  rw [hearlier] at hlater
  rw [hplain, hlater]
  rfl

/-- **One action after the other** asks what the first asks, and then what the second asks
    from there. -/
theorem requests_bind {x : Action (σ × List Request) α} {y : Action σ α}
    {k : α → Action (σ × List Request) β} {l : α → Action σ β} (hx : Records x y)
    (hk : ∀ a, Records (k a) (l a)) (s : Session σ) :
    requests (x >>= k) s = requests x s ++ requests (k (y.run s).1) (y.run s).2 := by
  rw [requests, run_bind, hx.run_after s [], List.nil_append, (hk _).run_after]
  rfl

end Records

namespace Engine

/-- What the store is asked while one model is run. -/
def modelRequests (e : Engine σ) (m : Model) (s : Session σ) : List Request :=
  requests (e.recording.runModel m) s

/-- What the store is asked while models are run in an order. -/
def orderRequests (e : Engine σ) (failFast : Bool) (models : List Model) (batch : Batch)
    (order : List String) (s : Session σ) : List Request :=
  requests (e.recording.runInOrder failFast models batch order) s

/-- What the store is asked while models are run. -/
def runRequests (e : Engine σ) (models : List Model) (failFast : Bool) (s : Session σ) :
    List Request :=
  requests (e.recording.runModels models failFast) s

variable (e : Engine σ)

/-- What carries over along maps between stores is recorded by the store that writes down. -/
theorem records_of_map {x : (τ : Type) → Engine τ → Action τ α}
    (h : ∀ {τ υ : Type} {f : τ → υ} {b : Adapter υ} (e : Engine τ), e.adapter.Maps f b →
      Carries f (x τ e) (x υ (e.withAdapter b))) :
    Records (x (σ × List Request) e.recording) (x σ e) where
  forgets := h e.recording e.adapter.recording_maps_fst
  appends earlier := h e.recording (e.adapter.recording_maps_append earlier)

theorem records_refresh (m : Model) : Records (e.recording.refresh m) (e.refresh m) :=
  e.records_of_map fun _ h => refresh_map h m

theorem records_sendRefreshed (m : Model) (refreshed : Except Halt Model) :
    Records (e.recording.sendRefreshed m refreshed) (e.sendRefreshed m refreshed) :=
  e.records_of_map fun _ h => sendRefreshed_map h m refreshed

theorem records_runModel (m : Model) : Records (e.recording.runModel m) (e.runModel m) :=
  e.records_of_map fun _ h => runModel_map h m

theorem records_runInOrder (failFast : Bool) (models : List Model) (batch : Batch)
    (order : List String) :
    Records (e.recording.runInOrder failFast models batch order)
      (e.runInOrder failFast models batch order) :=
  e.records_of_map fun _ h => runInOrder_map h failFast models batch order

/-- Writing down what is asked makes no difference to a run. -/
theorem records_runModels (models : List Model) (failFast : Bool) :
    Records (e.recording.runModels models failFast) (e.runModels models failFast) :=
  e.records_of_map fun _ h => runModels_map h models failFast

end Engine

end Run

end SqlPipeline
