/-
  SqlPipeline/Run/Engine.lean
  ===========================
  **Running models through a store, dependencies first.**

  Before a model is run its template is rendered again, now that it is known whether its
  table is there.  Then the statements of its plan are sent one by one, up to the first
  that fails.  A failure is kept in the model's outcome; what nothing handles ends the run.
-/
import SqlPipeline.Storage.Adapter
import SqlPipeline.Run.Result
import SqlPipeline.Model
import SqlPipeline.Graph.Build
import SqlPipeline.Sql.Leading
import SqlPipeline.Template.Render
import SqlPipeline.Decimal.Notation

namespace SqlPipeline.Run

open Storage

variable {σ : Type}

structure Engine (σ : Type) where
  adapter : Adapter σ
  delimiters : Option Template.Delimiters    -- of templates; without them nothing is rendered again
  schema : String := ""
  environment : Entries String := []

structure Session (σ : Type) where
  store : σ
  context : Context := {}
  log : List Log.Entry := []

abbrev Action (σ α : Type) := StateM (Session σ) α

namespace Engine

/-! ### The store and the log -/

def noteAll (entries : List Log.Entry) : Action σ Unit :=
  modify fun s => { s with log := s.log ++ entries }

def note (level : Log.Level) (message : String) : Action σ Unit :=
  noteAll [⟨level, "dagsql.executor", message⟩]

def execute (e : Engine σ) (sql : String) : Action σ (Except Fault Unit) :=
  modifyGet fun s =>
    let (result, store) := e.adapter.execute sql s.store
    (result, { s with store := store, log := s.log ++ e.adapter.notes sql })

def tableExists (e : Engine σ) (name : String) : Action σ (Except Fault Bool) :=
  modifyGet fun s =>
    let (result, store) := e.adapter.tableExists name s.store
    (result, { s with store := store })

/-! ### One model -/

def targetName (e : Engine σ) (m : Model) : String :=
  qualify e.schema m.id

/-- Whether the table of an incremental model is there; where that cannot be told it is
    taken not to be. -/
def targetExists (e : Engine σ) (m : Model) : Action σ (Except Escape Bool) := do
  if m.isIncremental then
    match ← e.tableExists (e.targetName m) with
    | .ok b => return .ok b
    | .error (.storage message) =>
        note .warning s!"Could not check whether {m.id} exists: {message}"
        return .ok false
    | .error (.escaped escape) => return .error escape
  else return .ok false

/-- Why a model is not run to its end. -/
inductive Halt where
  | failed (message : String)
  | escaped (e : Escape)

/-- What the template of a model is told about this run: whether it adds to a table that is
    there. -/
def addsToTarget (e : Engine σ) (m : Model) : Action σ (Except Escape Bool) := do
  return (← e.targetExists m).map (m.materialization.isIncrementalRun && ·)

def Halt.ofMessage (message : String) : Halt :=
  .failed ("failed to render template: " ++ message)

def Halt.ofSyntaxError : Template.SyntaxError → Halt
  | .oversight o => .escaped (.oversight o)
  | fault => .ofMessage fault.message

/-- Renders a template in the context of a model; the template may change the settings that
    it sees for those that come after it. -/
def renderFor (e : Engine σ) (m : Model) (d : Template.Delimiters) (incremental : Bool) :
    Action σ (Except Halt String) :=
  match Template.read d m.id m.template with
  | .error fault => return .error (.ofSyntaxError fault)
  | .ok template =>
      modifyGet fun s =>
        let rendering := template.render (s.context.forModel m.id incremental) e.environment []
        (rendering.result.mapError fun failure => .ofMessage failure.message,
          { s with context := s.context.withSettingsOf rendering.context })

/-- Renders a model again, now that it is known whether its table is there. -/
def refresh (e : Engine σ) (m : Model) : Action σ (Except Halt Model) := do
  match e.delimiters with
  | none => return .ok m
  | some d =>
      if m.template.isEmpty then return .ok m
      else
        match ← e.addsToTarget m with
        | .error escape => return .error (.escaped escape)
        | .ok incremental => return (← e.renderFor m d incremental).map fun sql => { m with sql := sql }

/-- The statements of a model: those of its text if it starts with one, else those that keep
    the result of its query. -/
def plan (e : Engine σ) (m : Model) : Except String (List String) :=
  if Text.isAllBlank m.sql then .error "model has no compiled SQL"
  else if Sql.isRawStatement m.sql then .ok (Sql.splitStatements m.sql)
  else
    match m.materialization.strategy with
    | .error fault => .error ("failed to get strategy: " ++ fault.message)
    | .ok strategy =>
        match strategy.statements (e.targetName m) m.sql m.materialization with
        | .error fault => .error ("failed to generate SQL: " ++ fault.message)
        | .ok statements => .ok statements

/-- Sends statements up to the first that fails; gives those that did not. -/
def sendAll (e : Engine σ) : List String → Action σ (List String × Option Fault)
  | [] => return ([], none)
  | sql :: rest => do
      match ← e.execute sql with
      | .error fault => return ([], some fault)
      | .ok () =>
          let (sent, fault) ← e.sendAll rest
          return (sql :: sent, fault)

def secondsText (micros : Option Int) : String :=
  Decimal.fixedText (Decimal.roundDiv (micros.getD 0).natAbs 10000) 2

def failed (o : Outcome) (message : String) : Action σ Outcome := do
  note .error s!"Model {o.modelId} failed: {message}"
  return o.finish .failed message

def succeeded (o : Outcome) : Action σ Outcome := do
  let o := o.finish .success
  note .info s!"Model {o.modelId} done in {secondsText o.micros}s"
  return o

def send (e : Engine σ) (m : Model) : Action σ (Except Escape Outcome) := do
  noteAll (if Text.isAllBlank m.sql then [] else Sql.notes m.sql)
  match e.plan m with
  | .error message => return .ok (← failed { modelId := m.id } message)
  | .ok statements =>
      let (sent, fault) ← e.sendAll statements
      let o : Outcome := { modelId := m.id, statements := sent }
      match fault with
      | none => return .ok (← succeeded o)
      | some (.storage message) => return .ok (← failed o ("failed to execute SQL: " ++ message))
      | some (.escaped escape) => return .error escape

/-- Goes on with a model once it has been rendered again, or has not; gives it as it is then. -/
def sendRefreshed (e : Engine σ) (m : Model) :
    Except Halt Model → Action σ (Model × Except Escape Outcome)
  | .error (.failed message) => return (m, .ok (← failed { modelId := m.id } message))
  | .error (.escaped escape) => return (m, .error escape)
  | .ok m => return (m, ← e.send m)

/-- Runs a model; gives the model as it has been rendered. -/
def runModel (e : Engine σ) (m : Model) : Action σ (Model × Except Escape Outcome) := do
  note .info s!"Running model {m.id}"
  e.sendRefreshed m (← e.refresh m)

/-! ### Many models -/

/-- Why a run does not come to its end. -/
inductive Interruption where
  | graph (error : GraphError) (batch : Batch)         -- nothing was run
  | stopped (modelId error : String) (batch : Batch)   -- at the first failure, as was wished
  | escaped (e : Escape)

def orderOf (models : List Model) : Except GraphError (List String) := do
  let graph ← Graph.ofEntries (models.map fun m => (m.id, m.dependencies)) "model"
  return (← graph.topologicalOrder).map (·.id)

def replaceModel (m : Model) (models : List Model) : List Model :=
  models.map fun other => if other.id == m.id then m else other

def runInOrder (e : Engine σ) (failFast : Bool) (models : List Model) (batch : Batch) :
    List String → Action σ (List Model × Except Interruption Batch)
  | [] => return (models, .ok batch.complete)
  | id :: rest => do
      match models.find? (·.id == id) with
      | none => e.runInOrder failFast models batch rest
      | some m =>
          match ← e.runModel m with
          | (m, .error escape) => return (replaceModel m models, .error (.escaped escape))
          | (m, .ok o) =>
              let models := replaceModel m models
              let batch := batch.add o
              if o.status == .failed && failFast then
                return (models, .error (.stopped id o.error batch.complete))
              else e.runInOrder failFast models batch rest

def announce (order : List String) : Action σ Unit :=
  note .debug ("Execution order: " ++ ", ".intercalate order)

def closingNotes : Except Interruption Batch → List Log.Entry
  | .ok batch =>
      [⟨.info, "dagsql.executor",
        s!"Executed {batch.successes}/{batch.outcomes.length} model(s) successfully in "
          ++ secondsText batch.micros ++ "s"⟩]
  | .error _ => []

def runModels (e : Engine σ) (models : List Model) (failFast : Bool) :
    Action σ (List Model × Except Interruption Batch) := do
  match orderOf models with
  | .error fault => return (models, .error (.graph fault ({} : Batch).complete))
  | .ok order =>
      announce order
      let (models, result) ← e.runInOrder failFast models {} order
      noteAll (closingNotes result)
      return (models, result)

def Interruption.message : Interruption → String
  | graph error _ => "failed to build dependency graph: " ++ error.message
  | stopped id error _ => s!"execution failed at model {id}: {error}"
  | escaped e => e.message

end Engine

end SqlPipeline.Run
