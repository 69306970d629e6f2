/-
  SqlPipeline/Command/Models.lean
  ===============================
  **Running the models of a project, and showing them.**
-/
import SqlPipeline.Command.Prepare
import SqlPipeline.Run.Engine

namespace SqlPipeline

open Storage

namespace Task

variable {δ : Type}

/-! ### Running -/

def engineFor (d : Driver δ) (project : Project) (environment : Environment) : Run.Engine (Connection δ) :=
  { adapter := Connection.adapter d
    delimiters := some {}
    schema := project.schema
    environment := environment }

/-- Runs models on the open connection; gives what came of it and, for a run that was broken
    off, why. -/
def runModels (d : Driver δ) (project : Project) (models : List Model) (context : Context)
    (failFast : Bool) : Task δ (Run.Batch × Option String) := do
  let desk ← get
  let session : Run.Session (Connection δ) := { store := desk.connection, context := context }
  let ((_, result), session) :=
    ((engineFor d project desk.environment).runModels models failFast).run session
  set { desk with connection := session.store, log := desk.log ++ session.log }
  match result with
  | .ok batch => return (batch, none)
  | .error (.escaped e) => throw (.raised (.store (.escaped e)))
  | .error (.graph e batch) => return (batch, some (Run.Engine.Interruption.graph e batch).message)
  | .error (.stopped id e batch) =>
      return (batch, some (Run.Engine.Interruption.stopped id e batch).message)

def sayStatements : List String → Task δ Unit
  | [] => return ()
  | sql :: rest => do
      say s!"        [dim]{Console.Markup.escape sql}[/dim]"
      sayStatements rest

/-- Prints outcomes.  No clock is read, so every time is given as zero. -/
def sayOutcomes (verbose : Bool) : List Run.Outcome → Task δ Unit
  | [] => return ()
  | o :: rest => do
      if o.status == .success then say s!"  [green]done[/green]  [bold]{o.modelId}[/bold] [dim](0s)[/dim]"
      else say s!"  [red]fail[/red]  [bold]{o.modelId}[/bold]: {Console.Markup.escape o.error}"
      if verbose then sayStatements o.statements
      sayOutcomes verbose rest

/-- Tells what came of a run; gives whether every model succeeded. -/
def sayRun (verbose : Bool) (batch : Run.Batch) (brokenOff : Option String) : Task δ Bool := do
  sayOutcomes verbose batch.outcomes
  match brokenOff with
  | some message => sayErrorAsIs message
  | none => pure ()
  say s!"\nExecuted {batch.successes}/{batch.outcomes.length} model(s) successfully in 0s"
  return brokenOff.isNone && batch.failures == 0

/-- Compiles and runs the models of a project; gives whether every model succeeded. -/
def runProject (d : Driver δ) (project : Project) (options : Command.RunOptions) : Task δ Bool := do
  let (models, context) ← compileProject project options.select options.fullRefresh
  if models.isEmpty then
    sayNoModels
    return true
  else
    let mode := if options.fullRefresh then "full refresh" else "incremental"
    let target := match project.activeTarget with
      | none | some "" => ""
      | some name => s!", target {name}"
    say s!"[bold]Running {models.length} model(s)[/bold] [dim]({mode}{target})[/dim]:"
    match ← unlessRefused none (some <$> whileOpen d project.databasePath do
        withConnection .store (Connection.ensureSchemas d [project.schema])
        runModels d project models context options.failFast) with
    | none => return false
    | some (batch, brokenOff) => sayRun options.verbose batch brokenOff

/-! ### Showing -/

def inOrder (models : List Model) : Except GraphError (List Model) := do
  let graph ← Graph.ofEntries (models.map fun m => (m.id, m.dependencies)) "model"
  graph.validate
  let order ← graph.topologicalOrder
  return order.filterMap fun node => Model.lastNamed? models node.id

/-- Models with their dependencies first; a command for which there is no such order ends. -/
def ordered (models : List Model) : Task δ (List Model) :=
  match inOrder models with
  | .ok models => return models
  | .error e => giveUp e.message

def sayCompiled : List Model → Task δ Unit
  | [] => return ()
  | m :: rest => do
      say s!"[bold]-- {m.id}[/bold] [dim]({m.materialization.tagName})[/dim]"
      sayPlain (Text.trimmed m.sql)
      say ""
      sayCompiled rest

def stepsFor (directory : Path) (models : List Model) : List FileStep :=
  .directory directory :: models.map fun m =>
    .file (directory.child (m.id ++ ".sql")) (Text.trimmed m.sql ++ "\n")

def showCompiled (project : Project) (select : Option String) (output : Option Path) : Task δ Unit := do
  let (models, _) ← compileProject project select false
  if models.isEmpty then sayNoModels
  else
    let models ← ordered models
    match output with
    | none => sayCompiled models
    | some directory =>
        changeFiles (stepsFor directory models)
        say s!"Compiled {models.length} model(s) to [bold]{directory.text}[/bold]"

def orderTable (models : List Model) : Console.Table :=
  { title := "Execution order"
    columns := [("#", .right), ("Model", .left), ("Materialized", .left), ("Depends on", .left)]
    rows := models.mapIdx fun i m =>
      [Decimal.digitText (i + 1), m.id, m.materialization.tagName,
        if m.dependencies.isEmpty then "-" else ", ".intercalate m.dependencies] }

def showOrder (project : Project) : Task δ Unit := do
  let (models, _) ← compileProject project none false
  if models.isEmpty then sayNoModels
  else sayTable (orderTable (← ordered models))

end Task

end SqlPipeline
