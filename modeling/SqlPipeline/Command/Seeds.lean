/-
  SqlPipeline/Command/Seeds.lean
  ==============================
  **Loading the seeds of a project.**

  A seed that cannot be loaded is told of, and the next one is tried.
-/
import SqlPipeline.Command.Prepare

namespace SqlPipeline

open Storage

namespace Task

variable {δ : Type}

def seedNote (level : Log.Level) (message : String) : Task δ Unit :=
  note [⟨level, "dagsql.seeds", message⟩]

def seedLabel (s : Seed) : String :=
  "[bold]" ++ s.fullName ++ "[/bold]"

def saySeedFailed (s : Seed) (message : String) : Task δ Unit := do
  say s!"  [red]fail[/red]  {seedLabel s}: {message}"
  seedNote .error s!"Seed {s.fullName} failed: {message}"

/-- Loads a seed and tells how it went; gives whether it was loaded.  No clock is read, so
    the time that it took is given as zero. -/
def loadSeed (d : Driver δ) (s : Seed) : Task δ Bool := do
  let files := (← get).files
  match ← withConnection Problem.ofSeedFault (Connection.settled (s.load d files)) with
  | .ok count =>
      let rows ← orRaise (fun e => .store (.escaped e)) (Seed.countText count)
      seedNote .info s!"Loaded seed {s.fullName} ({count.shown} rows)"
      say s!"  [green]done[/green]  {seedLabel s} ({rows} rows, 0ms)"
      return true
  | .error (.store (.storage message)) =>
      saySeedFailed s message
      return false
  | .error (.file e) =>
      if e.isSystem then
        saySeedFailed s e.message
        return false
      else throw (.raised (.file e))
  | .error (.store fault) => throw (.raised (.store fault))

def loadEach (d : Driver δ) (loaded : Entries Bool) : List Seed → Task δ (Entries Bool)
  | [] => return loaded
  | s :: rest => do
      let done ← loadSeed d s
      loadEach d (Entries.insert s.fullName done loaded) rest

/-- Loads seeds; gives for the full name of each whether it was loaded. -/
def loadAll (d : Driver δ) (seeds : List Seed) : Task δ (Entries Bool) := do
  if seeds.isEmpty then
    say "[yellow]No CSV files found in seed paths[/yellow]"
    return []
  else loadEach d [] seeds

/-- Tells how many seeds were loaded; gives whether none failed. -/
def saySeedCounts (loaded : Entries Bool) : Task δ Bool := do
  if loaded.isEmpty then return true
  else
    let failed := loaded.countP fun (_, done) => !done
    say s!"\n  {loaded.length - failed} loaded, {failed} errors"
    return failed == 0

/-- Loads the seeds of a project; gives whether none failed. -/
def loadSeeds (d : Driver δ) (project : Project) : Task δ Bool := do
  let files := (← get).files
  match Seed.discover files project.schemaOfSeeds project.seedDirectories with
  | .error e =>
      if (Problem.seeds e).isFaultOfModels then
        sayErrorAsIs e.message
        return false
      else throw (.raised (.seeds e))
  | .ok seeds =>
      say "[bold]Loading seeds:[/bold]"
      unlessRefused false do
        saySeedCounts (← whileOpen d project.databasePath (loadAll d seeds))

end Task

end SqlPipeline
