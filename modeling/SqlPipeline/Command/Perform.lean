/-
  SqlPipeline/Command/Perform.lean
  ================================
  **Carrying out commands.**
-/
import SqlPipeline.Command.Init
import SqlPipeline.Command.Models
import SqlPipeline.Command.Seeds

namespace SqlPipeline

open Storage

namespace Command

variable {δ : Type}

/-- Ends as failed unless something went well. -/
def failUnless (well : Bool) : Task δ Unit :=
  if well then return () else throw (.exit 1)

/-- Loads seeds and then runs models, for which no seed may fail. -/
def buildProject (d : Driver δ) (project : Project) (options : RunOptions) : Task δ Unit := do
  if ← Task.loadSeeds d project then
    Task.say ""
    failUnless (← Task.runProject d project options)
    Task.say "[green]Build completed[/green]"
  else Task.giveUp "Seed loading failed, models not run"

def paths : Command → List Path
  | run place _ | build place _ | seed place | dag place => place.project.toList
  | compile place _ output => place.project.toList ++ output.toList
  | init _ directory _ _ => directory.toList

def perform (d : Driver δ) (command : Command) : Task δ Unit := do
  if command.paths.any (·.text.contains '\x00') then throw (.raised (.file .nullCharacter))
  match command with
  | run place options => failUnless (← Task.runProject d (← Task.loadProject place) options)
  | build place options => buildProject d (← Task.loadProject place) options
  | seed place => failUnless (← Task.loadSeeds d (← Task.loadProject place))
  | compile place select output => Task.showCompiled (← Task.loadProject place) select output
  | dag place => Task.showOrder (← Task.loadProject place)
  | init name directory empty force => Task.makeProject name directory empty force

def performWords (d : Driver δ) (words : List String) : Task δ Unit := do
  let orUsage {α : Type} (result : Except Usage α) : Task δ α :=
    match result with
    | .ok a => return a
    | .error notice => throw (.usage notice)
  let line ← orUsage (Line.read words)
  let desk ← get
  set { desk with logging := ← Task.orRaise .level (desk.logging.request line.level) }
  perform d (← orUsage (read line.options line.meaning line.words))

/-- Carries out the command that words give on a desk; gives why it ended before its end, if
    it did. -/
def runOn (d : Driver δ) (words : List String) (desk : Desk δ) : Option Stop × Desk δ :=
  match (performWords d words).run.run desk with
  | (.ok (), desk) => (none, desk)
  | (.error stop, desk) => (some stop, desk)

end Command

end SqlPipeline
