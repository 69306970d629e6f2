/-
  SqlPipeline/Command/Init.lean
  =============================
  **Making a new project.**

  Nothing is changed where the name is no name for a project or the directory holds
  something already, unless that is what is wanted.
-/
import SqlPipeline.Command.Desk
import SqlPipeline.Project.Scaffold

namespace SqlPipeline

namespace Task

variable {δ : Type}

def holdsSomething (files : FileTree) (directory : Path) : Except FileError Bool := do
  if ← files.contains directory then return !(← files.list directory).isEmpty
  else return false

def sayPaths : List String → Task δ Unit
  | [] => return ()
  | path :: rest => do
      say ("  " ++ path)
      sayPaths rest

/-- Makes a project, in a directory of its name if none is given. -/
def makeProject (name : String) (directory : Option Path) (empty force : Bool) : Task δ Unit := do
  if !Scaffold.isName name then
    giveUp s!"Invalid project name {Text.quoted name}: use letters, digits, '_' and '-'"
  let files := (← get).files
  let directory := directory.getD (files.homePath.join (.ofText name))
  let taken ← orRaise .file (holdsSomething files directory)
  if taken && !force then
    giveUp s!"Directory {directory.text} already exists and is not empty (use --force)"
  changeFiles (Scaffold.steps directory name empty)
  say s!"[green]Project '{name}' created at {directory.text}[/green]"
  sayPaths (Scaffold.paths empty)
  say ""
  say "Quick start:"
  say s!"  cd {directory.text}"
  say "  dagsql build      # load seeds, then run models"
  say "  dagsql dag        # show execution order"

end Task

end SqlPipeline
