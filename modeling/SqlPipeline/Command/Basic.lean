/-
  SqlPipeline/Command/Basic.lean
  ==============================
  **The commands of the program, and the words that they are given by.**
-/
import SqlPipeline.Command.Usage
import SqlPipeline.Path

namespace SqlPipeline

/-- Which project is meant, and with which target. -/
structure Command.Place where
  target : Option String := none
  project : Option Path := none
deriving Repr, DecidableEq

structure Command.RunOptions where
  select : Option String := none       -- names with commas between them
  fullRefresh : Bool := false
  failFast : Bool := false
  verbose : Bool := false
deriving Repr, DecidableEq

inductive Command where
  | run (place : Command.Place) (options : Command.RunOptions)
  | build (place : Command.Place) (options : Command.RunOptions)
  | seed (place : Command.Place)
  | compile (place : Command.Place) (select : Option String) (output : Option Path)
  | dag (place : Command.Place)
  | init (name : String) (directory : Option Path) (empty force : Bool)
deriving Repr, DecidableEq

namespace Command

/-! ### Options -/

def helpOption : CommandOption := { name := "help", takesValue := false }

def selectOption : CommandOption := { name := "select", letter := some 's' }

def placeOptions : List CommandOption :=
  [{ name := "target", letter := some 't' }, { name := "project", letter := some 'p' }, helpOption]

def runOptions : List CommandOption :=
  [selectOption, { name := "full-refresh", takesValue := false }, { name := "fail-fast", takesValue := false },
    { name := "verbose", letter := some 'v', takesValue := false }] ++ placeOptions

def compileOptions : List CommandOption :=
  [selectOption, { name := "output-dir", letter := some 'o' }] ++ placeOptions

def initOptions : List CommandOption :=
  [{ name := "dir", letter := some 'd' }, { name := "empty", takesValue := false },
    { name := "force", takesValue := false }, helpOption]

/-! ### Commands from words -/

def placeOf (w : Words) : Place :=
  { target := w.value? "target", project := (w.value? "project").map Path.ofText }

def runOptionsOf (w : Words) : RunOptions :=
  { select := w.value? "select"
    fullRefresh := w.flag "full-refresh"
    failFast := w.flag "fail-fast"
    verbose := w.flag "verbose" }

/-- A command that takes no words but options. -/
def withoutRest (w : Words) (command : Command) : Except Usage Command :=
  match w.rest with
  | [] => .ok command
  | word :: _ => .error (.unexpected word)

def initOf (w : Words) : Except Usage Command :=
  match w.rest with
  | [] => .error (.missing "NAME")
  | [name] => .ok (.init name ((w.value? "dir").map Path.ofText) (w.flag "empty") (w.flag "force"))
  | _ :: word :: _ => .error (.unexpected word)

def named? (name : String) : Option (List CommandOption × (Words → Except Usage Command)) :=
  match name with
  | "run" => some (runOptions, fun w => withoutRest w (.run (placeOf w) (runOptionsOf w)))
  | "build" => some (runOptions, fun w => withoutRest w (.build (placeOf w) (runOptionsOf w)))
  | "seed" => some (placeOptions, fun w => withoutRest w (.seed (placeOf w)))
  | "compile" =>
      some (compileOptions, fun w =>
        withoutRest w (.compile (placeOf w) (w.value? "select") ((w.value? "output-dir").map Path.ofText)))
  | "dag" => some (placeOptions, fun w => withoutRest w (.dag (placeOf w)))
  | "init" => some (initOptions, initOf)
  | _ => none

def read (options : List CommandOption) (meaning : Words → Except Usage Command) (words : List String) :
    Except Usage Command := do
  let w ← Words.read options false words
  if w.flag "help" then throw .help
  meaning w

/-! ### The whole line -/

/-- The words of a line up to the name of the command, and the words behind it. -/
structure Line where
  level : String                                           -- of the log
  options : List CommandOption
  meaning : Words → Except Usage Command
  words : List String

def usualLevel : String := "WARNING"

def Line.read (words : List String) : Except Usage Line := do
  let w ← Words.read [{ name := "log-level" }, helpOption] true words
  if w.flag "help" then throw .help
  match w.rest with
  | [] => throw (.missing "command")
  | name :: rest =>
      match named? name with
      | none => throw (.unknownCommand name)
      | some (options, meaning) => return ⟨(w.value? "log-level").getD usualLevel, options, meaning, rest⟩

end Command

end SqlPipeline
