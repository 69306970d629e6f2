/-
  SqlPipeline/Command/Usage.lean
  ==============================
  **Reading the words of a command line.**

  A word that starts with a dash names an option by its long name after two dashes, or
  several by their letters after one.  An option may take a value, which stands in the
  same word or is the next one.  After two dashes alone every word stands for itself.
-/
namespace SqlPipeline

/-- What is told instead of carrying out a command. -/
inductive Usage where
  | help
  | unknownOption (word : String)
  | noValue (option : String)            -- for an option that takes one
  | unwantedValue (option : String)      -- for one that takes none
  | unexpected (word : String)
  | missing (what : String)
  | unknownCommand (name : String)
deriving Repr, DecidableEq

namespace Usage

def message : Usage → String
  | help => "usage: dagsql [--log-level LEVEL] run|build|seed|compile|dag|init [OPTIONS]"
  | unknownOption word => s!"no such option: {word}"
  | noValue option => s!"option --{option} needs a value"
  | unwantedValue option => s!"option --{option} takes no value"
  | unexpected word => s!"unexpected word: {word}"
  | missing what => s!"missing {what}"
  | unknownCommand name => s!"no such command: {name}"

/-- Asking for help is no mistake. -/
def code : Usage → Nat
  | help => 0
  | _ => 2

end Usage

structure CommandOption where
  name : String
  letter : Option Char := none
  takesValue : Bool := true
deriving Repr, DecidableEq

/-- The words of a command line, taken apart. -/
structure Words where
  values : List (String × String) := []      -- of options, in order
  flags : List String := []                  -- options without values
  rest : List String := []                   -- words that are no options
deriving Repr, DecidableEq

namespace Words

/-- What one word asks for: some flags, and at the end perhaps an option that takes a value. -/
structure Asked where
  flags : List String := []
  valued : Option (String × Option String) := none     -- the value, if it stands in the word

def isOption (word : String) : Bool :=
  match word.toList with
  | '-' :: _ :: _ => true
  | _ => false

def askedByName (options : List CommandOption) (name : List Char) : Except Usage Asked :=
  let long := String.ofList (name.takeWhile (· != '='))
  match options.find? (·.name == long), name.dropWhile (· != '=') with
  | none, _ => .error (.unknownOption long)
  | some o, '=' :: value =>
      if o.takesValue then .ok { valued := some (o.name, some (.ofList value)) }
      else .error (.unwantedValue o.name)
  | some o, _ =>
      if o.takesValue then .ok { valued := some (o.name, none) } else .ok { flags := [o.name] }

/-- Reads letters; what stands behind one that takes a value is the value. -/
def askedByLetters (options : List CommandOption) : List Char → Except Usage Asked
  | [] => .ok {}
  | c :: cs =>
      match options.find? (·.letter == some c) with
      | none => .error (.unknownOption (.ofList ['-', c]))
      | some o =>
          if o.takesValue then
            .ok { valued := some (o.name, if cs.isEmpty then none else some (.ofList cs)) }
          else do
            let more ← askedByLetters options cs
            return { more with flags := o.name :: more.flags }

def asked (options : List CommandOption) (word : String) : Except Usage Asked :=
  match word.toList with
  | '-' :: '-' :: name => askedByName options name
  | letters => askedByLetters options (letters.drop 1)

/-- Takes the words of a command line apart; if `upToFirst`, the first word that is no option
    is the end of the options. -/
def read (options : List CommandOption) (upToFirst : Bool) : List String → Except Usage Words
  | [] => .ok {}
  | word :: words =>
      if word == "--" then .ok { rest := words }
      else if isOption word then do
        let a ← asked options word
        match a.valued with
        | none =>
            let w ← read options upToFirst words
            return { w with flags := a.flags ++ w.flags }
        | some (name, some value) =>
            let w ← read options upToFirst words
            return { w with flags := a.flags ++ w.flags, values := (name, value) :: w.values }
        | some (name, none) =>
            match words with
            | [] => throw (.noValue name)
            | value :: words =>
                let w ← read options upToFirst words
                return { w with flags := a.flags ++ w.flags, values := (name, value) :: w.values }
      else if upToFirst then .ok { rest := word :: words }
      else do
        let w ← read options upToFirst words
        return { w with rest := word :: w.rest }

/-- The value of an option, the last one if it is given several times. -/
def value? (w : Words) (name : String) : Option String :=
  w.values.reverse.lookup name

def flag (w : Words) (name : String) : Bool :=
  w.flags.contains name

end Words

end SqlPipeline
