/-
  SqlPipeline/Yaml/Token.lean
  ===========================
  **The tokens of a YAML text.**

  Indentation has been turned into tokens of its own: a block opens where a line is
  indented further than those around it, and ends where one is indented less.
-/
import SqlPipeline.Text.Quoted
import SqlPipeline.Calendar

namespace SqlPipeline.Yaml

/-- Why a text has no value. -/
inductive Fault where
  | malformed                                -- it is not YAML, or uses what is not known
  | codePoint                                -- an escape beyond the last character
  | whole (base : Nat) (text : String)       -- a number of a base that is none
  | fraction (text : String)
  | emptyNumber
  | truth (text : String)                    -- neither yes nor no
  | noMoment                                 -- a text marked as a moment that is none
  | calendar (e : CalendarError)
  | offset (seconds : Int)                   -- a distance from universal time of a day or more
  | endless                                  -- a collection that contains itself
deriving Repr

def shownSpan (seconds : Int) : String :=
  let days := Int.fdiv seconds 86400
  let rest := Int.fmod seconds 86400
  let parts := (if days == 0 then [] else [s!"days={days}"])
    ++ (if rest == 0 then [] else [s!"seconds={rest}"])
  "datetime.timedelta(" ++ ", ".intercalate parts ++ ")"

def Fault.message : Fault → String
  | malformed => "invalid YAML"
  | codePoint => "chr() arg not in range(0x110000)"
  | whole base text =>
      s!"invalid literal for int() with base {base}: " ++ Text.quoted text
  | fraction text => "could not convert string to float: " ++ Text.quoted text
  | emptyNumber => "string index out of range"
  | truth text => Text.quoted text
  | noMoment => "'NoneType' object has no attribute 'groupdict'"
  | calendar e => e.message
  | offset seconds =>
      "offset must be a timedelta strictly between -timedelta(hours=24) and timedelta(hours=24), not "
        ++ shownSpan seconds ++ "."
  | endless => "maximum recursion depth exceeded"

inductive Token where
  | version (major : Nat)                    -- a directive, like the next two
  | shorthand (handle stem : String)         -- what a handle stands for in tags
  | otherDirective
  | documentStart
  | documentEnd
  | listStart                                -- of a block, as is the next one
  | mapStart
  | blockEnd
  | item                                     -- the hyphen before an item
  | key
  | value
  | openList                                 -- with brackets, as the next four
  | closeList
  | openMap
  | closeMap
  | comma
  | alias (name : String)
  | anchor (name : String)
  | tag (handle : Option String) (suffix : String)
  | scalar (isPlain : Bool) (text : String)
  | bad (fault : Fault)                      -- from here on the text has no tokens
deriving Repr

end SqlPipeline.Yaml
