/-
  SqlPipeline/Sql/Header.lean
  ===========================
  **Settings that a SQL file carries in its leading comments.**

  A setting is a line comment that starts a line: two hyphens, a keyword with a colon,
  and a value that goes on to the end of its line.  White space may stand before the
  keyword and before the value, and it may run over line ends.  The keyword `config`
  introduces a list of options, `pre_hook` and `post_hook` one statement each.
-/
import SqlPipeline.Text.CharSet
import SqlPipeline.Text.Search
import SqlPipeline.Data
import SqlPipeline.Materialization

namespace SqlPipeline.Sql

open Text

inductive Setting where
  | config
  | preHook
  | postHook
deriving Repr, DecidableEq

namespace Setting

def keyword : Setting → List Char
  | config => "config:".toList
  | preHook => "pre_hook:".toList
  | postHook => "post_hook:".toList

def mark (setting : Setting) : List Char :=
  '-' :: '-' :: ' ' :: setting.keyword

end Setting

/-! ### Reading settings -/

/-- The characters before the end of the current line, and what follows them. -/
def restOfLine (s : List Char) : List Char × List Char :=
  (s.takeWhile (· != '\n'), s.dropWhile (· != '\n'))

/-- The last character of a blank text that is no newline, and the newlines behind it. -/
def lastBlank? : List Char → Option (List Char × List Char)
  | [] => none
  | c :: cs =>
      match lastBlank? cs with
      | some found => some found
      | none => if c = '\n' then none else some ([c], cs)

/-- The value of a setting, after its colon: what stands on the line of the next visible
    character, or one blank when only blanks are left. -/
def value? (s : List Char) : Option (List Char × List Char) :=
  match trimLeft s with
  | [] => lastBlank? s
  | visible => some (restOfLine visible)

def settingAt? (setting : Setting) (s : List Char) : Option (List Char × List Char) := do
  let s ← dropPattern? ['-', '-'] s
  let s ← dropPattern? setting.keyword (trimLeft s)
  value? s

theorem length_restOfLine_le (s : List Char) : (restOfLine s).2.length ≤ s.length :=
  (List.dropWhile_sublist _).length_le

theorem lastBlank?_length {s v r : List Char} (h : lastBlank? s = some (v, r)) :
    r.length ≤ s.length := by
  induction s with
  | nil => cases h
  | cons c cs ih =>
    simp only [lastBlank?] at h
    split at h
    · rename_i found hf
      cases h
      have := ih hf
      simp only [List.length_cons]; omega
    · split at h
      · cases h
      · simp only [Option.some.injEq, Prod.mk.injEq] at h
        simp only [← h.2, List.length_cons]; omega

theorem value?_length {s v r : List Char} (h : value? s = some (v, r)) : r.length ≤ s.length := by
  have hs := trimLeft_length_le s
  simp only [value?] at h
  split at h
  · exact lastBlank?_length h
  · simp only [Option.some.injEq] at h
    have := length_restOfLine_le (trimLeft s)
    rw [h] at this
    exact Nat.le_trans this hs

/-- A setting is not empty, so the text behind it is shorter. -/
theorem settingAt?_length {setting : Setting} {s v r : List Char}
    (h : settingAt? setting s = some (v, r)) : r.length < s.length := by
  simp only [settingAt?, Option.bind_eq_bind, Option.bind_eq_some_iff] at h
  obtain ⟨s1, h1, s2, h2, h3⟩ := h
  have l1 := dropPattern?_length h1
  have l2 := dropPattern?_length h2
  have l3 := value?_length h3
  have m := trimLeft_length_le s1
  simp only [List.length_cons, List.length_nil] at l1
  omega

/-- The values of a setting, in the order of the text; `lineStart` tells whether a line
    starts here. -/
def settings (setting : Setting) (lineStart : Bool) : List Char → List (List Char)
  | [] => []
  | c :: cs =>
      match _h : if lineStart then settingAt? setting (c :: cs) else none with
      | some (value, rest) => value :: settings setting false rest
      | none => settings setting (c == '\n') cs
termination_by s => s.length
decreasing_by
  · split at _h
    · exact settingAt?_length _h
    · cases _h
  · simp

/-! ### Options -/

/-- Takes one piece of an option list: with an equals sign it is a new option, without
    one it goes on with the value of the last. -/
def addOption : Entries String × Option String → List Char → Entries String × Option String
  | (options, last), piece =>
      let piece := trim piece
      if piece.isEmpty then (options, last)
      else
        match cutAt? ['='] piece with
        | some (key, value) =>
            let key := String.ofList (trim key)
            (Entries.insert key (.ofList (trim value)) options, some key)
        | none =>
            match last with
            | none => (options, none)
            | some key =>
                let old := (Entries.find? options key).getD ""
                let value := String.ofList piece
                (Entries.insert key (if old.isEmpty then value else old ++ ", " ++ value) options, last)

/-- Reads `key=value` options with commas between them. -/
def readOptions (s : List Char) : Entries String :=
  ((splitAt ',' s).foldl addOption ([], none)).1

/-- The options of the first `config` setting; none without one. -/
def options (sql : String) : Entries String :=
  match settings .config true sql.toList with
  | [] => []
  | value :: _ => readOptions value

def hooks (setting : Setting) (sql : String) : List String :=
  (settings setting true sql.toList).map fun value => .ofList (trim value)

/-! ### The query -/

/-- Whether a line is a setting and not part of the query. -/
def isSettingLine (line : List Char) : Bool :=
  let line := trim line
  startsWith Setting.config.mark line || startsWith Setting.preHook.mark line
    || startsWith Setting.postHook.mark line

def query (sql : String) : String :=
  let lines := (splitAt '\n' sql.toList).filter (!isSettingLine ·)
  .ofList (trim (['\n'].intercalate lines))

/-! ### What a file asks for -/

def trueValues : List String :=
  ["true", "1", "yes", "on"]

def nameList (s : String) : List String :=
  ((splitAt ',' s.toList).map trim).filterMap fun name => if name.isEmpty then none else some (.ofList name)

def materialization (sql : String) : Except MaterializationError Materialization := do
  let found := options sql
  let option (name default : String) := (Entries.find? found name).getD default
  let strategy ← Strategy.parse (option "materialized" Strategy.table.tag)
  return { tag := some strategy.tag
           uniqueKey := nameList (option "unique_key" "")
           fullRefresh := trueValues.contains (.ofList (lower (option "full_refresh" "").toList))
           preHooks := hooks .preHook sql
           postHooks := hooks .postHook sql }

end SqlPipeline.Sql
