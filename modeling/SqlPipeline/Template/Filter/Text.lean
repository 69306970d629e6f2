/-
  SqlPipeline/Template/Filter/Text.lean
  =====================================
  **Filters on texts.**

  Values that are no texts are written first.
-/
import SqlPipeline.Template.Filter.Basic
import SqlPipeline.Text.Utf8
import SqlPipeline.Text.Wrap
import SqlPipeline.Text.Entity

namespace SqlPipeline.Template

open Eval Text

namespace TextFilter

/-! ### Case and blanks -/

def isTitleBreak (c : Char) : Bool :=
  isBlank c || c == '-' || c == '(' || c == '[' || c == '<' || c.toNat == 0x7B

/-- Words with a capital first letter and small ones behind it. -/
def titleWords (s : List Char) : List Char :=
  go true false s
where
  /-- `before` tells whether a cased letter stands before, the first of the word apart. -/
  go (start before : Bool) : List Char → List Char
    | [] => []
    | c :: rest =>
        if isTitleBreak c then c :: go true false rest
        else if start then upperChar c ++ go false false rest
        else lowerAt before c rest ++ go false (casedAfter before c) rest

def indent : FilterRun :=
  .ofParams "do_indent" ["s", "width", "first", "blank"] 1 fun m _ b => do
    let mark ← match b.arg 1 (.int 4) with
      | .text s | .markup s => pure s.toList
      | width => do
          match ← multiply (.text " ") width with
          | v => pure ((v.text?.getD "").toList)
    let v := b.arg 0
    match v with
    | .text s | .markup s => do
        let lines := splitLines (s.toList ++ ['\n'])
        let blank ← truth (b.arg 3 (.bool false))
        let body := match lines with
          | [] => []
          | first :: rest => first :: rest.map fun line =>
              if line.isEmpty && !blank then line else mark ++ line
        let text := ['\n'].intercalate body
        let first ← truth (b.arg 2 (.bool false))
        return v.textLike (.ofList (if first then mark ++ text else text))
    | .object a =>
        match ← object? a with
        | some (.list items) =>
            update a (.list (items.push (.text "\n")))
            fail .member "'list' object has no attribute 'splitlines'"
        | _ => typeError s!"unsupported operand type(s) for +=: '{← kindName v}' and 'str'"
    | .tuple _ | .group _ _ => operate m .add v (.text "\n")
    | .undefined message => fail .undefined message
    | v => typeError s!"unsupported operand type(s) for +=: '{← kindName v}' and 'str'"

def trim : FilterRun :=
  .ofParams "do_trim" ["value", "chars"] 1 fun m _ b => do
    let v ← asText m (b.arg 0)
    callMethod m v "strip" [b.arg 1] []

def center : FilterRun :=
  .ofParams "do_center" ["value", "width"] 1 fun m _ b => do
    let v ← asText m (b.arg 0)
    callMethod m v "center" [b.arg 1 (.int 80)] []

/-! ### Parts of texts -/

def replace : FilterRun :=
  .ofSignature
    { name := "do_replace", hidden := ["eval_ctx"], params := ["s", "old", "new", "count"], required := 3 }
    fun m escape b => do
      let count := match b.arg 3 with
        | .null => .int (-1)
        | v => v
      let isMarkup : Value → Bool
        | .markup _ => true
        | _ => false
      if !escape then
        let s ← m.written (b.arg 0)
        let old ← m.written (b.arg 1)
        let new ← m.written (b.arg 2)
        callMethod m (.text s) "replace" [.text old, .text new, count] []
      else
        let s ← if isMarkup (b.arg 1) || (isMarkup (b.arg 2) && !isMarkup (b.arg 0)) then
            pure (.markup (← escaped m (b.arg 0)))
          else asText m (b.arg 0)
        callMethod m s "replace" [← asText m (b.arg 1), ← asText m (b.arg 2), count] []

def dropLastWord (s : List Char) : List Char :=
  match lastIndexOf? ' ' s with
  | some i => s.take i
  | none => s

def assumption {α : Type} (message : String) : Eval α :=
  fail .runtime message

def truncate : FilterRun :=
  .ofSignature
    { name := "do_truncate", hidden := ["env"], params := ["s", "length", "killwords", "end", "leeway"],
      required := 1 }
    fun m _ b => do
      let v := b.arg 0
      let length := b.arg 1 (.int 255)
      let mark := b.arg 3 (.text "...")
      let leeway := match b.arg 4 with
        | .null => .int 5
        | l => l
      let markLength ← Template.length mark
      if !(← order m .ge length (.int markLength)) then
        assumption s!"expected length >= {markLength}, got {← m.written length}"
      if !(← order m .ge leeway (.int 0)) then
        assumption s!"expected leeway >= 0, got {← m.written leeway}"
      if ← order m .le (.int (← Template.length v)) (← operate m .add length leeway) then return v
      else
        let cut ← subscriptOf m v (.slice .null (← operate m .sub length (.int markLength)) .null)
        if ← truth (b.arg 2 (.bool false)) then operate m .add cut mark
        else
          match cut.text? with
          | some s => operate m .add (cut.textLike (.ofList (dropLastWord s.toList))) mark
          | none => fail .member s!"'{← kindName cut}' object has no attribute 'rsplit'"

def countWords (s : List Char) : Nat :=
  ((splitWhere (fun c => !isWord c) s).filter (!·.isEmpty)).length

def wordCount : FilterRun :=
  .ofParams "do_wordcount" ["s"] 1 fun m _ b => do
    let (s, _) ← asCharacters m (b.arg 0)
    return .int (countWords s)

/-! ### Wrapping -/

def lineWidth (m : Machine) (v : Value) : Eval Nat := do
  if ← order m .le v (.int 0) then valueError s!"invalid width {← m.shown v} (must be > 0)"
  else return (← asIndex v).toNat

def wordWrap : FilterRun :=
  .ofEnvironment "do_wordwrap" ["s", "width", "break_long_words", "wrapstring", "break_on_hyphens"] 1
    fun m _ b => do
      let v := b.arg 0
      let mark ← match b.arg 3 with
        | .null => pure "\n"
        | w => do pure (String.ofList (← asTextArg w fun kind => s!"'{kind}' object has no attribute 'join'"))
      match v.text? with
      | some s =>
          let breakLong ← truth (b.arg 2 (.bool true))
          let hyphens ← truth (b.arg 4 (.bool true))
          let wrapped ← (splitLines s.toList).mapM fun line => do
            let width ← lineWidth m (b.arg 1 (.int 79))
            let lines := ({ width := width, breaksLongWords := breakLong, breaksAtHyphens := hyphens } : Wrap).lines line
            return mark.intercalate (lines.map String.ofList)
          return .text (mark.intercalate wrapped)
      | none =>
          match v with
          | .undefined message => fail .undefined message
          | v => fail .member s!"'{← kindName v}' object has no attribute 'splitlines'"

/-! ### Markup -/

def stripTagsFilter : FilterRun :=
  .ofParams "do_striptags" ["value"] 1 fun m _ b => do
    return .text (.ofList (stripTags (← m.written (b.arg 0)).toList))

def xmlAttributes : FilterRun :=
  .ofSignature { name := "do_xmlattr", hidden := ["eval_ctx"], params := ["d", "autospace"], required := 1 }
    fun m escape b => do
      let entries ← match b.arg 0 with
        | .undefined message => fail .undefined message
        | .object a =>
            match ← object? a with
            | some (.map entries) => pure entries
            | some o => fail .member s!"'{o.kindName}' object has no attribute 'items'"
            | none => pure []
        | v => fail .member s!"'{← kindName v}' object has no attribute 'items'"
      let parts ← entries.filterMapM fun (k, v) => do
        match v with
        | .null | .undefined _ | .absent _ => return none
        | v =>
            let name ← m.written k
            if name.toList.any fun c => Wrap.isGap c || c == '/' || c == '>' || c == '=' then
              valueError ("Invalid character in attribute name: " ++ (← m.shown k))
            else return some ((← escaped m k) ++ "=\"" ++ (← escaped m v) ++ "\"")
      let joined := " ".intercalate parts
      let text := if (← truth (b.arg 1 (.bool true))) && !joined.isEmpty then " " ++ joined else joined
      return if escape then .markup text else .text text

def format : FilterRun :=
  .ofSignature { name := "do_format", params := ["value"], required := 1, takesRest := true, takesNamed := true }
    fun m _ b => do
      if !b.rest.isEmpty && !b.named.isEmpty then
        fail .filterArgument "can't handle positional and keyword arguments at the same time"
      else
        let v ← asText m (b.arg 0)
        if b.named.isEmpty then operate m .mod v (.tuple b.rest)
        else operate m .mod v (← newMap (namedEntries b.named))

def all : List (String × FilterRun) :=
  [("upper", .ofText "do_upper" "s" upper),
    ("lower", .ofText "do_lower" "s" lower),
    ("capitalize", .ofText "do_capitalize" "s" capitalize),
    ("title", .ofParams "do_title" ["s"] 1 fun m _ b => do
      let (s, _) ← asCharacters m (b.arg 0)
      return .text (.ofList (titleWords s))),
    ("trim", trim), ("center", center), ("indent", indent), ("replace", replace), ("truncate", truncate),
    ("wordcount", wordCount), ("wordwrap", wordWrap), ("striptags", stripTagsFilter),
    ("xmlattr", xmlAttributes), ("format", format),
    ("string", .ofParams "soft_str" ["s"] 1 fun m _ b => asText m (b.arg 0)),
    ("safe", .ofParams "do_mark_safe" ["value"] 1 fun m _ b => do return .markup (← m.written (b.arg 0))),
    ("escape", .ofOne "escape" fun m _ v => do return .markup (← escaped m v)),
    ("e", .ofOne "escape" fun m _ v => do return .markup (← escaped m v)),
    ("forceescape", .ofParams "do_forceescape" ["value"] 1 fun m _ b => do
      return .markup (escapeText (← m.written (b.arg 0))))]

end TextFilter

end SqlPipeline.Template
