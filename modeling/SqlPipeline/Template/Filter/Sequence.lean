/-
  SqlPipeline/Template/Filter/Sequence.lean
  =========================================
  **Filters on sequences and maps.**

  Some of them give a list at once; the others give their items one by one when they are
  wanted, and fail only then.
-/
import SqlPipeline.Template.Filter.Basic

namespace SqlPipeline.Template

open Eval

namespace SequenceFilter

/-! ### Ends and lengths -/

def first : FilterRun :=
  .ofEnvironment "sync_do_first" ["seq"] 1 fun m _ b => do
    match ← m.pull (← iterate (b.arg 0)) with
    | some v => return v
    | none => return .undefined "No first item, sequence was empty."

/-- The items of a value that can be gone through from the end, last one first. -/
def backward? (m : Machine) (v : Value) : Eval (Option Address) := do
  let listed (items : List Value) : Eval (Option Address) := do
    return some (← alloc (.iterator (.items items)))
  match v with
  | .undefined message => fail .undefined message
  | .text _ | .markup _ | .bytes _ | .tuple _ | .group _ _ | .range _ _ _ | .view _ _ =>
      listed (← itemsOf m v).reverse
  | .object a =>
      match ← object? a with
      | some (.list items) => return some (← alloc (.iterator (.listBack a items.size)))
      | some (.map entries) => listed (entries.map (·.1)).reverse
      | _ => return none
  | _ => return none

def last : FilterRun :=
  .ofEnvironment "do_last" ["seq"] 1 fun m _ b => do
    match ← backward? m (b.arg 0) with
    | none => typeError s!"'{← kindName (b.arg 0)}' object is not reversible"
    | some it =>
        match ← m.pull it with
        | some v => return v
        | none => return .undefined "No last item, sequence was empty."

def reverse : FilterRun :=
  .ofParams "do_reverse" ["value"] 1 fun m _ b => do
    let v := b.arg 0
    match v.text? with
    | some s => return v.textLike (.ofList s.toList.reverse)
    | none =>
        match ← backward? m v with
        | some it => return .object it
        | none =>
            match v with
            | .object a =>
                match ← object? a with
                | some (.set _) | some (.iterator _) => newList (← itemsOf m v).reverse
                | _ => fail .filterArgument "argument must be iterable"
            | _ => fail .filterArgument "argument must be iterable"

def random : FilterRun :=
  .ofSignature { name := "do_random", hidden := ["context"], params := ["seq"], required := 1 }
    fun _ _ b => do
      let v := b.arg 0
      let n ← length v
      let i : Nat ← if n == 0 then pure 0 else choose n
      match ← item? v (.int i) with
      | some w => return w
      | none =>
          let refuse : Eval Value := do typeError s!"'{← kindName v}' object is not subscriptable"
          match v with
          | .view _ _ => refuse
          | .object a =>
              match ← object? a with
              | some (.list _) => return .undefined "No random item, sequence was empty."
              | some (.map _) => fail .key (toString i)
              | _ => refuse
          | _ => return .undefined "No random item, sequence was empty."

def toList : FilterRun :=
  .ofParams "sync_do_list" ["value"] 1 fun m _ b => do newList (← itemsOf m (b.arg 0))

/-! ### Joining and adding up -/

def join : FilterRun :=
  .ofSignature { name := "sync_do_join", hidden := ["eval_ctx"], params := ["value", "d", "attribute"], required := 1 }
    fun m escape b => do
      let path? ← match b.arg 2 with
        | .null => pure none
        | member => pure (some (← attributePath member))
      let joiner := b.arg 1 (.text "")
      let items (within : Value → Eval Value) : Eval (List Value) := do
        let it ← iterate (b.arg 0)
        let values ← drain m it
        values.mapM within
      let reach (v : Value) : Eval Value :=
        match path? with
        | some path => followPath m none v path
        | none => return v
      if path?.isSome then discard <| iterate (b.arg 0)
      if !escape then
        let d ← m.written joiner
        let parts ← items fun v => do return .text (← m.written (← reach v))
        return .text (d.intercalate (parts.map fun v => v.text?.getD ""))
      else
        let values ← items reach
        let isMarkup : Value → Bool
          | .markup _ => true
          | _ => false
        if isMarkup joiner || values.any isMarkup then
          let d ← escaped m joiner
          return .markup (d.intercalate (← values.mapM (escaped m)))
        else
          let d ← m.written joiner
          return .text (d.intercalate (← values.mapM m.written))

def sum : FilterRun :=
  .ofEnvironment "sync_do_sum" ["iterable", "attribute", "start"] 1 fun m _ b => do
    let path ← attributePath (b.arg 1)
    let start := b.arg 2 (.int 0)
    let it ← iterate (b.arg 0)
    if start.text?.isSome then typeError "sum() can't sum strings [use ''.join(seq) instead]"
    go m path it m.bound start
where
  /-- `n` bounds the number of items. -/
  go (m : Machine) (path : List Value) (it : Address) : (n : Nat) → Value → Eval Value
    | 0, total => return total
    | n + 1, total => do
        match ← m.pull it with
        | none => return total
        | some v => do
            let w ← followPath m none v path
            go m path it n (← operate m .add total w)

/-! ### Order -/

def sort : FilterRun :=
  .ofEnvironment "do_sort" ["value", "reverse", "case_sensitive", "attribute"] 1 fun m _ b => do
    let sensitive ← truth (b.arg 2 (.bool false))
    let paths ← attributePaths (b.arg 3)
    let items ← itemsOf m (b.arg 0)
    let keyed ← items.mapM fun v => do return (← keysOf m paths sensitive v, v)
    let reversed ← truth (b.arg 1 (.bool false))
    newList (← sortItems m.less reversed keyed)

def extreme (name : String) (op : OrderOp) : FilterRun :=
  .ofEnvironment name ["value", "case_sensitive", "attribute"] 1 fun m _ b => do
    match ← itemsOf m (b.arg 0) with
    | [] => return .undefined "No aggregated item, sequence was empty."
    | v :: rest => do
        let rule ← KeyRule.ofArguments (b.arg 2) none (b.arg 1 (.bool false))
        let key ← rule.keyOf m v
        let (best, _) ← rest.foldlM (fun (best, bestKey) w => do
          let key ← rule.keyOf m w
          return if ← order m op key bestKey then (w, key) else (best, bestKey)) (v, key)
        return best

def sortEntries : FilterRun :=
  .ofParams "do_dictsort" ["value", "case_sensitive", "by", "reverse"] 1 fun m _ b => do
    let by_ := b.arg 2 (.text "key")
    let byValue ← match by_.text? with
      | some "key" => pure false
      | some "value" => pure true
      | _ => fail .filterArgument "You can only sort by either \"key\" or \"value\""
    let v := b.arg 0
    let entries ← match v with
      | .undefined message => fail .undefined message
      | .object a =>
          match ← object? a with
          | some (.map entries) => pure entries
          | some o => fail .member s!"'{o.kindName}' object has no attribute 'items'"
          | none => pure []
      | v => fail .member s!"'{← kindName v}' object has no attribute 'items'"
    let sensitive ← truth (b.arg 1 (.bool false))
    let keyed := entries.map fun (k, w) =>
      let key := if byValue then w else k
      (if sensitive then key else withoutCase key, Value.tuple [k, w])
    newList (← sortItems m.less (← truth (b.arg 3 (.bool false))) keyed)

/-! ### Grouping -/

def runs (m : Machine) : (current : Option (Value × List Value)) → List Keyed → Eval (List (Value × List Value))
  | none, [] => return []
  | some (k, vs), [] => return [(k, vs.reverse)]
  | none, (k, v) :: rest => runs m (some (k, [v])) rest
  | some (k, vs), (l, v) :: rest => do
      if ← m.same k l then runs m (some (k, v :: vs)) rest
      else return (k, vs.reverse) :: (← runs m (some (l, [v])) rest)

def groupBy : FilterRun :=
  .ofEnvironment "sync_do_groupby" ["value", "attribute", "default", "case_sensitive"] 2 fun m _ b => do
    let default := match b.arg 2 with
      | .null => none
      | d => some d
    let rule ← KeyRule.ofArguments (b.arg 1) default (b.arg 3 (.bool false))
    let items ← itemsOf m (b.arg 0)
    let keyed ← items.mapM fun v => do return (← rule.keyOf m v, v)
    let sorted ← sortItems m.less false (keyed.map fun (k, v) => (k, .tuple [k, v]))
    let groups ← runs m none (sorted.filterMap fun
      | .tuple [k, v] => some (k, v)
      | _ => none)
    let exact : KeyRule := ⟨rule.path, rule.default, true⟩
    let shown ← groups.mapM fun (k, vs) => do
      let key ← match vs with
        | v :: _ => if rule.caseSensitive then pure k else exact.keyOf m v
        | [] => pure k
      return .group key (← newList vs)
    newList shown

/-! ### Items one by one -/

def lazily (escape : Bool) (p : Pending) : Eval Value :=
  newIterator (.pending p escape)

def map : FilterRun :=
  .ofSignature
    { name := "sync_do_map", hidden := ["context"], params := ["value"], required := 1, takesRest := true,
      takesNamed := true }
    fun _ escape b => lazily escape (.map (b.arg 0) b.rest b.named)

def pick (name : String) (byAttribute negated : Bool) : FilterRun :=
  .ofSignature
    { name := name, hidden := ["context"], params := ["value"], required := 1, takesRest := true, takesNamed := true }
    fun _ escape b => lazily escape (.pick (b.arg 0) byAttribute negated b.rest b.named)

def batch : FilterRun :=
  .ofParams "do_batch" ["value", "linecount", "fill_with"] 2 fun _ escape b =>
    lazily escape (.batch (b.arg 0) (b.arg 1) (b.arg 2))

def slices : FilterRun :=
  .ofParams "sync_do_slice" ["value", "slices", "fill_with"] 2 fun _ escape b =>
    lazily escape (.slices (b.arg 0) (b.arg 1) (b.arg 2))

def unique : FilterRun :=
  .ofEnvironment "sync_do_unique" ["value", "case_sensitive", "attribute"] 1 fun _ escape b =>
    lazily escape (.unique (b.arg 0) (b.arg 1 (.bool false)) (b.arg 2))

def entries : FilterRun :=
  .ofParams "do_items" ["value"] 1 fun _ escape b => lazily escape (.entries (b.arg 0))

/-! ### Defaults and members -/

def default : FilterRun :=
  .ofParams "do_default" ["value", "default_value", "boolean"] 1 fun _ _ b => do
    match b.arg 0 with
    | .undefined _ | .absent _ => return b.arg 1 (.text "")
    | v =>
        if (← truth (b.arg 2 (.bool false))) && !(← truth v) then return b.arg 1 (.text "") else return v

def member : FilterRun :=
  .ofEnvironment "do_attr" ["obj", "name"] 2 fun m _ b => do
    match (b.arg 1).text? with
    | none => typeError s!"attribute name must be string, not '{← kindName (b.arg 1)}'"
    | some name =>
        match ← kindMember? m (b.arg 0) name with
        | some v => return v
        | none => missingMember m (b.arg 0) (.text name)

def all : List (String × FilterRun) :=
  [("first", first), ("last", last), ("reverse", reverse), ("random", random), ("list", toList),
    ("length", .ofOne "len" fun _ _ v => do return .int (← length v)),
    ("count", .ofOne "len" fun _ _ v => do return .int (← length v)),
    ("join", join), ("sum", sum), ("sort", sort), ("min", extreme "do_min" .lt), ("max", extreme "do_max" .gt),
    ("dictsort", sortEntries), ("groupby", groupBy), ("map", map),
    ("select", pick "sync_do_select" false false), ("reject", pick "sync_do_reject" false true),
    ("selectattr", pick "sync_do_selectattr" true false), ("rejectattr", pick "sync_do_rejectattr" true true),
    ("batch", batch), ("slice", slices), ("unique", unique), ("items", entries),
    ("default", default), ("d", default), ("attr", member)]

end SequenceFilter

end SqlPipeline.Template
