/-
  SqlPipeline/Template/Evaluate.lean
  ==================================
  **Evaluating expressions.**

  Operands are evaluated from left to right; `and`, `or`, comparisons in a row and
  conditions leave out what does not matter.  A filter or test that does not exist fails
  when it is reached.
-/
import SqlPipeline.Template.Call

namespace SqlPipeline.Template

open Eval

def constantValue : Constant → Value
  | .null => .null
  | .bool b => .bool b
  | .int n => .int n
  | .float x => .float x
  | .text s => .text s

/-! ### Arguments -/

def spreadNames (named : Entries Value) (v : Value) : Eval (Entries Value) := do
  let refuse : Eval (Entries Value) := do
    typeError s!"jinja2.runtime.Context.call() argument after ** must be a mapping, not {← kindName v}"
  match v with
  | .undefined message => fail .undefined message
  | .object a =>
      match ← object? a with
      | some (.map entries) =>
          entries.foldlM (fun acc (k, w) => do
            match k.text? with
            | none => typeError "keywords must be strings"
            | some n =>
                if (Entries.find? acc n).isSome then
                  typeError s!"jinja2.runtime.Context.call() got multiple values for keyword argument '{n}'"
                else return acc ++ [(n, w)]) named
      | _ => refuse
  | _ => refuse

/-- The arguments of a call: those in order, with a spread sequence behind them, and those
    by name, with a spread map behind them; of two of one name the later holds. -/
def evalArguments (m : Machine) (env : Env) : Arguments → Eval (List Value × Entries Value)
  | .mk positional named spread spreadNamed => do
      let args ← positional.mapM (m.eval env)
      let more ← match spread with
        | none => pure []
        | some e => do
            let v ← m.eval env e
            match v with
            | .undefined message => fail .undefined message
            | v =>
                if ← Test.isIterable v then itemsOf m v
                else
                  typeError
                    s!"jinja2.runtime.Context.call() argument after * must be an iterable, not {← kindName v}"
      let byName ← named.mapM fun (n, e) => do return (n, ← m.eval env e)
      let byName := Entries.overlay [] byName
      let byName ← match spreadNamed with
        | none => pure byName
        | some e => do spreadNames byName (← m.eval env e)
      return (args ++ more, byName)

/-! ### Filters and tests -/

def callFilter (m : Machine) (escape : Bool) (name : String) (v : Value) (args : List Value)
    (named : Entries Value) : Eval Value :=
  match filterTable.lookup name with
  | some run => run m escape (v :: args) named
  | none => fail .runtime ("No filter named " ++ Text.quoted name ++ ".")

def applyFilter (m : Machine) (env : Env) (name : String) (args : Arguments) (v : Value) : Eval Value := do
  let (args, named) ← evalArguments m env args
  if isFilter name then callFilter m env.escape name v args named
  else fail .runtime ("No filter named " ++ Text.quoted name ++ " found.")

def applyTest (m : Machine) (env : Env) (name : String) (args : Arguments) (v : Value) : Eval Bool := do
  let (args, named) ← evalArguments m env args
  if isTest name then callTest m name (v :: args) named
  else fail .runtime ("No test named " ++ Text.quoted name ++ " found.")

/-- Applies filters one after the other to what a body has put out. -/
def applyFilters (m : Machine) (env : Env) (captured : Value) : Expr → Eval Value
  | .filter none name _ args => applyFilter m env name args captured
  | .filter (some inner) name _ args => do
      applyFilter m env name args (← applyFilters m env captured inner)
  | e => m.eval env e

/-! ### Operators -/

def compareValues (m : Machine) (op : CompareOp) (v w : Value) : Eval Bool := do
  match op with
  | .eq => m.same v w
  | .ne => return !(← m.same v w)
  | .lt => order m .lt v w
  | .le => order m .le v w
  | .gt => order m .gt v w
  | .ge => order m .ge v w
  | .isIn => contains m w v
  | .notIn => return !(← contains m w v)

def evalComparisons (m : Machine) (env : Env) (v : Value) : List (CompareOp × Expr) → Eval Bool
  | [] => return true
  | (op, e) :: rest => do
      let w ← m.eval env e
      if ← compareValues m op v w then evalComparisons m env w rest else return false

def evalPart (m : Machine) (env : Env) : Option Expr → Eval Value
  | none => return .null
  | some e => m.eval env e

def evalExpr (m : Machine) (env : Env) : Expr → Eval Value
  | .constant c => return constantValue c
  | .name name _ => loadName env name
  | .tuple items => do return .tuple (← items.mapM (m.eval env))
  | .list items => do newList (← items.mapM (m.eval env))
  | .map entries => do
      let made ← entries.foldlM (fun acc (k, e) => do
        let key ← m.eval env k
        let v ← m.eval env e
        requireHashable key
        return insertKey key v acc) []
      newMap made
  | .neg e => do negate (← m.eval env e)
  | .pos e => do positive (← m.eval env e)
  | .not e => do return .bool (!(← truth (← m.eval env e)))
  | .and a b => do
      let v ← m.eval env a
      if ← truth v then m.eval env b else return v
  | .or a b => do
      let v ← m.eval env a
      if ← truth v then return v else m.eval env b
  | .binary op a b => do
      let v ← m.eval env a
      let w ← m.eval env b
      operate m op v w
  | .concat parts => do concatenate m env.escape (← parts.mapM (m.eval env))
  | .compare first rest => do
      let v ← m.eval env first
      return .bool (← evalComparisons m env v rest)
  | .cond test yes no line => do
      if ← truth (← m.eval env test) then m.eval env yes
      else
        match no with
        | some e => m.eval env e
        | none =>
            return .absent
              s!"the inline if-expression on line {line} evaluated to false and no else section was defined."
  | .attr e name => do memberByName m (← m.eval env e) name
  | .item e index => do
      let v ← m.eval env e
      let i ← m.eval env index
      subscriptOf m v i
  | .slice start stop step => do
      let a ← evalPart m env start
      let b ← evalPart m env stop
      let c ← evalPart m env step
      return .slice a b c
  | .call f args => do
      let g ← m.eval env f
      let (args, named) ← evalArguments m env args
      m.call g args named
  | .filter input name _ args => do
      let v ← match input with
        | some e => m.eval env e
        | none => pure (.text "")
      applyFilter m env name args v
  | .test input name _ args => do
      let v ← m.eval env input
      return .bool (← applyTest m env name args v)

end SqlPipeline.Template
