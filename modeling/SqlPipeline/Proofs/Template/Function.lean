/-
  SqlPipeline/Proofs/Template/Function.lean
  =========================================
  **What a template is told by the functions of its context.**

  Running an evaluation to which no collector listens threads a store through, one evaluation
  after the other (`run_bind`).

  Setting the scene of a rendering never fails, and what the scene holds is what the
  context holds.  No part of a rendering changes the scene, so `is_incremental()` gives the
  same value wherever in a template it stands, and `this()` and `ref` the same names.
-/
import SqlPipeline.Proofs.Identifier
import SqlPipeline.Proofs.Template.Course
import SqlPipeline.Template.Render

namespace SqlPipeline.Template

section Running

variable {α β : Type}

/-! ### Running an evaluation -/

namespace Eval

variable {s t : Store}

theorem run_bind (x : Eval α) (k : α → Eval β) :
    (x >>= k).run s = match x.run s with
      | .ok a t => (k a).run t
      | .error failure t => .error failure t := by
  have hbind : (x >>= k) s.toMemory = (x s.toMemory).bind fun a m => k a m := rfl
  have hnotes := Course.notes_follow_none (x s.toMemory) s.toTrace []
  rw [run, hbind, Course.follow_bind, run]
  generalize (x s.toMemory).follow none s.toTrace [] = followed at hnotes ⊢
  obtain ⟨result, notes⟩ := followed
  obtain rfl : notes = [] := hnotes
  cases result with
  | ok a t => rfl
  | error failure t => rfl

theorem bind_of_done {x : Eval α} {k : α → Eval β} {m m' : Memory} {a : α} (h : x m = .done a m') :
    (x >>= k) m = k a m' := by
  have hbind : (x >>= k) m = (x m).bind fun a m => k a m := rfl
  rw [hbind, h, Course.bind]

theorem run_of_done {x : Eval α} {m : Memory} {a : α} (h : x s.toMemory = .done a m) :
    x.run s = .ok a ⟨m, s.toTrace⟩ := by
  rw [run, h, Course.follow]

theorem run_bind_of_ok {x : Eval α} {k : α → Eval β} {a : α} (h : x.run s = .ok a t) :
    (x >>= k).run s = (k a).run t := by
  rw [run_bind, h]

theorem run_refer (v : Value) : (refer v).run s = .ok () { s with refs := v :: s.refs } := rfl

end Eval

end Running

open Eval

/-! ### Data always goes into the memory -/

/-- That an evaluation always gives a value, and makes no references. -/
def Succeeds {α : Type} (x : Eval α) : Prop :=
  ∀ m, ∃ a m', x m = .done a m'

theorem Succeeds.pure {α : Type} (a : α) : Succeeds (Pure.pure a : Eval α) :=
  fun m => ⟨a, m, rfl⟩

theorem Succeeds.bind {α β : Type} {x : Eval α} {k : α → Eval β} (hx : Succeeds x)
    (hk : ∀ a, Succeeds (k a)) : Succeeds (x >>= k) := by
  intro m
  obtain ⟨a, m', ha⟩ := hx m
  obtain ⟨b, m'', hb⟩ := hk a m'
  exact ⟨b, m'', (bind_of_done ha).trans hb⟩

theorem Succeeds.mapM {α β : Type} {f : α → Eval β} (hf : ∀ a, Succeeds (f a)) (as : List α) :
    Succeeds (as.mapM f) := by
  have hloop : ∀ done, Succeeds (List.mapM.loop f as done) := by
    induction as with
    | nil => exact fun done => .pure done.reverse
    | cons a as ih => exact fun done => (hf a).bind fun b => ih (b :: done)
  exact hloop []

theorem modify_succeeds (f : Memory → Memory) : Succeeds (modify f : Eval Unit) :=
  fun m => ⟨(), f m, rfl⟩

theorem alloc_succeeds (o : Object) : Succeeds (alloc o) :=
  fun m => ⟨m.objects.size, { m with objects := m.objects.push o }, rfl⟩

mutual

theorem load_succeeds : (d : Data) → Succeeds (load d)
  | .null => by rw [load]; exact .pure _
  | .bool b => by rw [load]; exact .pure _
  | .int n => by rw [load]; exact .pure _
  | .float x => by rw [load]; exact .pure _
  | .text s => by rw [load]; exact .pure _
  | .date d => by rw [load]; exact .pure _
  | .moment t => by rw [load]; exact .pure _
  | .bytes b => by rw [load]; exact .pure _
  | .list items => by
    rw [load]
    exact (loadAll_succeeds items).bind fun _ => (alloc_succeeds _).bind fun _ => .pure _
  | .tuple items => by
    rw [load]
    exact (loadAll_succeeds items).bind fun _ => .pure _
  | .set items => by
    rw [load]
    exact (loadAll_succeeds items).bind fun _ => (alloc_succeeds _).bind fun _ => .pure _
  | .map entries => by
    rw [load]
    exact (loadEntries_succeeds entries).bind fun _ => (alloc_succeeds _).bind fun _ => .pure _
  | .undefined message => by rw [load]; exact .pure _
  | .thing kind form => by rw [load]; exact .pure _

theorem loadAll_succeeds : (items : List Data) → Succeeds (loadAll items)
  | [] => by rw [loadAll]; exact .pure _
  | d :: rest => by
    rw [loadAll]
    exact (load_succeeds d).bind fun _ => (loadAll_succeeds rest).bind fun _ => .pure _

theorem loadEntries_succeeds : (entries : List (Data × Data)) → Succeeds (loadEntries entries)
  | [] => by rw [loadEntries]; exact .pure _
  | (k, d) :: rest => by
    rw [loadEntries]
    exact (load_succeeds k).bind fun _ => (load_succeeds d).bind fun _ =>
      (loadEntries_succeeds rest).bind fun _ => .pure _

end

/-- The variables that a template starts with can always be set. -/
theorem startVariables_succeeds (data : Entries Data) : Succeeds (startVariables data) :=
  (Succeeds.mapM (fun ⟨_, d⟩ => (load_succeeds d).bind fun _ => .pure _) data).bind
    fun _ => .pure _

/-! ### The scene of a rendering -/

/-- **Setting the scene never fails,** and the scene holds what the context holds. -/
theorem prepare_done (c : Context) (environment : Entries String) (blocks : List Block) (m : Memory) :
    ∃ vars config m', prepare c environment blocks m = .done
      { currentModel := c.currentModel, schema := c.schema, isIncremental := c.isIncremental,
        table := c.table, vars := vars, config := config, sources := c.sources, seeds := c.seeds,
        environment := environment, blocks := blocks } m' := by
  have hnamed : ∀ entries, Succeeds (loadNamed entries) := fun entries =>
    (loadEntries_succeeds _).bind fun _ => alloc_succeeds _
  obtain ⟨vars, m₁, hvars⟩ := hnamed c.vars m
  obtain ⟨config, m₂, hconfig⟩ := hnamed c.config m₁
  refine ⟨vars, config, m₂, ?_⟩
  rw [prepare, bind_of_done hvars, bind_of_done hconfig]
  rfl

theorem prepare_ok (c : Context) (environment : Entries String) (blocks : List Block) (s : Store) :
    ∃ vars config t, (prepare c environment blocks).run s = .ok
      { currentModel := c.currentModel, schema := c.schema, isIncremental := c.isIncremental,
        table := c.table, vars := vars, config := config, sources := c.sources, seeds := c.seeds,
        environment := environment, blocks := blocks } t := by
  obtain ⟨vars, config, m, hprepare⟩ := prepare_done c environment blocks s.toMemory
  exact ⟨vars, config, ⟨m, s.toTrace⟩, run_of_done hprepare⟩

@[simp] theorem ofDepth_scene (scene : Scene) (depth : Nat) :
    (Machine.ofDepth scene depth).scene = scene := by
  cases depth with
  | zero => rfl
  | succ depth => rfl

theorem callContext_isIncremental (m : Machine) (s : Store) :
    (callContext m .isIncremental [] []).run s = .ok (.bool m.scene.isIncremental) s := rfl

theorem evalArguments_none (m : Machine) (env : Env) (s : Store) :
    (evalArguments m env .none).run s = .ok ([], []) s := rfl

/-- A function of the context is called with the arguments that stand behind its name, where the
    name has not been given to something else. -/
theorem eval_call_context (scene : Scene) (depth line : Nat) {f : ContextFunction} {env : Env}
    {s t : Store} {arguments : Arguments} {args : List Value} {named : Entries Value}
    (hf : (loadName env f.name).run s = .ok (.context f) s)
    (harguments : (evalArguments (.ofDepth scene (depth + 1)) env arguments).run s
      = .ok (args, named) t) :
    ((Machine.ofDepth scene (depth + 2)).eval env (.call (.name f.name line) arguments)).run s
      = (callContext (.ofDepth scene depth) f args named).run t := by
  have hname : ((Machine.ofDepth scene (depth + 1)).eval env (.name f.name line)).run s
      = .ok (.context f) s := hf
  have hcall : ((Machine.ofDepth scene (depth + 1)).call (.context f) args named)
      = callContext (.ofDepth scene depth) f args named := rfl
  rw [show (Machine.ofDepth scene (depth + 2)).eval env (.call (.name f.name line) arguments)
    = evalExpr (Machine.ofDepth scene (depth + 1)) env (.call (.name f.name line) arguments)
    from rfl, evalExpr]
  rw [run_bind_of_ok hname, run_bind_of_ok harguments]
  exact congrArg (·.run t) hcall

/-- The expression `is_incremental()`, where the name has not been given to something else,
    has the value that the scene holds. -/
theorem eval_isIncremental (scene : Scene) (depth line : Nat) {env : Env} {s : Store}
    (h : (loadName env "is_incremental").run s = .ok (.context .isIncremental) s) :
    ((Machine.ofDepth scene (depth + 2)).eval env
        (.call (.name "is_incremental" line) .none)).run s
      = .ok (.bool scene.isIncremental) s := by
  have hcalled := eval_call_context scene depth line (f := .isIncremental) h (evalArguments_none ..)
  rw [callContext_isIncremental, ofDepth_scene] at hcalled
  exact hcalled

/-- That a scene has one value for `is_incremental()`, wherever it is called. -/
structure TellsIncremental (scene : Scene) (seen : Bool) : Prop where
  called : ∀ depth s, (callValue (.ofDepth scene depth) (.context .isIncremental) [] []).run s
    = .ok (.bool seen) s
  evaluated : ∀ depth line env s,
    (loadName env "is_incremental").run s = .ok (.context .isIncremental) s →
      ((Machine.ofDepth scene (depth + 2)).eval env
          (.call (.name "is_incremental" line) .none)).run s = .ok (.bool seen) s

/-- That a template sees a value in `is_incremental()`: the name stands for the function when a
    rendering starts, and the scene of the rendering has the value. -/
structure SeesIncremental (c : Context) (environment : Entries String) (body : List Stmt)
    (seen : Bool) : Prop where
  named : ∀ s, ∃ given, (startVariables []).run s = .ok given s
    ∧ Entries.find? given "is_incremental" = some (.context .isIncremental)
  told : ∃ scene s, (prepare c environment (blocksOfAll body)).run {} = .ok scene s
    ∧ TellsIncremental scene seen

theorem seesIncremental (c : Context) (environment : Entries String) (body : List Stmt) :
    SeesIncremental c environment body c.isIncremental where
  named s := ⟨_, rfl, by rfl⟩
  told := by
    obtain ⟨vars, config, s, hprepare⟩ := prepare_ok c environment (blocksOfAll body) {}
    refine ⟨_, s, hprepare, fun depth t => ?_, fun depth line env t h => ?_⟩
    · rw [callValue, callContext_isIncremental, ofDepth_scene]
    · exact eval_isIncremental _ depth line h

/-! ### The names of tables -/

theorem callContext_this {m : Machine} (h : m.scene.table ≠ "") (s : Store) :
    (callContext m .this [] []).run s = .ok (.text (qualify m.scene.schema m.scene.table)) s := by
  have htable : m.scene.table.isEmpty = false := by simpa using h
  have hbind : (ContextFunction.this.signature.bind [] []).run s = .ok ⟨[], [], []⟩ s := rfl
  rw [callContext, run_bind_of_ok hbind]
  simp only [htable]
  rfl

theorem qualified_text (scene : Scene) (depth : Nat) (name : String) (s : Store) :
    (qualified (.ofDepth scene (depth + 1)) (.text name)).run s
      = .ok (.text (qualify scene.schema name)) s := by
  rw [qualified, ofDepth_scene]
  by_cases hschema : scene.schema = ""
  · rw [hschema, qualify_empty]
    rfl
  · have hnonempty : scene.schema.isEmpty = false := by simpa using hschema
    rw [hnonempty]
    rfl

/-- Text that a reference is made with, whether the parameter is named or not. -/
def AsName (name : String) (args : List Value) (named : Entries Value) : Prop :=
  (args = [.text name] ∧ named = []) ∨ (args = [] ∧ named = [("model_name", .text name)])

theorem callContext_ref (scene : Scene) (depth : Nat) {name : String} {args : List Value}
    {named : Entries Value} (h : AsName name args named) (s : Store) :
    (callContext (.ofDepth scene (depth + 1)) .ref args named).run s
      = .ok (.text (qualify scene.schema name)) { s with refs := .text name :: s.refs } := by
  have hbind : (ContextFunction.ref.signature.bind args named).run s
      = .ok ⟨[some (.text name)], [], []⟩ s := by
    rcases h with ⟨rfl, rfl⟩ | ⟨rfl, rfl⟩
    · rfl
    · rfl
  have hqualified := qualified_text scene depth name { s with refs := .text name :: s.refs }
  rw [callContext, run_bind_of_ok hbind]
  exact (run_bind_of_ok (run_refer _)).trans hqualified

/-- That a scene has one name for `this()`, and one for every `ref` of a text, wherever they are
    called. -/
structure TellsNames (scene : Scene) (this : String) (ref : String → String) : Prop where
  called : ∀ depth s, (callValue (.ofDepth scene depth) (.context .this) [] []).run s
    = .ok (.text this) s
  calledFor : ∀ depth name args named, AsName name args named → ∀ s,
    (callValue (.ofDepth scene (depth + 1)) (.context .ref) args named).run s
      = .ok (.text (ref name)) { s with refs := .text name :: s.refs }
  evaluated : ∀ depth line env s, (loadName env "this").run s = .ok (.context .this) s →
    ((Machine.ofDepth scene (depth + 2)).eval env (.call (.name "this" line) .none)).run s
      = .ok (.text this) s
  evaluatedFor : ∀ depth line env s t arguments name args named, AsName name args named →
    (loadName env "ref").run s = .ok (.context .ref) s →
    (evalArguments (.ofDepth scene (depth + 2)) env arguments).run s = .ok (args, named) t →
      ((Machine.ofDepth scene (depth + 3)).eval env (.call (.name "ref" line) arguments)).run s
        = .ok (.text (ref name)) { t with refs := .text name :: t.refs }

theorem tellsNames {scene : Scene} (h : scene.table ≠ "") :
    TellsNames scene (qualify scene.schema scene.table) (qualify scene.schema) := by
  have hthis : ∀ depth s, (callContext (.ofDepth scene depth) .this [] []).run s
      = .ok (.text (qualify scene.schema scene.table)) s := by
    intro depth s
    have hcall := callContext_this (m := .ofDepth scene depth) (by rwa [ofDepth_scene]) s
    rwa [ofDepth_scene] at hcall
  constructor
  case called => exact hthis
  case calledFor => exact fun depth _ _ _ hname s => callContext_ref scene depth hname s
  case evaluated =>
    intro depth line env s hf
    have hcalled := eval_call_context scene depth line (f := .this) hf (evalArguments_none ..)
    rw [hthis] at hcalled
    exact hcalled
  case evaluatedFor =>
    intro depth line env s t arguments name args named hname hf harguments
    have hcalled := eval_call_context scene (depth + 1) line (f := .ref) hf harguments
    rw [callContext_ref scene depth hname] at hcalled
    exact hcalled

/-- That a template sees a name in `this()` and names in `ref`: the two stand for the functions
    when a rendering starts, and the scene of the rendering has the names. -/
structure SeesNames (c : Context) (environment : Entries String) (body : List Stmt)
    (this : String) (ref : String → String) : Prop where
  named : ∀ s, ∃ given, (startVariables []).run s = .ok given s
    ∧ Entries.find? given "this" = some (.context .this)
    ∧ Entries.find? given "ref" = some (.context .ref)
  told : ∃ scene s, (prepare c environment (blocksOfAll body)).run {} = .ok scene s
    ∧ TellsNames scene this ref

/-- A template sees names behind the schema of its context, and no others. -/
theorem seesNames_iff {c : Context} (h : c.table ≠ "") (environment : Entries String)
    (body : List Stmt) {this : String} {ref : String → String} :
    SeesNames c environment body this ref
      ↔ this = qualify c.schema c.table ∧ ref = qualify c.schema := by
  obtain ⟨vars, config, s, hprepare⟩ := prepare_ok c environment (blocksOfAll body) {}
  constructor
  · rintro ⟨-, scene, t, hscene, htells⟩
    obtain ⟨rfl, rfl⟩ := EStateM.Result.ok.inj (hprepare.symm.trans hscene)
    have htable : (⟨c.currentModel, c.schema, c.isIncremental, c.table, vars, config, c.sources,
      c.seeds, environment, blocksOfAll body⟩ : Scene).table ≠ "" := h
    have hnames := tellsNames htable
    constructor
    · have hthis := (htells.called 0 {}).symm.trans (hnames.called 0 {})
      exact Value.text.inj (EStateM.Result.ok.inj hthis).1
    · funext name
      have hname : AsName name [.text name] [] := Or.inl ⟨rfl, rfl⟩
      have href := (htells.calledFor 0 name _ _ hname {}).symm.trans
        (hnames.calledFor 0 name _ _ hname {})
      exact Value.text.inj (EStateM.Result.ok.inj href).1
  · rintro ⟨rfl, rfl⟩
    exact ⟨fun s => ⟨_, rfl, by rfl, by rfl⟩, _, s, hprepare, tellsNames h⟩

end SqlPipeline.Template
