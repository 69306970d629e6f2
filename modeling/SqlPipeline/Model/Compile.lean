/-
  SqlPipeline/Model/Compile.lean
  ==============================
  **Compiling models: rendering their templates and finding out what they read.**

  A model depends on what it refers to while it is rendered, and on what its template
  mentions in branches that are not taken yet.
-/
import SqlPipeline.Model
import SqlPipeline.Collector
import SqlPipeline.RefScan
import SqlPipeline.Template.Render

namespace SqlPipeline

inductive CompileError where
  | template (id message : String)
  | unknownModel (id : String) (reference : Data)
  | noName (reference : Data)                        -- a collection, where a name is meant
  | undefined (message : String)                     -- nothing at all, where a name is meant
  | oversight (o : Template.Oversight)               -- in a template
deriving Inhabited

namespace CompileError

def message : CompileError → String
  | template id message => s!"failed to compile model {id}: {message}"
  | unknownModel id reference => s!"model {id} references unknown model {reference.shown}"
  | noName reference => s!"unhashable type: '{reference.kindName}'"
  | undefined message => message
  | oversight o => o.message

/-- Whether an error is reported as one of compiling models; the others are handled by no part of
    the program. -/
def isReported : CompileError → Bool
  | template _ _ | unknownModel _ _ => true
  | noName _ | undefined _ | oversight _ => false

/-- The error that it is when the template of a model cannot be read. -/
def ofSyntaxError (id : String) : Template.SyntaxError → CompileError
  | .oversight o => oversight o
  | fault => template id fault.message

end CompileError

namespace Model

/-! ### Rendering -/

/-- Where models are compiled: the settings as the templates so far have left them, and what
    they have referred to. -/
structure Workshop where
  context : Context := {}
  collector : Collector := {}
deriving Inhabited

/-- A model that is to be rebuilt from scratch, if it is one that could be added to. -/
def refreshed (m : Model) (fullRefresh : Bool) : Model :=
  if fullRefresh && m.isIncremental then
    { m with materialization := { m.materialization with fullRefresh := true } }
  else m

def rendered (m : Model) (environment : Entries String) (w : Workshop) :
    Except CompileError (Model × Workshop) :=
  match Template.read {} m.id m.template with
  | .error fault => .error (.ofSyntaxError m.id fault)
  | .ok template =>
      let (rendering, collector) :=
        template.renderTracked (w.context.forModel m.id) environment [] w.collector
      match rendering.result with
      | .error failure => .error (.template m.id failure.message)
      | .ok sql =>
          .ok ({ m with sql := sql },
            { context := w.context.withSettingsOf rendering.context, collector := collector })

/-! ### Dependencies -/

def changingKinds : List String :=
  ["dict_keys", "dict_items", "_FunctionScope", "RenderContext"]

/-- Why data cannot be looked up among names: it is a collection or has no value, or that is so
    within a tuple. -/
def unfit? : Data → Option CompileError
  | .list items => some (.noName (.list items))
  | .set items => some (.noName (.set items))
  | .map entries => some (.noName (.map entries))
  | .thing kind form => if changingKinds.contains kind then some (.noName (.thing kind form)) else none
  | .undefined message => some (.undefined message)
  | .tuple items => firstUnfit? items
  | _ => none
where
  firstUnfit? : List Data → Option CompileError
    | [] => none
    | d :: rest =>
        match unfit? d with
        | some e => some e
        | none => firstUnfit? rest

def referred (id : String) (known : List String) (reference : Data) : Except CompileError String :=
  match unfit? reference, reference with
  | some e, _ => .error e
  | none, .text name =>
      if known.contains name then .ok name else .error (.unknownModel id reference)
  | none, _ => .error (.unknownModel id reference)

def mentioned (m : Model) (known : List String) : List String :=
  (RefScan.refNames m.template).filter fun name => known.contains name && name != m.id

def compile (m : Model) (fullRefresh : Bool) (known : List String) (environment : Entries String)
    (w : Workshop) : Except CompileError (Model × Workshop) := do
  let (m, w) ← (m.refreshed fullRefresh).rendered environment w
  let referredTo ← (w.collector.get m.id).mapM (referred m.id known)
  return ((m.addDependencies referredTo).addDependencies (m.mentioned known), w)

def compileEach (fullRefresh : Bool) (known : List String) (environment : Entries String) (w : Workshop) :
    List Model → Except CompileError (List Model × Workshop)
  | [] => .ok ([], w)
  | m :: rest => do
      let (m, w) ← m.compile fullRefresh known environment w
      let (rest, w) ← compileEach fullRefresh known environment w rest
      return (m :: rest, w)

/-- Compiles models that may refer to each other; gives also the settings as the templates
    leave them. -/
def compileAll (models : List Model) (context : Context) (environment : Entries String)
    (fullRefresh : Bool) : Except CompileError (List Model × Context) := do
  let (models, w) ← compileEach fullRefresh (models.map (·.id)) environment { context := context } models
  return (models, w.context)

end Model

end SqlPipeline
