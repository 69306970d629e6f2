/-
  SqlPipeline/Template/Render.lean
  ================================
  **Templates of SQL queries, and rendering them.**

  A rendering gives a text or fails, and in both cases tells what the template referred
  to, what it has made of the variables and settings that it was given, and whether it took
  something by chance or looked behind the functions of its context.  A collector may listen
  to the references while they are made.
-/
import SqlPipeline.Template.Execute
import SqlPipeline.Template.Exchange
import SqlPipeline.Template.ReadStmt
import SqlPipeline.Template.Check

namespace SqlPipeline

open Template

/-- A template that has been read. -/
structure Template where
  name : String
  body : List Template.Stmt

namespace Template

/-! ### Reading -/

/-- Why a text is no template. -/
inductive SyntaxError where
  | delimitersClash
  | fault (name : String) (fault : Fault)
  | oversight (o : Oversight)
deriving Repr, DecidableEq

def SyntaxError.message : SyntaxError → String
  | delimitersClash => "block, variable and comment start strings must be different."
  | fault name f =>
      "template " ++ Text.quoted name ++ s!" has invalid syntax (line {f.line}): " ++ f.cause.message
  | oversight o => o.message

/-- The error that a fault is; an oversight is not told as a fault of the template. -/
def SyntaxError.ofFault (name : String) (f : Fault) : SyntaxError :=
  match f.cause with
  | .oversight o => .oversight o
  | _ => .fault name f

def vocabulary : Vocabulary :=
  ⟨isFilter, isTest⟩

def read (d : Delimiters) (name text : String) : Except SyntaxError Template :=
  if !d.areDistinct then .error .delimitersClash
  else
    match parse d text with
    | .error f => .error (.ofFault name f)
    | .ok body =>
        match vocabulary.firstFault? body with
        | some f => .error (.ofFault name f)
        | none => .ok ⟨name, body⟩

/-! ### Rendering -/

/-- Why a rendering gives no text. -/
inductive RenderError where
  | noTemplate
  | failed (name : String) (failure : Failure)
deriving Repr, DecidableEq

def RenderError.message : RenderError → String
  | noTemplate => "no template to render"
  | failed name failure => "template " ++ Text.quoted name ++ " execution failed: " ++ failure.message

structure Rendering where
  result : Except RenderError String
  references : List Data            -- in the order in which they were made
  context : Context                 -- as the template left it
  drew : Bool                       -- whether something came by chance
  looked : Bool                     -- whether the template looked behind a value

def globals : Entries Value :=
  [("range", .function .range), ("dict", .function .dict), ("lipsum", .function .lipsum),
    ("cycler", .function .cycler), ("joiner", .function .joiner), ("namespace", .function .space)]

def contextFunctions : Entries Value :=
  ContextFunction.all.map fun f => (f.name, .context f)

def depthLimit : Nat := 3000

def prepare (c : Context) (environment : Entries String) (blocks : List Block) : Eval Scene := do
  return { currentModel := c.currentModel, schema := c.schema, isIncremental := c.isIncremental, table := c.table,
           vars := ← loadNamed c.vars, config := ← loadNamed c.config, sources := c.sources, seeds := c.seeds,
           environment := environment, blocks := blocks }

/-- The variables that a template starts with: functions of the context hide data of their
    names, and data hides general functions. -/
def startVariables (data : Entries Data) : Eval (Entries Value) := do
  let own ← data.mapM fun (n, d) => do return (n, ← load d)
  return Entries.overlay (Entries.overlay globals own) contextFunctions

def renderBody (m : Machine) (data : Entries Data) (body : List Stmt) : Eval String := do
  let given ← startVariables data
  modify fun s => { s with vars := #[⟨given, []⟩] }
  let params := if usesFree "self" (mentionsOfAll body) then ["self"] else []
  let env ← enterWith ⟨[], 0, false, true⟩ (fun outer => Scope.ofBody outer params body) [("self", .self)]
  return String.join (← m.render { env with isTop := true } body)

def Rendering.ofStore (c : Context) (scene : Scene) (s : Store) (result : Except RenderError String) :
    Rendering :=
  { result := result
    references := s.refs.reverse.map (s.data Memory.depth)
    context := { c with vars := s.named scene.vars, config := s.named scene.config, outside := s.outside }
    drew := s.drew
    looked := s.looked }

def Rendering.ofResult (t : Template) (c : Context) (scene : Scene) :
    EStateM.Result Failure Store String → Rendering
  | .ok text s => .ofStore c scene s (.ok text)
  | .error failure s => .ofStore c scene s (.error (.failed t.name failure))

def notesOf (notes : Notes) : EStateM.Result Failure Store String → List (Data × Data)
  | .ok _ s | .error _ s => notes.map fun (model, v) => (s.data Memory.depth model, s.data Memory.depth v)

/-- Renders a template in a context, with data as its variables; tells also what a collector that
    listens has noted. -/
def renderTo (t : Template) (audience : Option Audience) (c : Context) (environment : Entries String)
    (data : Entries Data) : Rendering × List (Data × Data) :=
  match (prepare c environment (blocksOfAll t.body) {}).follow audience { outside := c.outside } [] with
  | (.error failure s, _) =>
      (⟨.error (.failed t.name failure), [], c, s.drew, s.looked⟩, [])
  | (.ok scene s, notes) =>
      let (result, notes) :=
        (renderBody (.ofDepth scene depthLimit) data t.body s.toMemory).follow audience s.toTrace notes
      (.ofResult t c scene result, notesOf notes result)

def render (t : Template) (c : Context) (environment : Entries String) (data : Entries Data) : Rendering :=
  (t.renderTo none c environment data).1

/-- Renders a template while a collector listens; gives the collector as it is then. -/
def renderTracked (t : Template) (c : Context) (environment : Entries String) (data : Entries Data)
    (collector : Collector) : Rendering × Collector :=
  let (rendering, notes) := t.renderTo (some ⟨collector, c.currentModel⟩) c environment data
  (rendering, collector.addNotes notes)

def callFunction (f : ContextFunction) (c : Context) (environment : Entries String) (args : List Data)
    (named : Entries Data) : Except Failure Data :=
  let run : Eval Value := do
    let scene ← prepare c environment []
    let args ← loadAll args
    let named ← named.mapM fun (n, d) => do return (n, ← load d)
    callContext (.ofDepth scene depthLimit) f args named
  match run.run {} with
  | .ok v s => .ok (s.data Memory.depth v)
  | .error failure _ => .error failure

end Template

end SqlPipeline
