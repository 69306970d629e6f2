/-
  SqlPipeline/Proofs/Run/Names.lean
  =================================
  **The names that templates see are those of the tables that the engine makes.**

  The name of a model's table is made up twice: by the engine, from its own schema, and by
  `this()` and `ref`, from the schema of the context.  No rendering changes the latter, so the
  names agree through a whole run exactly when the two schemas are the same at its start
  (`namesAgree`).  Commands see to that; whoever builds an engine with a context of their own
  has to do so as well.
-/
import SqlPipeline.Command.Models
import SqlPipeline.Proofs.Run.Apart
import SqlPipeline.Proofs.Run.Context
import SqlPipeline.Proofs.Run.Reads

namespace SqlPipeline

namespace Run

variable {σ : Type}

namespace Engine

variable {e : Engine σ} {m : Model}

/-! ### Names in a run -/

/-- A template may change the settings, but not the schema. -/
theorem schema_reached (visited : List Model) (start : Session σ) :
    (e.reached visited start).context.schema = start.context.schema := by
  have hkeeps : ∀ m ∈ visited, e.RenderingKeeps (·.schema = start.context.schema) m := by
    intro m _ d template incremental c _ _ hschema
    exact hschema
  exact reached_keeps hkeeps rfl

theorem seesNames_iff_schema (hm : Identifier.isValid m.id = true) (c : Context) (seen : Bool)
    (body : List Template.Stmt) :
    Template.SeesNames (c.forModel m.id seen) e.environment body (e.targetName m)
        (qualify e.schema) ↔ c.schema = e.schema := by
  have hid : (c.forModel m.id seen).table ≠ "" := Identifier.ne_empty_of_isValid hm
  rw [Template.seesNames_iff hid]
  have hthis : e.targetName m = qualify (c.forModel m.id seen).schema (c.forModel m.id seen).table
      ↔ e.schema = c.schema := qualify_eq_qualify_iff (Identifier.dot_notMem hm)
  constructor
  · rintro ⟨h, -⟩
    exact (hthis.1 h).symm
  · intro h
    refine ⟨hthis.2 h.symm, ?_⟩
    rw [← h]
    rfl

/-- What the table or view of a model is called when the model is run, by the engine and by its
    template. -/
structure NamesAgree (e : Engine σ) (d : Template.Delimiters) (m : Model) (start s : Session σ) :
    Prop where
  -- the engine asks for it, and makes it, under one name, which can be taken apart again
  asked : ∀ name, .tableExists name ∈ e.modelRequests m s → name = e.targetName m
  touched : ∀ relation ∈ e.touched ((e.runModel m).run s).1.1, relation = e.targetName m
    ∨ m.materialization.isIncrementalRun = true ∧ relation = m.id ++ Strategy.stageSuffix
  split : splitQualified (e.targetName m) = (e.schema, m.id)
  -- the template is rendered, and what comes of it is sent,
  rendered : m.template ≠ "" → e.AnswersFor m s →
    match e.renderedIn m d (s.context.forModel m.id (e.tellsIncremental m s)) with
    | .ok sql => ((e.runModel m).run s).1.1 = { m with sql := sql }
    | .error _ => ((e.runModel m).run s).1.1 = m ∧ e.executed m s = []
  executed : Sql.isRawStatement ((e.runModel m).run s).1.1.sql = false → ∀ sql ∈ e.executed m s,
    ∃ statement ∈ e.generated ((e.runModel m).run s).1.1, statement.text = sql
  -- where `this()` is that name, and `ref` gives the names of the others, if the schemas agree
  sees_iff : ∀ template, Template.read d m.id m.template = .ok template →
    (Template.SeesNames (s.context.forModel m.id (e.tellsIncremental m s)) e.environment
        template.body (e.targetName m) (qualify e.schema) ↔ start.context.schema = e.schema)

/-- **The names that templates see are those of the engine,** throughout a run, exactly when the
    context that the engine was given has the schema of the engine. -/
theorem namesAgree {d : Template.Delimiters} (hd : e.delimiters = some d)
    (hm : Identifier.isValid m.id = true) (visited : List Model) (start : Session σ) :
    NamesAgree e d m start (e.reached visited start) := by
  constructor
  case asked => exact fun name h => name_of_mem_modelRequests h
  case touched =>
    intro relation h
    have hrendered := (e.runModel_gives m (e.reached visited start)).1
    obtain ⟨-, hname⟩ := mem_touched_iff.1 h
    rw [hrendered.materialization_eq, targetName, hrendered.id_eq, ← targetName,
      stageName_targetName hm] at hname
    exact hname
  case split => exact splitQualified_qualify _ (Identifier.dot_notMem hm)
  case rendered => exact fun htemplate h => runModel_rendered hd htemplate h
  case executed => exact fun hraw sql h => exists_generated_of_mem_executed hraw h
  case sees_iff =>
    intro template _
    rw [seesNames_iff_schema hm, schema_reached]

/-! ### A schema that is given to the engine only -/

/-- The engine whose tables are in a schema. -/
def intoMart : Engine Unit :=
  { obliging with schema := "mart" }

/-- A model that reads its own table. -/
def ownReader : Model :=
  { growing with template := "FROM \x7b\x7bthis()\x7d\x7d" }

def ownReaderBody : List Template.Stmt :=
  [.output [.data "FROM ", .expr (.call (.name "this" 1) .none)]]

theorem read_ownReader : Template.read {} ownReader.id ownReader.template
    = .ok ⟨"orders", ownReaderBody⟩ := by cbv

/-- The start of a run whose context has the schema too. -/
def startInMart : Session Unit :=
  ⟨(), { schema := "mart" }, []⟩

theorem namesAgree_ownReader : intoMart.delimiters = some {}
    ∧ Identifier.isValid ownReader.id = true
    ∧ NamesAgree intoMart {} ownReader startInMart (intoMart.reached [growing] startInMart)
    -- here the schemas agree, so that the template sees the names
    ∧ Template.SeesNames ((intoMart.reached [growing] startInMart).context.forModel "orders"
        (intoMart.tellsIncremental ownReader (intoMart.reached [growing] startInMart))) []
        ownReaderBody "mart.orders" (qualify "mart") := by
  have hvalid : Identifier.isValid ownReader.id = true := by decide
  have hagree := namesAgree (e := intoMart) rfl hvalid [growing] startInMart
  exact ⟨rfl, hvalid, hagree, (hagree.sees_iff _ read_ownReader).2 rfl⟩

/-- **A schema that only the engine is given is not seen by templates:** here the model reads
    another table than the engine makes. -/
theorem schema_not_seen : Identifier.isValid ownReader.id = true
    ∧ intoMart.targetName ownReader = "mart.orders"
    ∧ ((intoMart.runModel ownReader).run ⟨(), {}, []⟩).1.1.sql = "FROM orders"
    ∧ ¬ Template.SeesNames (Context.forModel {} "orders" true) [] ownReaderBody
        (intoMart.targetName ownReader) (qualify intoMart.schema) := by
  have hvalid : Identifier.isValid ownReader.id = true := by decide
  have hrender : (⟨"orders", ownReaderBody⟩ : Template).render (Context.forModel {} "orders" true)
      [] [] = ⟨.ok "FROM orders", [], Context.forModel {} "orders" true, false, false⟩ := rfl
  have hrendered : intoMart.renderedIn ownReader {} (Context.forModel {} "orders" true)
      = .ok "FROM orders" := by
    simp only [renderedIn, read_ownReader]
    exact congrArg (fun r => Except.mapError _ (Template.Rendering.result r)) hrender
  refine ⟨hvalid, by decide, ?_, fun hsees => ?_⟩
  · exact congrArg Model.sql
      (runModel_of_renderedIn rfl (by decide) (fun escape h => by cases h) hrendered)
  · have hschema := (seesNames_iff_schema (e := intoMart) hvalid {} true ownReaderBody).1 hsees
    exact absurd hschema (by decide)

end Engine

end Run

/-! ### Commands -/

namespace Model

variable {models compiled : List Model} {known : List String} {environment : Entries String}
  {fullRefresh : Bool}

theorem compileEach_schema {w w' : Workshop}
    (h : compileEach fullRefresh known environment w models = .ok (compiled, w')) :
    w'.context.schema = w.context.schema := by
  induction models generalizing w compiled with
  | nil =>
    obtain ⟨-, rfl⟩ := Prod.mk.inj (Except.ok.inj h)
    rfl
  | cons m models ih =>
    obtain ⟨⟨c, w₁⟩, hm, h⟩ := bind_eq_ok_iff.1 h
    obtain ⟨⟨rest, w₂⟩, hrest, h⟩ := bind_eq_ok_iff.1 h
    obtain ⟨-, rfl⟩ := Prod.mk.inj (Except.ok.inj h)
    obtain ⟨_, _, -, -, rfl, -, -⟩ := compile_eq_ok_iff.1 hm
    -- only the settings of the context are new
    have hschema := ih hrest
    exact hschema

theorem compileAll_schema {base left : Context}
    (h : compileAll models base environment fullRefresh = .ok (compiled, left)) :
    left.schema = base.schema := by
  obtain ⟨⟨compiled, w⟩, hcompiled, h⟩ := bind_eq_ok_iff.1 h
  obtain ⟨-, rfl⟩ := Prod.mk.inj (Except.ok.inj h)
  exact compileEach_schema hcompiled

end Model

/-- **A command runs models with a context that has the schema of the engine.** -/
theorem Task.schema_of_compiled {δ : Type} {files : FileTree} {environment : Environment}
    {project : Project} {select : Option String} {fullRefresh : Bool}
    {found : Except FilesError (List Model)} {models : List Model} {context : Context}
    (h : Task.compiled files environment project select fullRefresh found = .ok (models, context))
    (d : Storage.Driver δ) : context.schema = (Task.engineFor d project environment).schema := by
  obtain ⟨seeds, -, h⟩ := bind_eq_ok_iff.1 h
  obtain ⟨found, -, h⟩ := bind_eq_ok_iff.1 h
  obtain ⟨⟨compiled, left⟩, hcompiled, h⟩ := bind_eq_ok_iff.1 h
  have hleft : left.schema = project.schema :=
    Model.compileAll_schema (mapError_eq_ok_iff.1 hcompiled)
  dsimp only at h
  split at h
  · obtain ⟨-, rfl⟩ := Prod.mk.inj (Except.ok.inj h)
    exact hleft
  · obtain ⟨-, rfl⟩ := Prod.mk.inj (Except.ok.inj h)
    exact hleft
  · obtain ⟨selected, -, h⟩ := bind_eq_ok_iff.1 h
    obtain ⟨-, rfl⟩ := Prod.mk.inj (Except.ok.inj h)
    exact hleft

end SqlPipeline
