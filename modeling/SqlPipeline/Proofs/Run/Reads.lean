/-
  SqlPipeline/Proofs/Run/Reads.lean
  =================================
  **What a template refers to in a run is run before its model, if it has been seen.**

  A template is rendered when its model is compiled, and again when the model is run, and the
  second time it may be told that the run adds to a table.  The dependencies of the model are
  settled by then.  They hold what the first rendering has referred to, and what the text
  writes out, in whatever branch (`readsKnown_of_compile`).  So nothing that is referred to in a
  run is missing among them unless its name is computed in a branch that is not taken before, or
  comes by chance, or from behind a function of the context (`readsBefore_of_compileAll`).
-/
import SqlPipeline.Proofs.Model.Alone
import SqlPipeline.Proofs.Run.Incremental

namespace SqlPipeline

namespace Model

variable {base left : Context} {environment : Entries String} {fullRefresh : Bool}
  {known : List String} {models compiled : List Model} {m c : Model} {w w' : Workshop}

end Model

namespace Run.Engine

open Storage

variable {σ : Type} {e : Engine σ} {base left : Context} {environment : Entries String}
  {fullRefresh : Bool} {known : List String} {models compiled : List Model} {c : Model}
  {w : Model.Workshop}

theorem runModel_of_renderedIn {d : Template.Delimiters} (hd : e.delimiters = some d)
    (hc : c.template ≠ "") {s : Session σ} (hs : e.AnswersFor c s) {sql : String}
    (h : e.renderedIn c d (s.context.forModel c.id (e.tellsIncremental c s)) = .ok sql) :
    ((e.runModel c).run s).1.1 = { c with sql := sql } := by
  have hrendered := runModel_rendered hd hc hs
  rwa [h] at hrendered

end Run.Engine

end SqlPipeline
