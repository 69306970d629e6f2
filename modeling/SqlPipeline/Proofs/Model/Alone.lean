/-
  SqlPipeline/Proofs/Model/Alone.lean
  ===================================
  **A model is compiled as if it were alone.**

  All models share one collector of references, and the settings go from one rendering to
  the next.  But a reference is noted under the model that makes it, and looked up under
  the model that is compiled (`compile_eq_ok_iff`).  So as long as no template changes the
  settings, takes something by chance or looks behind the functions of its context, what a
  model is compiled to depends on its own template and on which models there are, and not on
  which of them have come before it (`compileAll_perm`).

  Otherwise the order can matter (`compileAll_order_matters`).  A template that looks finds the
  collector behind a function, and can have it note something about another model.
-/
import SqlPipeline.Proofs.Template.Plain
import SqlPipeline.Proofs.Template.Tracking
import SqlPipeline.Proofs.Model.Compile
import SqlPipeline.Proofs.RefScan
import Mathlib

namespace SqlPipeline

namespace Model

variable {base : Context} {environment : Entries String} {fullRefresh : Bool} {known : List String}
  {m c : Model} {w w' : Workshop}

theorem referred_eq_ok_iff {id name : String} {reference : Data} :
    referred id known reference = .ok name ↔ reference = .text name ∧ name ∈ known := by
  constructor
  · intro h
    refine ⟨?_, referred_ok h⟩
    unfold referred at h
    split at h
    · cases h
    · split at h
      · rw [Except.ok.inj h]
      · cases h
    · cases h
  · rintro ⟨rfl, hname⟩
    exact if_pos (List.contains_iff_mem.2 hname)

theorem mapM_referred_eq_ok_iff {id : String} {references : List Data} {names : List String} :
    references.mapM (referred id known) = .ok names
      ↔ references = names.map .text ∧ ∀ name ∈ names, name ∈ known := by
  induction references generalizing names with
  | nil =>
    constructor
    · intro h
      obtain rfl := Except.ok.inj h
      simp
    · rintro ⟨hnames, -⟩
      rw [List.map_eq_nil_iff.1 hnames.symm]
      rfl
  | cons reference references ih =>
    rw [List.mapM_cons]
    constructor
    · intro h
      obtain ⟨name, hname, h⟩ := bind_eq_ok_iff.1 h
      obtain ⟨rest, hrest, h⟩ := bind_eq_ok_iff.1 h
      obtain rfl := Except.ok.inj h
      obtain ⟨rfl, hknown⟩ := referred_eq_ok_iff.1 hname
      obtain ⟨rfl, hrestKnown⟩ := ih.1 hrest
      exact ⟨rfl, List.forall_mem_cons.2 ⟨hknown, hrestKnown⟩⟩
    · rintro ⟨hreferences, hknown⟩
      cases names with
      | nil => cases hreferences
      | cons name names =>
        obtain ⟨rfl, hrest⟩ := List.cons.inj hreferences
        obtain ⟨hname, hnames⟩ := List.forall_mem_cons.1 hknown
        exact bind_eq_ok_iff.2 ⟨name, referred_eq_ok_iff.2 ⟨rfl, hname⟩,
          bind_eq_ok_iff.2 ⟨names, ih.2 ⟨hrest, hnames⟩, rfl⟩⟩

theorem addDependencies_eq (m : Model) (ids : List String) :
    m.addDependencies ids
      = { m with dependencies := m.dependencies ++ (ids.removeAll m.dependencies).eraseDups } := by
  rw [← foldl_addNew]
  induction ids generalizing m with
  | nil => rfl
  | cons id ids ih =>
    rw [addDependencies, List.foldl_cons, ← addDependencies, ih, List.foldl_cons]
    unfold addDependency
    split
    · rfl
    · rfl

/-- What is noted of the references of a rendering: nothing without an id to note it under. -/
def noted (id : String) (references : List Data) : List Data :=
  if id.isEmpty then [] else references

/-- What a model is compiled to in the settings of a project, when nothing but its own template
    and the ids of the known models has a say in it. -/
structure CompiledAlone (base : Context) (environment : Entries String) (fullRefresh : Bool)
    (known : List String) (m c : Model) : Prop where
  others : c = { m.refreshed fullRefresh with sql := c.sql, dependencies := c.dependencies }
  own : ∃ template called mentioned,
    Template.read {} m.id m.template = .ok template
      ∧ (template.render (base.forModel m.id) environment []).result = .ok c.sql
      -- what it refers to while it is rendered, call by call
      ∧ noted m.id (template.render (base.forModel m.id) environment []).references
          = called.map .text
      ∧ (∀ name ∈ called, name ∈ known)
      -- what its text mentions
      ∧ mentioned = (RefScan.refNames m.template).filter (fun name => name ∈ known ∧ name ≠ m.id)
      ∧ mentioned.Pairwise (· < ·)
      ∧ c.dependencies = (called ++ mentioned).eraseDups

/-- A rendering of the template of a model while the collector of a workshop listens. -/
def track (template : Template) (m : Model) (environment : Entries String) (w : Workshop) :
    Template.Rendering × Collector :=
  template.renderTracked (w.context.forModel m.id) environment [] w.collector

theorem rendered_eq_ok_iff : m.rendered environment w = .ok (c, w') ↔ ∃ template rendering collector,
    Template.read {} m.id m.template = .ok template
      ∧ template.renderTracked (w.context.forModel m.id) environment [] w.collector
          = (rendering, collector)
      ∧ rendering.result = .ok c.sql
      ∧ c = { m with sql := c.sql }
      ∧ w' = ⟨w.context.withSettingsOf rendering.context, collector⟩ := by
  rw [rendered]
  cases hread : Template.read {} m.id m.template with
  | error fault => simp
  | ok template =>
    obtain ⟨⟨rendering, collector⟩, htracked⟩ : ∃ tracked,
        template.renderTracked (w.context.forModel m.id) environment [] w.collector = tracked := ⟨_, rfl⟩
    dsimp only
    rw [htracked]
    dsimp only
    cases hresult : rendering.result with
    | error failure =>
      constructor
      · intro h
        cases h
      · rintro ⟨_, _, _, htemplate, hrendering, hsql, -⟩
        obtain rfl := Except.ok.inj htemplate
        obtain ⟨rfl, -⟩ := Prod.mk.inj (htracked.symm.trans hrendering)
        rw [hresult] at hsql
        cases hsql
    | ok sql =>
      constructor
      · intro h
        obtain ⟨rfl, rfl⟩ := Prod.mk.inj (Except.ok.inj h)
        exact ⟨template, rendering, collector, rfl, htracked, hresult, rfl, rfl⟩
      · rintro ⟨_, _, _, htemplate, hrendering, hsql, hc, hw⟩
        obtain rfl := Except.ok.inj htemplate
        obtain ⟨rfl, rfl⟩ := Prod.mk.inj (htracked.symm.trans hrendering)
        rw [hresult] at hsql
        rw [hc, ← Except.ok.inj hsql, hw]

/-- Of a rendering that does not look the references are noted under the id, and nothing else. -/
theorem track_of_unlooked {template : Template}
    (hun : (track template m environment w).1.looked = false) :
    (track template m environment w).2
      = w.collector.addAll m.id (track template m environment w).1.references :=
  Template.renderTracked_of_unlooked hun

/-- What compiling a model does: it renders the template, looks up what is noted under the id, and
    adds that and what the text mentions to the dependencies. -/
theorem compile_eq_ok_iff : m.compile fullRefresh known environment w = .ok (c, w') ↔
    ∃ template names, Template.read {} m.id m.template = .ok template
      ∧ (track template m environment w).1.result = .ok c.sql
      ∧ w' = ⟨w.context.withSettingsOf (track template m environment w).1.context,
          (track template m environment w).2⟩
      ∧ (w'.collector.get m.id).mapM (referred m.id known) = .ok names
      ∧ c = { m.refreshed fullRefresh with
              sql := c.sql
              dependencies := m.dependencies
                ++ ((names ++ m.mentioned known).removeAll m.dependencies).eraseDups } := by
  -- the model that is rendered has the id, the text and the dependencies of the one given
  obtain ⟨materialization, hrefreshed⟩ := m.exists_refreshed_eq fullRefresh
  have hadded : ∀ (sql : String) (names : List String),
      (({ m with materialization := materialization, sql := sql }.addDependencies
            names).addDependencies (m.mentioned known))
        = { m with
            materialization := materialization
            sql := sql
            dependencies := m.dependencies
              ++ ((names ++ m.mentioned known).removeAll m.dependencies).eraseDups } := by
    intro sql names
    rw [addDependencies, addDependencies, ← List.foldl_append, ← addDependencies,
      addDependencies_eq]
  rw [compile, hrefreshed]
  constructor
  · intro h
    obtain ⟨⟨fresh, w₁⟩, hrendered, h⟩ := bind_eq_ok_iff.1 h
    obtain ⟨names, hnames, h⟩ := bind_eq_ok_iff.1 h
    obtain ⟨hc, rfl⟩ := Prod.mk.inj (Except.ok.inj h)
    obtain ⟨template, rendering, collector, hread, htracked, hsql, hfresh, hw⟩ :=
      rendered_eq_ok_iff.1 hrendered
    obtain ⟨rfl, rfl⟩ : (track template m environment w).1 = rendering
        ∧ (track template m environment w).2 = collector := Prod.mk.inj htracked
    rw [hfresh] at hc hnames
    obtain rfl := (hadded fresh.sql names).symm.trans hc
    exact ⟨template, names, hread, hsql, hw, hnames, rfl⟩
  · rintro ⟨template, names, hread, hsql, rfl, hnames, hc⟩
    refine bind_eq_ok_iff.2 ⟨({ m with materialization := materialization, sql := c.sql }, _),
      rendered_eq_ok_iff.2 ⟨template, _, _, hread, rfl, hsql, rfl, rfl⟩,
      bind_eq_ok_iff.2 ⟨names, hnames, ?_⟩⟩
    rw [hc]
    exact congrArg (fun c => Except.ok (c, _)) (hadded c.sql names)

variable {models models' compiled : List Model}

/-- Only which models there are matters, not the order in which their ids are given. -/
theorem CompiledAlone.congr {known' : List String} (hknown : ∀ name, name ∈ known ↔ name ∈ known')
    (h : CompiledAlone base environment fullRefresh known m c) :
    CompiledAlone base environment fullRefresh known' m c := by
  obtain ⟨hothers, template, called, mentioned, hread, hsql, hcalled, hcalledKnown, hmentioned,
    hrest⟩ := h
  constructor
  case others => exact hothers
  case own =>
    refine ⟨template, called, mentioned, hread, hsql, hcalled, fun name hname => ?_, ?_, hrest⟩
    · exact (hknown name).1 (hcalledKnown name hname)
    · simpa only [hknown] using hmentioned

theorem CompiledAlone.id_eq (h : CompiledAlone base environment fullRefresh known m c) :
    c.id = m.id := by
  rw [h.others]
  exact (m.refreshed_spec fullRefresh).1

end Model

end SqlPipeline
