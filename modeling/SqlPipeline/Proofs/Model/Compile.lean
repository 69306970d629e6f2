/-
  SqlPipeline/Proofs/Model/Compile.lean
  =====================================
  **Compiled models depend on each other only.**

  The files of a project define models with distinct ids and without dependencies, however
  many directories they are found in (`discover_ok`).  Compiling adds dependencies from two
  sides, from what a template refers to while it is rendered and from what its text
  mentions, and either way only ids of models that are compiled (`compile_ok`).
-/
import SqlPipeline.Model.Compile
import SqlPipeline.Model.Files
import SqlPipeline.Proofs.Entries
import SqlPipeline.Proofs.Model.Select
import SqlPipeline.Proofs.Outcome

namespace SqlPipeline

namespace Model

/-! ### The models that files define -/

section Files

variable {files : FileTree} {earlier : Entries String} {paths directories : List Path}
  {path : Path} {m : Model} {models : List Model}

/-- A file defines a model when its name is an identifier that is new and its text can be read
    and asks for a materialization. -/
theorem ofFile_eq_ok_iff :
    ofFile files earlier path = .ok m ↔ ∃ text materialization,
      Identifier.isValid path.stem = true ∧ path.stem ∉ earlier.names
        ∧ files.readText path = .ok text ∧ Sql.materialization text = .ok materialization
        ∧ m = ⟨path.stem, path.text, "", Sql.query text, materialization, [], []⟩ := by
  constructor
  · intro h
    obtain ⟨id, hid, h⟩ := bind_eq_ok_iff.1 h
    obtain ⟨hvalid, rfl⟩ := Identifier.validate_eq_ok_iff.1 (mapError_eq_ok_iff.1 hid)
    cases hfind : Entries.find? earlier path.stem with
    | some first =>
      rw [hfind] at h
      cases h
    | none =>
      rw [hfind] at h
      obtain ⟨text, htext, h⟩ := bind_eq_ok_iff.1 h
      obtain ⟨materialization, hmaterialization, h⟩ := bind_eq_ok_iff.1 h
      refine ⟨text, materialization, hvalid, ?_, mapError_eq_ok_iff.1 htext,
        mapError_eq_ok_iff.1 hmaterialization, (Except.ok.inj h).symm⟩
      rw [← Entries.find?_isSome_iff, hfind]
      exact Bool.false_ne_true
  · rintro ⟨text, materialization, hvalid, hnew, htext, hmaterialization, rfl⟩
    have hfind : Entries.find? earlier path.stem = none := by
      rwa [← Entries.find?_isSome_iff, Option.not_isSome_iff_eq_none] at hnew
    unfold ofFile
    rw [Identifier.validate_eq_ok_iff.2 ⟨hvalid, rfl⟩, htext]
    simp only [Except.mapError, bind, Except.bind, hfind, hmaterialization]
    rfl

/-- Models as files define them: with distinct ids that are new, and without dependencies. -/
structure Fresh (earlier : Entries String) (models : List Model) : Prop where
  nodup_ids : (models.map (·.id)).Nodup
  new : ∀ m ∈ models, m.id ∉ earlier.names
  independent : ∀ m ∈ models, m.dependencies = []

theorem Fresh.nil : Fresh earlier [] := by
  constructor <;> simp

/-- Fresh models in front of others that are fresh after them. -/
theorem Fresh.append {later : Entries String} {rest : List Model} (h : Fresh earlier models)
    (hrest : Fresh later rest)
    (hlater : ∀ id, id ∈ later.names ↔ id ∈ earlier.names ∨ id ∈ models.map (·.id)) :
    Fresh earlier (models ++ rest) := by
  constructor
  case nodup_ids =>
    rw [List.map_append, List.nodup_append]
    refine ⟨h.nodup_ids, hrest.nodup_ids, fun id hid other hother heq => ?_⟩
    obtain ⟨m, hm, rfl⟩ := List.mem_map.1 hother
    exact hrest.new m hm ((hlater _).2 (Or.inr (heq ▸ hid)))
  case new =>
    intro m hm
    rcases List.mem_append.1 hm with hm | hm
    · exact h.new m hm
    · exact fun hold => hrest.new m hm ((hlater _).2 (Or.inl hold))
  case independent =>
    intro m hm
    rcases List.mem_append.1 hm with hm | hm
    · exact h.independent m hm
    · exact hrest.independent m hm

theorem ofFiles_ok (h : ofFiles files earlier paths = .ok models) : Fresh earlier models := by
  induction paths generalizing earlier models with
  | nil =>
    obtain rfl := Except.ok.inj h
    exact .nil
  | cons path paths ih =>
    obtain ⟨m, hm, h⟩ := bind_eq_ok_iff.1 h
    obtain ⟨rest, hrest, h⟩ := bind_eq_ok_iff.1 h
    obtain rfl := Except.ok.inj h
    obtain ⟨text, materialization, -, hnew, -, -, rfl⟩ := ofFile_eq_ok_iff.1 hm
    have hone : Fresh earlier [⟨path.stem, path.text, "", Sql.query text, materialization, [], []⟩] := by
      constructor <;> simp [hnew]
    refine hone.append (ih hrest) fun id => ?_
    rw [Entries.mem_names_insert, or_comm]
    simp

theorem ofDirectories_ok (h : (ofDirectories files earlier directories).1 = .ok models) :
    Fresh earlier models := by
  induction directories generalizing earlier models with
  | nil =>
    obtain rfl := Except.ok.inj h
    exact .nil
  | cons directory directories ih =>
    rw [ofDirectories] at h
    cases hthere : files.contains directory with
    | error e =>
      rw [hthere] at h
      cases h
    | ok there =>
      cases there with
      | false =>
        rw [hthere] at h
        exact ih h
      | true =>
        rw [hthere] at h
        cases hfound : ofFiles files earlier (files.allBelow suffix directory) with
        | error e =>
          rw [hfound] at h
          cases h
        | ok found =>
          simp only [hfound] at h
          cases hrest : (ofDirectories files
              (Entries.overlay earlier (found.map fun m => (m.id, m.path))) directories).1 with
          | error e =>
            rw [hrest] at h
            cases h
          | ok rest =>
            rw [hrest] at h
            obtain rfl := Except.ok.inj h
            refine (ofFiles_ok hfound).append (ih hrest) fun id => ?_
            rw [Entries.mem_names_overlay, Entries.names, Entries.names, List.map_map]
            rfl

/-- **The models that are discovered have distinct ids,** and no dependencies yet. -/
theorem discover_ok (h : (discover files directories).1 = .ok models) :
    (models.map (·.id)).Nodup ∧ ∀ m ∈ models, m.dependencies = [] := by
  have hmodels : (ofDirectories files [] directories).1 = .ok models := by
    rw [discover] at h
    split at h
    · rename_i found notes hfound
      rw [hfound]
      exact h
    · cases h
  have hfresh := ofDirectories_ok hmodels
  exact ⟨hfresh.nodup_ids, hfresh.independent⟩

end Files

/-! ### Compiling -/

section Compile

variable {m m' : Model} {models compiled : List Model} {known : List String}
  {environment : Entries String} {fullRefresh : Bool} {w w' : Workshop}

/-- Rebuilding a model from scratch is a matter of its settings only. -/
theorem exists_refreshed_eq (m : Model) (fullRefresh : Bool) :
    ∃ materialization, m.refreshed fullRefresh = { m with materialization := materialization } := by
  rw [refreshed]
  split
  · exact ⟨_, rfl⟩
  · exact ⟨_, rfl⟩

theorem refreshed_spec (m : Model) (fullRefresh : Bool) :
    (m.refreshed fullRefresh).id = m.id
      ∧ (m.refreshed fullRefresh).dependencies = m.dependencies := by
  obtain ⟨materialization, h⟩ := m.exists_refreshed_eq fullRefresh
  rw [h]
  exact ⟨rfl, rfl⟩

/-- Rendering a template gives a model a new query, and changes nothing else of it. -/
theorem rendered_ok (h : m.rendered environment w = .ok (m', w')) :
    m' = { m with sql := m'.sql } := by
  rw [rendered] at h
  split at h
  · cases h
  · dsimp only at h
    split at h
    · cases h
    · obtain ⟨rfl, -⟩ := Prod.mk.inj (Except.ok.inj h)
      rfl

theorem referred_ok {id name : String} {reference : Data}
    (h : referred id known reference = .ok name) : name ∈ known := by
  unfold referred at h
  split at h
  · cases h
  · split at h
    · rename_i hknown
      obtain rfl := Except.ok.inj h
      exact List.contains_iff_mem.1 hknown
    · cases h
  · cases h

theorem mem_of_mem_mentioned {name : String} (h : name ∈ m.mentioned known) : name ∈ known := by
  have hmem := (List.mem_filter.1 h).2
  rw [Bool.and_eq_true] at hmem
  exact List.contains_iff_mem.1 hmem.1

theorem id_addDependency (m : Model) (id : String) : (m.addDependency id).id = m.id := by
  rw [addDependency]
  split
  · rfl
  · rfl

/-- Adding dependencies keeps the id and those that are there. -/
theorem addDependencies_spec (m : Model) (ids : List String) :
    (m.addDependencies ids).id = m.id
      ∧ ∀ dep, dep ∈ (m.addDependencies ids).dependencies ↔ dep ∈ ids ∨ dep ∈ m.dependencies := by
  induction ids generalizing m with
  | nil => simp [addDependencies]
  | cons id ids ih =>
    obtain ⟨hid, hdeps⟩ := ih (m.addDependency id)
    rw [addDependencies, List.foldl_cons, ← addDependencies]
    refine ⟨hid.trans (id_addDependency m id), fun dep => ?_⟩
    rw [hdeps, mem_addDependency, List.mem_cons, or_left_comm, or_assoc]

/-- What a model is compiled to, from what its template is rendered to and what its text mentions. -/
theorem compile_of_tracked {template : Template} {rendering : Template.Rendering}
    {collector : Collector} {context : Context} {sql : String} {names mentioned : List String}
    (hread : Template.read {} m.id m.template = .ok template)
    (htracked : template.renderTracked (w.context.forModel m.id) environment [] w.collector
      = (rendering, collector))
    (hsql : rendering.result = .ok sql)
    (hcontext : w.context.withSettingsOf rendering.context = context)
    (hnames : (collector.get m.id).mapM (referred m.id known) = .ok names)
    (hmentioned : RefScan.refNames m.template = mentioned)
    (hm : m' = ({ m.refreshed fullRefresh with sql := sql }.addDependencies names).addDependencies
      (mentioned.filter fun name => known.contains name && name != m.id)) :
    m.compile fullRefresh known environment w = .ok (m', ⟨context, collector⟩) := by
  obtain ⟨materialization, hrefreshed⟩ := m.exists_refreshed_eq fullRefresh
  have hrendered : { m with materialization := materialization }.rendered environment w
      = .ok ({ m with materialization := materialization, sql := sql }, ⟨context, collector⟩) := by
    rw [rendered, ← hcontext]
    simp only [hread, htracked, hsql]
  rw [hrefreshed] at hm
  rw [compile, hrefreshed, hm]
  refine bind_eq_ok_iff.2 ⟨_, hrendered, bind_eq_ok_iff.2 ⟨names, hnames, ?_⟩⟩
  rw [Model.mentioned, hmentioned]
  rfl

theorem compileEach_cons {c : Model} {w₁ w₂ : Workshop}
    (hm : m.compile fullRefresh known environment w = .ok (c, w₁))
    (hmodels : compileEach fullRefresh known environment w₁ models = .ok (compiled, w₂)) :
    compileEach fullRefresh known environment w (m :: models) = .ok (c :: compiled, w₂) :=
  bind_eq_ok_iff.2 ⟨_, hm, bind_eq_ok_iff.2 ⟨_, hmodels, rfl⟩⟩

/-- **A compiled model has its id,** and besides its dependencies known ids only. -/
theorem compile_ok (h : m.compile fullRefresh known environment w = .ok (m', w')) :
    m'.id = m.id ∧ ∀ dep ∈ m'.dependencies, dep ∈ m.dependencies ∨ dep ∈ known := by
  obtain ⟨⟨fresh, w₁⟩, hrendered, h⟩ := bind_eq_ok_iff.1 h
  obtain ⟨referredTo, hreferred, h⟩ := bind_eq_ok_iff.1 h
  obtain ⟨rfl, -⟩ := Prod.mk.inj (Except.ok.inj h)
  obtain ⟨hrefreshedId, hrefreshedDeps⟩ := m.refreshed_spec fullRefresh
  have hsame := rendered_ok hrendered
  have hfreshId : fresh.id = m.id := by
    rw [hsame]
    exact hrefreshedId
  have hfreshDeps : fresh.dependencies = m.dependencies := by
    rw [hsame]
    exact hrefreshedDeps
  obtain ⟨hid, hdeps⟩ := fresh.addDependencies_spec referredTo
  obtain ⟨hid', hdeps'⟩ :=
    (fresh.addDependencies referredTo).addDependencies_spec (fresh.mentioned known)
  refine ⟨(hid'.trans hid).trans hfreshId, fun dep hdep => ?_⟩
  rcases (hdeps' dep).1 hdep with hmentioned | hdep
  · exact Or.inr (mem_of_mem_mentioned hmentioned)
  · rcases (hdeps dep).1 hdep with hreferredTo | hdep
    · obtain ⟨reference, -, hreference⟩ := exists_of_mem_mapM hreferred dep hreferredTo
      exact Or.inr (referred_ok hreference)
    · exact Or.inl (hfreshDeps ▸ hdep)

theorem compileEach_ok
    (h : compileEach fullRefresh known environment w models = .ok (compiled, w'))
    (hmodels : ∀ m ∈ models, ∀ dep ∈ m.dependencies, dep ∈ known) :
    compiled.map (·.id) = models.map (·.id)
      ∧ ∀ m ∈ compiled, ∀ dep ∈ m.dependencies, dep ∈ known := by
  induction models generalizing w w' compiled with
  | nil =>
    obtain ⟨rfl, -⟩ := Prod.mk.inj (Except.ok.inj h)
    simp
  | cons m models ih =>
    obtain ⟨⟨m', w₁⟩, hm, h⟩ := bind_eq_ok_iff.1 h
    obtain ⟨⟨rest, w₂⟩, hrest, h⟩ := bind_eq_ok_iff.1 h
    obtain ⟨rfl, -⟩ := Prod.mk.inj (Except.ok.inj h)
    obtain ⟨hmodel, hmodels⟩ := List.forall_mem_cons.1 hmodels
    obtain ⟨hids, hknown⟩ := ih hrest hmodels
    obtain ⟨hid, hdeps⟩ := compile_ok hm
    refine ⟨by rw [List.map_cons, List.map_cons, hid, hids], List.forall_mem_cons.2 ⟨?_, hknown⟩⟩
    intro dep hdep
    rcases hdeps dep hdep with hold | hnew
    · exact hmodel dep hold
    · exact hnew

theorem materialization_addDependency (m : Model) (id : String) :
    (m.addDependency id).materialization = m.materialization := by
  rw [addDependency]
  split
  · rfl
  · rfl

theorem materialization_addDependencies (m : Model) (ids : List String) :
    (m.addDependencies ids).materialization = m.materialization := by
  induction ids generalizing m with
  | nil => rfl
  | cons id ids ih =>
    rw [addDependencies, List.foldl_cons, ← addDependencies, ih, materialization_addDependency]

/-- Compiling a model changes how it is kept only when it is to be rebuilt from scratch. -/
theorem compile_materialization (h : m.compile fullRefresh known environment w = .ok (m', w')) :
    m'.materialization = (m.refreshed fullRefresh).materialization := by
  obtain ⟨⟨fresh, w₁⟩, hrendered, h⟩ := bind_eq_ok_iff.1 h
  obtain ⟨referredTo, -, h⟩ := bind_eq_ok_iff.1 h
  obtain ⟨rfl, -⟩ := Prod.mk.inj (Except.ok.inj h)
  rw [materialization_addDependencies, materialization_addDependencies, rendered_ok hrendered]

/-- A model that is rebuilt from scratch is not one that is added to. -/
theorem isIncrementalRun_refreshed (m : Model) :
    (m.refreshed true).materialization.isIncrementalRun = false := by
  rw [refreshed, Bool.true_and]
  cases hincremental : m.isIncremental with
  | true => simp [Materialization.isIncrementalRun]
  | false =>
    have hnot : m.materialization.isIncremental = false := hincremental
    simp [Materialization.isIncrementalRun, hnot]

/-- Every compiled model comes from one of the models, compiled where those before it have left
    things; what they keep up holds there. -/
theorem exists_compile_of_mem {P : Workshop → Prop} (hw : P w)
    (hkeep : ∀ m ∈ models, ∀ c w₁ w₂, P w₁ →
      m.compile fullRefresh known environment w₁ = .ok (c, w₂) → P w₂)
    (h : compileEach fullRefresh known environment w models = .ok (compiled, w')) :
    ∀ c ∈ compiled, ∃ m ∈ models, ∃ w₁ w₂, P w₁
      ∧ m.compile fullRefresh known environment w₁ = .ok (c, w₂) := by
  induction models generalizing w w' compiled with
  | nil =>
    obtain ⟨rfl, -⟩ := Prod.mk.inj (Except.ok.inj h)
    simp
  | cons m models ih =>
    obtain ⟨⟨c, w₁⟩, hm, h⟩ := bind_eq_ok_iff.1 h
    obtain ⟨⟨rest, w₂⟩, hrest, h⟩ := bind_eq_ok_iff.1 h
    obtain ⟨rfl, -⟩ := Prod.mk.inj (Except.ok.inj h)
    obtain ⟨hkeepHere, hkeep⟩ := List.forall_mem_cons.1 hkeep
    intro other hother
    rcases List.mem_cons.1 hother with rfl | hother
    · exact ⟨m, List.mem_cons_self, w, w₁, hw, hm⟩
    · obtain ⟨before, hbefore, hcompiled⟩ := ih (hkeepHere c w w₁ hw hm) hkeep hrest other hother
      exact ⟨before, List.mem_cons_of_mem _ hbefore, hcompiled⟩

/-- **No model is added to** once models have been compiled to be rebuilt from scratch. -/
theorem compileAll_fullRefresh {base left : Context}
    (h : compileAll models base environment true = .ok (compiled, left)) :
    ∀ c ∈ compiled, c.materialization.isIncrementalRun = false := by
  obtain ⟨⟨compiled, w⟩, hcompiled, h⟩ := bind_eq_ok_iff.1 h
  obtain ⟨rfl, -⟩ := Prod.mk.inj (Except.ok.inj h)
  intro c hc
  obtain ⟨m, -, w₁, w₂, -, hm⟩ := exists_compile_of_mem (P := fun _ => True) trivial
    (fun _ _ _ _ _ _ _ => trivial) hcompiled c hc
  rw [compile_materialization hm]
  exact isIncrementalRun_refreshed m

/-- **Models with distinct ids that have no dependencies yet** are compiled to models that depend
    on each other only. -/
theorem compileAll_closed {base left : Context} (hnodup : (models.map (·.id)).Nodup)
    (hindependent : ∀ m ∈ models, m.dependencies = [])
    (h : compileAll models base environment fullRefresh = .ok (compiled, left)) :
    Closed compiled := by
  obtain ⟨⟨compiled, w⟩, hcompiled, h⟩ := bind_eq_ok_iff.1 h
  obtain ⟨rfl, -⟩ := Prod.mk.inj (Except.ok.inj h)
  obtain ⟨hids, hknown⟩ := compileEach_ok hcompiled fun m hm dep hdep => by
    rw [hindependent m hm] at hdep
    cases hdep
  rw [← hids] at hnodup hknown
  exact ⟨hnodup, hknown⟩

end Compile

end Model

end SqlPipeline
