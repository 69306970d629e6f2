/-
  SqlPipeline/Proofs/Model/Unreported.lean
  ========================================
  **Models are compiled, or it is reported why they are not, unless nothing handles it.**

  Compiling ends at the first model that it cannot compile (`compileEach_eq_error_iff`): its
  template cannot be read or rendered, or refers to something that is no known model
  (`compile_eq_error_iff`).  All of that is reported but an oversight of the reader, and a
  reference that cannot be looked up among names (`Uncompilable.cases`).

  As long as no template looks behind its functions, what has been noted when a model is
  compiled has been accepted for the models before it, so it is names
  (`compileEach_areNames`), and the reference is one that the model makes itself.
-/
import SqlPipeline.Proofs.Model.Alone
import SqlPipeline.Proofs.Graph.Build

namespace SqlPipeline.Model

/-! ### References that cannot be looked up -/

mutual

/-- What cannot be looked up among names is not reported. -/
theorem isReported_of_unfit {error : CompileError} :
    ∀ {reference : Data}, unfit? reference = some error → error.isReported = false
  | .list _, h | .set _, h | .map _, h | .undefined _, h => by
    cases h
    rfl
  | .thing kind form, h => by
    rw [unfit?] at h
    split at h
    · cases h
      rfl
    · cases h
  | .tuple items, h => by
    rw [unfit?] at h
    exact isReported_of_firstUnfit h

theorem isReported_of_firstUnfit {error : CompileError} :
    ∀ {references : List Data}, unfit?.firstUnfit? references = some error →
      error.isReported = false
  | [], h => by cases h
  | d :: rest, h => by
    rw [unfit?.firstUnfit?] at h
    cases hd : unfit? d with
    | none =>
      rw [hd] at h
      exact isReported_of_firstUnfit h
    | some other =>
      rw [hd] at h
      obtain rfl := Option.some.inj h
      exact isReported_of_unfit hd

end

variable {base : Context} {environment : Entries String} {fullRefresh : Bool} {known : List String}
  {m c : Model} {w w' : Workshop} {models compiled : List Model} {error : CompileError}

theorem referred_eq_error_iff {id : String} {reference : Data} :
    referred id known reference = .error error ↔ unfit? reference = some error
      ∨ unfit? reference = none ∧ (∀ name ∈ known, reference ≠ .text name)
          ∧ error = .unknownModel id reference := by
  unfold referred
  cases hfit : unfit? reference with
  | some other => simp
  | none =>
    cases reference
    case text name =>
      have hother : (∀ other ∈ known, Data.text name ≠ .text other) ↔ name ∉ known := by
        simp only [ne_eq, Data.text.injEq]
        exact ⟨fun h hmem => h name hmem rfl, fun h other hmem heq => h (heq ▸ hmem)⟩
      rw [hother]
      by_cases hknown : name ∈ known
      · simp [hknown]
      · simp [hknown, eq_comm]
    all_goals simp [eq_comm]

/-- Of references that are not all accepted one is not. -/
theorem exists_of_mapM_referred_error {id : String} {references : List Data}
    (h : references.mapM (referred id known) = .error error) :
    ∃ reference ∈ references, referred id known reference = .error error := by
  induction references with
  | nil => cases h
  | cons reference references ih =>
    rw [List.mapM_cons] at h
    rcases bind_eq_error_iff.1 h with hhead | ⟨name, -, hrest⟩
    · exact ⟨reference, List.mem_cons_self, hhead⟩
    · rcases bind_eq_error_iff.1 hrest with htail | ⟨names, -, hpure⟩
      · obtain ⟨other, hmem, hother⟩ := ih htail
        exact ⟨other, List.mem_cons_of_mem _ hmem, hother⟩
      · cases hpure

/-! ### One model -/

/-- What is wrong with a model that cannot be compiled. -/
inductive Uncompilable (known : List String) (environment : Entries String) (w : Workshop)
    (m : Model) : CompileError → Prop
  | unreadable {fault : Template.SyntaxError} :
      Template.read {} m.id m.template = .error fault →
      Uncompilable known environment w m (.ofSyntaxError m.id fault)
  | unrendered {template : Template} {failure : Template.RenderError} :
      Template.read {} m.id m.template = .ok template →
      (track template m environment w).1.result = .error failure →
      Uncompilable known environment w m (.template m.id failure.message)
  | unaccepted {template : Template} {sql : String} {error : CompileError} :
      Template.read {} m.id m.template = .ok template →
      (track template m environment w).1.result = .ok sql →
      ((track template m environment w).2.get m.id).mapM (referred m.id known) = .error error →
      Uncompilable known environment w m error

theorem rendered_eq_error_iff : m.rendered environment w = .error error ↔
    (∃ fault, Template.read {} m.id m.template = .error fault ∧ error = .ofSyntaxError m.id fault)
      ∨ ∃ template failure, Template.read {} m.id m.template = .ok template
          ∧ (track template m environment w).1.result = .error failure
          ∧ error = .template m.id failure.message := by
  rw [rendered]
  cases hread : Template.read {} m.id m.template with
  | error fault => simp [eq_comm]
  | ok template =>
    have htrack : template.renderTracked (w.context.forModel m.id) environment [] w.collector
        = track template m environment w := rfl
    dsimp only
    rw [htrack]
    cases hresult : (track template m environment w).1.result with
    | error failure => simp [hresult, eq_comm]
    | ok sql => simp [hresult]

/-- **Why a model cannot be compiled.** -/
theorem compile_eq_error_iff : m.compile fullRefresh known environment w = .error error
    ↔ Uncompilable known environment w m error := by
  -- what is rendered has the id and the template of the model that is given
  obtain ⟨materialization, hrefreshed⟩ := m.exists_refreshed_eq fullRefresh
  rw [compile, hrefreshed, bind_eq_error_iff, rendered_eq_error_iff]
  constructor
  · rintro ((⟨fault, hread, rfl⟩ | ⟨template, failure, hread, hresult, rfl⟩) | ⟨⟨c, w'⟩, hrendered, h⟩)
    · exact .unreadable hread
    · exact .unrendered hread hresult
    · obtain ⟨template, rendering, collector, hread, htracked, hsql, hc, rfl⟩ :=
        rendered_eq_ok_iff.1 hrendered
      have htrack : track template m environment w = (rendering, collector) := htracked
      rcases bind_eq_error_iff.1 h with hmap | ⟨names, -, hpure⟩
      · have hresult : (track template m environment w).1.result = .ok c.sql := by
          rw [htrack]
          exact hsql
        rw [congrArg Model.id hc] at hmap
        refine .unaccepted hread hresult ?_
        rw [htrack]
        exact hmap
      · cases hpure
  · intro h
    cases h with
    | unreadable hread => exact Or.inl (Or.inl ⟨_, hread, rfl⟩)
    | unrendered hread hresult => exact Or.inl (Or.inr ⟨_, _, hread, hresult, rfl⟩)
    | @unaccepted template sql _ hread hresult hmap =>
      refine Or.inr ⟨({ m with materialization := materialization, sql := sql }, _),
        rendered_eq_ok_iff.2 ⟨template, _, _, hread, rfl, hresult, rfl, rfl⟩, ?_⟩
      exact bind_eq_error_iff.2 (Or.inl hmap)

/-- What keeps a model from being compiled without being reported: an oversight in its template, or
    a reference that its template makes and that cannot be looked up among names. -/
inductive Unreported (environment : Entries String) (w : Workshop) (m : Model) :
    CompileError → Prop
  | oversight {o : Template.Oversight} : Template.read {} m.id m.template = .error (.oversight o) →
      Unreported environment w m (.oversight o)
  | unfit {template : Template} {reference : Data} {error : CompileError} :
      Template.read {} m.id m.template = .ok template →
      reference ∈ (track template m environment w).1.references →
      unfit? reference = some error → Unreported environment w m error

theorem Unreported.isReported (h : Unreported environment w m error) :
    error.isReported = false := by
  cases h with
  | oversight hread => rfl
  | unfit hread hmem hunfit => exact isReported_of_unfit hunfit

theorem unfit_text (name : String) : unfit? (.text name) = none := by
  rw [unfit?]
  all_goals simp

/-- What is wrong with a model is reported, or its template has an oversight in it, or something is
    noted about it that cannot be looked up. -/
theorem Uncompilable.cases (h : Uncompilable known environment w m error) :
    error.isReported = true
      ∨ (∃ o, Template.read {} m.id m.template = .error (.oversight o) ∧ error = .oversight o)
      ∨ ∃ template, Template.read {} m.id m.template = .ok template
          ∧ ∃ reference ∈ (track template m environment w).2.get m.id,
              unfit? reference = some error := by
  cases h with
  | @unreadable fault hread =>
    cases fault with
    | oversight o => exact Or.inr (Or.inl ⟨o, hread, rfl⟩)
    | delimitersClash => exact Or.inl rfl
    | fault name fault => exact Or.inl rfl
  | unrendered hread hresult => exact Or.inl rfl
  | @unaccepted template sql _ hread hresult hmap =>
    obtain ⟨reference, hmem, hreferred⟩ := exists_of_mapM_referred_error hmap
    rcases referred_eq_error_iff.1 hreferred with hunfit | ⟨-, -, rfl⟩
    · exact Or.inr (Or.inr ⟨template, hread, reference, hmem, hunfit⟩)
    · exact Or.inl rfl

/-- What cannot be looked up is a reference of the model's own, when its template does not look and
    nothing but names has been noted before. -/
theorem mem_references_of_unfit {template : Template} {reference : Data}
    (hun : (track template m environment w).1.looked = false)
    (hnames : Template.AreNames (w.collector.get m.id))
    (hmem : reference ∈ (track template m environment w).2.get m.id)
    (hunfit : unfit? reference = some error) :
    reference ∈ (track template m environment w).1.references := by
  have hkept : reference ∈ w.collector.get m.id
      ∨ reference ∈ (track template m environment w).1.references := by
    rw [track_of_unlooked hun, Collector.get_addAll] at hmem
    split at hmem
    · exact Collector.mem_or_mem_of_mem_foldl_addTo hmem
    · exact Or.inl hmem
  rcases hkept with hearlier | hmade
  · obtain ⟨name, rfl⟩ := hnames reference hearlier
    rw [unfit_text] at hunfit
    cases hunfit
  · exact hmade

/-! ### All models -/

theorem compile_areNames (h : m.compile fullRefresh known environment w = .ok (c, w'))
    (hun : ∀ template, Template.read {} m.id m.template = .ok template →
      (track template m environment w).1.looked = false)
    (hnames : ∀ id, Template.AreNames (w.collector.get id)) :
    ∀ id, Template.AreNames (w'.collector.get id) := by
  obtain ⟨template, names, hread, -, rfl, haccepted, -⟩ := compile_eq_ok_iff.1 h
  intro id
  by_cases hid : id = m.id
  · rw [hid]
    exact Template.areNames_iff.2 ⟨names, (mapM_referred_eq_ok_iff.1 haccepted).1⟩
  · dsimp only
    rw [track_of_unlooked (hun template hread), Collector.get_addAll, if_neg fun hsame => hid hsame.1]
    exact hnames id

/-- That the template of one of the models looks behind its functions when it is rendered, after
    those before it have been compiled. -/
def SomeLooks (fullRefresh : Bool) (known : List String) (environment : Entries String) (w : Workshop)
    (models : List Model) : Prop :=
  ∃ before m later compiled w₁ template, models = before ++ m :: later
    ∧ compileEach fullRefresh known environment w before = .ok (compiled, w₁)
    ∧ Template.read {} m.id m.template = .ok template
    ∧ (track template m environment w₁).1.looked = true

theorem SomeLooks.cons (hm : m.compile fullRefresh known environment w = .ok (c, w'))
    (h : SomeLooks fullRefresh known environment w' models) :
    SomeLooks fullRefresh known environment w (m :: models) := by
  obtain ⟨before, m₁, later, compiled, w₁, template, rfl, hbefore, hread, hlooked⟩ := h
  exact ⟨m :: before, m₁, later, c :: compiled, w₁, template, rfl, compileEach_cons hm hbefore, hread,
    hlooked⟩

/-- A model that is compiled after others does not look when none of them does. -/
theorem unlooked_of_not_someLooks (before : List Model) {later : List Model}
    (hun : ¬ SomeLooks fullRefresh known environment w (before ++ m :: later))
    (hbefore : compileEach fullRefresh known environment w before = .ok (compiled, w'))
    {template : Template} (hread : Template.read {} m.id m.template = .ok template) :
    (track template m environment w').1.looked = false := by
  rw [Bool.eq_false_iff]
  intro hlooked
  exact hun ⟨before, m, later, compiled, w', template, rfl, hbefore, hread, hlooked⟩

theorem compileEach_areNames {later : List Model}
    (h : compileEach fullRefresh known environment w models = .ok (compiled, w'))
    (hun : ¬ SomeLooks fullRefresh known environment w (models ++ later))
    (hnames : ∀ id, Template.AreNames (w.collector.get id)) :
    ∀ id, Template.AreNames (w'.collector.get id) := by
  induction models generalizing w compiled with
  | nil =>
    obtain ⟨-, rfl⟩ := Prod.mk.inj (Except.ok.inj h)
    exact hnames
  | cons m models ih =>
    obtain ⟨⟨c, w₁⟩, hm, h⟩ := bind_eq_ok_iff.1 h
    obtain ⟨⟨rest, w₂⟩, hrest, h⟩ := bind_eq_ok_iff.1 h
    obtain ⟨-, rfl⟩ := Prod.mk.inj (Except.ok.inj h)
    have hhere : ∀ template, Template.read {} m.id m.template = .ok template →
        (track template m environment w).1.looked = false := by
      intro template hread
      exact unlooked_of_not_someLooks [] hun rfl hread
    exact ih hrest (fun hlooks => hun (hlooks.cons hm)) (compile_areNames hm hhere hnames)

/-- **Compiling ends at the first model that cannot be compiled.** -/
theorem compileEach_eq_error_iff :
    compileEach fullRefresh known environment w models = .error error
      ↔ ∃ before m later compiled w₁, models = before ++ m :: later
          ∧ compileEach fullRefresh known environment w before = .ok (compiled, w₁)
          ∧ m.compile fullRefresh known environment w₁ = .error error := by
  induction models generalizing w with
  | nil => simp [compileEach]
  | cons m models ih =>
    rw [compileEach, bind_eq_error_iff]
    constructor
    · rintro (hm | ⟨⟨c, w₁⟩, hm, h⟩)
      · exact ⟨[], m, models, [], w, rfl, rfl, hm⟩
      · rcases bind_eq_error_iff.1 h with hrest | ⟨_, -, hpure⟩
        · obtain ⟨before, m', later, compiled, w₂, rfl, hbefore, hm'⟩ := ih.1 hrest
          exact ⟨m :: before, m', later, c :: compiled, w₂, rfl,
            bind_eq_ok_iff.2 ⟨_, hm, bind_eq_ok_iff.2 ⟨_, hbefore, rfl⟩⟩, hm'⟩
        · cases hpure
    · rintro ⟨before, m', later, compiled, w₂, hmodels, hbefore, hm'⟩
      cases before with
      | nil =>
        obtain ⟨rfl, -⟩ := List.cons.inj hmodels
        obtain ⟨-, rfl⟩ := Prod.mk.inj (Except.ok.inj hbefore)
        exact Or.inl hm'
      | cons first before =>
        obtain ⟨rfl, rfl⟩ := List.cons.inj hmodels
        obtain ⟨⟨c, w₁⟩, hm, h⟩ := bind_eq_ok_iff.1 hbefore
        obtain ⟨⟨rest, w₃⟩, hrest, h⟩ := bind_eq_ok_iff.1 h
        obtain ⟨-, rfl⟩ := Prod.mk.inj (Except.ok.inj h)
        refine Or.inr ⟨_, hm, bind_eq_error_iff.2 (Or.inl (ih.2 ?_))⟩
        exact ⟨before, m', later, rest, w₃, rfl, hrest, hm'⟩

/-- That something is noted about a model that cannot be looked up, where a template looks behind its
    functions: the template of the model, or of one before it. -/
structure Interfered (fullRefresh : Bool) (known : List String) (environment : Entries String)
    (start w : Workshop) (before : List Model) (m : Model) (error : CompileError) : Prop where
  looks : SomeLooks fullRefresh known environment start (before ++ [m])
  noted : ∃ template, Template.read {} m.id m.template = .ok template
    ∧ ∃ reference ∈ (track template m environment w).2.get m.id, unfit? reference = some error

theorem Interfered.isReported {start : Workshop} {before : List Model}
    (h : Interfered fullRefresh known environment start w before m error) :
    error.isReported = false := by
  obtain ⟨-, -, -, reference, -, hunfit⟩ := h
  exact isReported_of_unfit hunfit

/-- **What goes unreported** when models are compiled. -/
theorem Uncompilable.unreported {start : Workshop} {before : List Model}
    (h : Uncompilable known environment w m error)
    (hnames : ∀ id, Template.AreNames (start.collector.get id))
    (hbefore : compileEach fullRefresh known environment start before = .ok (compiled, w)) :
    error.isReported = true ∨ Unreported environment w m error
      ∨ Interfered fullRefresh known environment start w before m error := by
  rcases h.cases with hreported | ⟨o, hread, rfl⟩ | ⟨template, hread, reference, hmem, hunfit⟩
  · exact Or.inl hreported
  · exact Or.inr (Or.inl (.oversight hread))
  · by_cases hlooks : SomeLooks fullRefresh known environment start (before ++ [m])
    · exact Or.inr (Or.inr ⟨hlooks, template, hread, reference, hmem, hunfit⟩)
    · have hmade := mem_references_of_unfit (unlooked_of_not_someLooks before hlooks hbefore hread)
        (compileEach_areNames hbefore hlooks hnames m.id) hmem hunfit
      exact Or.inr (Or.inl (.unfit hread hmade hunfit))

/-- **Models are compiled, or it is reported why not,** unless the template of the first model that
    cannot be compiled has an oversight in it or refers to something that cannot be looked up, or
    such a thing is noted about it by a template that looks behind its functions. -/
theorem compileAll_reports (models : List Model) (base : Context) (environment : Entries String)
    (fullRefresh : Bool) :
    (∃ result, compileAll models base environment fullRefresh = .ok result)
      ∨ (∃ error, compileAll models base environment fullRefresh = .error error
          ∧ error.isReported = true)
      ∨ ∃ error before m later compiled w,
          compileAll models base environment fullRefresh = .error error
            ∧ error.isReported = false
            ∧ models = before ++ m :: later
            ∧ compileEach fullRefresh (models.map (·.id)) environment { context := base } before
              = .ok (compiled, w)
            ∧ (Unreported environment w m error
              ∨ Interfered fullRefresh (models.map (·.id)) environment { context := base } w before m
                  error) := by
  cases h : compileAll models base environment fullRefresh with
  | ok result => exact Or.inl ⟨result, rfl⟩
  | error error =>
    have heach : compileEach fullRefresh (models.map (·.id)) environment { context := base } models
        = .error error := by
      rcases bind_eq_error_iff.1 h with heach | ⟨_, -, hpure⟩
      · exact heach
      · cases hpure
    obtain ⟨before, m, later, compiled, w, hmodels, hbefore, hm⟩ :=
      compileEach_eq_error_iff.1 heach
    have hnothing : ∀ id, Template.AreNames (({ context := base } : Workshop).collector.get id) :=
      fun _ => Template.areNames_nil
    rcases (compile_eq_error_iff.1 hm).unreported hnothing hbefore with
      hreported | hunreported | hinterfered
    · exact Or.inr (Or.inl ⟨error, rfl, hreported⟩)
    · exact Or.inr (Or.inr ⟨error, before, m, later, compiled, w, rfl, hunreported.isReported,
        hmodels, hbefore, Or.inl hunreported⟩)
    · exact Or.inr (Or.inr ⟨error, before, m, later, compiled, w, rfl, hinterfered.isReported,
        hmodels, hbefore, Or.inr hinterfered⟩)

/-- A model whose template refers to a list. -/
def refersToList : Model :=
  ⟨"m", "models/m.sql", "", "\x7b\x7bref(['a'])\x7d\x7d", {}, [], []⟩

def refersToListBody : List Template.Stmt :=
  [.output [.expr (.call (.name "ref" 1) (.mk [.list [.constant (.text "a")]] [] none none))]]

theorem read_refersToList :
    Template.read {} "m" "\x7b\x7bref(['a'])\x7d\x7d" = .ok ⟨"m", refersToListBody⟩ := by cbv

/-- **A reference to a list ends compiling without a report.** -/
theorem compileAll_refersToList :
    compileAll [refersToList] {} [] false = .error (.noName (.list [.text "a"]))
      ∧ ¬ ((∃ result, compileAll [refersToList] {} [] false = .ok result)
        ∨ ∃ error, compileAll [refersToList] {} [] false = .error error
          ∧ error.isReported = true) := by
  have htrack : track ⟨"m", refersToListBody⟩ refersToList [] {}
      = (⟨.ok "['a']", [.list [.text "a"]], Context.forModel {} "m", false, false⟩,
          ⟨[("m", [.list [.text "a"]])]⟩) := rfl
  have hcompile : refersToList.compile false ["m"] [] {} = .error (.noName (.list [.text "a"])) := by
    have hresult := congrArg (·.1.result) htrack
    refine compile_eq_error_iff.2 (.unaccepted read_refersToList hresult ?_)
    rw [htrack]
    rfl
  have hall : compileAll [refersToList] {} [] false = .error (.noName (.list [.text "a"])) :=
    bind_eq_error_iff.2 (Or.inl (compileEach_eq_error_iff.2
      ⟨[], refersToList, [], [], {}, rfl, rfl, hcompile⟩))
  refine ⟨hall, ?_⟩
  rintro (⟨result, hok⟩ | ⟨error, herror, hreported⟩)
  · rw [hall] at hok
    cases hok
  · rw [hall] at herror
    rw [← Except.error.inj herror] at hreported
    cases hreported

end SqlPipeline.Model
