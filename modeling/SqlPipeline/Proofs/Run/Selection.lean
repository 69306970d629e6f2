/-
  SqlPipeline/Proofs/Run/Selection.lean
  =====================================
  **Running a selection of the models of a project, and what refuses it.**

  A project is discovered, compiled and cut down to a selection, and only then is a graph
  built.  Each of the three stages may fail with an error of its own, but when none does,
  the graph can always be built and a cycle is the one thing that can keep a run from
  starting (`readyToRun_of_compileAll`).  The selected models are then taken in the order in
  which they would be taken among all models (`topologicalOrder_select`).

  Of models as they come three things can be wrong, and three different parts of the graph
  find them: an id that stands twice when nodes are added, a dependency that is no model
  when edges are, a circle when the graph is sorted.  Whatever else is wrong with the list,
  one of them is found before the store is asked for anything, and the error names it
  (`Blames`); a list with nothing wrong is never refused (`runModels_refused_iff`).
-/
import SqlPipeline.Command.Prepare
import SqlPipeline.Proofs.Graph.Cycle
import SqlPipeline.Proofs.Graph.Order
import SqlPipeline.Proofs.Model.Compile
import SqlPipeline.Proofs.Run.Batch
import Mathlib

namespace SqlPipeline.Run.Engine

open Model (Closed)

variable {σ : Type} {models selected : List Model} {names : List String}

/-! ### Closed lists of models -/

theorem Sortable.closed (h : Sortable models) : Closed models :=
  ⟨h.nodup_ids, h.known⟩

/-- **There is a graph exactly of closed lists of models.** -/
theorem exists_ofEntries_entriesOf_iff (kind : String) :
    (∃ g, Graph.ofEntries (entriesOf models) kind = .ok g) ↔ Closed models := by
  rw [Graph.exists_ofEntries_iff, entriesOf_ids]
  constructor
  · rintro ⟨hnodup, hknown⟩
    exact ⟨hnodup, fun m hm => hknown _ (List.mem_map_of_mem hm)⟩
  · rintro ⟨hnodup, hknown⟩
    exact ⟨hnodup, List.forall_mem_map.2 hknown⟩

theorem exists_orderOf_iff_acyclic (hclosed : Closed models) :
    (∃ order, orderOf models = .ok order) ↔ Acyclic (DependsAmong models) := by
  rw [exists_orderOf_iff]
  exact ⟨Sortable.acyclic, fun h => ⟨hclosed.nodup_ids, hclosed.known, h⟩⟩

/-- Where a closed list has no order, some of its models are left over behind the others. -/
theorem orderOf_error (hclosed : Closed models) {fault : GraphError}
    (h : orderOf models = .error fault) :
    ∃ taken cycle, fault = .unsortable taken models.length cycle := by
  obtain ⟨g, hg⟩ := (exists_ofEntries_entriesOf_iff "model").2 hclosed
  have hsize : g.size = models.length := by
    simp [Graph.size, Graph.nodes_ofEntries hg, entriesOf]
  have horder : orderOf models = g.topologicalOrder.map (·.map (·.id)) := by
    rw [orderOf, ← entriesOf, hg]
    rfl
  rw [horder] at h
  cases hnodes : g.topologicalOrder with
  | ok nodes =>
    rw [hnodes] at h
    cases h
  | error e =>
    rw [hnodes] at h
    obtain rfl := Except.error.inj h
    obtain ⟨taken, cycle, -, rfl⟩ := Graph.topologicalOrder_error hnodes
    exact ⟨taken, cycle, by rw [hsize]⟩

/-! ### Runs that are not started -/

variable {e : Engine σ} {failFast : Bool} {s : Session σ} {fault : GraphError} {batch : Batch}

/-- Once there is an order nothing is wrong with the graph any more. -/
theorem runInOrder_gives_no_graph (e : Engine σ) (failFast : Bool) (models : List Model)
    (batch : Batch) (order : List String) :
    Gives (e.runInOrder failFast models batch order) fun r =>
      ∀ fault batch', r.2 ≠ .error (.graph fault batch') := by
  induction order generalizing models batch with
  | nil => exact .pure fun _ _ h => by cases h
  | cons id rest ih =>
    unfold runInOrder
    cases models.find? (·.id == id) with
    | none => exact ih models batch
    | some m =>
      refine .bind_any fun r => ?_
      obtain ⟨m', result⟩ := r
      cases result with
      | error escape => exact .pure fun _ _ h => by cases h
      | ok o =>
        dsimp only
        split
        · exact .pure fun _ _ h => by cases h
        · exact ih _ _

/-- **A run is not started exactly when its models have no order,** and then it gives a batch
    without outcomes. -/
theorem runModels_graph_iff :
    ((e.runModels models failFast).run s).1.2 = .error (.graph fault batch)
      ↔ orderOf models = .error fault ∧ batch = ({} : Batch).complete := by
  cases horder : orderOf models with
  | error e' =>
    rw [runModels, horder]
    constructor
    · intro h
      obtain ⟨rfl, rfl⟩ := Interruption.graph.inj (Except.error.inj h)
      exact ⟨rfl, rfl⟩
    · rintro ⟨h, rfl⟩
      obtain rfl := Except.error.inj h
      rfl
  | ok order =>
    refine iff_of_false (fun h => ?_) fun h => by cases h.1
    rw [runModels_run horder rfl] at h
    exact runInOrder_gives_no_graph e failFast models {} order (announced order s) fault batch h

/-! ### Projects -/

/-- Models of which a run can at most find out, before it starts, that they depend on each other
    in a circle. -/
structure ReadyToRun (models : List Model) : Prop where
  closed : Closed models
  builds : ∀ kind, ∃ g, Graph.ofEntries (entriesOf models) kind = .ok g
  aborts : ∀ {σ : Type} (e : Engine σ) (failFast : Bool) (s : Session σ) fault batch,
    ((e.runModels models failFast).run s).1.2 = .error (.graph fault batch) →
      (∃ taken cycle, fault = .unsortable taken models.length cycle)
        ∧ batch.outcomes = [] ∧ e.runRequests models failFast s = []
  starts : ∀ {σ : Type} (e : Engine σ) (failFast : Bool) (s : Session σ),
    (∀ fault batch, ((e.runModels models failFast).run s).1.2 ≠ .error (.graph fault batch))
      ↔ Acyclic (DependsAmong models)

theorem readyToRun_of_closed (hclosed : Closed models) : ReadyToRun models where
  closed := hclosed
  builds kind := (exists_ofEntries_entriesOf_iff kind).2 hclosed
  aborts e failFast s fault batch h := by
    obtain ⟨horder, rfl⟩ := runModels_graph_iff.1 h
    refine ⟨orderOf_error hclosed horder, rfl, ?_⟩
    rw [runRequests, requests, runModels, horder]
    rfl
  starts e failFast s := by
    rw [← exists_orderOf_iff_acyclic hclosed]
    simp only [ne_eq, runModels_graph_iff, not_and]
    cases horder : orderOf models with
    | ok order => simp
    | error fault => simp

/-- All models, or those with certain names and what they depend on. -/
def chosen (models : List Model) : (selection : Option (List String)) →
    Except NoSuchModel (List Model)
  | none => .ok models
  | some names => Model.select models names

theorem closed_of_chosen {selection : Option (List String)} (hclosed : Closed models)
    (h : chosen models selection = .ok selected) : Closed selected := by
  cases selection with
  | none =>
    obtain rfl := Except.ok.inj h
    exact hclosed
  | some names => exact hclosed.select h

/-- **What is discovered, compiled and chosen of a project is ready to run.** -/
theorem readyToRun_of_compileAll {files : FileTree} {directories : List Path}
    {found compiled : List Model} {base left : Context} {environment : Entries String}
    {fullRefresh : Bool} {selection : Option (List String)}
    (hfound : (Model.discover files directories).1 = .ok found)
    (hcompiled : Model.compileAll found base environment fullRefresh = .ok (compiled, left))
    (hchosen : chosen compiled selection = .ok selected) : ReadyToRun selected := by
  obtain ⟨hnodup, hindependent⟩ := Model.discover_ok hfound
  have hclosed := Model.compileAll_closed hnodup hindependent hcompiled
  exact readyToRun_of_closed (closed_of_chosen hclosed hchosen)

/-- The text of a file that defines a model, and what is read from it. -/
def readsA : String := "\x7b\x7bref('a')\x7d\x7d"

def readsABody : List Template.Stmt :=
  [.output [.expr (.call (.name "ref" 1) (.mk [.constant (.text "a")] [] none none))]]

/-- Two files with that text, so that one model reads itself and the other reads the one. -/
def selfReading : FileTree where
  nodes := [(["m"], .directory),
    (["m", "a.sql"], .file (readsA.toList.map (·.toUInt8))),
    (["m", "b.sql"], .file (readsA.toList.map (·.toUInt8)))]
  home := []

def asFound : List Model :=
  [⟨"a", "/m/a.sql", "", readsA, {}, [], []⟩, ⟨"b", "/m/b.sql", "", readsA, {}, [], []⟩]

def asCompiled : List Model :=
  [⟨"a", "/m/a.sql", "a", readsA, {}, ["a"], []⟩, ⟨"b", "/m/b.sql", "a", readsA, {}, ["a"], []⟩]

theorem discover_selfReading : (Model.discover selfReading [⟨"/", ["m"]⟩]).1 = .ok asFound := by
  have hthere : selfReading.contains ⟨"/", ["m"]⟩ = .ok true := by cbv
  have hbelow : selfReading.allBelow Model.suffix ⟨"/", ["m"]⟩
      = [⟨"/", ["m", "a.sql"]⟩, ⟨"/", ["m", "b.sql"]⟩] := by cbv
  have htextA : selfReading.readText ⟨"/", ["m", "a.sql"]⟩ = .ok readsA := by cbv
  have htextB : selfReading.readText ⟨"/", ["m", "b.sql"]⟩ = .ok readsA := by cbv
  have hquery : Sql.query readsA = readsA := by decide +kernel
  have hsettings : Sql.materialization readsA = .ok {} := by decide +kernel
  have hA : Model.ofFile selfReading [] ⟨"/", ["m", "a.sql"]⟩
      = .ok ⟨"a", "/m/a.sql", "", Sql.query readsA, {}, [], []⟩ :=
    Model.ofFile_eq_ok_iff.2
      ⟨readsA, {}, by decide +kernel, by decide +kernel, htextA, hsettings, rfl⟩
  have hB : Model.ofFile selfReading [("a", "/m/a.sql")] ⟨"/", ["m", "b.sql"]⟩
      = .ok ⟨"b", "/m/b.sql", "", Sql.query readsA, {}, [], []⟩ :=
    Model.ofFile_eq_ok_iff.2
      ⟨readsA, {}, by decide +kernel, by decide +kernel, htextB, hsettings, rfl⟩
  rw [hquery] at hA hB
  have hfiles : Model.ofFiles selfReading []
      [⟨"/", ["m", "a.sql"]⟩, ⟨"/", ["m", "b.sql"]⟩] = .ok asFound :=
    bind_eq_ok_iff.2 ⟨_, hA, bind_eq_ok_iff.2 ⟨_, bind_eq_ok_iff.2 ⟨_, hB, rfl⟩, rfl⟩⟩
  rw [Model.discover, Model.ofDirectories, hthere, hbelow]
  simp only [hfiles]
  rfl

theorem compileAll_selfReading :
    Model.compileAll asFound {} [] false = .ok (asCompiled, {}) := by
  -- either template refers to `a` while it is rendered, and the text of the second mentions it too
  have hread (id : String) : Template.read {} id readsA = .ok ⟨id, readsABody⟩ := by cbv
  have hrenderA : (⟨"a", readsABody⟩ : Template).renderTracked (Context.forModel {} "a") [] [] {}
      = (⟨.ok "a", [.text "a"], Context.forModel {} "a", false, false⟩, ⟨[("a", [.text "a"])]⟩) := rfl
  have hrenderB : (⟨"b", readsABody⟩ : Template).renderTracked (Context.forModel {} "b") [] []
        ⟨[("a", [.text "a"])]⟩
      = (⟨.ok "a", [.text "a"], Context.forModel {} "b", false, false⟩,
          ⟨[("a", [.text "a"]), ("b", [.text "a"])]⟩) := rfl
  have hmentioned : RefScan.refNames readsA = ["a"] := by cbv
  have hA : Model.compile ⟨"a", "/m/a.sql", "", readsA, {}, [], []⟩ false ["a", "b"] [] {}
      = .ok (⟨"a", "/m/a.sql", "a", readsA, {}, ["a"], []⟩, ⟨{}, ⟨[("a", [.text "a"])]⟩⟩) :=
    Model.compile_of_tracked (hread "a") hrenderA rfl rfl rfl hmentioned rfl
  have hB : Model.compile ⟨"b", "/m/b.sql", "", readsA, {}, [], []⟩ false ["a", "b"] []
        ⟨{}, ⟨[("a", [.text "a"])]⟩⟩
      = .ok (⟨"b", "/m/b.sql", "a", readsA, {}, ["a"], []⟩,
          ⟨{}, ⟨[("a", [.text "a"]), ("b", [.text "a"])]⟩⟩) :=
    Model.compile_of_tracked (hread "b") hrenderB rfl rfl rfl hmentioned rfl
  exact bind_eq_ok_iff.2 ⟨_, Model.compileEach_cons hA (Model.compileEach_cons hB rfl), rfl⟩

theorem readyToRun_of_compileAll_selfReading :
    (Model.discover selfReading [⟨"/", ["m"]⟩]).1 = .ok asFound
      ∧ Model.compileAll asFound {} [] false = .ok (asCompiled, {})
      ∧ chosen asCompiled (some [" b"]) = .ok asCompiled ∧ ReadyToRun asCompiled := by
  have hasked : Model.askedFor asCompiled [" b"] = .ok ["b"] := rfl
  have hreached : Model.reached asCompiled ["b"] = ["b", "a"] := by cbv
  have hchosen : chosen asCompiled (some [" b"]) = .ok asCompiled := by
    refine bind_eq_ok_iff.2 ⟨_, hasked, ?_⟩
    rw [hreached]
    rfl
  exact ⟨discover_selfReading, compileAll_selfReading, hchosen,
    readyToRun_of_compileAll discover_selfReading compileAll_selfReading hchosen⟩

/-- What a command makes of the files of a project is ready to run as well. -/
theorem readyToRun_of_compiled {files : FileTree} {directories : List Path}
    {environment : Environment} {project : Project} {select : Option String} {fullRefresh : Bool}
    {context : Context}
    (h : Task.compiled files environment project select fullRefresh
      (Model.discover files directories).1 = .ok (models, context)) : ReadyToRun models := by
  obtain ⟨seeds, -, h⟩ := bind_eq_ok_iff.1 h
  obtain ⟨found, hfound, h⟩ := bind_eq_ok_iff.1 h
  obtain ⟨⟨compiled, left⟩, hcompiled, h⟩ := bind_eq_ok_iff.1 h
  obtain ⟨hnodup, hindependent⟩ := Model.discover_ok (mapError_eq_ok_iff.1 hfound)
  have hclosed := Model.compileAll_closed hnodup hindependent (mapError_eq_ok_iff.1 hcompiled)
  refine readyToRun_of_closed ?_
  dsimp only at h
  split at h
  · obtain ⟨rfl, -⟩ := Prod.mk.inj (Except.ok.inj h)
    exact hclosed
  · obtain ⟨rfl, -⟩ := Prod.mk.inj (Except.ok.inj h)
    exact hclosed
  · obtain ⟨selected, hselected, h⟩ := bind_eq_ok_iff.1 h
    obtain ⟨rfl, -⟩ := Prod.mk.inj (Except.ok.inj h)
    exact hclosed.select (mapError_eq_ok_iff.1 hselected)

/-! ### Selections -/

theorem dependsAmong_filter {keep : String → Bool} {a b : String} (ha : keep a = true) :
    DependsAmong (models.filter fun m => keep m.id) a b ↔ DependsAmong models a b := by
  simp only [DependsAmong, List.mem_filter]
  constructor
  · rintro ⟨m, ⟨hm, -⟩, hid, hb⟩
    exact ⟨m, hm, hid, hb⟩
  · rintro ⟨m, hm, rfl, hb⟩
    exact ⟨m, ⟨hm, ha⟩, rfl, hb⟩

/-- The graph of some of the models, with all that they depend on, is a part of that of all. -/
theorem isPart_filter {keep : String → Bool} {kind : String} {whole part : Graph}
    (hclosed : ∀ m ∈ models, keep m.id = true → ∀ dep ∈ m.dependencies, keep dep = true)
    (hwhole : Graph.ofEntries (entriesOf models) kind = .ok whole)
    (hpart : Graph.ofEntries (entriesOf (models.filter fun m => keep m.id)) kind = .ok part) :
    Graph.IsPart keep whole part := by
  obtain ⟨-, -, hwholeDeps⟩ := Graph.ofEntries_ok hwhole
  obtain ⟨-, -, hpartDeps⟩ := Graph.ofEntries_ok hpart
  constructor
  case nodes =>
    rw [Graph.nodes_ofEntries hpart, Graph.nodes_ofEntries hwhole, entriesOf, entriesOf,
      List.map_map, List.map_map, List.filter_map]
    rfl
  case dependencies =>
    intro a ha b
    rw [hpartDeps, hwholeDeps, entryDependsOn_entriesOf, entryDependsOn_entriesOf]
    exact dependsAmong_filter ha
  case closed =>
    intro a ha b hb
    rw [hwholeDeps, entryDependsOn_entriesOf] at hb
    obtain ⟨m, hmem, rfl, hb⟩ := hb
    exact hclosed m hmem ha b hb

/-- **Choosing models never reorders them:** the order of the chosen ones is that of all models
    without those that are left out. -/
theorem topologicalOrder_select (hm : Sortable models)
    (hselected : Model.select models names = .ok selected) :
    ∃ whole part order, Graph.ofEntries (entriesOf models) "model" = .ok whole
      ∧ Graph.ofEntries (entriesOf selected) "model" = .ok part
      ∧ whole.topologicalOrder = .ok order
      ∧ part.topologicalOrder
          = .ok (order.filter fun node => decide (node.id ∈ selected.map (·.id))) := by
  obtain ⟨order, horder⟩ := exists_orderOf_iff.2 hm
  obtain ⟨whole, nodes, hwhole, hnodes, -⟩ := orderOf_eq_ok_iff.1 horder
  obtain ⟨part, hpart⟩ :=
    (exists_ofEntries_entriesOf_iff "model").2 (hm.closed.select hselected)
  obtain ⟨keep, rfl, hkeep⟩ := Model.select_ok hm.nodup_ids hselected
  obtain ⟨hwholeGood, hwholeIds, -⟩ := Graph.ofEntries_ok hwhole
  obtain ⟨hpartGood, -, -⟩ := Graph.ofEntries_ok hpart
  have hclosed : ∀ m ∈ models, keep m.id = true → ∀ dep ∈ m.dependencies, keep dep = true :=
    fun m hmem hkept dep hdep => hkeep m hmem hkept dep hdep (hm.known m hmem dep hdep)
  refine ⟨whole, part, nodes, hwhole, hpart, hnodes, ?_⟩
  rw [Graph.topologicalOrder_part hwholeGood hpartGood (isPart_filter hclosed hwhole hpart) hnodes]
  congr 1
  refine List.filter_congr fun node hnode => ?_
  have hid : node.id ∈ models.map (·.id) := by
    rw [← entriesOf_ids, ← hwholeIds]
    have hperm := (Graph.isDependencyOrder_of_topologicalOrder hwholeGood hnodes).perm
    exact List.mem_map_of_mem (hperm.mem_iff.1 hnode)
  rw [Bool.eq_iff_iff, decide_eq_true_iff, Model.mem_ids_filter]
  exact (and_iff_right hid).symm

/-- Three models, the first of which reads the last. -/
def readsLast : List Model :=
  [⟨"c", "c.sql", "select * from a", "", {}, ["a"], []⟩, ⟨"b", "b.sql", "select 1", "", {}, [], []⟩,
    ⟨"a", "a.sql", "select 1", "", {}, [], []⟩]

theorem readsLast_sortable : Sortable readsLast where
  nodup_ids := by decide
  known := by decide
  acyclic := by
    refine .of_rank (fun id => if id = "c" then 1 else 0) fun a b h => ?_
    obtain ⟨m, hm, rfl, hb⟩ := h
    simp only [readsLast, List.mem_cons, List.not_mem_nil, or_false] at hm
    rcases hm with rfl | rfl | rfl
    · obtain rfl : b = "a" := by simpa using hb
      decide
    · cases hb
    · cases hb

theorem topologicalOrder_select_readsLast :
    ∃ selected, Sortable readsLast ∧ Model.select readsLast [" c", ""] = .ok selected
      ∧ selected.map (·.id) = ["c", "a"]
      ∧ ∃ whole part order, Graph.ofEntries (entriesOf readsLast) "model" = .ok whole
        ∧ Graph.ofEntries (entriesOf selected) "model" = .ok part
        ∧ whole.topologicalOrder = .ok order
        ∧ part.topologicalOrder
            = .ok (order.filter fun node => decide (node.id ∈ selected.map (·.id))) := by
  have hselected : Model.select readsLast [" c", ""]
      = .ok [⟨"c", "c.sql", "select * from a", "", {}, ["a"], []⟩,
          ⟨"a", "a.sql", "select 1", "", {}, [], []⟩] := by
    have hasked : Model.askedFor readsLast [" c", ""] = .ok ["c"] := rfl
    have hreached : Model.reached readsLast ["c"] = ["c", "a"] := by cbv
    refine bind_eq_ok_iff.2 ⟨_, hasked, ?_⟩
    rw [hreached]
    rfl
  exact ⟨_, readsLast_sortable, hselected, rfl, topologicalOrder_select readsLast_sortable hselected⟩

/-! ### Runs that are refused before they start -/

/-- That an error names something that is wrong with models. -/
inductive Blames (models : List Model) : GraphError → Prop
  | twice {id : String} : 1 < (models.map (·.id)).count id → Blames models (.duplicateNode id)
  | unknown {m : Model} {dep : String} : m ∈ models → dep ∈ m.dependencies →
      dep ∉ models.map (·.id) → Blames models (.unknownNode dep)
  | circle {taken : Nat} {cycle : List String} : IsCycle (DependsAmong models) cycle →
      Blames models (.unsortable taken models.length cycle)

theorem hasEdge_entriesOf {g : Graph} {kind : String}
    (hg : Graph.ofEntries (entriesOf models) kind = .ok g) {a b : String} :
    g.hasEdge a b = true ↔ DependsAmong models a b := by
  rw [Graph.hasEdge_iff, (Graph.ofEntries_ok hg).2.2, entryDependsOn_entriesOf]

theorem blames_of_orderOf (h : orderOf models = .error fault) : Blames models fault := by
  rcases bind_eq_error_iff.1 h with hbuild | ⟨g, hg, hsort⟩
  · rcases Graph.ofEntries_error hbuild with
      ⟨id, rfl, hrepeated⟩ | ⟨-, dep, rfl, hunknown⟩
    · exact .twice (entriesOf_ids models ▸ hrepeated.one_lt_count)
    · obtain ⟨entry, hentry, hdep, habsent⟩ := hunknown.exists_entry
      obtain ⟨m, hm, rfl⟩ := List.mem_map.1 hentry
      exact .unknown hm hdep (entriesOf_ids models ▸ habsent)
  · rcases bind_eq_error_iff.1 hsort with hsort | ⟨order, horder, hmap⟩
    · obtain ⟨hgood, -, -⟩ := Graph.ofEntries_ok hg
      obtain ⟨cycle, hfound, rfl⟩ := (Graph.topologicalOrder_eq_error_iff hgood).1 hsort
      have hcycle := (Graph.isFirstCycle_of_findCycle? hgood hfound).toIsCycle
      have hsize : g.size = models.length := by
        simp [Graph.size, Graph.nodes_ofEntries hg]
      rw [hsize]
      exact .circle (hcycle.mono fun a b hab => (hasEdge_entriesOf hg).1 hab)
    · cases hmap

/-- What is wrong with models that cannot be brought into an order. -/
theorem not_sortable_iff : ¬ Sortable models ↔ ¬ (models.map (·.id)).Nodup
    ∨ (∃ m ∈ models, ∃ dep ∈ m.dependencies, dep ∉ models.map (·.id))
    ∨ ∃ id, Relation.TransGen (DependsAmong models) id id := by
  constructor
  · intro h
    by_contra hnone
    obtain ⟨hnodup, hknown, hacyclic⟩ := by simpa only [not_or, not_not] using hnone
    refine h ⟨hnodup, fun m hm dep hdep => ?_, fun id hid => hacyclic ⟨id, hid⟩⟩
    by_contra habsent
    exact hknown ⟨m, hm, dep, hdep, habsent⟩
  · rintro (htwice | ⟨m, hm, dep, hdep, habsent⟩ | ⟨id, hid⟩) h
    · exact htwice h.nodup_ids
    · exact habsent (h.known m hm dep hdep)
    · exact h.acyclic id hid

theorem runModels_run_of_orderOf_error (h : orderOf models = .error fault) :
    (e.runModels models failFast).run s
      = ((models, .error (.graph fault ({} : Batch).complete)), s) := by
  rw [runModels, h]
  rfl

/-- **A run is refused exactly when two models share an id, one depends on something that is no
    model of the list, or they depend on each other in a circle.**  Nothing has been asked of the
    store then, nothing has changed, and what is handed over is a complete batch without
    outcomes. -/
theorem runModels_refused_iff (e : Engine σ) (models : List Model) (failFast : Bool)
    (s : Session σ) :
    ((∃ fault batch, ((e.runModels models failFast).run s).1.2 = .error (.graph fault batch))
        ↔ ¬ (models.map (·.id)).Nodup
          ∨ (∃ m ∈ models, ∃ dep ∈ m.dependencies, dep ∉ models.map (·.id))
          ∨ ∃ id, Relation.TransGen (DependsAmong models) id id)
      ∧ ∀ fault batch, ((e.runModels models failFast).run s).1.2 = .error (.graph fault batch) →
          (e.runModels models failFast).run s = ((models, .error (.graph fault batch)), s)
            ∧ e.runRequests models failFast s = []
            ∧ batch.outcomes = [] ∧ batch.hasEnded = true
            ∧ Blames models fault := by
  simp only [runModels_graph_iff]
  constructor
  · rw [← not_sortable_iff, ← exists_orderOf_iff]
    cases orderOf models with
    | ok order => simp
    | error fault => simp
  · rintro fault batch ⟨horder, rfl⟩
    refine ⟨runModels_run_of_orderOf_error horder, ?_, rfl, rfl, blames_of_orderOf horder⟩
    rw [runRequests, requests, runModels_run_of_orderOf_error horder]
    rfl

end SqlPipeline.Run.Engine
