/-
  SqlPipeline/Proofs/Graph/InPlace.lean
  =====================================
  **Additions that work on a graph in place.**

  An addition checks first and then changes one map after the other, so that it could end
  between two changes, with maps that do not fit together.  It never does: a call that fails
  has changed nothing, and one that does not fail has made all its changes (`run_work`).  So
  the graph that is worked on is the one that is built as a value, and its maps stay mirror
  images of each other in whatever order nodes and edges are added (`workAll_mapsAgree`).
-/
import SqlPipeline.Proofs.Entries
import SqlPipeline.Proofs.Graph.Build
import Mathlib

namespace SqlPipeline.Graph

/-! ### Calls -/

/-- An addition in place; what has been changed before it fails would stay changed. -/
def Change.work : Change → ExceptT GraphError (StateM Graph) Unit
  | .addNode none => throw .absentNode
  | .addNode (some node) => do
      if (← get).contains node.id then throw (.duplicateNode node.id)
      modify fun g => { g with nodes := g.nodes ++ [node] }
      modify fun g => { g with forward := Entries.insert node.id [] g.forward }
      modify fun g => { g with backward := Entries.insert node.id [] g.backward }
  | .addEdge dependent dependency => do
      if !(← get).contains dependent then throw (.unknownNode dependent)
      if !(← get).contains dependency then throw (.unknownNode dependency)
      if (← get).hasEdge dependent dependency then return ()
      modify fun g => { g with forward := push dependent dependency g.forward }
      modify fun g => { g with backward := push dependency dependent g.backward }

/-- A call and what it has given. -/
abbrev Call := Change × Except GraphError Unit

/-- Calls one after the other, each on the graph that the one before has left, whether or not
    that one has failed. -/
def workAll (changes : List Change) : StateM Graph (List Call) :=
  changes.mapM fun c => do return (c, ← c.work.run)

/-- The node that a call has added. -/
def Call.node? : Call → Option Node
  | (.addNode (some node), .ok ()) => some node
  | _ => none

/-! ### What a call gives and leaves -/

variable {g : Graph} {c : Change} {e : GraphError} {a b : String}

/-- A node is added if its id is new. -/
theorem run_addNode (g : Graph) (node : Node) :
    (Change.addNode (some node)).work.run.run g
      = if g.contains node.id then (.error (.duplicateNode node.id), g)
        else (.ok (), ⟨g.nodes ++ [node], Entries.insert node.id [] g.forward,
          Entries.insert node.id [] g.backward⟩) := by
  rw [Change.work, run_get_bind]
  cases g.contains node.id <;> rfl

theorem run_addEdge (g : Graph) (a b : String) :
    (Change.addEdge a b).work.run.run g
      = if !g.contains a then (.error (.unknownNode a), g)
        else if !g.contains b then (.error (.unknownNode b), g)
        else if g.hasEdge a b then (.ok (), g)
        else (.ok (), ⟨g.nodes, push a b g.forward, push b a g.backward⟩) := by
  rw [Change.work, run_get_bind]
  cases g.contains a with
  | false => rfl
  | true =>
    simp only [Bool.not_true, Bool.false_eq_true, if_false, run_get_bind]
    cases g.contains b with
    | false => rfl
    | true =>
      simp only [Bool.not_true, Bool.false_eq_true, if_false, run_get_bind]
      cases g.hasEdge a b <;> rfl

/-- **A call gives what the addition gives,** and it leaves the graph that the addition builds:
    the same one if it fails. -/
theorem run_work (hg : g.WellFormed) (c : Change) :
    c.work.run.run g = ((c.result g).map fun _ => (), c.apply g) := by
  match c with
  | .addNode none => rfl
  | .addNode (some node) =>
    rw [run_addNode, Change.apply, Change.result, addNode]
    cases hnode : g.contains node.id with
    | true => rfl
    | false =>
      have hnew : node.id ∉ g.ids := by
        rw [← contains_iff, hnode]
        exact Bool.false_ne_true
      rw [Entries.insert_of_notMem [] (hg.names_forward ▸ hnew),
        Entries.insert_of_notMem [] (hg.names_backward ▸ hnew)]
      rfl
  | .addEdge a b =>
    rw [run_addEdge, Change.apply, Change.result, addEdge]
    cases g.contains a with
    | false => rfl
    | true =>
      cases g.contains b with
      | false => rfl
      | true => cases g.hasEdge a b <;> rfl

/-- A call that fails leaves the graph as it is. -/
theorem run_work_error (hg : g.WellFormed) (h : (c.work.run.run g).1 = .error e) :
    c.work.run.run g = (.error e, g) := by
  rw [run_work hg] at h ⊢
  cases hresult : c.result g with
  | ok g' =>
    rw [hresult] at h
    cases h
  | error e' =>
    rw [hresult] at h
    obtain rfl : e' = e := Except.error.inj h
    rw [Change.apply, hresult]
    rfl

/-- An edge that is there already is added without any change. -/
theorem run_work_again (h : g.hasEdge a b = true) (hg : g.WellFormed) :
    (Change.addEdge a b).work.run.run g = (.ok (), g) := by
  have hedge := hasEdge_iff.1 h
  have ha := contains_iff.2 (hg.isNode_dependent hedge)
  have hb := contains_iff.2 (hg.isNode a b hedge)
  rw [run_addEdge, ha, hb, h]
  rfl

/-! ### Calls one after the other -/

theorem run_workAll_append_singleton (changes : List Change) (c : Change) (g : Graph) :
    (workAll (changes ++ [c])).run g
      = (((workAll changes).run g).1 ++ [(c, (c.work.run.run ((workAll changes).run g).2).1)],
          (c.work.run.run ((workAll changes).run g).2).2) := by
  simp only [workAll, List.mapM_append, List.mapM_cons, List.mapM_nil]
  rfl

/-- The calls build the graph that the additions build. -/
theorem run_workAll_snd (changes : List Change) :
    ((workAll changes).run empty).2 = after changes := by
  induction changes using List.reverseRecOn with
  | nil => rfl
  | append_singleton changes c ih =>
    rw [run_workAll_append_singleton, ih, run_work (wellFormed_after changes), after_append_singleton]

/-- What one more call gives, on the graph that the calls before have built. -/
theorem run_workAll_fst (changes : List Change) (c : Change) :
    ((workAll (changes ++ [c])).run empty).1 = ((workAll changes).run empty).1
      ++ [(c, (c.result (after changes)).map fun _ => ())] := by
  rw [run_workAll_append_singleton, run_workAll_snd, run_work (wellFormed_after changes)]

/-- The nodes are those whose addition has not failed, in the order of the calls. -/
theorem nodes_after (changes : List Change) :
    (after changes).nodes = ((workAll changes).run empty).1.filterMap Call.node? := by
  induction changes using List.reverseRecOn with
  | nil => rfl
  | append_singleton changes c ih =>
    rw [run_workAll_fst, List.filterMap_append, ← ih, after_append_singleton, Change.apply]
    cases c with
    | addNode node =>
      cases node with
      | none => simp [Change.result, Except.map, Call.node?]
      | some node =>
        cases h : (Change.addNode (some node)).result (after changes) with
        | ok g' =>
          obtain ⟨-, rfl⟩ := addNode_eq_ok_iff.1 h
          rfl
        | error e => simp [Except.map, Call.node?]
    | addEdge a b =>
      cases h : (Change.addEdge a b).result (after changes) with
      | ok g' => simp [Except.map, Call.node?, WellFormed.nodes_addEdge h]
      | error e => simp [Except.map, Call.node?]

/-- The edges are those whose addition has not failed. -/
theorem mem_dependencies_after (changes : List Change) (a b : String) :
    b ∈ (after changes).dependencies a
      ↔ (.addEdge a b, .ok ()) ∈ ((workAll changes).run empty).1 := by
  induction changes using List.reverseRecOn with
  | nil => simp [after, empty, dependencies, Entries.find?, workAll, pure, StateT.pure, StateT.run]
  | append_singleton changes c ih =>
    rw [run_workAll_fst, after_append_singleton, mem_dependencies_apply (wellFormed_after changes), ih,
      List.mem_append, List.mem_singleton, Prod.mk.injEq, eq_comm (a := c)]
    refine or_congr_right (and_congr_right fun hc => ?_)
    subst hc
    rw [← exists_addEdge_iff, Change.result]
    cases (after changes).addEdge a b <;> simp [Except.map]

/-! ### The maps -/

/-- That the three maps of a graph fit together, and that they hold just what calls have
    added. -/
structure MapsAgree (g : Graph) (calls : List Call) : Prop where
  keys : g.forward.names = g.ids ∧ g.backward.names = g.ids
  nodup_ids : g.ids.Nodup
  forward : ∀ entry ∈ g.forward, entry.2.Nodup ∧ ∀ id ∈ entry.2, id ∈ g.ids
  backward : ∀ entry ∈ g.backward, entry.2.Nodup ∧ ∀ id ∈ entry.2, id ∈ g.ids
  dependent : ∀ a b, b ∈ g.dependencies a ↔ a ∈ g.dependents b
  edge : ∀ a b, b ∈ g.dependencies a ↔ g.hasEdge a b = true
  added : ∀ a b, g.hasEdge a b = true ↔ (.addEdge a b, .ok ()) ∈ calls
  nodes : g.nodes = calls.filterMap Call.node?
  works : ∀ c : Change, c.work.run.run g = ((c.result g).map fun _ => (), c.apply g)
  -- neither a call that fails nor the addition of an edge that is there changes anything
  refused : ∀ (c : Change) (e : GraphError),
    (c.work.run.run g).1 = .error e → (c.work.run.run g).2 = g
  again : ∀ a b, g.hasEdge a b = true → (Change.addEdge a b).work.run.run g = (.ok (), g)

/-- **The maps fit together after every sequence of calls,** those that fail among them. -/
theorem workAll_mapsAgree (changes : List Change) :
    ((workAll changes).run empty).2 = after changes
      ∧ (after changes).MapsAgree ((workAll changes).run empty).1 := by
  refine ⟨run_workAll_snd changes, ?_⟩
  have hg := wellFormed_after changes
  have hforward := hg.names_forward ▸ hg.nodup_ids
  have hbackward := hg.names_backward ▸ hg.nodup_ids
  constructor
  case keys => exact ⟨hg.names_forward, hg.names_backward⟩
  case nodup_ids => exact hg.nodup_ids
  case forward =>
    rintro ⟨id, xs⟩ hmem
    have hxs : (after changes).dependencies id = xs := by
      rw [dependencies, (Entries.find?_eq_some_iff hforward).2 hmem, Option.getD_some]
    subst hxs
    exact ⟨hg.nodup_dependencies id, hg.isNode id⟩
  case backward =>
    rintro ⟨id, xs⟩ hmem
    have hxs : (after changes).dependents id = xs := by
      rw [dependents, (Entries.find?_eq_some_iff hbackward).2 hmem, Option.getD_some]
    subst hxs
    exact ⟨hg.nodup_dependents id,
      fun other hother => hg.isNode_dependent ((hg.mirror other id).1 hother)⟩
  case dependent => exact fun a b => (hg.mirror a b).symm
  case edge => exact fun a b => hasEdge_iff.symm
  case added => exact fun a b => hasEdge_iff.trans (mem_dependencies_after changes a b)
  case nodes => exact nodes_after changes
  case works => exact run_work hg
  case refused => exact fun c e h => by rw [run_work_error hg h]
  case again => exact fun a b h => run_work_again h hg

end SqlPipeline.Graph
