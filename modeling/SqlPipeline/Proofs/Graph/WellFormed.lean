/-
  SqlPipeline/Proofs/Graph/WellFormed.lean
  ========================================
  **What holds of every graph that is built by adding nodes and edges.**

  A graph keeps its edges twice, by their dependents and by their dependencies.  Whatever
  is added, in whatever order, and however many additions fail on the way, the two sides
  stay mirror images of each other: `wellFormed_after`.  The taking of nodes in order
  counts along one side and counts off along the other, and is right for this reason.
-/
import SqlPipeline.Graph.Order
import Mathlib.Data.List.Induction
import Mathlib.Data.List.Nodup

namespace SqlPipeline

namespace Graph

/-! ### Both sides of the edges, after each operation -/

theorem contains_iff {g : Graph} {id : String} : g.contains id = true ↔ id ∈ g.ids := by
  simp [contains, ids]

theorem hasEdge_iff {g : Graph} {a b : String} :
    g.hasEdge a b = true ↔ b ∈ g.dependencies a := by
  simp [hasEdge]

theorem names_push (key x : String) (lists : Entries (List String)) :
    (push key x lists).names = lists.names := by
  simp [push, Entries.names]

theorem find?_push (key x name : String) (lists : Entries (List String)) :
    Entries.find? (push key x lists) name
      = (Entries.find? lists name).map fun xs => if name = key then xs ++ [x] else xs := by
  induction lists with
  | nil => rfl
  | cons e rest ih =>
    obtain ⟨k, xs⟩ := e
    rw [push, List.map_cons, Entries.find?_cons, Entries.find?_cons]
    by_cases h : name = k
    · simp [h]
    · rw [if_neg h, if_neg h]
      exact ih

/-- The one way in which a node is added. -/
theorem addNode_eq_ok_iff {g g' : Graph} {node : Node} :
    g.addNode node = .ok g' ↔ node.id ∉ g.ids ∧
      g' = ⟨g.nodes ++ [node], g.forward ++ [(node.id, [])], g.backward ++ [(node.id, [])]⟩ := by
  rw [← contains_iff]
  unfold addNode
  cases g.contains node.id <;> simp [eq_comm (a := g')]

/-- The two ways in which an edge is added: it was there already, or it is put at the end of
    both sides. -/
theorem addEdge_eq_ok_iff {g g' : Graph} {a b : String} :
    g.addEdge a b = .ok g' ↔ a ∈ g.ids ∧ b ∈ g.ids ∧
      (b ∈ g.dependencies a ∧ g' = g ∨
        b ∉ g.dependencies a ∧ g' = ⟨g.nodes, push a b g.forward, push b a g.backward⟩) := by
  rw [← contains_iff, ← contains_iff, ← hasEdge_iff]
  unfold addEdge
  cases g.contains a <;> cases g.contains b <;> cases g.hasEdge a b <;> simp [eq_comm]

theorem dependencies_addNode {g g' : Graph} {node : Node} (h : g.addNode node = .ok g')
    (id : String) : g'.dependencies id = g.dependencies id := by
  obtain ⟨-, rfl⟩ := addNode_eq_ok_iff.1 h
  simp only [dependencies, Entries.find?_append]
  cases hid : Entries.find? g.forward id with
  | some xs => rfl
  | none =>
    rw [Entries.find?_cons]
    split <;> rfl

theorem dependents_addNode {g g' : Graph} {node : Node} (h : g.addNode node = .ok g')
    (id : String) : g'.dependents id = g.dependents id := by
  obtain ⟨-, rfl⟩ := addNode_eq_ok_iff.1 h
  simp only [dependents, Entries.find?_append]
  cases hid : Entries.find? g.backward id with
  | some xs => rfl
  | none =>
    rw [Entries.find?_cons]
    split <;> rfl

/-! ### Well-formed graphs -/

/-- What the operations keep up: each node has its lists, and the lists of one side mirror
    those of the other, each edge once. -/
structure WellFormed (g : Graph) : Prop where
  nodup_ids : g.ids.Nodup
  names_forward : g.forward.names = g.ids
  names_backward : g.backward.names = g.ids
  nodup_dependencies : ∀ id, (g.dependencies id).Nodup
  nodup_dependents : ∀ id, (g.dependents id).Nodup
  mirror : ∀ a b, a ∈ g.dependents b ↔ b ∈ g.dependencies a
  isNode : ∀ a b, b ∈ g.dependencies a → b ∈ g.ids

namespace WellFormed

variable {g g' : Graph}

theorem empty : WellFormed Graph.empty where
  nodup_ids := List.nodup_nil
  names_forward := rfl
  names_backward := rfl
  nodup_dependencies _ := List.nodup_nil
  nodup_dependents _ := List.nodup_nil
  mirror _ _ := by simp [Graph.empty, dependents, dependencies, Entries.find?]
  isNode _ _ h := by cases h

/-- Only nodes depend on something. -/
theorem isNode_dependent (hg : g.WellFormed) {a b : String} (h : b ∈ g.dependencies a) :
    a ∈ g.ids := by
  rw [← hg.names_forward, ← Entries.find?_isSome_iff]
  cases hfind : Entries.find? g.forward a with
  | some xs => rfl
  | none => simp [dependencies, hfind] at h

theorem addNode (hg : g.WellFormed) {node : Node} (h : g.addNode node = .ok g') :
    g'.WellFormed := by
  have hforward := dependencies_addNode h
  have hbackward := dependents_addNode h
  obtain ⟨hnew, rfl⟩ := addNode_eq_ok_iff.1 h
  constructor
  case nodup_ids =>
    simpa [ids, List.nodup_append] using ⟨hg.nodup_ids, fun other hother heq =>
      hnew (List.mem_map.2 ⟨other, hother, heq⟩)⟩
  case names_forward => simpa [Entries.names, ids] using hg.names_forward
  case names_backward => simpa [Entries.names, ids] using hg.names_backward
  case nodup_dependencies => intro id; rw [hforward]; exact hg.nodup_dependencies id
  case nodup_dependents => intro id; rw [hbackward]; exact hg.nodup_dependents id
  case mirror => intro a b; rw [hforward, hbackward]; exact hg.mirror a b
  case isNode =>
    intro a b hb
    rw [hforward] at hb
    have := hg.isNode a b hb
    simp only [ids, List.map_append, List.mem_append]
    exact Or.inl this

/-- After an edge has been added its dependent has one more dependency, unless it had it. -/
theorem dependencies_addEdge (hg : g.WellFormed) {a b : String} (h : g.addEdge a b = .ok g')
    (id : String) : g'.dependencies id
      = if id = a ∧ b ∉ g.dependencies a then g.dependencies id ++ [b] else g.dependencies id := by
  obtain ⟨ha, hb, ⟨hedge, rfl⟩ | ⟨hedge, rfl⟩⟩ := addEdge_eq_ok_iff.1 h
  · simp [hedge]
  · by_cases hid : id = a
    · subst hid
      rw [← hg.names_forward, ← Entries.find?_isSome_iff] at ha
      obtain ⟨xs, hxs⟩ := Option.isSome_iff_exists.1 ha
      rw [if_pos ⟨rfl, hedge⟩]
      simp [dependencies, find?_push, hxs]
    · simp [dependencies, find?_push, hid]

/-- After an edge has been added its dependency has one more dependent, unless it had it. -/
theorem dependents_addEdge (hg : g.WellFormed) {a b : String} (h : g.addEdge a b = .ok g')
    (id : String) : g'.dependents id
      = if id = b ∧ b ∉ g.dependencies a then g.dependents id ++ [a] else g.dependents id := by
  obtain ⟨ha, hb, ⟨hedge, rfl⟩ | ⟨hedge, rfl⟩⟩ := addEdge_eq_ok_iff.1 h
  · simp [hedge]
  · by_cases hid : id = b
    · subst hid
      rw [← hg.names_backward, ← Entries.find?_isSome_iff] at hb
      obtain ⟨xs, hxs⟩ := Option.isSome_iff_exists.1 hb
      rw [if_pos ⟨rfl, hedge⟩]
      simp [dependents, find?_push, hxs]
    · simp [dependents, find?_push, hid]

theorem mem_dependencies_addEdge (hg : g.WellFormed) {a b : String}
    (h : g.addEdge a b = .ok g') {x y : String} :
    y ∈ g'.dependencies x ↔ (x = a ∧ y = b) ∨ y ∈ g.dependencies x := by
  rw [hg.dependencies_addEdge h]
  split
  · rename_i hx
    simp [hx.1, or_comm]
  · rename_i hx
    constructor
    · exact Or.inr
    · rintro (⟨rfl, rfl⟩ | hy)
      · exact not_not.1 fun hn => hx ⟨rfl, hn⟩
      · exact hy

theorem nodes_addEdge {a b : String} (h : g.addEdge a b = .ok g') : g'.nodes = g.nodes := by
  obtain ⟨-, -, ⟨-, rfl⟩ | ⟨-, rfl⟩⟩ := addEdge_eq_ok_iff.1 h <;> rfl

theorem ids_addEdge {a b : String} (h : g.addEdge a b = .ok g') : g'.ids = g.ids := by
  rw [ids, nodes_addEdge h, ids]

theorem addEdge (hg : g.WellFormed) {a b : String} (h : g.addEdge a b = .ok g') :
    g'.WellFormed := by
  have hids := ids_addEdge h
  have hmem := @mem_dependencies_addEdge g g' hg a b h
  obtain ⟨-, hb, hcase⟩ := addEdge_eq_ok_iff.1 h
  constructor
  case nodup_ids => rw [hids]; exact hg.nodup_ids
  case names_forward =>
    obtain ⟨-, rfl⟩ | ⟨-, rfl⟩ := hcase
    · exact hg.names_forward
    · rw [names_push]; exact hg.names_forward
  case names_backward =>
    obtain ⟨-, rfl⟩ | ⟨-, rfl⟩ := hcase
    · exact hg.names_backward
    · rw [names_push]; exact hg.names_backward
  case nodup_dependencies =>
    intro id
    rw [hg.dependencies_addEdge h]
    split
    · rename_i hnew
      rw [hnew.1, ← List.concat_eq_append]
      exact (hg.nodup_dependencies a).concat hnew.2
    · exact hg.nodup_dependencies id
  case nodup_dependents =>
    intro id
    rw [hg.dependents_addEdge h]
    split
    · rename_i hnew
      rw [hnew.1, ← List.concat_eq_append]
      exact (hg.nodup_dependents b).concat (mt (hg.mirror a b).1 hnew.2)
    · exact hg.nodup_dependents id
  case mirror =>
    intro x y
    rw [hmem, hg.dependents_addEdge h]
    split
    · rename_i hnew
      simp only [hnew.1, List.mem_append, List.mem_singleton, hg.mirror, and_true]
      exact or_comm
    · rename_i hold
      rw [hg.mirror]
      constructor
      · exact Or.inr
      · rintro (⟨rfl, rfl⟩ | hy)
        · exact not_not.1 fun hn => hold ⟨rfl, hn⟩
        · exact hy
  case isNode =>
    intro x y hy
    rw [hids]
    obtain ⟨-, rfl⟩ | hold := hmem.1 hy
    · exact hb
    · exact hg.isNode x y hold

end WellFormed

/-! ### Sequences of additions -/

/-- An addition; one that fails leaves the graph as it is. -/
inductive Change where
  | addNode (node : Option Node)         -- there may be no node to add
  | addEdge (dependent dependency : String)

/-- What an addition gives. -/
def Change.result (g : Graph) : Change → Except GraphError Graph
  | addNode none => .error .absentNode
  | addNode (some node) => g.addNode node
  | addEdge dependent dependency => g.addEdge dependent dependency

/-- The graph after an addition. -/
def Change.apply (g : Graph) (c : Change) : Graph :=
  match c.result g with
  | .ok g' => g'
  | .error _ => g

/-- The graph that a sequence of additions builds. -/
def after (changes : List Change) : Graph :=
  changes.foldl Change.apply empty

theorem after_append_singleton (changes : List Change) (c : Change) :
    after (changes ++ [c]) = c.apply (after changes) := by
  simp [after]

theorem wellFormed_apply {g : Graph} (hg : g.WellFormed) (c : Change) : (c.apply g).WellFormed := by
  unfold Change.apply
  split
  · rename_i g' h
    match c, h with
    | .addNode (some node), h => exact hg.addNode h
    | .addEdge a b, h => exact hg.addEdge h
  · exact hg

/-- **Every graph that is built by additions is well-formed.** -/
theorem wellFormed_after (changes : List Change) : (after changes).WellFormed := by
  induction changes using List.reverseRecOn with
  | nil => exact WellFormed.empty
  | append_singleton changes c ih =>
    rw [after_append_singleton]
    exact wellFormed_apply ih c

theorem mem_dependencies_apply {g : Graph} (hg : g.WellFormed) {c : Change} {a b : String} :
    b ∈ (c.apply g).dependencies a
      ↔ b ∈ g.dependencies a ∨ (c = .addEdge a b ∧ a ∈ g.ids ∧ b ∈ g.ids) := by
  match c with
  | .addNode none => simp [Change.apply, Change.result]
  | .addNode (some node) =>
      simp only [Change.apply, Change.result, reduceCtorEq, false_and, or_false]
      split
      · rename_i g' h
        rw [dependencies_addNode h]
      · rfl
  | .addEdge x y =>
      simp only [Change.apply, Change.result, Change.addEdge.injEq]
      split
      · rename_i g' h
        obtain ⟨hx, hy, -⟩ := addEdge_eq_ok_iff.1 h
        rw [hg.mem_dependencies_addEdge h, or_comm]
        constructor
        · rintro (hb | ⟨rfl, rfl⟩)
          · exact Or.inl hb
          · exact Or.inr ⟨⟨rfl, rfl⟩, hx, hy⟩
        · rintro (hb | ⟨⟨rfl, rfl⟩, -, -⟩)
          · exact Or.inl hb
          · exact Or.inr ⟨rfl, rfl⟩
      · rename_i e h
        constructor
        · exact Or.inl
        · rintro (hb | ⟨⟨rfl, rfl⟩, hx, hy⟩)
          · exact hb
          · by_contra hn
            rw [addEdge_eq_ok_iff.2 ⟨hx, hy, Or.inr ⟨hn, rfl⟩⟩] at h
            cases h

end Graph

end SqlPipeline
