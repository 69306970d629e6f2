/-
  SqlPipeline/Proofs/Graph/Least.lean
  ===================================
  **The order that is found is the least of all that respect the edges.**

  Orders are compared node by node, by the places that the nodes have in the order of
  addition.  Taking the earliest node that can be next is greedy, and nothing is lost by
  it: where another order first takes another node, it could have taken this one, which is
  earlier (`InTurn.least`).  The order therefore depends on the nodes and on the set of the
  edges alone, not on how often and in which order these were added
  (`topologicalOrder_least`).
-/
import SqlPipeline.Proofs.Graph.Order
import Mathlib

namespace SqlPipeline.Graph

variable {g g' : Graph} {taken : List String} {order other : List Node}

/-! ### Places -/

theorem node_eq_of_id_eq (hg : g.WellFormed) {a b : Node} (ha : a ∈ g.nodes) (hb : b ∈ g.nodes)
    (h : a.id = b.id) : a = b :=
  List.inj_on_of_nodup_map hg.nodup_ids ha hb h

/-- A node is not behind those that do not come before it. -/
theorem place_le_of_split (hg : g.WellFormed) {earlier later : List Node} {node x : Node}
    (hnodes : g.nodes = earlier ++ node :: later) (hx : x ∈ g.nodes) (hlater : x ∉ earlier) :
    g.place node.id ≤ g.place x.id := by
  have hnode : g.nodes[earlier.length]? = some node := by simp [hnodes]
  obtain ⟨j, hj⟩ := List.getElem?_of_mem hx
  rw [place_eq_of_getElem? hg hnode, place_eq_of_getElem? hg hj]
  by_contra hlt
  rw [hnodes, List.getElem?_append_left (Nat.lt_of_not_le hlt)] at hj
  exact hlater (List.mem_of_getElem? hj)

/-! ### Orders in which each node can be taken -/

/-- That each node of a list can be next when its turn comes. -/
def Possible (g : Graph) : (taken : List String) → (order : List Node) → Prop
  | _, [] => True
  | taken, node :: rest =>
      node ∈ g.nodes ∧ g.IsNext taken node ∧ Possible g (node.id :: taken) rest

/-- In an order that respects the edges each node can be next behind those before it. -/
theorem IsDependencyOrder.isNext (h : g.IsDependencyOrder order) {before later : List Node}
    {node : Node} (hsplit : order = before ++ node :: later) :
    g.IsNext (before.map (·.id)) node := by
  have hnodup := h.nodup
  have hbefore := h.idxOf_lt node.id
  rw [hsplit, List.map_append, List.map_cons] at hnodup hbefore
  have hnew : node.id ∉ before.map (·.id) := fun hmem =>
    (List.nodup_append.1 hnodup).2.2 _ hmem _ List.mem_cons_self rfl
  refine ⟨hnew, fun dep hdep => ?_⟩
  by_contra hlate
  have hlt := hbefore dep (hasEdge_iff.2 hdep)
  rw [List.idxOf_append_of_notMem hnew, List.idxOf_append_of_notMem hlate,
    List.idxOf_cons_self] at hlt
  omega

theorem isNext_congr {taken' : List String} (h : ∀ id, id ∈ taken' ↔ id ∈ taken) {node : Node} :
    g.IsNext taken' node ↔ g.IsNext taken node := by
  simp only [IsNext, h]

theorem IsDependencyOrder.possible (h : g.IsDependencyOrder order) {before later : List Node}
    (hsplit : order = before ++ later) : g.Possible (before.map (·.id)).reverse later := by
  induction later generalizing before with
  | nil => trivial
  | cons node later ih =>
    refine ⟨h.perm.mem_iff.1 (by simp [hsplit]), ?_, ?_⟩
    · exact (isNext_congr fun _ => List.mem_reverse).2 (h.isNext hsplit)
    · simpa using @ih (before ++ [node]) (by simp [hsplit])

/-! ### The least order -/

namespace InTurn

/-- What is left of an order is taken in turn behind what has been taken of it. -/
theorem drop {before later : List Node} (h : g.InTurn taken (before ++ later)) :
    g.InTurn ((before.map (·.id)).reverse ++ taken) later := by
  induction before generalizing taken with
  | nil => exact h
  | cons node before ih =>
    cases h with
    | next _ _ _ htail => simpa using ih htail

/-- At each step the node that is taken is the earliest that can be next. -/
theorem earliest (hg : g.WellFormed) {node : Node} (h : g.InTurn taken (node :: order)) :
    g.IsNext taken node ∧ ∀ x ∈ g.nodes, g.IsNext taken x → g.place node.id ≤ g.place x.id := by
  cases h with
  | next hnodes hnext hearlier _ =>
    refine ⟨hnext, fun x hx hxnext => place_le_of_split hg hnodes hx ?_⟩
    exact fun hmem => hearlier x hmem hxnext

/-- **Every other order of the nodes that are left is greater,** as long as each of its nodes can
    be next when its turn comes. -/
theorem least (hg : g.WellFormed) (h : g.InTurn taken order) (hother : g.Possible taken other)
    (hall : ∀ node ∈ g.nodes, node.id ∈ taken ∨ node.id ∈ other.map (·.id)) :
    other = order
      ∨ List.Lex (· < ·) (order.map (g.place ·.id)) (other.map (g.place ·.id)) := by
  induction h generalizing other with
  | done hnone =>
    cases other with
    | nil => exact Or.inl rfl
    | cons x rest => exact absurd hother.2.1 (hnone x hother.1)
  | @next taken earlier later order node hnodes hnext hearlier htail ih =>
    have hnode : node ∈ g.nodes := by simp [hnodes]
    cases other with
    | nil => exact absurd ((hall node hnode).resolve_right (by simp)) hnext.1
    | cons x rest =>
      obtain ⟨hx, hxnext, hrest⟩ := hother
      have hle : g.place node.id ≤ g.place x.id :=
        place_le_of_split hg hnodes hx fun hmem => hearlier x hmem hxnext
      rcases Nat.lt_or_eq_of_le hle with hlt | heq
      · exact Or.inr (.rel hlt)
      · -- both take the same node, and differ behind it if at all
        have hid : node.id = x.id :=
          place_injective (List.mem_map_of_mem hnode) (List.mem_map_of_mem hx) heq
        obtain rfl := node_eq_of_id_eq hg hnode hx hid
        have hallRest : ∀ y ∈ g.nodes, y.id ∈ node.id :: taken ∨ y.id ∈ rest.map (·.id) := by
          intro y hy
          simpa [or_assoc, or_left_comm] using hall y hy
        rcases ih hrest hallRest with rfl | hlex
        · exact Or.inl rfl
        · exact Or.inr (.cons hlex)

/-- Another graph that has the same ids in the same order and the same edges takes its nodes in
    the same order. -/
theorem transfer (hids : g'.ids = g.ids)
    (hdeps : ∀ a b, b ∈ g'.dependencies a ↔ b ∈ g.dependencies a) (h : g.InTurn taken order) :
    ∃ order', g'.InTurn taken order' ∧ order'.map (·.id) = order.map (·.id) := by
  have hsame : ∀ {taken : List String} {x y : Node}, y.id = x.id →
      g'.IsNext taken y → g.IsNext taken x := by
    intro taken x y hid hy
    rw [IsNext, hid] at hy
    exact ⟨hy.1, fun dep hdep => hy.2 dep ((hdeps _ _).2 hdep)⟩
  induction h with
  | done hnone =>
    refine ⟨[], .done fun y hy hnext => ?_, rfl⟩
    have hy' : y.id ∈ g.ids := hids ▸ List.mem_map_of_mem hy
    obtain ⟨x, hx, hid⟩ := List.mem_map.1 hy'
    exact hnone x hx (hsame hid.symm hnext)
  | @next taken earlier later order node hnodes hnext hearlier htail ih =>
    obtain ⟨order', hturn, horder'⟩ := ih
    have hsplit : g'.nodes.map (·.id)
        = earlier.map (·.id) ++ node.id :: later.map (·.id) := by
      rw [← List.map_cons, ← List.map_append, ← hnodes]
      exact hids
    obtain ⟨earlier', rest', hnodes', hearlier', hrest'⟩ := List.map_eq_append_iff.1 hsplit
    obtain ⟨node', later', rfl, hid, -⟩ := List.map_eq_cons_iff.1 hrest'
    refine ⟨node' :: order', .next hnodes' ?_ ?_ (hid ▸ hturn), by simp [hid, horder']⟩
    · rw [IsNext, hid]
      exact ⟨hnext.1, fun dep hdep => hnext.2 dep ((hdeps _ _).1 hdep)⟩
    · intro y hy hynext
      have hy' : y.id ∈ earlier.map (·.id) := hearlier' ▸ List.mem_map_of_mem hy
      obtain ⟨x, hx, hxid⟩ := List.mem_map.1 hy'
      exact hearlier x hx (hsame hxid.symm hynext)

end InTurn

theorem eq_of_map_id_eq (hg : g.WellFormed) (horder : order ⊆ g.nodes) (hother : other ⊆ g.nodes)
    (h : other.map (·.id) = order.map (·.id)) : other = order := by
  induction order generalizing other with
  | nil => exact List.map_eq_nil_iff.1 h
  | cons node order ih =>
    obtain ⟨x, rest, rfl, hid, hrest⟩ := List.map_eq_cons_iff.1 h
    obtain ⟨hnode, horder⟩ := List.cons_subset.1 horder
    obtain ⟨hx, hother⟩ := List.cons_subset.1 hother
    rw [node_eq_of_id_eq hg hx hnode hid, ih horder hother hrest]

/-- An order that respects the edges, that no other such order is less than, and that takes the
    earliest node that can be next at each of its steps. -/
structure IsLeastOrder (g : Graph) (order : List Node) : Prop where
  respects : g.IsDependencyOrder order
  least : ∀ other, g.IsDependencyOrder other → other = order
    ∨ List.Lex (· < ·) (order.map (g.place ·.id)) (other.map (g.place ·.id))
  earliest : ∀ before node later, order = before ++ node :: later →
    g.IsNext (before.map (·.id)) node
      ∧ ∀ x ∈ g.nodes, g.IsNext (before.map (·.id)) x → g.place node.id ≤ g.place x.id

theorem InTurn.isLeastOrder (hg : g.WellFormed) (h : g.InTurn [] order)
    (hrespects : g.IsDependencyOrder order) : g.IsLeastOrder order where
  respects := hrespects
  least other hother := by
    refine h.least hg (hother.possible (List.nil_append other).symm) fun node hnode => Or.inr ?_
    exact List.mem_map_of_mem (hother.perm.mem_iff.2 hnode)
  earliest before node later hsplit := by
    rw [hsplit] at h
    have hstep := InTurn.earliest hg h.drop
    rw [List.append_nil] at hstep
    simpa only [isNext_congr fun _ => List.mem_reverse] using hstep

/-- **The order that is found is the least one,** and it is found again in every graph that has the
    same nodes in the same order and the same edges, however these were added. -/
theorem topologicalOrder_least {changes : List Change}
    (h : (after changes).topologicalOrder = .ok order) :
    (after changes).IsLeastOrder order
      ∧ ∀ changes', (after changes').ids = (after changes).ids →
        (∀ a b, (after changes').hasEdge a b = (after changes).hasEdge a b) →
        ∃ order', (after changes').topologicalOrder = .ok order'
          ∧ order'.map (·.id) = order.map (·.id)
          ∧ ((after changes').nodes = (after changes).nodes → order' = order) := by
  have hg := wellFormed_after changes
  obtain ⟨hturn, hperm⟩ := (topologicalOrder_eq_ok_iff hg).1 h
  refine ⟨hturn.isLeastOrder hg (isDependencyOrder_of_topologicalOrder hg h), ?_⟩
  intro changes' hids hedges
  have hg' := wellFormed_after changes'
  have hdeps : ∀ a b, b ∈ (after changes').dependencies a ↔ b ∈ (after changes).dependencies a := by
    intro a b
    rw [← hasEdge_iff, ← hasEdge_iff, hedges]
  obtain ⟨order', hturn', horder'⟩ := hturn.transfer hids hdeps
  have hlength : order'.length = (after changes').nodes.length := by
    have hnodes := congrArg List.length hids
    have horders := congrArg List.length horder'
    simp only [ids, List.length_map] at hnodes horders
    rw [horders, hnodes, hperm.length_eq]
  have hperm' := hturn'.perm_of_length_eq hlength
  refine ⟨order', (topologicalOrder_eq_ok_iff hg').2 ⟨hturn', hperm'⟩, horder', fun hnodes => ?_⟩
  exact eq_of_map_id_eq hg hperm.subset (hnodes ▸ hperm'.subset) horder'

/-- A node without a name of its own. -/
def bare (id : String) : Node :=
  .make id "" "model" [] []

/-- Two nodes that depend on a third one, which comes last. -/
def readLast : List Change :=
  [.addNode (bare "a"), .addNode (bare "b"), .addNode (bare "c"), .addEdge "a" "c", .addEdge "b" "c"]

/-- The same graph, with its edges added in another order and one of them twice. -/
def readLastAgain : List Change :=
  [.addNode (bare "a"), .addNode (bare "b"), .addNode (bare "c"), .addEdge "b" "c", .addEdge "a" "c",
    .addEdge "b" "c"]

theorem topologicalOrder_least_readLast :
    (after readLast).topologicalOrder = .ok [bare "c", bare "a", bare "b"]
      ∧ (after readLast).IsLeastOrder [bare "c", bare "a", bare "b"]
      ∧ (after readLastAgain).topologicalOrder = .ok [bare "c", bare "a", bare "b"] := by
  have h : (after readLast).topologicalOrder = .ok [bare "c", bare "a", bare "b"] := by cbv
  have hforward : (after readLastAgain).forward = (after readLast).forward := by cbv
  obtain ⟨hleast, hagain⟩ := topologicalOrder_least h
  obtain ⟨order', horder', -, heq⟩ := hagain readLastAgain (by cbv) fun a b => by
    rw [hasEdge, dependencies, hforward, hasEdge, dependencies]
  rw [heq (by cbv)] at horder'
  exact ⟨h, hleast, horder'⟩

end SqlPipeline.Graph
