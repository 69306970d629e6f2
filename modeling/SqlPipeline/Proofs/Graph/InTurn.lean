/-
  SqlPipeline/Proofs/Graph/InTurn.lean
  ====================================
  **Taking nodes in turn: always the earliest one whose dependencies have been taken.**

  `InTurn` says which order this gives without saying how the node is found.  Such an
  order holds no node twice and no node before what it depends on, and it stops short of
  some nodes exactly when these contain a cycle: `InTurn.perm_iff_acyclic`.
-/
import SqlPipeline.Proofs.Graph.WellFormed
import Mathlib.Data.Fintype.EquivFin
import Mathlib.Data.List.Perm.Subperm
import Mathlib.Data.Set.Finite.Basic
import Mathlib.Order.WellFounded

namespace SqlPipeline

/-! ### Relations without cycles -/

/-- Nothing leads back to itself, neither directly nor through others. -/
def Acyclic {α : Type} (r : α → α → Prop) : Prop :=
  ∀ a, ¬ Relation.TransGen r a a

namespace Acyclic

variable {α : Type} {r s : α → α → Prop}

/-- A rank that falls along the relation keeps it from returning. -/
theorem of_rank (rank : α → Nat) (h : ∀ a b, r a b → rank b < rank a) : Acyclic r := by
  have hfall : ∀ a b, Relation.TransGen r a b → rank b < rank a := by
    intro a b hab
    induction hab with
    | single hab => exact h _ _ hab
    | tail _ hbc ih => exact (h _ _ hbc).trans ih
  intro a ha
  exact Nat.lt_irrefl _ (hfall a a ha)

/-- Among finitely many things there is one that leads to none of them. -/
theorem exists_last (h : Acyclic r) {xs : List α} {x : α} (hx : x ∈ xs) :
    ∃ a ∈ xs, ∀ b ∈ xs, ¬ r a b := by
  let leads : {a // a ∈ xs} → {a // a ∈ xs} → Prop := fun b a => Relation.TransGen r a.1 b.1
  have : Finite {a // a ∈ xs} := (List.finite_toSet xs).to_subtype
  have : IsTrans _ leads := ⟨fun _ _ _ hab hbc => hbc.trans hab⟩
  have : Std.Irrefl leads := ⟨fun a => h a.1⟩
  have hwf : WellFounded leads := Finite.wellFounded_of_trans_of_irrefl leads
  obtain ⟨⟨a, ha⟩, -, hmin⟩ := hwf.has_min Set.univ ⟨⟨x, hx⟩, trivial⟩
  exact ⟨a, ha, fun b hb hab => hmin ⟨b, hb⟩ trivial (.single hab)⟩

end Acyclic

namespace Graph

variable {g : Graph} {taken : List String} {order : List Node}

/-- That the first node depends directly on the second. -/
def DependsOn (g : Graph) (a b : String) : Prop :=
  g.hasEdge a b = true

/-! ### The order -/

/-- That a node has not been taken, but everything that it depends on has. -/
def IsNext (g : Graph) (taken : List String) (node : Node) : Prop :=
  node.id ∉ taken ∧ ∀ dep ∈ g.dependencies node.id, dep ∈ taken

/-- The nodes in the order in which they are taken after some others: each is the earliest
    that can be next, and at the end none can. -/
inductive InTurn (g : Graph) : (taken : List String) → (order : List Node) → Prop
  | done {taken : List String} : (∀ node ∈ g.nodes, ¬ g.IsNext taken node) → InTurn g taken []
  | next {taken : List String} {earlier later order : List Node} {node : Node} :
      g.nodes = earlier ++ node :: later → g.IsNext taken node →
      (∀ other ∈ earlier, ¬ g.IsNext taken other) →
      InTurn g (node.id :: taken) order → InTurn g taken (node :: order)

namespace InTurn

/-- There is only one such order. -/
theorem unique {order' : List Node} (h : g.InTurn taken order) (h' : g.InTurn taken order') :
    order = order' := by
  induction h generalizing order' with
  | done hnone =>
    cases h' with
    | done _ => rfl
    | next hnodes hnext _ _ => exact absurd hnext (hnone _ (by simp [hnodes]))
  | @next taken earlier later order node hnodes hnext hearlier _ ih =>
    cases h' with
    | done hnone => exact absurd hnext (hnone _ (by simp [hnodes]))
    | @next _ earlier' later' order' node' hnodes' hnext' hearlier' htail' =>
      have hsplit := hnodes.symm.trans hnodes'
      rcases List.append_eq_append_iff.1 hsplit with ⟨middle, rfl, htail⟩ | ⟨middle, rfl, htail⟩
      · cases middle with
        | nil =>
          obtain ⟨rfl, rfl⟩ := List.cons.inj htail
          rw [ih htail']
        | cons other middle =>
          obtain ⟨rfl, -⟩ := List.cons.inj htail
          exact absurd hnext (hearlier' node (by simp))
      · cases middle with
        | nil =>
          obtain ⟨rfl, rfl⟩ := List.cons.inj htail
          rw [ih htail']
        | cons other middle =>
          obtain ⟨rfl, -⟩ := List.cons.inj htail
          exact absurd hnext' (hearlier node' (by simp))

theorem subset_nodes (h : g.InTurn taken order) : order ⊆ g.nodes := by
  induction h with
  | done _ => exact List.nil_subset _
  | next hnodes _ _ _ ih =>
    intro node hnode
    rcases List.mem_cons.1 hnode with rfl | hmem
    · simp [hnodes]
    · exact ih hmem

theorem not_mem_taken (h : g.InTurn taken order) : ∀ id ∈ order.map (·.id), id ∉ taken := by
  induction h with
  | done _ => simp
  | next _ hnext _ _ ih =>
    intro id hid
    rcases List.mem_cons.1 hid with rfl | hmem
    · exact hnext.1
    · exact fun htaken => ih id hmem (List.mem_cons_of_mem _ htaken)

/-- No node is taken twice. -/
theorem nodup (h : g.InTurn taken order) : (order.map (·.id)).Nodup := by
  induction h with
  | done _ => exact List.nodup_nil
  | next _ _ _ htail ih =>
    refine List.nodup_cons.2 ⟨?_, ih⟩
    exact fun hmem => htail.not_mem_taken _ hmem List.mem_cons_self

/-- What a node depends on has been taken before it. -/
theorem idxOf_lt (h : g.InTurn taken order) {a b : String} (ha : a ∈ order.map (·.id))
    (hb : b ∈ g.dependencies a) :
    b ∈ taken ∨ (order.map (·.id)).idxOf b < (order.map (·.id)).idxOf a := by
  induction h with
  | done _ => cases ha
  | @next taken _ _ order node _ hnext _ _ ih =>
    by_cases hhead : a = node.id
    · subst hhead
      exact Or.inl (hnext.2 b hb)
    · have hmem : a ∈ order.map (·.id) := (List.mem_cons.1 ha).resolve_left hhead
      rw [List.map_cons, List.idxOf_cons_ne _ (Ne.symm hhead)]
      by_cases hfirst : b = node.id
      · rw [hfirst, List.idxOf_cons_self]
        exact Or.inr (Nat.succ_pos _)
      · rw [List.idxOf_cons_ne _ (Ne.symm hfirst)]
        rcases ih hmem with htaken | hlt
        · exact Or.inl ((List.mem_cons.1 htaken).resolve_left hfirst)
        · exact Or.inr (Nat.succ_lt_succ hlt)

/-- At the end a node that is left depends on another that is left. -/
theorem exists_left (h : g.InTurn taken order) {node : Node} (hnode : node ∈ g.nodes)
    (htaken : node.id ∉ taken) (horder : node.id ∉ order.map (·.id)) :
    ∃ dep ∈ g.dependencies node.id, dep ∉ taken ∧ dep ∉ order.map (·.id) := by
  induction h with
  | done hnone =>
    by_contra hall
    refine hnone node hnode ⟨htaken, fun dep hdep => ?_⟩
    by_contra hleft
    exact hall ⟨dep, hdep, hleft, by simp⟩
  | next _ _ _ _ ih =>
    simp only [List.map_cons, List.mem_cons, not_or] at horder ih ⊢
    obtain ⟨dep, hdep, ⟨hhead, hleft⟩, htail⟩ := ih ⟨horder.1, htaken⟩ horder.2
    exact ⟨dep, hdep, hleft, hhead, htail⟩

theorem dependency_idxOf_lt (hg : g.WellFormed) (h : g.InTurn [] order)
    (hall : ∀ id ∈ g.ids, id ∈ order.map (·.id)) (a b : String) (hab : g.DependsOn a b) :
    (order.map (·.id)).idxOf b < (order.map (·.id)).idxOf a := by
  have hb := hasEdge_iff.1 hab
  have ha := hall a (hg.isNode_dependent hb)
  exact (h.idxOf_lt ha hb).resolve_left (by simp)

/-- Without a cycle every node has its turn. -/
theorem mem_of_acyclic (hg : g.WellFormed) (h : g.InTurn [] order) (hac : Acyclic g.DependsOn) :
    ∀ id ∈ g.ids, id ∈ order.map (·.id) := by
  intro id hid
  by_contra hleft
  -- among the nodes that are left there would be one that depends on none of them
  have hmem : id ∈ g.ids.filter (· ∉ order.map (·.id)) := by simpa [hid] using hleft
  obtain ⟨last, hlast, hnone⟩ := hac.exists_last hmem
  obtain ⟨hnode, hout⟩ := List.mem_filter.1 hlast
  obtain ⟨node, hin, rfl⟩ := List.mem_map.1 hnode
  obtain ⟨dep, hdep, -, hdepLeft⟩ := h.exists_left hin (by simp) (by simpa using hout)
  refine hnone dep (List.mem_filter.2 ⟨hg.isNode _ _ hdep, by simpa using hdepLeft⟩) ?_
  exact hasEdge_iff.2 hdep

/-- When as many nodes are taken as there are, they are all nodes, each once. -/
theorem perm_of_length_eq (h : g.InTurn [] order)
    (hlength : order.length = g.nodes.length) : order.Perm g.nodes := by
  have hnodup : order.Nodup := List.Nodup.of_map _ h.nodup
  exact (hnodup.subperm h.subset_nodes).perm_of_length_le hlength.ge

/-- **All nodes have their turn exactly when there is no cycle.** -/
theorem perm_iff_acyclic (hg : g.WellFormed) (h : g.InTurn [] order) :
    order.Perm g.nodes ↔ Acyclic g.DependsOn := by
  constructor
  · intro hperm
    refine Acyclic.of_rank ((order.map (·.id)).idxOf ·) (h.dependency_idxOf_lt hg ?_)
    exact fun id hid => ((hperm.map (·.id)).mem_iff).2 hid
  · intro hac
    have hids : (order.map (·.id)).Perm g.ids := by
      refine (List.perm_ext_iff_of_nodup h.nodup hg.nodup_ids).2 fun id => ⟨?_, ?_⟩
      · exact fun hid => List.map_subset _ h.subset_nodes hid
      · exact h.mem_of_acyclic hg hac id
    exact h.perm_of_length_eq (by simpa [ids] using hids.length_eq)

end InTurn

end Graph

end SqlPipeline
