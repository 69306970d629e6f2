/-
  SqlPipeline/Proofs/Graph/Order.lean
  ===================================
  **Counting dependencies off takes the nodes in turn.**

  The taking of nodes never looks at what has been taken: it counts the dependencies of
  each node along one side of the edges, and counts them off along the other.  While the
  sides mirror each other, the count of a node is the number of its dependencies that are
  still to be taken, and the ready places are those of the nodes that can be next
  (`Tracks`).  So the nodes are taken in turn, and what is left over holds a cycle:
  `topologicalOrder_after`.
-/
import SqlPipeline.Proofs.Graph.InTurn

namespace SqlPipeline.Graph

variable {g : Graph}

/-! ### Places -/

theorem getElem?_place {id : String} (h : id ∈ g.ids) :
    ∃ node, g.nodes[g.place id]? = some node ∧ node.id = id := by
  have hget : g.ids[g.place id]? = some id := by
    rw [place, List.getElem?_eq_getElem (List.idxOf_lt_length_of_mem h), List.getElem_idxOf]
  simpa [ids] using hget

theorem place_eq_of_getElem? (hg : g.WellFormed) {i : Nat} {node : Node}
    (h : g.nodes[i]? = some node) : g.place node.id = i := by
  obtain ⟨hi, rfl⟩ := List.getElem?_eq_some_iff.1 h
  have := hg.nodup_ids.idxOf_getElem i (by simpa [ids] using hi)
  simpa [place, ids] using this

theorem place_injective {a b : String} (ha : a ∈ g.ids) (hb : b ∈ g.ids)
    (h : g.place a = g.place b) : a = b := by
  obtain ⟨node, hnode, rfl⟩ := getElem?_place ha
  obtain ⟨other, hother, rfl⟩ := getElem?_place hb
  rw [h, hother] at hnode
  rw [Option.some.inj hnode]

/-! ### Counting off -/

namespace Progress

theorem find?_countOff (p : Progress) (id name : String) :
    Entries.find? (p.countOff g id).missing name
      = if name = id then (Entries.find? p.missing name).map (· - 1)
        else Entries.find? p.missing name := by
  unfold countOff
  split
  · rename_i n hn
    rw [Entries.find?_insert]
    split
    · rename_i heq
      simp [heq, hn]
    · rfl
  · rename_i hnone
    split
    · rename_i heq
      subst heq
      match h : Entries.find? p.missing name with
      | none => rfl
      | some 0 => rfl
      | some (n + 1) => exact absurd h (hnone n)
    · rfl

theorem mem_ready_countOff (p : Progress) (id : String) (i : Nat) :
    i ∈ (p.countOff g id).ready
      ↔ i ∈ p.ready ∨ (i = g.place id ∧ Entries.find? p.missing id = some 1) := by
  unfold countOff
  split
  · rename_i n hn
    by_cases hzero : n = 0 <;> simp [hn, hzero, or_comm]
  · rename_i hnone
    have hone : Entries.find? p.missing id ≠ some 1 := hnone 0
    simp [hone]

theorem find?_foldl_countOff {ids : List String} (hids : ids.Nodup) (p : Progress) (name : String) :
    Entries.find? (ids.foldl (countOff g) p).missing name
      = if name ∈ ids then (Entries.find? p.missing name).map (· - 1)
        else Entries.find? p.missing name := by
  induction ids generalizing p with
  | nil => simp
  | cons id ids ih =>
    obtain ⟨hid, htail⟩ := List.nodup_cons.1 hids
    rw [List.foldl_cons, ih htail, find?_countOff]
    by_cases hname : name = id
    · subst hname
      simp [hid]
    · simp [hname]

theorem mem_ready_foldl_countOff {ids : List String} (hids : ids.Nodup) (p : Progress) (i : Nat) :
    i ∈ (ids.foldl (countOff g) p).ready
      ↔ i ∈ p.ready ∨ ∃ id ∈ ids, i = g.place id ∧ Entries.find? p.missing id = some 1 := by
  induction ids generalizing p with
  | nil => simp
  | cons id ids ih =>
    obtain ⟨hid, htail⟩ := List.nodup_cons.1 hids
    have hsame : ∀ other ∈ ids, Entries.find? (p.countOff g id).missing other
        = Entries.find? p.missing other := by
      intro other hother
      rw [find?_countOff, if_neg]
      rintro rfl
      exact hid hother
    rw [List.foldl_cons, ih htail, mem_ready_countOff, List.exists_mem_cons_iff, or_assoc]
    refine or_congr_right (or_congr_right (exists_congr fun other => and_congr_right fun h => ?_))
    rw [hsame other h]

/-- No place gets ready twice, as long as none is ready whose node misses something. -/
theorem nodup_ready_foldl_countOff {ids : List String} (hids : ids.Nodup) (hnodes : ids ⊆ g.ids)
    {p : Progress} (hp : p.ready.Nodup)
    (hready : ∀ id ∈ ids, Entries.find? p.missing id = some 1 → g.place id ∉ p.ready) :
    (ids.foldl (countOff g) p).ready.Nodup := by
  induction ids generalizing p with
  | nil => exact hp
  | cons id ids ih =>
    obtain ⟨hid, htail⟩ := List.nodup_cons.1 hids
    have hin := List.cons_subset.1 hnodes
    refine ih htail hin.2 ?_ ?_
    · unfold countOff
      split
      · rename_i n hn
        by_cases hzero : n = 0
        · subst hzero
          exact List.nodup_cons.2 ⟨hready id List.mem_cons_self hn, hp⟩
        · simpa [hzero] using hp
      · exact hp
    · intro other hother hone
      have hne : other ≠ id := fun heq => hid (heq ▸ hother)
      rw [find?_countOff, if_neg hne] at hone
      rw [mem_ready_countOff, not_or]
      refine ⟨hready other (List.mem_cons_of_mem _ hother) hone, ?_⟩
      exact fun heq => hne (place_injective (hin.2 hother) hin.1 heq.1)

end Progress

/-! ### What the counts say -/

/-- How many dependencies of a node are still to be taken. -/
def toTake (g : Graph) (taken : List String) (id : String) : Nat :=
  (g.dependencies id).countP (· ∉ taken)

theorem toTake_eq_zero_iff {taken : List String} {id : String} :
    g.toTake taken id = 0 ↔ ∀ dep ∈ g.dependencies id, dep ∈ taken := by
  simp [toTake, List.countP_eq_zero]

theorem countP_not_mem_cons {taken : List String} {node : String} (hnew : node ∉ taken)
    (deps : List String) :
    deps.countP (· ∉ taken) = deps.countP (· ∉ node :: taken) + deps.count node := by
  induction deps with
  | nil => rfl
  | cons dep deps ih =>
    rw [List.countP_cons, List.countP_cons, List.count_cons, ih]
    by_cases hdep : dep = node
    · simp [hdep, hnew, Nat.add_assoc]
    · simp [hdep]
      omega

/-- Taking a node leaves one dependency less to those that depend on it. -/
theorem toTake_cons (hg : g.WellFormed) {taken : List String} {node : String}
    (hnew : node ∉ taken) (id : String) : g.toTake (node :: taken) id
      = if id ∈ g.dependents node then g.toTake taken id - 1 else g.toTake taken id := by
  have hcount := countP_not_mem_cons hnew (g.dependencies id)
  rw [(hg.nodup_dependencies id).count] at hcount
  simp only [toTake, hg.mirror]
  split
  · rename_i hdep
    rw [if_pos hdep] at hcount
    omega
  · rename_i hdep
    rw [if_neg hdep] at hcount
    omega

/-- **What can be next once a node has been taken:** what could be next before, and the
    dependents of the node for which it was the last to be taken. -/
theorem isNext_cons_iff (hg : g.WellFormed) {taken : List String}
    (hclosed : ∀ a ∈ taken, ∀ b ∈ g.dependencies a, b ∈ taken) {node other : Node}
    (hnext : g.IsNext taken node) : g.IsNext (node.id :: taken) other
      ↔ (other.id ≠ node.id ∧ g.IsNext taken other)
        ∨ (other.id ∈ g.dependents node.id ∧ g.toTake taken other.id = 1) := by
  constructor
  · rintro ⟨hnew, hall⟩
    rw [List.mem_cons, not_or] at hnew
    have hzero := toTake_eq_zero_iff.2 hall
    rw [toTake_cons hg hnext.1] at hzero
    by_cases hdep : other.id ∈ g.dependents node.id
    · have hpos : g.toTake taken other.id ≠ 0 := fun hnone =>
        hnext.1 (toTake_eq_zero_iff.1 hnone _ ((hg.mirror _ _).1 hdep))
      rw [if_pos hdep] at hzero
      exact Or.inr ⟨hdep, by omega⟩
    · rw [if_neg hdep] at hzero
      exact Or.inl ⟨hnew.1, hnew.2, toTake_eq_zero_iff.1 hzero⟩
  · rintro (⟨hne, hnew, hall⟩ | ⟨hdep, hone⟩)
    · exact ⟨by simp [hne, hnew], fun dep hdep => List.mem_cons_of_mem _ (hall dep hdep)⟩
    · refine ⟨fun hin => ?_, ?_⟩
      · -- it has not been taken, since one of its dependencies had not
        have hwaits := (hg.mirror _ _).1 hdep
        rcases List.mem_cons.1 hin with heq | htaken
        · rw [heq] at hwaits
          exact hnext.1 (hnext.2 _ hwaits)
        · exact hnext.1 (hclosed _ htaken _ hwaits)
      · rw [← toTake_eq_zero_iff, toTake_cons hg hnext.1, if_pos hdep, hone]

/-- What is true of the state after some nodes have been taken. -/
structure Tracks (g : Graph) (taken : List String) (p : Progress) : Prop where
  closed : ∀ a ∈ taken, ∀ b ∈ g.dependencies a, b ∈ taken
  missing : ∀ id ∈ g.ids, Entries.find? p.missing id = some (g.toTake taken id)
  ready : ∀ i, i ∈ p.ready ↔ ∃ node, g.nodes[i]? = some node ∧ g.IsNext taken node
  nodup_ready : p.ready.Nodup

namespace Tracks

variable {taken : List String} {p : Progress}

theorem find?_map_nodes (f : String → Nat) {id : String} (h : id ∈ g.ids) :
    Entries.find? (g.nodes.map fun node => (node.id, f node.id)) id = some (f id) := by
  unfold ids at h
  generalize g.nodes = nodes at h ⊢
  induction nodes with
  | nil => simp at h
  | cons node nodes ih =>
    rw [List.map_cons, Entries.find?_cons]
    by_cases hid : id = node.id
    · simp [hid]
    · rw [if_neg hid]
      exact ih ((List.mem_cons.1 h).resolve_left hid)

/-- At the start nothing has been taken. -/
theorem start (hg : g.WellFormed) : g.Tracks [] (Progress.start g) where
  closed := by simp
  missing := by
    intro id hid
    simpa [Progress.start, toTake] using find?_map_nodes (fun id => (g.dependencies id).length) hid
  ready := by
    intro i
    simp only [Progress.start, List.mem_map, List.mem_filter, beq_iff_eq, Prod.exists, IsNext,
      List.not_mem_nil, not_false_eq_true, true_and]
    constructor
    · rintro ⟨id, count, ⟨⟨node, hnode, heq⟩, hzero⟩, rfl⟩
      obtain ⟨rfl, rfl⟩ := Prod.mk.inj heq
      obtain ⟨other, hother, hid⟩ := getElem?_place (List.mem_map_of_mem hnode)
      refine ⟨other, hother, ?_⟩
      rw [hid, List.length_eq_zero_iff.1 hzero]
      simp
    · rintro ⟨node, hnode, hnone⟩
      refine ⟨node.id, 0, ⟨⟨node, List.mem_of_getElem? hnode, ?_⟩, rfl⟩,
        place_eq_of_getElem? hg hnode⟩
      rw [List.eq_nil_iff_forall_not_mem.2 hnone, List.length_nil]
  nodup_ready := by
    have hids : ((Progress.start g).missing.filter (·.2 == 0)).Pairwise fun a b => a.1 ≠ b.1 := by
      refine List.Pairwise.filter _ ?_
      simpa [Progress.start, List.pairwise_map, ids, List.Nodup] using hg.nodup_ids
    refine List.pairwise_map.2 (hids.imp_of_mem ?_)
    intro a b ha hb hne heq
    have hnode : ∀ e ∈ (Progress.start g).missing, e.1 ∈ g.ids := by
      simp only [Progress.start, List.mem_map]
      rintro e ⟨node, hnode, rfl⟩
      exact List.mem_map_of_mem hnode
    exact hne (place_injective (hnode a (List.mem_filter.1 ha).1)
      (hnode b (List.mem_filter.1 hb).1) heq)

/-- **One step:** when a ready node is taken, counts and ready places follow. -/
theorem take (hg : g.WellFormed) (h : g.Tracks taken p) {i : Nat} {node : Node}
    (hi : i ∈ p.ready) (hnode : g.nodes[i]? = some node) :
    g.Tracks (node.id :: taken) (p.take g i node.id) := by
  obtain ⟨same, hsame, hnext⟩ := (h.ready i).1 hi
  obtain rfl : same = node := Option.some.inj (hsame.symm.trans hnode)
  have hnodes : g.dependents same.id ⊆ g.ids := fun id hid =>
    hg.isNode_dependent ((hg.mirror _ _).1 hid)
  constructor
  case closed =>
    intro a ha b hb
    rcases List.mem_cons.1 ha with rfl | htaken
    · exact List.mem_cons_of_mem _ (hnext.2 b hb)
    · exact List.mem_cons_of_mem _ (h.closed a htaken b hb)
  case missing =>
    intro id hid
    rw [Progress.take, Progress.find?_foldl_countOff (hg.nodup_dependents _), h.missing id hid,
      toTake_cons hg hnext.1]
    split <;> rfl
  case ready =>
    intro j
    rw [Progress.take, Progress.mem_ready_foldl_countOff (hg.nodup_dependents _),
      h.nodup_ready.mem_erase_iff, h.ready]
    constructor
    · rintro (⟨hne, other, hother, hready⟩ | ⟨id, hid, rfl, hone⟩)
      · refine ⟨other, hother, (isNext_cons_iff hg h.closed hnext).2 (Or.inl ⟨?_, hready⟩)⟩
        intro heq
        have hj := place_eq_of_getElem? hg hother
        rw [heq, place_eq_of_getElem? hg hsame] at hj
        exact hne hj.symm
      · obtain ⟨other, hother, rfl⟩ := getElem?_place (hnodes hid)
        rw [h.missing _ (hnodes hid)] at hone
        refine ⟨other, hother, (isNext_cons_iff hg h.closed hnext).2 ?_⟩
        exact Or.inr ⟨hid, Option.some.inj hone⟩
    · rintro ⟨other, hother, hready⟩
      rcases (isNext_cons_iff hg h.closed hnext).1 hready with ⟨hne, hold⟩ | ⟨hdep, hone⟩
      · refine Or.inl ⟨?_, other, hother, hold⟩
        rintro rfl
        rw [hsame] at hother
        exact hne (Option.some.inj hother ▸ rfl)
      · refine Or.inr ⟨other.id, hdep, (place_eq_of_getElem? hg hother).symm, ?_⟩
        rw [h.missing _ (hnodes hdep), hone]
  case nodup_ready =>
    refine Progress.nodup_ready_foldl_countOff (hg.nodup_dependents _) hnodes
      (h.nodup_ready.erase i) ?_
    intro id hid hone hplace
    obtain ⟨other, hother, hready⟩ := (h.ready _).1 (List.mem_of_mem_erase hplace)
    obtain ⟨dependent, hdependent, rfl⟩ := getElem?_place (hnodes hid)
    obtain rfl : other = dependent := Option.some.inj (hother.symm.trans hdependent)
    exact hnext.1 (hready.2 _ ((hg.mirror _ _).1 hid))

/-- The least ready place is that of the earliest node that can be next. -/
theorem earliest (h : g.Tracks taken p) {i : Nat} {node : Node} (hmin : p.ready.min? = some i)
    (hnode : g.nodes[i]? = some node) :
    g.nodes = g.nodes.take i ++ node :: g.nodes.drop (i + 1) ∧ g.IsNext taken node
      ∧ ∀ other ∈ g.nodes.take i, ¬ g.IsNext taken other := by
  obtain ⟨hi, hleast⟩ := List.min?_eq_some_iff.1 hmin
  obtain ⟨same, hsame, hnext⟩ := (h.ready i).1 hi
  obtain rfl : same = node := Option.some.inj (hsame.symm.trans hnode)
  obtain ⟨hlt, rfl⟩ := List.getElem?_eq_some_iff.1 hnode
  refine ⟨?_, hnext, ?_⟩
  · rw [← List.drop_eq_getElem_cons hlt, List.take_append_drop]
  · intro other hother hother'
    obtain ⟨j, hj, rfl⟩ := List.mem_take_iff_getElem.1 hother
    have hready : j ∈ p.ready := (h.ready j).2 ⟨_, List.getElem?_eq_getElem (by omega), hother'⟩
    have := hleast j hready
    omega

/-- **A whole run:** the nodes are taken in turn. -/
theorem inTurn (hg : g.WellFormed) (h : g.Tracks taken p) : g.InTurn taken (g.takeReady p) := by
  induction p using takeReady.induct g generalizing taken with
  | case1 p hnone =>
    rw [takeReady, hnone]
    refine InTurn.done fun node hnode hnext => ?_
    obtain ⟨i, hi, rfl⟩ := List.getElem_of_mem hnode
    have hready := (h.ready i).2 ⟨_, List.getElem?_eq_getElem hi, hnext⟩
    rw [List.min?_eq_none_iff.1 hnone] at hready
    cases hready
  | case2 p i hmin hnone =>
    obtain ⟨node, hnode, -⟩ := (h.ready i).1 (List.min?_mem hmin)
    rw [hnone] at hnode
    cases hnode
  | case3 p i hmin node hnode ih =>
    obtain ⟨hsplit, hnext, hearlier⟩ := h.earliest hmin hnode
    have htail := ih (h.take hg (List.min?_mem hmin) hnode)
    rw [takeReady, hmin]
    simp only [hnode]
    exact InTurn.next hsplit hnext hearlier htail

end Tracks

theorem inTurn_takeReady_start (hg : g.WellFormed) :
    g.InTurn [] (g.takeReady (Progress.start g)) :=
  (Tracks.start hg).inTurn hg

/-! ### The sorted graph -/

/-- An order of the nodes, each once, in which a node stands behind what it depends on. -/
structure IsDependencyOrder (g : Graph) (order : List Node) : Prop where
  perm : order.Perm g.nodes
  nodup : (order.map (·.id)).Nodup
  idxOf_lt : ∀ a b, g.hasEdge a b = true →
    (order.map (·.id)).idxOf b < (order.map (·.id)).idxOf a

theorem topologicalOrder_eq_ok_iff (hg : g.WellFormed) {order : List Node} :
    g.topologicalOrder = .ok order ↔ g.InTurn [] order ∧ order.Perm g.nodes := by
  have hturn := inTurn_takeReady_start hg
  simp only [topologicalOrder]
  split
  · rename_i hlength
    rw [Except.ok.injEq]
    constructor
    · rintro rfl
      exact ⟨hturn, hturn.perm_of_length_eq hlength⟩
    · rintro ⟨h, -⟩
      exact hturn.unique h
  · rename_i hlength
    simp only [reduceCtorEq, false_iff, not_and]
    intro h hperm
    rw [hturn.unique h] at hlength
    exact hlength hperm.length_eq

theorem isDependencyOrder_of_topologicalOrder (hg : g.WellFormed) {order : List Node}
    (h : g.topologicalOrder = .ok order) : g.IsDependencyOrder order := by
  obtain ⟨hturn, hperm⟩ := (topologicalOrder_eq_ok_iff hg).1 h
  refine ⟨hperm, hturn.nodup, hturn.dependency_idxOf_lt hg fun id hid => ?_⟩
  exact (hperm.map (·.id)).mem_iff.2 hid

/-- There is an order exactly when there is no cycle. -/
theorem exists_topologicalOrder_iff (hg : g.WellFormed) :
    (∃ order, g.topologicalOrder = .ok order) ↔ Acyclic g.DependsOn := by
  have hturn := inTurn_takeReady_start hg
  rw [← hturn.perm_iff_acyclic hg]
  constructor
  · rintro ⟨order, h⟩
    obtain ⟨h', hperm⟩ := (topologicalOrder_eq_ok_iff hg).1 h
    rw [hturn.unique h']
    exact hperm
  · intro hperm
    exact ⟨_, (topologicalOrder_eq_ok_iff hg).2 ⟨hturn, hperm⟩⟩

/-- When there is no order the error says how many nodes were taken and gives a cycle. -/
theorem topologicalOrder_error {e : GraphError} (h : g.topologicalOrder = .error e) :
    ∃ taken cycle, taken ≠ g.size ∧ e = .unsortable taken g.size cycle := by
  simp only [topologicalOrder] at h
  split at h
  · cases h
  · rename_i hlength
    exact ⟨_, _, hlength, (Except.error.inj h).symm⟩

/-- **Whatever has been added to a graph, it is either sorted or refused, and it is sorted
    exactly when no node depends on itself, directly or through others.** -/
theorem topologicalOrder_after (changes : List Change) :
    (match (after changes).topologicalOrder with
      | .ok order => (after changes).IsDependencyOrder order
      | .error e => ∃ taken cycle, taken ≠ (after changes).size
          ∧ e = .unsortable taken (after changes).size cycle)
      ∧ ((∃ order, (after changes).topologicalOrder = .ok order)
          ↔ Acyclic fun a b => (after changes).hasEdge a b = true) := by
  have hg := wellFormed_after changes
  refine ⟨?_, exists_topologicalOrder_iff hg⟩
  split
  · rename_i order h
    exact isDependencyOrder_of_topologicalOrder hg h
  · rename_i e h
    exact topologicalOrder_error h

/-! ### The order of a part

A part keeps some nodes with everything that they depend on, in their order.  What is left out of
it never stands between a kept node and its turn: a kept node waits for kept nodes only.  So when
the nodes of the whole graph are taken in turn, the kept ones among them are taken in turn as well
(`InTurn.filter`), although both runs count along different edges and see different places.
-/

variable {keep : String → Bool} {whole part : Graph} {taken : List String} {order : List Node}

/-- That a graph holds the nodes of another that are kept, with all that they depend on. -/
structure IsPart (keep : String → Bool) (whole part : Graph) : Prop where
  nodes : part.nodes = whole.nodes.filter fun node => keep node.id
  dependencies : ∀ a, keep a = true →
    ∀ b, b ∈ part.dependencies a ↔ b ∈ whole.dependencies a
  closed : ∀ a, keep a = true → ∀ b ∈ whole.dependencies a, keep b = true

namespace IsPart

/-- A kept node can be next in the part exactly when it can be next in the whole. -/
theorem isNext_iff (h : IsPart keep whole part) {node : Node} (hkeep : keep node.id = true) :
    part.IsNext (taken.filter keep) node ↔ whole.IsNext taken node := by
  have hdeps := h.dependencies node.id hkeep
  have hclosed := h.closed node.id hkeep
  rw [IsNext, IsNext, List.mem_filter, hkeep]
  refine and_congr (by simp) ⟨fun hall dep hdep => ?_, fun hall dep hdep => ?_⟩
  · exact (List.mem_filter.1 (hall dep ((hdeps dep).2 hdep))).1
  · have hwhole := (hdeps dep).1 hdep
    exact List.mem_filter.2 ⟨hall dep hwhole, hclosed dep hwhole⟩

end IsPart

/-- **When the nodes of a graph are taken in turn, those of a part are.** -/
theorem InTurn.filter (hpart : IsPart keep whole part) (h : whole.InTurn taken order) :
    part.InTurn (taken.filter keep) (order.filter fun node => keep node.id) := by
  induction h with
  | done hnone =>
    refine .done fun node hnode hnext => ?_
    rw [hpart.nodes] at hnode
    obtain ⟨hnode, hkeep⟩ := List.mem_filter.1 hnode
    exact hnone node hnode ((hpart.isNext_iff hkeep).1 hnext)
  | @next taken earlier later order node hnodes hnext hearlier _ ih =>
    by_cases hkeep : keep node.id = true
    · have hsplit : part.nodes = (earlier.filter fun node => keep node.id)
          ++ node :: later.filter fun node => keep node.id := by
        rw [hpart.nodes, hnodes, List.filter_append, List.filter_cons_of_pos]
        exact hkeep
      rw [List.filter_cons_of_pos hkeep] at ih
      rw [List.filter_cons_of_pos]
      · refine .next hsplit ((hpart.isNext_iff hkeep).2 hnext) ?_ ih
        intro other hother hnext'
        obtain ⟨hother, hotherKeep⟩ := List.mem_filter.1 hother
        exact hearlier other hother ((hpart.isNext_iff hotherKeep).1 hnext')
      · exact hkeep
    · -- a node that is left out is taken in the whole only
      rw [List.filter_cons_of_neg hkeep] at ih
      rw [List.filter_cons_of_neg]
      · exact ih
      · exact hkeep

/-- When a graph has an order, a part of it has the same one without what is left out. -/
theorem topologicalOrder_part (hwhole : whole.WellFormed) (hpart : part.WellFormed)
    (h : IsPart keep whole part) (horder : whole.topologicalOrder = .ok order) :
    part.topologicalOrder = .ok (order.filter fun node => keep node.id) := by
  obtain ⟨hturn, hperm⟩ := (topologicalOrder_eq_ok_iff hwhole).1 horder
  refine (topologicalOrder_eq_ok_iff hpart).2 ⟨hturn.filter h, ?_⟩
  rw [h.nodes]
  exact hperm.filter _

end SqlPipeline.Graph
