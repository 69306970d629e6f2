/-
  SqlPipeline/Proofs/Graph/Build.lean
  ===================================
  **Which lists of entries give a graph, and which graph they give.**

  The nodes of all entries are there before the first edge is added, so it does not
  matter whether an entry comes before or after those that it depends on: there is a
  graph exactly when the ids are distinct and every dependency is one of them
  (`exists_ofEntries_iff`), and its edges are the dependencies of the entries.  What depends on
  a node is listed in the order of the entries, since each adds its edges as a whole before the
  next one does.  Where there is no graph the error names the first id that stands twice, or
  else the first dependency that is unknown (`ofEntries_exactly`).
-/
import SqlPipeline.Graph.Build
import SqlPipeline.Proofs.Entries
import SqlPipeline.Proofs.Graph.Order
import SqlPipeline.Proofs.Outcome

namespace SqlPipeline

namespace Graph

variable {g g' : Graph} {kind : String}

/-! ### Nodes -/

theorem addNodes_cons_eq_ok_iff {id : String} {deps : List String}
    {rest : List (String × List String)} :
    addNodes kind g ((id, deps) :: rest) = .ok g'
      ↔ ∃ g₁, g.addNode (.make id "" kind deps []) = .ok g₁ ∧ addNodes kind g₁ rest = .ok g' := by
  rw [addNodes, bind_eq_ok_iff]

/-- Adding the nodes of some entries adds their ids and no edge. -/
theorem addNodes_ok (hg : g.WellFormed) {entries : List (String × List String)}
    (h : addNodes kind g entries = .ok g') :
    g'.WellFormed ∧ g'.ids = g.ids ++ entries.map (·.1)
      ∧ ∀ id, g'.dependencies id = g.dependencies id := by
  induction entries generalizing g with
  | nil =>
    obtain rfl := Except.ok.inj h
    exact ⟨hg, by simp, fun _ => rfl⟩
  | cons entry rest ih =>
    obtain ⟨id, deps⟩ := entry
    obtain ⟨g₁, hnode, hrest⟩ := addNodes_cons_eq_ok_iff.1 h
    obtain ⟨hg', hids, hdeps⟩ := ih (hg.addNode hnode) hrest
    refine ⟨hg', ?_, fun other => (hdeps other).trans (dependencies_addNode hnode other)⟩
    obtain ⟨-, rfl⟩ := addNode_eq_ok_iff.1 hnode
    simpa [ids, Node.make] using hids

theorem nodes_addNodes {entries : List (String × List String)}
    (h : addNodes kind g entries = .ok g') :
    g'.nodes = g.nodes ++ entries.map fun entry => .make entry.1 "" kind entry.2 [] := by
  induction entries generalizing g with
  | nil =>
    obtain rfl := Except.ok.inj h
    simp
  | cons entry rest ih =>
    obtain ⟨id, deps⟩ := entry
    obtain ⟨g₁, hnode, hrest⟩ := addNodes_cons_eq_ok_iff.1 h
    obtain ⟨-, rfl⟩ := addNode_eq_ok_iff.1 hnode
    simpa using ih hrest

/-- Nodes can be added when their ids are new and distinct. -/
theorem exists_addNodes_iff (hg : g.ids.Nodup) {entries : List (String × List String)} :
    (∃ g', addNodes kind g entries = .ok g') ↔ (g.ids ++ entries.map (·.1)).Nodup := by
  induction entries generalizing g with
  | nil => simpa [addNodes] using hg
  | cons entry rest ih =>
    obtain ⟨id, deps⟩ := entry
    simp only [addNodes_cons_eq_ok_iff, addNode_eq_ok_iff, Node.make]
    have happ : g.ids ++ (id :: rest.map (·.1)) = (g.ids ++ [id]) ++ rest.map (·.1) := by simp
    rw [List.map_cons, happ]
    constructor
    · rintro ⟨g', g₁, ⟨hnew, rfl⟩, hrest⟩
      have hnodup : (g.ids ++ [id]).Nodup := by
        rw [← List.concat_eq_append]
        exact hg.concat hnew
      simpa [ids] using (ih (by simpa [ids] using hnodup)).1 ⟨g', hrest⟩
    · intro hall
      have hnodup := hall.of_append_left
      have hnew : id ∉ g.ids := by
        rw [← List.concat_eq_append] at hnodup
        exact (List.nodup_concat _ _).1 hnodup |>.1
      obtain ⟨g', hg'⟩ := (@ih ⟨g.nodes ++ [⟨id, if "".isEmpty then id else "", kind, deps, []⟩],
        g.forward ++ [(id, [])], g.backward ++ [(id, [])]⟩ (by simpa [ids] using hnodup)).2
          (by simpa [ids] using hall)
      exact ⟨g', _, ⟨hnew, rfl⟩, hg'⟩

/-! ### Edges -/

theorem addEdgesOf_cons_eq_ok_iff {id dep : String} {deps : List String} :
    addEdgesOf g id (dep :: deps) = .ok g'
      ↔ ∃ g₁, g.addEdge id dep = .ok g₁ ∧ addEdgesOf g₁ id deps = .ok g' := by
  rw [addEdgesOf, bind_eq_ok_iff]

theorem addEdges_cons_eq_ok_iff {id : String} {deps : List String}
    {rest : List (String × List String)} :
    addEdges g ((id, deps) :: rest) = .ok g'
      ↔ ∃ g₁, addEdgesOf g id deps = .ok g₁ ∧ addEdges g₁ rest = .ok g' := by
  rw [addEdges, bind_eq_ok_iff]

/-- An edge between nodes can always be added. -/
theorem exists_addEdge_iff {a b : String} :
    (∃ g', g.addEdge a b = .ok g') ↔ a ∈ g.ids ∧ b ∈ g.ids := by
  simp only [addEdge_eq_ok_iff]
  constructor
  · rintro ⟨g', ha, hb, -⟩
    exact ⟨ha, hb⟩
  · rintro ⟨ha, hb⟩
    by_cases hedge : b ∈ g.dependencies a
    · exact ⟨g, ha, hb, Or.inl ⟨hedge, rfl⟩⟩
    · exact ⟨_, ha, hb, Or.inr ⟨hedge, rfl⟩⟩

theorem addEdgesOf_ok (hg : g.WellFormed) {id : String} {deps : List String}
    (h : addEdgesOf g id deps = .ok g') :
    g'.WellFormed ∧ g'.nodes = g.nodes
      ∧ ∀ a b, b ∈ g'.dependencies a ↔ b ∈ g.dependencies a ∨ (a = id ∧ b ∈ deps) := by
  induction deps generalizing g with
  | nil =>
    obtain rfl := Except.ok.inj h
    exact ⟨hg, rfl, by simp⟩
  | cons dep deps ih =>
    obtain ⟨g₁, hedge, hrest⟩ := addEdgesOf_cons_eq_ok_iff.1 h
    obtain ⟨hg', hnodes, hdeps⟩ := ih (hg.addEdge hedge) hrest
    refine ⟨hg', hnodes.trans (WellFormed.nodes_addEdge hedge), fun a b => ?_⟩
    rw [hdeps, hg.mem_dependencies_addEdge hedge, List.mem_cons, and_or_left, or_assoc]
    exact or_left_comm

theorem exists_addEdgesOf_iff {id : String} {deps : List String} (hid : id ∈ g.ids) :
    (∃ g', addEdgesOf g id deps = .ok g') ↔ ∀ dep ∈ deps, dep ∈ g.ids := by
  induction deps generalizing g with
  | nil => simp [addEdgesOf]
  | cons dep deps ih =>
    simp only [addEdgesOf_cons_eq_ok_iff, List.forall_mem_cons]
    constructor
    · rintro ⟨g', g₁, hedge, hrest⟩
      have hids := WellFormed.ids_addEdge hedge
      refine ⟨(exists_addEdge_iff.1 ⟨g₁, hedge⟩).2, ?_⟩
      rw [← hids]
      exact (ih (hids ▸ hid)).1 ⟨g', hrest⟩
    · rintro ⟨hdep, hdeps⟩
      obtain ⟨g₁, hedge⟩ := exists_addEdge_iff.2 ⟨hid, hdep⟩
      have hids := WellFormed.ids_addEdge hedge
      obtain ⟨g', hrest⟩ := (ih (hids ▸ hid)).2 (hids ▸ hdeps)
      exact ⟨g', g₁, hedge, hrest⟩

theorem addEdges_ok (hg : g.WellFormed) {entries : List (String × List String)}
    (h : addEdges g entries = .ok g') :
    g'.WellFormed ∧ g'.nodes = g.nodes
      ∧ ∀ a b, b ∈ g'.dependencies a ↔ b ∈ g.dependencies a
          ∨ ∃ deps, (a, deps) ∈ entries ∧ b ∈ deps := by
  induction entries generalizing g with
  | nil =>
    obtain rfl := Except.ok.inj h
    exact ⟨hg, rfl, by simp⟩
  | cons entry rest ih =>
    obtain ⟨id, deps⟩ := entry
    obtain ⟨g₁, hedges, hrest⟩ := addEdges_cons_eq_ok_iff.1 h
    obtain ⟨hg₁, hnodes₁, hdeps₁⟩ := addEdgesOf_ok hg hedges
    obtain ⟨hg', hnodes, hdeps⟩ := ih hg₁ hrest
    refine ⟨hg', hnodes.trans hnodes₁, fun a b => ?_⟩
    rw [hdeps, hdeps₁, or_assoc]
    refine or_congr_right ?_
    simp only [List.mem_cons, Prod.mk.injEq, or_and_right, exists_or]
    refine or_congr_left ⟨?_, ?_⟩
    · rintro ⟨rfl, hb⟩
      exact ⟨deps, ⟨rfl, rfl⟩, hb⟩
    · rintro ⟨_, ⟨rfl, rfl⟩, hb⟩
      exact ⟨rfl, hb⟩

theorem exists_addEdges_iff (hg : g.WellFormed) {entries : List (String × List String)}
    (hids : ∀ entry ∈ entries, entry.1 ∈ g.ids) :
    (∃ g', addEdges g entries = .ok g') ↔ ∀ entry ∈ entries, ∀ dep ∈ entry.2, dep ∈ g.ids := by
  induction entries generalizing g with
  | nil => simp [addEdges]
  | cons entry rest ih =>
    obtain ⟨id, deps⟩ := entry
    have hid := hids _ List.mem_cons_self
    have hrestIds := fun other h => hids other (List.mem_cons_of_mem _ h)
    have hkeep : ∀ g₁, addEdgesOf g id deps = .ok g₁ → g₁.WellFormed ∧ g₁.ids = g.ids := by
      intro g₁ h₁
      obtain ⟨hg₁, hnodes, -⟩ := addEdgesOf_ok hg h₁
      exact ⟨hg₁, by rw [ids, hnodes, ids]⟩
    simp only [addEdges_cons_eq_ok_iff, List.forall_mem_cons]
    constructor
    · rintro ⟨g', g₁, hedges, hrest⟩
      obtain ⟨hg₁, heq⟩ := hkeep g₁ hedges
      refine ⟨(exists_addEdgesOf_iff hid).1 ⟨g₁, hedges⟩, ?_⟩
      rw [← heq]
      exact (ih hg₁ (heq ▸ hrestIds)).1 ⟨g', hrest⟩
    · rintro ⟨hdeps, hrest⟩
      obtain ⟨g₁, hedges⟩ := (exists_addEdgesOf_iff hid).2 hdeps
      obtain ⟨hg₁, heq⟩ := hkeep g₁ hedges
      obtain ⟨g', hrest'⟩ := (ih hg₁ (heq ▸ hrestIds)).2 (heq ▸ hrest)
      exact ⟨g', g₁, hedges, hrest'⟩

/-! ### Entries -/

/-- That the entry of `a` names `b` among what it depends on. -/
def EntryDependsOn (entries : List (String × List String)) (a b : String) : Prop :=
  ∃ deps, (a, deps) ∈ entries ∧ b ∈ deps

/-- The graph of some entries has their ids, in their order, and their dependencies. -/
theorem ofEntries_ok {entries : List (String × List String)}
    (h : ofEntries entries kind = .ok g) :
    g.WellFormed ∧ g.ids = entries.map (·.1)
      ∧ ∀ a b, b ∈ g.dependencies a ↔ EntryDependsOn entries a b := by
  obtain ⟨g₁, hnodes, hedges⟩ := bind_eq_ok_iff.1 h
  obtain ⟨hg₁, hids, hnone⟩ := addNodes_ok WellFormed.empty hnodes
  obtain ⟨hg, heq, hdeps⟩ := addEdges_ok hg₁ hedges
  refine ⟨hg, by rw [ids, heq, ← ids, hids]; rfl, fun a b => ?_⟩
  rw [hdeps, hnone]
  simp [dependencies, empty, Entries.find?_nil, EntryDependsOn]

/-- The nodes of the graph of some entries are made of these one by one. -/
theorem nodes_ofEntries {entries : List (String × List String)}
    (h : ofEntries entries kind = .ok g) :
    g.nodes = entries.map fun entry => .make entry.1 "" kind entry.2 [] := by
  obtain ⟨g₁, hnodes, hedges⟩ := bind_eq_ok_iff.1 h
  obtain ⟨hg₁, -, -⟩ := addNodes_ok WellFormed.empty hnodes
  obtain ⟨-, heq, -⟩ := addEdges_ok hg₁ hedges
  rw [heq, nodes_addNodes hnodes]
  rfl

/-- **Entries give a graph exactly when their ids are distinct and all dependencies are
    among them.** -/
theorem exists_ofEntries_iff {entries : List (String × List String)} :
    (∃ g, ofEntries entries kind = .ok g) ↔ (entries.map (·.1)).Nodup
      ∧ ∀ entry ∈ entries, ∀ dep ∈ entry.2, dep ∈ entries.map (·.1) := by
  have hnodup := @exists_addNodes_iff empty kind List.nodup_nil entries
  rw [show empty.ids ++ entries.map (·.1) = entries.map (·.1) from rfl] at hnodup
  rw [← hnodup]
  simp only [ofEntries, bind_eq_ok_iff]
  have hkeep : ∀ g₁, addNodes kind empty entries = .ok g₁ → g₁.WellFormed
      ∧ g₁.ids = entries.map (·.1) := by
    intro g₁ h₁
    obtain ⟨hg₁, hids, -⟩ := addNodes_ok WellFormed.empty h₁
    exact ⟨hg₁, hids⟩
  have hmem : ∀ entry ∈ entries, entry.1 ∈ entries.map (·.1) := fun _ h => List.mem_map_of_mem h
  constructor
  · rintro ⟨g, g₁, hnodes, hedges⟩
    obtain ⟨hg₁, hids⟩ := hkeep g₁ hnodes
    refine ⟨⟨g₁, hnodes⟩, ?_⟩
    rw [← hids]
    exact (exists_addEdges_iff hg₁ (hids ▸ hmem)).1 ⟨g, hedges⟩
  · rintro ⟨⟨g₁, hnodes⟩, hdeps⟩
    obtain ⟨hg₁, hids⟩ := hkeep g₁ hnodes
    obtain ⟨g, hedges⟩ := (exists_addEdges_iff hg₁ (hids ▸ hmem)).2 (hids ▸ hdeps)
    exact ⟨g, g₁, hnodes, hedges⟩

/-! ### What is wrong with entries that give no graph -/

/-- Nodes are added up to the first one whose id is there already. -/
theorem addNodes_error (hg : g.ids.Nodup) {entries : List (String × List String)} {e : GraphError}
    (h : addNodes kind g entries = .error e) : ∃ before id deps after,
      entries = before ++ (id, deps) :: after ∧ (g.ids ++ before.map (·.1)).Nodup
        ∧ id ∈ g.ids ++ before.map (·.1) ∧ e = .duplicateNode id := by
  induction entries generalizing g with
  | nil => cases h
  | cons entry rest ih =>
    obtain ⟨id, deps⟩ := entry
    rw [addNodes] at h
    rcases bind_eq_error_iff.1 h with hnode | ⟨g₁, hnode, hrest⟩
    · rw [addNode] at hnode
      split at hnode
      · rename_i hthere
        refine ⟨[], id, deps, rest, rfl, by simpa using hg, ?_, (Except.error.inj hnode).symm⟩
        exact List.mem_append_left _ (contains_iff.1 hthere)
      · cases hnode
    · obtain ⟨hnew, rfl⟩ := addNode_eq_ok_iff.1 hnode
      have hnodup : (g.ids ++ [id]).Nodup := by
        rw [← List.concat_eq_append]
        exact hg.concat hnew
      obtain ⟨before, twice, deps', after, rfl, hbefore, htwice, rfl⟩ :=
        ih (by simpa [ids, Node.make] using hnodup) hrest
      refine ⟨(id, deps) :: before, twice, deps', after, rfl, ?_, ?_, rfl⟩
      · simpa [ids, Node.make] using hbefore
      · simpa [ids, Node.make, or_assoc] using htwice

/-- Edges of a node are added up to the first one to something that is no node. -/
theorem addEdgesOf_error {id : String} {deps : List String} {e : GraphError} (hid : id ∈ g.ids)
    (h : addEdgesOf g id deps = .error e) : ∃ known dep rest, deps = known ++ dep :: rest
      ∧ (∀ other ∈ known, other ∈ g.ids) ∧ dep ∉ g.ids ∧ e = .unknownNode dep := by
  induction deps generalizing g with
  | nil => cases h
  | cons dep deps ih =>
    rw [addEdgesOf] at h
    rcases bind_eq_error_iff.1 h with hedge | ⟨g₁, hedge, hrest⟩
    · by_cases hdep : dep ∈ g.ids
      · obtain ⟨g₁, hg₁⟩ := exists_addEdge_iff.2 ⟨hid, hdep⟩
        rw [hg₁] at hedge
        cases hedge
      · have hcontains : g.contains dep = false := by simpa using mt contains_iff.1 hdep
        rw [addEdge, contains_iff.2 hid, hcontains] at hedge
        exact ⟨[], dep, deps, rfl, by simp, hdep, (Except.error.inj hedge).symm⟩
    · have hids := WellFormed.ids_addEdge hedge
      obtain ⟨known, absent, rest, rfl, hknown, habsent, rfl⟩ := ih (hids ▸ hid) hrest
      refine ⟨dep :: known, absent, rest, rfl, ?_, hids ▸ habsent, rfl⟩
      exact List.forall_mem_cons.2 ⟨(addEdge_eq_ok_iff.1 hedge).2.1, hids ▸ hknown⟩

theorem addEdges_error (hg : g.WellFormed) {entries : List (String × List String)} {e : GraphError}
    (hids : ∀ entry ∈ entries, entry.1 ∈ g.ids) (h : addEdges g entries = .error e) :
    ∃ before id known dep rest after, entries = before ++ (id, known ++ dep :: rest) :: after
      ∧ (∀ entry ∈ before, ∀ other ∈ entry.2, other ∈ g.ids) ∧ (∀ other ∈ known, other ∈ g.ids)
      ∧ dep ∉ g.ids ∧ e = .unknownNode dep := by
  induction entries generalizing g with
  | nil => cases h
  | cons entry rest ih =>
    obtain ⟨id, deps⟩ := entry
    obtain ⟨hid, hrestIds⟩ := List.forall_mem_cons.1 hids
    rw [addEdges] at h
    rcases bind_eq_error_iff.1 h with hedges | ⟨g₁, hedges, hrest⟩
    · obtain ⟨known, dep, others, rfl, hknown, habsent, rfl⟩ := addEdgesOf_error hid hedges
      exact ⟨[], id, known, dep, others, rest, rfl, by simp, hknown, habsent, rfl⟩
    · obtain ⟨hg₁, hnodes, -⟩ := addEdgesOf_ok hg hedges
      have heq : g₁.ids = g.ids := by rw [ids, hnodes, ids]
      obtain ⟨before, id', known, dep, others, after, rfl, hbefore, hknown, habsent, rfl⟩ :=
        ih hg₁ (heq ▸ hrestIds) hrest
      refine ⟨(id, deps) :: before, id', known, dep, others, after, rfl, ?_, heq ▸ hknown,
        heq ▸ habsent, rfl⟩
      exact List.forall_mem_cons.2
        ⟨(exists_addEdgesOf_iff hid).1 ⟨g₁, hedges⟩, heq ▸ hbefore⟩

/-- The id of the first entry whose id stands in front of it already. -/
def IsFirstRepeated (entries : List (String × List String)) (id : String) : Prop :=
  ∃ before deps after, entries = before ++ (id, deps) :: after
    ∧ (before.map (·.1)).Nodup ∧ id ∈ before.map (·.1)

theorem IsFirstRepeated.one_lt_count {entries : List (String × List String)} {id : String}
    (h : IsFirstRepeated entries id) : 1 < (entries.map (·.1)).count id := by
  obtain ⟨before, deps, after, rfl, -, hid⟩ := h
  have hcount : 0 < (before.map (·.1)).count id := List.count_pos_iff.2 hid
  rw [List.map_append, List.map_cons, List.count_append, List.count_cons_self]
  omega

/-- The first dependency, entry by entry, that is the id of no entry. -/
def IsFirstUnknown (entries : List (String × List String)) (dep : String) : Prop :=
  ∃ before id known rest after, entries = before ++ (id, known ++ dep :: rest) :: after
    ∧ (∀ entry ∈ before, ∀ other ∈ entry.2, other ∈ entries.map (·.1))
    ∧ (∀ other ∈ known, other ∈ entries.map (·.1)) ∧ dep ∉ entries.map (·.1)

theorem IsFirstUnknown.exists_entry {entries : List (String × List String)} {dep : String}
    (h : IsFirstUnknown entries dep) :
    ∃ entry ∈ entries, dep ∈ entry.2 ∧ dep ∉ entries.map (·.1) := by
  obtain ⟨before, id, known, rest, after, rfl, -, -, habsent⟩ := h
  exact ⟨_, List.mem_append_right _ List.mem_cons_self, by simp, habsent⟩

/-- **The error names the first id that stands twice,** or else the first dependency without an
    entry. -/
theorem ofEntries_error {entries : List (String × List String)} {e : GraphError}
    (h : ofEntries entries kind = .error e) :
    (∃ id, e = .duplicateNode id ∧ IsFirstRepeated entries id)
      ∨ (entries.map (·.1)).Nodup ∧ ∃ dep, e = .unknownNode dep ∧ IsFirstUnknown entries dep := by
  rcases bind_eq_error_iff.1 h with hnodes | ⟨g₁, hnodes, hedges⟩
  · obtain ⟨before, id, deps, after, hentries, hbefore, hid, rfl⟩ :=
      addNodes_error WellFormed.empty.nodup_ids hnodes
    exact Or.inl ⟨id, rfl, before, deps, after, hentries, hbefore, hid⟩
  · obtain ⟨hg₁, hids, -⟩ := addNodes_ok WellFormed.empty hnodes
    rw [show empty.ids ++ entries.map (·.1) = entries.map (·.1) from rfl] at hids
    have hmem : ∀ entry ∈ entries, entry.1 ∈ g₁.ids := fun entry hentry => by
      rw [hids]
      exact List.mem_map_of_mem hentry
    obtain ⟨before, id, known, dep, rest, after, hentries, hbefore, hknown, habsent, rfl⟩ :=
      addEdges_error hg₁ hmem hedges
    rw [hids] at hbefore hknown habsent
    refine Or.inr ⟨hids ▸ hg₁.nodup_ids, dep, rfl, ?_⟩
    exact ⟨before, id, known, rest, after, hentries, hbefore, hknown, habsent⟩

/-! ### The lists of dependencies and dependents -/

/-- The edges of one node add what is new of its dependencies behind those that it has. -/
theorem dependencies_addEdgesOf (hg : g.WellFormed) {id : String} {deps : List String}
    (h : addEdgesOf g id deps = .ok g') (x : String) : g'.dependencies x
      = if x = id then (g.dependencies id ++ deps).eraseDups else g.dependencies x := by
  induction deps generalizing g with
  | nil =>
    obtain rfl := Except.ok.inj h
    rw [List.append_nil, eraseDups_of_nodup (hg.nodup_dependencies id)]
    split
    · rename_i hx
      rw [hx]
    · rfl
  | cons dep deps ih =>
    obtain ⟨g₁, hedge, hrest⟩ := addEdgesOf_cons_eq_ok_iff.1 h
    have hother : x ≠ id → g₁.dependencies x = g.dependencies x := fun hx => by
      rw [hg.dependencies_addEdge hedge, if_neg fun hnew => hx hnew.1]
    have hone : g₁.dependencies id = (g.dependencies id ++ [dep]).eraseDups := by
      rw [hg.dependencies_addEdge hedge, List.eraseDups_append,
        eraseDups_of_nodup (hg.nodup_dependencies id)]
      by_cases hdep : dep ∈ g.dependencies id
      · simp [List.removeAll, hdep]
      · simp [List.removeAll, hdep, List.eraseDups_cons]
    rw [ih (hg.addEdge hedge) hrest, hone, eraseDups_eraseDups_append, List.append_assoc,
      List.singleton_append]
    split
    · rfl
    · exact hother ‹_›

/-- The edges of one node put it behind the dependents of each of its new dependencies. -/
theorem dependents_addEdgesOf (hg : g.WellFormed) {id : String} {deps : List String}
    (h : addEdgesOf g id deps = .ok g') (x : String) : g'.dependents x
      = if x ∈ deps ∧ x ∉ g.dependencies id then g.dependents x ++ [id] else g.dependents x := by
  induction deps generalizing g with
  | nil =>
    obtain rfl := Except.ok.inj h
    simp
  | cons dep deps ih =>
    obtain ⟨g₁, hedge, hrest⟩ := addEdgesOf_cons_eq_ok_iff.1 h
    have hmem : x ∈ g₁.dependencies id ↔ x = dep ∨ x ∈ g.dependencies id := by
      rw [hg.mem_dependencies_addEdge hedge]
      simp
    rw [ih (hg.addEdge hedge) hrest, hg.dependents_addEdge hedge]
    by_cases hx : x = dep
    · rw [if_neg fun hnew => hnew.2 (hmem.2 (Or.inl hx))]
      simp [hx]
    · simp [hmem, hx]

/-- **The edges of entries, each of a node without edges, give it the first occurrences of its
    dependencies, and list it once with the dependents of each.** -/
theorem lists_addEdges (hg : g.WellFormed) {entries : List (String × List String)}
    (hids : (entries.map (·.1)).Nodup) (hnone : ∀ entry ∈ entries, g.dependencies entry.1 = [])
    (h : addEdges g entries = .ok g') :
    (∀ entry ∈ entries, g'.dependencies entry.1 = entry.2.eraseDups)
      ∧ (∀ x, x ∉ entries.map (·.1) → g'.dependencies x = g.dependencies x)
      ∧ ∀ x, g'.dependents x
          = g.dependents x ++ (entries.filter (x ∈ ·.2)).map (·.1) := by
  induction entries generalizing g with
  | nil =>
    obtain rfl := Except.ok.inj h
    simp
  | cons entry rest ih =>
    obtain ⟨id, deps⟩ := entry
    obtain ⟨g₁, hedges, hrest⟩ := addEdges_cons_eq_ok_iff.1 h
    obtain ⟨hid, hrestIds⟩ := List.nodup_cons.1 hids
    obtain ⟨hidNone, hrestNone⟩ := List.forall_mem_cons.1 hnone
    have hdeps := dependencies_addEdgesOf hg hedges
    have hnone₁ : ∀ entry ∈ rest, g₁.dependencies entry.1 = [] := by
      intro entry hentry
      have hne : entry.1 ≠ id := fun heq => hid (List.mem_map.2 ⟨entry, hentry, heq⟩)
      rw [hdeps, if_neg hne, hrestNone entry hentry]
    obtain ⟨hown, hothers, hdependents⟩ :=
      ih (addEdgesOf_ok hg hedges).1 hrestIds hnone₁ hrest
    refine ⟨List.forall_mem_cons.2 ⟨?_, hown⟩, fun x hx => ?_, fun x => ?_⟩
    · rw [hothers id hid, hdeps, if_pos rfl, hidNone, List.nil_append]
    · obtain ⟨hne, hx⟩ := not_or.1 (mt List.mem_cons.2 hx)
      rw [hothers x hx, hdeps, if_neg hne]
    · rw [hdependents, dependents_addEdgesOf hg hedges, hidNone]
      by_cases hx : x ∈ deps <;> simp [hx]

/-- **Entries give a graph exactly when their ids are distinct and each dependency is the id of
    an entry,** before or behind the one that names it.  The graph has the nodes in the order of
    the entries, each with the first occurrences of its dependencies, and the dependents of a
    node stand in the order of the entries, each once.  Where there is no graph the error names
    the first id that is repeated, or else the first dependency that is unknown. -/
theorem ofEntries_exactly (entries : List (String × List String)) (kind : String) :
    ((∃ g, ofEntries entries kind = .ok g) ↔ (entries.map (·.1)).Nodup
        ∧ ∀ entry ∈ entries, ∀ dep ∈ entry.2, dep ∈ entries.map (·.1))
      ∧ match ofEntries entries kind with
        | .ok g => g.nodes = entries.map (fun entry => .make entry.1 "" kind entry.2 [])
            ∧ g.ids = entries.map (·.1)
            ∧ (∀ entry ∈ entries, g.dependencies entry.1 = entry.2.eraseDups)
            ∧ (∀ id, g.dependents id = (entries.filter (id ∈ ·.2)).map (·.1))
            ∧ ∀ id, (g.dependents id).Nodup
        | .error e => (∃ id, e = .duplicateNode id ∧ IsFirstRepeated entries id)
            ∨ (entries.map (·.1)).Nodup
              ∧ ∃ dep, e = .unknownNode dep ∧ IsFirstUnknown entries dep := by
  refine ⟨exists_ofEntries_iff, ?_⟩
  split
  · rename_i g h
    obtain ⟨hg, hids, -⟩ := ofEntries_ok h
    obtain ⟨g₁, hnodes, hedges⟩ := bind_eq_ok_iff.1 h
    obtain ⟨hg₁, hids₁, hnone⟩ := addNodes_ok WellFormed.empty hnodes
    obtain ⟨hown, -, hdependents⟩ :=
      lists_addEdges hg₁ (hids ▸ hg.nodup_ids) (fun entry _ => hnone entry.1) hedges
    have hfresh : ∀ id, g₁.dependents id = [] := fun id =>
      List.eq_nil_iff_forall_not_mem.2 fun other hother => by
        have hdep := (hg₁.mirror other id).1 hother
        rw [hnone] at hdep
        cases hdep
    refine ⟨nodes_ofEntries h, hids, hown, fun id => ?_, hg.nodup_dependents⟩
    rw [hdependents, hfresh, List.nil_append]
  · rename_i e h
    exact ofEntries_error h

/-- An entry may depend on a later one and on itself, and name a dependency again. -/
example : (ofEntries [("b", ["a", "b", "a"]), ("a", []), ("c", ["a"])] "model").map
    (fun g => (g.dependencies "b", g.dependents "a")) = .ok (["a", "b"], ["b", "c"]) := by
  decide +kernel

end Graph

end SqlPipeline
