/-
  SqlPipeline/Proofs/Graph/Cycle.lean
  ===================================
  **The search for a cycle finds one exactly when there is one.**

  All parts of the search share one open path and one list of finished nodes.  Two things
  keep it right.  The open path is a chain of dependencies that holds no node twice, so an
  edge back into it closes a cycle (`Open`).  And all that a finished node depends on is
  finished as well, so that none of these leads to a cycle (`Settled`).  The depth of the
  search is bounded by the number of nodes, and never as deep as its bound, which can
  therefore be left out of the account (`Searches`).

  Sorting counts along one side of the edges and searching goes along the other, but both
  fail on the graphs with a cycle and on no others.  So the cycle that sorting reports is
  always the one that the search finds, and what is left over is never reported in its
  place (`topologicalOrder_eq_error_iff`).  A graph that is built from entries has an edge
  for each dependency that its nodes declare, so that validating it can find a cycle only.
-/
import SqlPipeline.Proofs.Graph.Build
import Mathlib.Data.List.Chain

namespace SqlPipeline

/-! ### Cycles as paths -/

/-- A path along a relation that comes back to its first item, and to no other. -/
structure IsCycle {α : Type} (r : α → α → Prop) (path : List α) : Prop where
  two_le_length : 2 ≤ path.length
  returns : path.head? = path.getLast?
  nodup : path.dropLast.Nodup
  edges : path.IsChain r

theorem IsCycle.mono {α : Type} {r s : α → α → Prop} {path : List α} (h : IsCycle r path)
    (hrs : ∀ a b, r a b → s a b) : IsCycle s path :=
  { h with edges := h.edges.imp hrs }

theorem IsCycle.exists_transGen {α : Type} {r : α → α → Prop} {path : List α}
    (h : IsCycle r path) : ∃ a ∈ path, Relation.TransGen r a a := by
  obtain ⟨htwo, hreturns, -, hedges⟩ := h
  match path, htwo with
  | a :: b :: rest, _ =>
    have hlast : (b :: rest).getLast (List.cons_ne_nil _ _) = a := by
      rw [List.head?_cons, List.getLast?_cons_cons,
        List.getLast?_eq_some_getLast (List.cons_ne_nil _ _)] at hreturns
      exact (Option.some.inj hreturns).symm
    obtain ⟨hab, hrest⟩ := List.isChain_cons_cons.1 hedges
    have hback : Relation.ReflTransGen r b a :=
      List.relationReflTransGen_of_exists_isChain_cons rest hrest hlast
    exact ⟨a, List.mem_cons_self, .head' hab hback⟩

namespace Graph

variable {g : Graph} {path done ids cycle : List String} {id : String} {r : Search}

/-! ### Nodes that lead to no cycle -/

/-- That a node is, or leads to, one that leads back to itself. -/
def LeadsToCycle (g : Graph) (id : String) : Prop :=
  ∃ a, Relation.ReflTransGen g.DependsOn id a ∧ Relation.TransGen g.DependsOn a a

/-- Nodes with all that they depend on, none of which leads back to itself. -/
structure Settled (g : Graph) (done : List String) : Prop where
  closed : ∀ a ∈ done, ∀ b, g.DependsOn a b → b ∈ done
  acyclic : ∀ a ∈ done, ¬ Relation.TransGen g.DependsOn a a

namespace Settled

theorem nil : g.Settled [] := by
  constructor <;> simp

theorem mem_of_reaches (h : g.Settled done) {a b : String} (ha : a ∈ done)
    (hab : Relation.ReflTransGen g.DependsOn a b) : b ∈ done := by
  induction hab with
  | refl => exact ha
  | tail _ hbc ih => exact h.closed _ ih _ hbc

theorem not_leadsToCycle (h : g.Settled done) {a : String} (ha : a ∈ done) :
    ¬ g.LeadsToCycle a := by
  rintro ⟨b, hab, hcycle⟩
  exact h.acyclic b (h.mem_of_reaches ha hab) hcycle

/-- A node is settled once all that it depends on is. -/
theorem cons (h : g.Settled done) (hid : id ∉ done)
    (hdeps : ∀ dep ∈ g.dependencies id, dep ∈ done) : g.Settled (id :: done) := by
  constructor
  case closed =>
    intro a ha b hab
    rcases List.mem_cons.1 ha with rfl | ha
    · exact List.mem_cons_of_mem _ (hdeps b (hasEdge_iff.1 hab))
    · exact List.mem_cons_of_mem _ (h.closed a ha b hab)
  case acyclic =>
    intro a ha hcycle
    rcases List.mem_cons.1 ha with rfl | ha
    · -- the way back would stay among the settled nodes
      obtain ⟨b, hab, hba⟩ := Relation.TransGen.head'_iff.1 hcycle
      exact hid (h.mem_of_reaches (hdeps b (hasEdge_iff.1 hab)) hba)
    · exact h.acyclic a ha hcycle

end Settled

/-! ### Open paths -/

/-- A node of the open path cuts off the part of the path behind it. -/
theorem exists_closing_eq (hid : id ∈ path) :
    ∃ before after, path = before ++ id :: after ∧ closing path id = id :: after ++ [id] := by
  induction path with
  | nil => cases hid
  | cons a path ih =>
    by_cases ha : a = id
    · subst ha
      exact ⟨[], path, rfl, by simp [closing]⟩
    · obtain ⟨before, after, hsplit, hclosing⟩ :=
        ih ((List.mem_cons.1 hid).resolve_left (Ne.symm ha))
      refine ⟨a :: before, after, by rw [hsplit]; rfl, ?_⟩
      rw [← hclosing]
      simp [closing, ha]

/-- The first node of a chain leads to all others. -/
theorem reaches_of_isChain (h : path.IsChain g.DependsOn) (top : String) :
    ∀ a ∈ path, Relation.ReflTransGen g.DependsOn (path.headD top) a := by
  refine h.induction _ _ (fun _ _ hab ha => ha.tail hab) fun hne => ?_
  cases path with
  | nil => exact absurd rfl hne
  | cons a path => exact .refl

/-! ### The search, without a bound on its depth -/

/-- How a search goes through some nodes, one after the other, where `path` is open and `done`
    is finished. -/
inductive Searches (g : Graph) : (path done ids : List String) → Search → Prop
  | stops {path done : List String} : Searches g path done [] (.finished done)
  | closes {path done ids : List String} {id : String} :
      id ∈ path → Searches g path done (id :: ids) (.found (closing path id))
  | passes {path done ids : List String} {id : String} {r : Search} :
      id ∉ path → id ∈ done → Searches g path done ids r → Searches g path done (id :: ids) r
  | finds {path done ids cycle : List String} {id : String} :
      id ∉ path → id ∉ done →
      Searches g (path ++ [id]) done (g.dependencies id) (.found cycle) →
      Searches g path done (id :: ids) (.found cycle)
  | finishes {path done below ids : List String} {id : String} {r : Search} :
      id ∉ path → id ∉ done →
      Searches g (path ++ [id]) done (g.dependencies id) (.finished below) →
      Searches g path (id :: below) ids r → Searches g path done (id :: ids) r

/-- The cycle that a search has ended with. -/
def Search.cycle? : Search → Option (List String)
  | .found cycle => some cycle
  | .finished _ => none

/-- **The bound on the depth is never met:** the open path holds no node twice, so it is shorter
    than the bound allows. -/
theorem searches_searchAll (hg : g.WellFormed) {fuel : Nat} (hnodup : path.Nodup)
    (hpath : path ⊆ g.ids) (hids : ids ⊆ g.ids) (hfuel : g.size < path.length + fuel) :
    g.Searches path done ids (searchAll (searchFrom g fuel path) path done ids) := by
  induction fuel generalizing path done ids with
  | zero =>
    have hlength := (List.subperm_of_subset hnodup hpath).length_le
    rw [Graph.ids, List.length_map] at hlength
    exact absurd hfuel (Nat.not_lt.2 hlength)
  | succ fuel ih =>
    induction ids generalizing done with
    | nil => exact .stops
    | cons id ids ihIds =>
      obtain ⟨hid, hrest⟩ := List.cons_subset.1 hids
      rw [searchAll]
      by_cases hopen : id ∈ path
      · rw [if_pos (List.contains_iff_mem.2 hopen)]
        exact .closes hopen
      rw [if_neg (mt List.contains_iff_mem.1 hopen)]
      by_cases hdone : id ∈ done
      · rw [if_pos (List.contains_iff_mem.2 hdone)]
        exact .passes hopen hdone (ihIds hrest)
      rw [if_neg (mt List.contains_iff_mem.1 hdone), searchFrom]
      have hbelow := @ih (path ++ [id]) done (g.dependencies id)
        (by rw [← List.concat_eq_append]; exact hnodup.concat hopen)
        (List.append_subset.2 ⟨hpath, List.cons_subset.2 ⟨hid, List.nil_subset _⟩⟩)
        (fun dep hdep => hg.isNode id dep hdep)
        (by rw [List.length_append, List.length_singleton]; omega)
      cases hr : searchAll (searchFrom g fuel (path ++ [id])) (path ++ [id]) done
          (g.dependencies id) with
      | found cycle =>
        rw [hr] at hbelow
        exact .finds hopen hdone hbelow
      | finished below =>
        rw [hr] at hbelow
        exact .finishes hopen hdone hbelow (ihIds hrest)

/-- A search can end in one way only. -/
theorem Searches.unique {r' : Search} (h : g.Searches path done ids r)
    (h' : g.Searches path done ids r') : r = r' := by
  induction h generalizing r' with
  | stops =>
    cases h' with
    | stops => rfl
  | closes hopen =>
    cases h' with
    | closes _ => rfl
    | passes hopen' _ _ => exact absurd hopen hopen'
    | finds hopen' _ _ => exact absurd hopen hopen'
    | finishes hopen' _ _ _ => exact absurd hopen hopen'
  | passes hopen hdone _ ih =>
    cases h' with
    | closes hopen' => exact absurd hopen' hopen
    | passes _ _ hrest => exact ih hrest
    | finds _ hdone' _ => exact absurd hdone hdone'
    | finishes _ hdone' _ _ => exact absurd hdone hdone'
  | finds hopen hdone _ ih =>
    cases h' with
    | closes hopen' => exact absurd hopen' hopen
    | passes _ hdone' _ => exact absurd hdone' hdone
    | finds _ _ hbelow => exact ih hbelow
    | finishes _ _ hbelow _ => cases ih hbelow
  | finishes hopen hdone _ _ ihBelow ihRest =>
    cases h' with
    | closes hopen' => exact absurd hopen' hopen
    | passes _ hdone' _ => exact absurd hdone' hdone
    | finds _ _ hbelow => cases ihBelow hbelow
    | finishes _ _ hbelow hrest =>
      obtain rfl := Search.finished.inj (ihBelow hbelow)
      exact ihRest hrest

/-! ### What holds while the search is under way -/

/-- What is true of the open path and the finished nodes when some nodes are still to be
    searched. -/
structure Open (g : Graph) (path done ids : List String) : Prop where
  nodup : path.Nodup
  chain : path.IsChain g.DependsOn
  ahead : ∀ last ∈ path.getLast?, ∀ id ∈ ids, g.DependsOn last id
  settled : g.Settled done
  unfinished : ∀ a ∈ path, a ∉ done

namespace Open

theorem start (g : Graph) (ids : List String) : g.Open [] [] ids where
  nodup := List.nodup_nil
  chain := .nil
  ahead := by simp
  settled := .nil
  unfinished := by simp

/-- Going on to the next node. -/
theorem next (h : g.Open path done (id :: ids)) : g.Open path done ids :=
  { h with
    ahead := fun last hlast dep hdep => h.ahead last hlast dep (List.mem_cons_of_mem _ hdep) }

/-- Going down to what a node depends on. -/
theorem enter (h : g.Open path done (id :: ids)) (hopen : id ∉ path) (hdone : id ∉ done) :
    g.Open (path ++ [id]) done (g.dependencies id) := by
  constructor
  case nodup =>
    rw [← List.concat_eq_append]
    exact h.nodup.concat hopen
  case chain =>
    refine h.chain.append (List.isChain_singleton id) fun last hlast first hfirst => ?_
    obtain rfl : id = first := by simpa using hfirst
    exact h.ahead last hlast id List.mem_cons_self
  case ahead =>
    intro last hlast dep hdep
    obtain rfl : id = last := by simpa using hlast
    exact hasEdge_iff.2 hdep
  case settled => exact h.settled
  case unfinished =>
    intro a ha
    rcases List.mem_append.1 ha with ha | ha
    · exact h.unfinished a ha
    · rw [List.mem_singleton.1 ha]
      exact hdone

/-- Coming back from a node when all that it depends on is finished. -/
theorem leave {below : List String} (h : g.Open path done (id :: ids)) (hopen : id ∉ path)
    (hsettled : g.Settled below) (hdeps : g.dependencies id ⊆ below)
    (hunfinished : ∀ a ∈ path ++ [id], a ∉ below) : g.Open path (id :: below) ids := by
  have hid : id ∉ below := hunfinished id (by simp)
  refine { h.next with settled := hsettled.cons hid fun dep hdep => hdeps hdep, unfinished := ?_ }
  intro a ha hmem
  rcases List.mem_cons.1 hmem with rfl | hmem
  · exact hopen ha
  · exact hunfinished a (List.mem_append_left _ ha) hmem

end Open

namespace Searches

/-- **A search without a find** leaves the nodes settled that it went through, and the open path
    unfinished. -/
theorem settled (h : g.Searches path done ids r) (hopen : g.Open path done ids)
    {finished : List String} (hr : r = .finished finished) :
    g.Settled finished ∧ done ⊆ finished ∧ ids ⊆ finished ∧ ∀ a ∈ path, a ∉ finished := by
  induction h generalizing finished with
  | stops =>
    obtain rfl := Search.finished.inj hr
    exact ⟨hopen.settled, List.Subset.refl _, List.nil_subset _, hopen.unfinished⟩
  | closes _ => cases hr
  | passes _ hdone _ ih =>
    obtain ⟨hsettled, hkept, hids, hpath⟩ := ih hopen.next hr
    exact ⟨hsettled, hkept, List.cons_subset.2 ⟨hkept hdone, hids⟩, hpath⟩
  | finds _ _ _ _ => cases hr
  | finishes hid hdone _ _ ihBelow ihRest =>
    obtain ⟨hbelow, hkeptBelow, hdeps, hpathBelow⟩ := ihBelow (hopen.enter hid hdone) rfl
    obtain ⟨hsettled, hkept, hids, hpath⟩ :=
      ihRest (hopen.leave hid hbelow hdeps hpathBelow) hr
    obtain ⟨hmem, hkept⟩ := List.cons_subset.1 hkept
    exact ⟨hsettled, fun a ha => hkept (hkeptBelow ha), List.cons_subset.2 ⟨hmem, hids⟩, hpath⟩

/-- The edge back into the open path closes a cycle, all of which the path leads to. -/
theorem isCycle_closing (hopen : g.Open path done (id :: ids)) (hid : id ∈ path) :
    IsCycle g.DependsOn (closing path id)
      ∧ ∀ a ∈ closing path id, Relation.ReflTransGen g.DependsOn (path.headD id) a := by
  obtain ⟨before, after, hsplit, hclosing⟩ := exists_closing_eq hid
  have hchain := hopen.chain
  have hnodup := hopen.nodup
  rw [hsplit] at hchain hnodup
  rw [hclosing]
  constructor
  · constructor
    case two_le_length => simp
    case returns => rw [List.getLast?_concat, List.cons_append, List.head?_cons]
    case nodup =>
      rw [List.dropLast_concat]
      exact hnodup.of_append_right
    case edges =>
      refine hchain.right_of_append.append (List.isChain_singleton id) ?_
      intro last hlast first hfirst
      obtain rfl : id = first := by simpa using hfirst
      refine hopen.ahead last ?_ id List.mem_cons_self
      rw [hsplit, List.getLast?_append_of_ne_nil _ (List.cons_ne_nil _ _)]
      exact hlast
  · intro a ha
    refine reaches_of_isChain hopen.chain id a ?_
    rw [hsplit]
    rcases List.mem_append.1 ha with ha | ha
    · exact List.mem_append_right _ ha
    · rw [List.mem_singleton.1 ha]
      simp

/-- **A search with a find** has found a cycle, to which the first of the nodes has led that leads
    to any; with an open path, the first node of the path. -/
theorem found (h : g.Searches path done ids r) (hopen : g.Open path done ids)
    (hr : r = .found cycle) :
    IsCycle g.DependsOn cycle ∧ ∃ earlier top later, ids = earlier ++ top :: later
      ∧ (∀ a ∈ earlier, ¬ g.LeadsToCycle a)
      ∧ ∀ a ∈ cycle, Relation.ReflTransGen g.DependsOn (path.headD top) a := by
  induction h with
  | stops => cases hr
  | @closes path done ids id hid =>
    obtain rfl := Search.found.inj hr
    obtain ⟨hcycle, hreached⟩ := isCycle_closing hopen hid
    exact ⟨hcycle, [], id, ids, rfl, by simp, hreached⟩
  | @passes path done ids id r _ hdone _ ih =>
    obtain ⟨hcycle, earlier, top, later, rfl, hearlier, hreached⟩ := ih hopen.next hr
    refine ⟨hcycle, id :: earlier, top, later, rfl, ?_, hreached⟩
    exact List.forall_mem_cons.2 ⟨hopen.settled.not_leadsToCycle hdone, hearlier⟩
  | @finds path done ids cycle' id hid hdone _ ih =>
    obtain ⟨hcycle, _, top, _, _, _, hreached⟩ := ih (hopen.enter hid hdone) hr
    refine ⟨hcycle, [], id, ids, rfl, by simp, ?_⟩
    have hroot : (path ++ [id]).headD top = path.headD id := by cases path <;> rfl
    rwa [hroot] at hreached
  | @finishes path done below ids id r hid hdone hbelow _ _ ihRest =>
    obtain ⟨hsettled, -, hdeps, hunfinished⟩ := hbelow.settled (hopen.enter hid hdone) rfl
    have hleft := hopen.leave hid hsettled hdeps hunfinished
    obtain ⟨hcycle, earlier, top, later, rfl, hearlier, hreached⟩ := ihRest hleft hr
    refine ⟨hcycle, id :: earlier, top, later, rfl, ?_, hreached⟩
    exact List.forall_mem_cons.2 ⟨hleft.settled.not_leadsToCycle List.mem_cons_self, hearlier⟩

end Searches

/-! ### The cycle that is found -/

/-- A cycle to which the earliest node leads that leads to any. -/
structure IsFirstCycle (g : Graph) (path : List String) : Prop
    extends IsCycle (fun a b => g.hasEdge a b = true) path where
  reached : ∃ earlier root later, g.ids = earlier ++ root :: later
    ∧ g.LeadsToCycle root ∧ (∀ a ∈ earlier, ¬ g.LeadsToCycle a)
    ∧ ∀ a ∈ path, Relation.ReflTransGen g.DependsOn root a

/-- The outcome of the search through all nodes. -/
def search (g : Graph) : Search :=
  searchAll (searchFrom g (g.size + 1) []) [] [] g.ids

theorem findCycle?_eq (g : Graph) : g.findCycle? = g.search.cycle? := by
  rw [findCycle?, search]
  cases searchAll (searchFrom g (g.size + 1) []) [] [] g.ids <;> rfl

theorem searches_search (hg : g.WellFormed) : g.Searches [] [] g.ids g.search :=
  searches_searchAll hg List.nodup_nil (List.nil_subset _) (List.Subset.refl _) (by simp)

theorem isFirstCycle_of_findCycle? (hg : g.WellFormed) (h : g.findCycle? = some path) :
    g.IsFirstCycle path := by
  have hsearch := searches_search hg
  rw [findCycle?_eq] at h
  cases hr : g.search with
  | finished done =>
    rw [hr] at h
    cases h
  | found cycle =>
    rw [hr] at h
    obtain rfl : cycle = path := Option.some.inj h
    obtain ⟨hcycle, earlier, root, later, hsplit, hearlier, hreached⟩ :=
      hsearch.found (Open.start g g.ids) hr
    obtain ⟨a, ha, hback⟩ := hcycle.exists_transGen
    exact ⟨hcycle, earlier, root, later, hsplit, ⟨a, hreached a ha, hback⟩, hearlier, hreached⟩

theorem findCycle?_eq_none_iff (hg : g.WellFormed) :
    g.findCycle? = none ↔ Acyclic g.DependsOn := by
  have hsearch := searches_search hg
  constructor
  · intro h
    rw [findCycle?_eq] at h
    cases hr : g.search with
    | found cycle =>
      rw [hr] at h
      cases h
    | finished done =>
      obtain ⟨hsettled, -, hids, -⟩ := hsearch.settled (Open.start g g.ids) hr
      intro a ha
      obtain ⟨b, hab, -⟩ := Relation.TransGen.head'_iff.1 ha
      exact hsettled.acyclic a (hids (hg.isNode_dependent (hasEdge_iff.1 hab))) ha
  · intro hacyclic
    cases hfound : g.findCycle? with
    | none => rfl
    | some path =>
      obtain ⟨a, -, ha⟩ := (isFirstCycle_of_findCycle? hg hfound).exists_transGen
      exact absurd ha (hacyclic a)

/-- **Whatever has been added to a graph, the search for a cycle comes to an end in one way,** finds
    a cycle exactly when there is one, and finds one to which the earliest node leads that leads
    to any. -/
theorem findCycle?_after (changes : List Change) :
    (∃ r, (∀ r', (after changes).Searches [] [] (after changes).ids r' ↔ r' = r)
        ∧ (after changes).findCycle? = r.cycle?)
      ∧ ((after changes).findCycle? = none
          ↔ Acyclic fun a b => (after changes).hasEdge a b = true)
      ∧ ∀ path, (after changes).findCycle? = some path → (after changes).IsFirstCycle path := by
  have hg := wellFormed_after changes
  have hsearch := searches_search hg
  refine ⟨⟨(after changes).search, fun r' => ?_, findCycle?_eq _⟩, findCycle?_eq_none_iff hg, ?_⟩
  · constructor
    · exact fun h => h.unique hsearch
    · rintro rfl
      exact hsearch
  · exact fun path h => isFirstCycle_of_findCycle? hg h

/-- The first node leads nowhere, and the second to a cycle that it is not on. -/
example : (ofEntries [("d", []), ("a", ["d", "b"]), ("b", ["c"]), ("c", ["b"])] "model").map
    findCycle? = .ok (some ["b", "c", "b"]) := by
  rfl

variable {e : GraphError} {kind : String}

/-! ### Sorting and validating -/

/-- **Sorting fails with the cycle that the search finds,** and with no other error. -/
theorem topologicalOrder_eq_error_iff (hg : g.WellFormed) :
    g.topologicalOrder = .error e ↔ ∃ cycle, g.findCycle? = some cycle
      ∧ e = .unsortable (g.takeReady (Progress.start g)).length g.size cycle := by
  have hsorted := exists_topologicalOrder_iff hg
  rw [← findCycle?_eq_none_iff hg] at hsorted
  cases hfound : g.findCycle? with
  | none =>
    obtain ⟨order, horder⟩ := hsorted.2 hfound
    simp [horder]
  | some cycle =>
    -- with a cycle there is no order, so some nodes are left over
    have hlength : (g.takeReady (Progress.start g)).length ≠ g.nodes.length := by
      intro heq
      have horder : g.topologicalOrder = .ok (g.takeReady (Progress.start g)) := by
        simp only [topologicalOrder, heq, if_true]
      rw [hsorted.1 ⟨_, horder⟩] at hfound
      cases hfound
    simp only [topologicalOrder, if_neg hlength, hfound, Option.getD_some, Except.error.injEq,
      Option.some.injEq, exists_eq_left', size, eq_comm (a := e)]

/-! ### Validating -/

/-- The three ways in which validating can end. -/
theorem validate_cases (g : Graph) :
    (∃ cycle, g.findCycle? = some cycle ∧ g.validate = .error (.cyclic cycle))
      ∨ (g.findCycle? = none ∧ ∃ node ∈ g.nodes, ∃ dep ∈ node.dependencies,
          g.contains dep = false ∧ g.validate = .error (.unknownDependency node.id dep))
      ∨ (g.findCycle? = none ∧ (∀ node ∈ g.nodes, ∀ dep ∈ node.dependencies, g.contains dep = true)
          ∧ g.validate = .ok ()) := by
  rw [validate]
  cases g.findCycle? with
  | some cycle => exact Or.inl ⟨cycle, rfl, rfl⟩
  | none =>
    refine Or.inr ?_
    dsimp only
    split
    · rename_i id dep hdangling
      obtain ⟨node, hnode, hfirst⟩ := List.exists_of_findSome?_eq_some hdangling
      obtain ⟨absent, habsent, heq⟩ := Option.map_eq_some_iff.1 hfirst
      obtain ⟨rfl, rfl⟩ := Prod.mk.inj heq
      have hunknown := List.find?_some habsent
      rw [Bool.not_eq_true'] at hunknown
      exact Or.inl ⟨rfl, node, hnode, absent, List.mem_of_find?_eq_some habsent, hunknown, rfl⟩
    · rename_i hnone
      refine Or.inr ⟨rfl, fun node hnode dep hdep => ?_, rfl⟩
      have hfirst := List.findSome?_eq_none_iff.1 hnone node hnode
      rw [Option.map_eq_none_iff] at hfirst
      simpa using List.find?_eq_none.1 hfirst dep hdep

theorem validate_eq_ok_iff : g.validate = .ok () ↔ g.findCycle? = none
    ∧ ∀ node ∈ g.nodes, ∀ dep ∈ node.dependencies, g.contains dep = true := by
  rcases validate_cases g with ⟨cycle, hfound, hresult⟩
    | ⟨hnone, node, hnode, dep, hdep, habsent, hresult⟩ | ⟨hnone, hall, hresult⟩
  · simp [hfound, hresult]
  · refine iff_of_false (by simp [hresult]) fun h => ?_
    rw [h.2 node hnode dep hdep] at habsent
    cases habsent
  · exact iff_of_true hresult ⟨hnone, hall⟩

theorem validate_cycle?_iff :
    (∃ e, g.validate = .error e ∧ e.cycle? = some cycle) ↔ g.findCycle? = some cycle := by
  rcases validate_cases g with ⟨found, hfound, hresult⟩
    | ⟨hnone, node, -, dep, -, -, hresult⟩ | ⟨hnone, -, hresult⟩
  · simp [hfound, hresult, GraphError.cycle?]
  · simp [hnone, hresult, GraphError.cycle?]
  · simp [hnone, hresult]

/-! ### The verdicts -/

/-- That sorting, searching and validating a graph come to the same verdict. -/
structure VerdictsAgree (g : Graph) : Prop where
  sorting : ∀ cycle, (∃ e, g.topologicalOrder = .error e ∧ e.cycle? = some cycle)
    ↔ g.findCycle? = some cycle
  -- what is left over is never given in place of a cycle
  found : ∀ e, g.topologicalOrder = .error e → ∃ cycle, g.findCycle? = some cycle
    ∧ e.cycle? = some cycle
  validating : ∀ cycle, (∃ e, g.validate = .error e ∧ e.cycle? = some cycle)
    ↔ g.findCycle? = some cycle
  valid : g.validate = .ok () ↔ (Acyclic fun a b => g.hasEdge a b = true)
    ∧ ∀ node ∈ g.nodes, ∀ dep ∈ node.dependencies, g.contains dep = true
  sortable : g.validate = .ok () → ∃ order, g.topologicalOrder = .ok order

theorem verdictsAgree (hg : g.WellFormed) : g.VerdictsAgree := by
  have hvalid := @validate_eq_ok_iff g
  rw [findCycle?_eq_none_iff hg] at hvalid
  constructor
  case sorting =>
    intro cycle
    constructor
    · rintro ⟨e, he, hcycle⟩
      obtain ⟨found, hfound, rfl⟩ := (topologicalOrder_eq_error_iff hg).1 he
      rw [hfound]
      exact hcycle
    · intro hfound
      exact ⟨_, (topologicalOrder_eq_error_iff hg).2 ⟨cycle, hfound, rfl⟩, rfl⟩
  case found =>
    intro e he
    obtain ⟨cycle, hfound, rfl⟩ := (topologicalOrder_eq_error_iff hg).1 he
    exact ⟨cycle, hfound, rfl⟩
  case validating => exact fun cycle => validate_cycle?_iff
  case valid => exact hvalid
  case sortable => exact fun h => (exists_topologicalOrder_iff hg).2 (hvalid.1 h).1

/-- What the nodes of a graph of entries declare are nodes. -/
theorem contains_of_ofEntries {entries : List (String × List String)}
    (h : ofEntries entries kind = .ok g) :
    ∀ node ∈ g.nodes, ∀ dep ∈ node.dependencies, g.contains dep = true := by
  obtain ⟨-, hids, -⟩ := ofEntries_ok h
  obtain ⟨-, hknown⟩ := exists_ofEntries_iff.1 ⟨g, h⟩
  intro node hnode dep hdep
  rw [nodes_ofEntries h] at hnode
  obtain ⟨entry, hentry, rfl⟩ := List.mem_map.1 hnode
  rw [contains_iff, hids]
  exact hknown entry hentry dep hdep

/-- **The three verdicts agree on every graph,** and of a graph of entries validating can find
    out nothing but a cycle. -/
theorem verdictsAgree_after : (∀ changes, (after changes).VerdictsAgree)
    ∧ ∀ entries kind g, ofEntries entries kind = .ok g → g.VerdictsAgree
        ∧ (∀ id dep, g.validate ≠ .error (.unknownDependency id dep))
        ∧ (g.validate = .ok () ↔ ∃ order, g.topologicalOrder = .ok order) := by
  refine ⟨fun changes => verdictsAgree (wellFormed_after changes), fun entries kind g h => ?_⟩
  obtain ⟨hg, -, -⟩ := ofEntries_ok h
  have hdeclared := contains_of_ofEntries h
  have hagree := verdictsAgree hg
  refine ⟨hagree, fun id dep herror => ?_, hagree.sortable, fun hsorted => ?_⟩
  · rcases validate_cases g with ⟨cycle, -, hresult⟩ | ⟨-, node, hnode, absent, hmem, habsent, -⟩
      | ⟨-, -, hresult⟩
    · rw [hresult] at herror
      cases herror
    · rw [hdeclared node hnode absent hmem] at habsent
      cases habsent
    · rw [hresult] at herror
      cases herror
  · exact hagree.valid.2 ⟨(exists_topologicalOrder_iff hg).1 hsorted, hdeclared⟩

end Graph

end SqlPipeline
