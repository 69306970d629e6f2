/-
  SqlPipeline/Graph/Order.lean
  ============================
  **The order in which nodes are taken: dependencies first, ties by age.**

  A graph is searched for a cycle first: depth first, from each node in the order of
  addition and along dependencies in the order in which their edges were added.  Nodes on
  the current path are open, nodes whose search is over without a find are finished; an edge
  back to an open node closes a cycle, and the first such edge ends the search.

  For each node a count says how many of its dependencies are still to be taken; a node
  is ready when its count has come down to zero.  At each step the earliest added of the
  ready nodes is taken and counted off at its dependents, until no node is ready.  When
  nodes are left over the graph has a cycle.
-/
import SqlPipeline.Graph.Basic

namespace SqlPipeline.Graph

/-! ### Searching for a cycle -/

/-- How a search from one place ended: with a cycle, or with these nodes finished. -/
inductive Search where
  | found (cycle : List String)
  | finished (ids : List String)
deriving Repr, DecidableEq

/-- The part of a path from the first occurrence of a node on, closed by that node. -/
def closing (path : List String) (id : String) : List String :=
  path.dropWhile (· != id) ++ [id]

/-- Searches the dependencies `deps` one after the other; `visit` searches from an open or
    new node, `path` is the open path. -/
def searchAll (visit : List String → String → Search) (path : List String) :
    (done : List String) → List String → Search
  | done, [] => .finished done
  | done, dep :: deps =>
      if path.contains dep then .found (closing path dep)
      else if done.contains dep then searchAll visit path done deps
      else
        match visit done dep with
        | .found cycle => .found cycle
        | .finished done => searchAll visit path done deps

/-- Searches from a node that is neither open nor finished; `fuel` bounds the length of
    the open path, which holds each node at most once. -/
def searchFrom (g : Graph) : (fuel : Nat) → (path : List String) → (done : List String) →
    String → Search
  | 0, _, done, _ => .finished done
  | fuel + 1, path, done, id =>
      let path := path ++ [id]
      match searchAll (searchFrom g fuel path) path done (g.dependencies id) with
      | .found cycle => .found cycle
      | .finished done => .finished (id :: done)

/-- The first cycle met, its first node repeated at the end. -/
def findCycle? (g : Graph) : Option (List String) :=
  match searchAll (searchFrom g (g.size + 1) []) [] [] g.ids with
  | .found cycle => some cycle
  | .finished _ => none

/-- Checks that there is no cycle and that every declared dependency is a node. -/
def validate (g : Graph) : Except GraphError Unit :=
  match g.findCycle? with
  | some cycle => .error (.cyclic cycle)
  | none =>
      let dangling := g.nodes.findSome? fun node =>
        (node.dependencies.find? fun dep => !g.contains dep).map fun dep => (node.id, dep)
      match dangling with
      | some (id, dep) => .error (.unknownDependency id dep)
      | none => .ok ()

/-! ### Taking nodes -/

/-- How far the taking of nodes has come. -/
structure Progress where
  missing : Entries Nat      -- how many dependencies of each node are still to be taken
  ready : List Nat           -- the places of the nodes that can be taken, in no order

def place (g : Graph) (id : String) : Nat :=
  g.ids.idxOf id

namespace Progress

/-- Before the first node is taken, a node is ready when it depends on nothing. -/
def start (g : Graph) : Progress :=
  let missing := g.nodes.map fun node => (node.id, (g.dependencies node.id).length)
  ⟨missing, (missing.filter (·.2 == 0)).map fun (id, _) => g.place id⟩

/-- Counts off one dependency of a node; with the last one the node gets ready. -/
def countOff (g : Graph) (p : Progress) (id : String) : Progress :=
  match Entries.find? p.missing id with
  | some (n + 1) =>
      ⟨Entries.insert id n p.missing, if n = 0 then g.place id :: p.ready else p.ready⟩
  | _ => p

/-- How often a node can still be taken: once for each that is ready, and once for each
    that misses a dependency. -/
def outstanding (p : Progress) : Nat :=
  p.ready.length + p.missing.countP (·.2 != 0)

theorem countP_insert {entries : Entries Nat} {id : String} {n : Nat}
    (h : Entries.find? entries id = some (n + 1)) :
    (Entries.insert id n entries).countP (·.2 != 0) + (if n = 0 then 1 else 0)
      = entries.countP (·.2 != 0) := by
  induction entries with
  | nil => cases h
  | cons e rest ih =>
    obtain ⟨k, v⟩ := e
    rw [Entries.find?_cons] at h
    by_cases hk : id = k
    · subst hk
      obtain rfl : v = n + 1 := by simpa using h
      by_cases hn : n = 0
      · simp [Entries.insert, List.countP_cons, hn]
      · simp [Entries.insert, hn]
    · have := ih (by simpa [hk] using h)
      simp only [Entries.insert, if_neg (Ne.symm hk), List.countP_cons]
      omega

theorem outstanding_countOff (g : Graph) (p : Progress) (id : String) :
    (p.countOff g id).outstanding = p.outstanding := by
  unfold countOff
  split
  · rename_i n h
    have hcount := countP_insert h
    simp only [outstanding]
    by_cases hn : n = 0
    · simp only [hn, if_true, List.length_cons] at hcount ⊢
      omega
    · simp only [if_neg hn] at hcount ⊢
      omega
  · rfl

theorem outstanding_foldl_countOff (g : Graph) (ids : List String) (p : Progress) :
    (ids.foldl (countOff g) p).outstanding = p.outstanding := by
  induction ids generalizing p with
  | nil => rfl
  | cons id ids ih => rw [List.foldl_cons, ih, outstanding_countOff]

/-- Takes the ready node at a place: it is ready no more, and its dependents miss one
    dependency less. -/
def take (g : Graph) (p : Progress) (place : Nat) (id : String) : Progress :=
  (g.dependents id).foldl (countOff g) { p with ready := p.ready.erase place }

theorem outstanding_take (g : Graph) (p : Progress) (id : String) {place : Nat}
    (h : place ∈ p.ready) : (p.take g place id).outstanding < p.outstanding := by
  have hlen := List.length_erase_of_mem h
  have hpos := List.length_pos_of_mem h
  rw [take, outstanding_foldl_countOff]
  simp only [outstanding]
  omega

end Progress

def takeReady (g : Graph) (p : Progress) : List Node :=
  match _h : p.ready.min? with
  | none => []
  | some place =>
      match g.nodes[place]? with
      | none => []
      | some node => node :: takeReady g (p.take g place node.id)
termination_by p.outstanding
decreasing_by exact Progress.outstanding_take g p node.id (List.min?_mem _h)

def topologicalOrder (g : Graph) : Except GraphError (List Node) :=
  let order := g.takeReady (Progress.start g)
  if order.length = g.nodes.length then .ok order
  else
    let left := (g.nodes.filter fun node => !order.any (·.id == node.id)).map (·.id)
    .error (.unsortable order.length g.nodes.length (g.findCycle?.getD left))

end SqlPipeline.Graph
