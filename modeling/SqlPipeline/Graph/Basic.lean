/-
  SqlPipeline/Graph/Basic.lean
  ============================
  **Dependency graphs.**

  A graph holds nodes in the order in which they were added, and for each node the
  nodes it depends on and the nodes that depend on it, both in the order in which
  the edges were added.  An edge may only join nodes that are there already.
-/
import SqlPipeline.Data

namespace SqlPipeline

/-- A node: usually a model, sometimes a seed or a source. -/
structure Graph.Node where
  id : String
  name : String
  kind : String
  dependencies : List String             -- what the node declares, present or not
  metadata : Entries Data

def Graph.Node.make (id name kind : String) (dependencies : List String)
    (metadata : Entries Data) : Graph.Node :=
  ⟨id, if name.isEmpty then id else name, kind, dependencies, metadata⟩

/-- A directed graph, by both directions of its edges. -/
structure Graph where
  nodes : List Graph.Node
  forward : Entries (List String)        -- dependent to its dependencies
  backward : Entries (List String)       -- dependency to its dependents

/-- What can be wrong with a graph or with a change to it. -/
inductive GraphError where
  | absentNode                                              -- there is no node to add
  | absentGraph (purpose : String)                          -- there is no graph to look at
  | duplicateNode (id : String)
  | unknownNode (id : String)
  | unsortable (processed total : Nat) (cycle : List String)
  | cyclic (cycle : List String)
  | unknownDependency (id dependency : String)
deriving Repr, DecidableEq

namespace GraphError

def arrows (path : List String) : String :=
  " -> ".intercalate path

def message : GraphError → String
  | absentNode => "cannot add a None node"
  | absentGraph purpose => s!"cannot {purpose} a None graph"
  | duplicateNode id => s!"node with ID '{id}' already exists"
  | unknownNode id => s!"node '{id}' does not exist"
  | unsortable processed total cycle =>
      s!"cycle detected in graph: processed {processed} of {total} nodes ({arrows cycle})"
  | cyclic cycle => s!"validation failed: cycle detected: {arrows cycle}"
  | unknownDependency id dependency =>
      s!"node '{id}' references dependency '{dependency}' which does not exist in the graph"

/-- The cycle that the error is about, if it is about one. -/
def cycle? : GraphError → Option (List String)
  | unsortable _ _ cycle | cyclic cycle => some cycle
  | _ => none

end GraphError

namespace Graph

def empty : Graph :=
  ⟨[], [], []⟩

def ids (g : Graph) : List String :=
  g.nodes.map (·.id)

def contains (g : Graph) (id : String) : Bool :=
  g.nodes.any (·.id == id)

def size (g : Graph) : Nat :=
  g.nodes.length

def find? (g : Graph) (id : String) : Option Node :=
  g.nodes.find? (·.id == id)

def dependencies (g : Graph) (id : String) : List String :=
  (g.forward.find? id).getD []

def dependents (g : Graph) (id : String) : List String :=
  (g.backward.find? id).getD []

/-- Whether the first node depends directly on the second. -/
def hasEdge (g : Graph) (dependent dependency : String) : Bool :=
  (g.dependencies dependent).contains dependency

def addNode (g : Graph) (node : Node) : Except GraphError Graph :=
  if g.contains node.id then .error (.duplicateNode node.id)
  else .ok ⟨g.nodes ++ [node], g.forward ++ [(node.id, [])], g.backward ++ [(node.id, [])]⟩

/-- Adds `x` at the end of the list under `key`. -/
def push (key x : String) (lists : Entries (List String)) : Entries (List String) :=
  lists.map fun (k, xs) => (k, if k = key then xs ++ [x] else xs)

/-- Adds an edge; an edge that is there already changes nothing. -/
def addEdge (g : Graph) (dependent dependency : String) : Except GraphError Graph :=
  if !g.contains dependent then .error (.unknownNode dependent)
  else if !g.contains dependency then .error (.unknownNode dependency)
  else if g.hasEdge dependent dependency then .ok g
  else .ok ⟨g.nodes, push dependent dependency g.forward, push dependency dependent g.backward⟩

end Graph

end SqlPipeline
