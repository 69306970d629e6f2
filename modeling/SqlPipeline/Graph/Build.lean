/-
  SqlPipeline/Graph/Build.lean
  ============================
  **Graphs from lists of ids with their dependencies.**

  All nodes are added before the first edge, so an entry may depend on a later one;
  an id that stands twice or a dependency without an entry is an error.
-/
import SqlPipeline.Graph.Order

namespace SqlPipeline.Graph

def addNodes (kind : String) (g : Graph) : List (String × List String) → Except GraphError Graph
  | [] => .ok g
  | (id, deps) :: rest => do addNodes kind (← g.addNode (Node.make id "" kind deps [])) rest

def addEdgesOf (g : Graph) (id : String) : List String → Except GraphError Graph
  | [] => .ok g
  | dep :: deps => do addEdgesOf (← g.addEdge id dep) id deps

def addEdges (g : Graph) : List (String × List String) → Except GraphError Graph
  | [] => .ok g
  | (id, deps) :: rest => do addEdges (← addEdgesOf g id deps) rest

def ofEntries (entries : List (String × List String)) (kind : String) : Except GraphError Graph := do
  addEdges (← addNodes kind empty entries) entries

end SqlPipeline.Graph
