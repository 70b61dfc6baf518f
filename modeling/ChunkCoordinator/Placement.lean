import ChunkCoordinator.Node
import ChunkCoordinator.StableSort
import ChunkCoordinator.Table

/-!
# Choosing nodes for chunks

`chooseTargets` picks nodes for one chunk: healthy ones with room, the least loaded first.
`planUpload` picks nodes for every chunk of a file, taking the space that it has given away out
of its own copy of the node records (`debit`).
-/

namespace ChunkCoordinator.Placement

/-- The load of a node as a fraction, numerator first. A node without capacity is full. -/
def load (n : Node) : Nat × Nat :=
  if n.capacity = 0 then (1, 1) else (n.used.toNat, n.capacity.toNat)

/-- How the loads of two nodes compare, by cross-multiplication. -/
def compareLoad (a b : Node) : Ordering :=
  compare ((load a).1 * (load b).2) ((load b).1 * (load a).2)

/-- The order of preference: the smaller load first, then the smaller name. -/
def preferred (a b : Node) : Bool := ((compareLoad a b).then (compare a.id b.id)).isLE

/-- The node may take a chunk of a given size. -/
def eligible (exclude : KeySet NodeId) (size : UInt64) (n : Node) : Bool :=
  n.isHealthy && !exclude.contains n.id && size ≤ n.free

/-- The first `count` different names of a list, after those already taken. -/
def firstDistinct (count : Nat) (taken : List NodeId) : List NodeId → List NodeId
  | [] => taken
  | id :: ids =>
    if count ≤ taken.length then taken
    else if id ∈ taken then firstDistinct count taken ids
    else firstDistinct count (taken ++ [id]) ids

/-- Up to `count` nodes for a chunk of a given size: healthy nodes outside `exclude` with room
for it, in order of preference. -/
def chooseTargets (nodes : List Node) (count : Nat) (exclude : KeySet NodeId) (size : UInt64) :
    List NodeId :=
  firstDistinct count [] <| (sortedBy preferred (nodes.filter (eligible exclude size))).map Node.id

/-- Takes the size of a chunk from the free space of the nodes that are to hold it. -/
def debit (nodes : List Node) (targets : List NodeId) (size : UInt64) : List Node :=
  nodes.map fun n => if n.id ∈ targets then { n with free := n.free.satSub size } else n

/-- Nodes for chunks of the given sizes, one after the other. -/
def planUpload (nodes : List Node) : List UInt64 → Nat → List (List NodeId)
  | [], _ => []
  | size :: sizes, replication =>
    let targets := chooseTargets nodes replication .empty size
    targets :: planUpload (debit nodes targets size) sizes replication

end ChunkCoordinator.Placement
