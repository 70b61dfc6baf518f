import ChunkCoordinator.Word

/-!
# Storage nodes

A `Node` is what the coordinator knows about one storage node: where it listens, how much it can
hold, and how it fares. A removed node stays on record, so that its name can be taken again.
-/

namespace ChunkCoordinator

/-- The name that a storage node gives itself. Names are ordered by their characters. -/
abbrev NodeId := String

/-- How a node fares. A removed node takes part in nothing. -/
inductive Health where
  | healthy
  | unhealthy
  | removed
  deriving DecidableEq

/-- Every health, in the order in which counts are given. -/
def Health.all : List Health := [.healthy, .unhealthy, .removed]

/-- The word for a health. -/
def Health.word : Health → String
  | .healthy => "healthy"
  | .unhealthy => "unhealthy"
  | .removed => "removed"

/-- Where a node listens, and how it fares. -/
structure Endpoint where
  node : NodeId
  host : String
  port : UInt16
  health : Health
  deriving DecidableEq

/-- The record of a node. Sizes are in bytes, times in seconds. -/
structure Node where
  id : NodeId
  host : String
  port : UInt16
  capacity : UInt64
  free : UInt64
  health : Health
  lastHeartbeat : UInt64
  registeredAt : UInt64
  deriving DecidableEq

namespace Node

/-- The bytes in use. A node that claims more free space than it has uses none. -/
def used (n : Node) : UInt64 := n.capacity.satSub n.free

/-- The node is healthy. -/
def isHealthy (n : Node) : Bool := n.health = .healthy

/-- The node has not been removed. -/
def isLive (n : Node) : Bool := n.health ≠ .removed

/-- Where the node listens. -/
def endpoint (n : Node) : Endpoint := ⟨n.id, n.host, n.port, n.health⟩

end Node

end ChunkCoordinator
