import ChunkCoordinator.Instruction

/-!
# Requests and answers

The values that callers send and receive, apart from the records themselves.
-/

namespace ChunkCoordinator

/-- A node introduces itself. -/
structure RegisterRequest where
  node : NodeId
  host : String
  port : UInt16
  capacity : UInt64
  deriving DecidableEq

/-- A node reports its free space. -/
structure HeartbeatRequest where
  free : UInt64
  deriving DecidableEq

/-- The copy instructions that wait for a node. -/
structure HeartbeatResponse where
  ok : Bool
  rebalances : List Instruction
  deriving DecidableEq

/-- Somebody wants to upload a file. -/
structure UploadRequest where
  name : String
  size : UInt64
  chunkSize : Option UInt64
  replication : Option UInt64
  deriving DecidableEq

/-- Where one chunk is to be written. -/
structure ChunkPlacement where
  chunk : ChunkId
  index : UInt64
  size : UInt64
  targets : List Endpoint
  deriving DecidableEq

/-- Where the chunks of a new file are to be written. -/
structure UploadPlan where
  file : FileRecord
  chunks : List ChunkPlacement
  deriving DecidableEq

/-- A node reports that it holds a copy. -/
structure ReportRequest where
  node : NodeId
  deriving DecidableEq

/-- Whether the copy is new, and how many there are. -/
structure ReportResponse where
  added : Bool
  replicaCount : Nat
  deriving DecidableEq

/-- Where the copies of a chunk are. -/
structure ChunkReplicas where
  chunk : ChunkId
  index : UInt64
  size : UInt64
  desired : UInt64
  healthyReplicas : Nat
  replicas : List Endpoint
  deriving DecidableEq

/-- A file and where its chunks are. -/
structure FileMetadata where
  file : FileRecord
  chunks : List ChunkReplicas
  deriving DecidableEq

/-- A file, and how many of its chunks have too few healthy copies. -/
structure FileSummary where
  file : FileId
  name : String
  size : UInt64
  chunkSize : UInt64
  totalChunks : UInt64
  replication : UInt64
  underReplicated : Nat
  deriving DecidableEq

/-- The pending instructions, and what the last sweep could not help. -/
structure RebalanceListing where
  pending : List Instruction
  unrecoverable : List ChunkId
  lastSweep : Option UInt64
  deriving DecidableEq

/-- The counters of the whole cluster. -/
structure ClusterStatus where
  totalNodes : Nat
  healthyNodes : Nat
  unhealthyNodes : Nat
  removedNodes : Nat
  capacity : UInt64
  free : UInt64
  files : Nat
  chunks : Nat
  pendingRebalances : Nat
  unrecoverableChunks : Nat
  replication : UInt64
  deriving DecidableEq

/-- An answer that says no more than that all went well. -/
structure Ack where
  ok : Bool
  deriving DecidableEq

/-- The answer to a refused request. -/
structure ErrorBody where
  code : String
  message : String
  deriving DecidableEq

/-- The answer to a caller who asks whether anybody is there. -/
structure HealthStatus where
  role : String
  online : Bool
  deriving DecidableEq

end ChunkCoordinator
