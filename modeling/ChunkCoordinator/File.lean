import ChunkCoordinator.Node
import ChunkCoordinator.Table
import ChunkCoordinator.Uuid

/-!
# Files and chunks

A file is cut into chunks of one size, of which the last may be shorter (`chunkCount`,
`chunkLength`). Of every chunk the coordinator records which nodes hold a confirmed copy and
which nodes have been asked to hold one.
-/

namespace ChunkCoordinator

/-- The number of chunks of a file. An empty file has one chunk, and so has a file whose chunk
size is zero. -/
def chunkCount (size chunkSize : UInt64) : UInt64 :=
  if chunkSize = 0 ∨ size = 0 then 1 else (size - 1) / chunkSize + 1

/-- The length of the chunk with a given index; it is zero past the end. -/
def chunkLength (size chunkSize index : UInt64) : UInt64 :=
  min (size.satSub (index.satMul chunkSize)) chunkSize

/-- The lengths of all chunks of a file. -/
def chunkLengths (size chunkSize : UInt64) : List UInt64 :=
  (List.range (chunkCount size chunkSize).toNat).map fun i => chunkLength size chunkSize (.ofNat i)

/-- The record of a file. -/
structure FileRecord where
  id : FileId
  name : String
  size : UInt64
  chunkSize : UInt64
  totalChunks : UInt64
  replication : UInt64
  createdAt : UInt64
  deriving DecidableEq

/-- The record of a chunk. `replicas` are the nodes that hold a confirmed copy; `expected` are
the nodes that have been asked to hold one, by the upload plan or by a repair. -/
structure ChunkRecord where
  id : ChunkId
  file : FileId
  index : UInt64
  size : UInt64
  desired : UInt64
  replicas : KeySet NodeId
  expected : KeySet NodeId
  createdAt : UInt64
  deriving DecidableEq

namespace ChunkRecord

/-- No copy has been confirmed yet. -/
def isProvisional (c : ChunkRecord) : Bool := c.replicas.isEmpty

/-- The copies on nodes of a given set. -/
def replicasIn (c : ChunkRecord) (nodes : NodeId → Bool) : List NodeId := c.replicas.keys.filter nodes

/-- The order of chunks within files. -/
def leInFile (a b : ChunkRecord) : Bool :=
  ((compare a.file b.file).then (compare a.index b.index)).isLE

/-- The order by index. -/
def leByIndex (a b : ChunkRecord) : Bool := a.index ≤ b.index

/-- The order in which a sweep visits chunks: oldest first, then by place. -/
def leByAge (a b : ChunkRecord) : Bool :=
  ((compare a.createdAt b.createdAt).then
    ((compare a.file b.file).then (compare a.index b.index))).isLE

end ChunkRecord

/-- The order of file listings: oldest first, then by name. -/
def FileRecord.leByAge (a b : FileRecord) : Bool :=
  ((compare a.createdAt b.createdAt).then
    ((compare a.name b.name).then (compare a.id b.id))).isLE

end ChunkCoordinator
