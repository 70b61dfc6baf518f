import ChunkCoordinator.Catalog
import ChunkCoordinator.Placement

/-!
# The records of the coordinator

A `Store` is a registry of nodes together with a catalog of files and chunks. Its operations are
those that need both: planning a file (`Store.tryCreateFile`), confirming a copy (`Store.report`),
deleting a file (`Store.deleteFile`) and taking a node out of service (`Store.retireNode`).

The space of a confirmed copy is taken from the node that holds it and given back on deletion.
Amounts are booked as signed words, hence `bookable`.
-/

namespace ChunkCoordinator

/-- The records of nodes, files and chunks. -/
structure Store where
  registry : Registry
  catalog : Catalog
  deriving DecidableEq

/-- What a new file is to be like. -/
structure NewFile where
  name : String
  size : UInt64
  chunkSize : UInt64
  replication : UInt64
  deriving DecidableEq

/-- The outcome of confirming a copy. -/
structure ReportOutcome where
  added : Bool
  replicaCount : Nat
  deriving DecidableEq

/-- What has been deleted, and how much space its copies gave back. -/
structure DeletedFile where
  file : FileRecord
  chunkIds : List ChunkId
  released : UInt64
  deriving DecidableEq

/-- The part of a size that can be booked: a signed word holds no more. -/
def bookable (size : UInt64) : UInt64 := min size 0x7FFFFFFFFFFFFFFF

namespace Store

/-- The store without records. -/
def empty : Store := ⟨.empty, .empty⟩

instance : Inhabited Store := ⟨empty⟩

/-! ## New files -/

/-- The first chunk of a plan, counted from `index`, that has too few targets. -/
def shortage? (replication index : UInt64) : List (List NodeId) → Option ServiceError
  | [] => none
  | targets :: rest =>
    if targets.isEmpty then some (.noCapacity index)
    else if targets.length < replication.toNat then
      some (.insufficientReplicas index replication targets.length)
    else shortage? replication (index + 1) rest

/-- The records of a file's chunks, counted from `index`, given what was planned for each. -/
def provisionalChunks (file : FileRecord) (index : UInt64) :
    List (ChunkId × UInt64 × List NodeId) → List ChunkRecord
  | [] => []
  | (id, size, targets) :: rest =>
    { id, file := file.id, index, size, desired := file.replication, replicas := .empty,
      expected := .ofKeys targets, createdAt := file.createdAt } ::
      provisionalChunks file (index + 1) rest

/-- Plans a file and stores it with its chunks, none of which has a copy yet. Nothing is stored
unless every chunk finds all its nodes. The lists that this takes may have any length. -/
def createFile (s : Store) (ids : IdSupply) (new : NewFile) (now : UInt64) :
    Except ServiceError ((FileRecord × List ChunkRecord) × Store × IdSupply) :=
  if new.chunkSize = 0 then
    .error (.invalidRequest "chunk size must be greater than zero")
  else if new.replication = 0 then
    .error (.invalidRequest "replication factor must be at least one")
  else
    let sizes := chunkLengths new.size new.chunkSize
    let plan := Placement.planUpload s.registry.healthyNodes sizes new.replication.toNat
    match shortage? new.replication 0 plan with
    | some why => .error why
    | none =>
      let (fileIds, ids) := ids.draw 1
      let (chunkIds, ids) := ids.draw sizes.length
      let file : FileRecord :=
        { id := fileIds.headD .zero, name := new.name, size := new.size,
          chunkSize := new.chunkSize, totalChunks := chunkCount new.size new.chunkSize,
          replication := new.replication, createdAt := now }
      let chunks := provisionalChunks file 0 (chunkIds.zip (sizes.zip plan))
      .ok ((file, chunks), { s with catalog := s.catalog.addFile file chunks }, ids)

/-- The number of bytes that no list reaches. -/
def listLimit : Nat := 0x8000000000000000

/-- The bytes that the targets of one chunk take in a list. -/
def targetsWidth : Nat := 24

/-- The bytes that the record of one chunk takes in a list. -/
def recordWidth : Nat := 112

/-- Plans a file with lists of limited length. That of the targets is made before the first chunk is
placed, and that of the records once all of them are; the one of the lengths takes less than both. A
file with too many chunks is given up. -/
def tryCreateFile (s : Store) (ids : IdSupply) (new : NewFile) (now : UInt64) :
    Except Fault ((FileRecord × List ChunkRecord) × Store × IdSupply) :=
  let count := (chunkCount new.size new.chunkSize).toNat
  if new.chunkSize ≠ 0 ∧ new.replication ≠ 0 ∧ listLimit ≤ targetsWidth * count then
    .error .overflow
  else
    match s.createFile ids new now with
    | .error why => .error (.refused why)
    | .ok created => if listLimit ≤ recordWidth * count then .error .overflow else .ok created

/-! ## Copies -/

/-- Confirms that a node holds a copy of a chunk that it was asked to hold. The space is taken
from the node with the first confirmation; a repeated one changes nothing. -/
def report (s : Store) (chunk : ChunkId) (node : NodeId) :
    Except ServiceError (ReportOutcome × Store) :=
  match s.catalog.chunks.get? chunk with
  | none => .error (.unknownChunk chunk)
  | some record =>
    if !record.expected.contains node then .error (.unexpectedNode chunk node)
    else if record.replicas.contains node then .ok (⟨false, record.replicas.size⟩, s)
    else
      match s.registry.debit node (bookable record.size) with
      | .error why => .error why
      | .ok (_, registry) =>
        let replicas := record.replicas.add node
        .ok (⟨true, replicas.size⟩,
          { registry
            catalog := { s.catalog with
              chunks := s.catalog.chunks.insert chunk { record with replicas } } })

/-- Adds the live ones among some nodes to those that a chunk expects. -/
def expect (s : Store) (chunk : ChunkId) (targets : List NodeId) :
    Option (List NodeId × Store) :=
  (s.catalog.expect chunk targets s.registry).map fun (skipped, catalog) =>
    (skipped, { s with catalog })

/-! ## Deletion -/

/-- A deletion under way: the records, and the bytes given back so far. They are `none` once their
sum has left the range of words; after that nothing more is done. -/
structure Deletion where
  store : Store
  released : Option UInt64
  deriving DecidableEq

namespace Deletion

/-- Gives back the space of one copy. A node that is not in service is passed over. -/
def releaseReplica (size : UInt64) (d : Deletion) (node : NodeId) : Deletion :=
  match d.released with
  | none => d
  | some sum =>
    match d.store.registry.credit node (bookable size) with
    | .error _ => d
    | .ok (_, registry) => ⟨{ d.store with registry }, sum.add? size⟩

/-- Drops one chunk and gives back the space of its copies. -/
def dropChunk (d : Deletion) (chunk : ChunkId) : Deletion :=
  match d.released, d.store.catalog.chunks.get? chunk with
  | none, _ | _, none => d
  | some _, some record =>
    let catalog := { d.store.catalog with chunks := d.store.catalog.chunks.erase chunk }
    record.replicas.keys.foldl (releaseReplica record.size)
      { d with store := { d.store with catalog } }

end Deletion

/-- Drops a file and its chunks and gives back the space of their confirmed copies. -/
def deleteFile (s : Store) (id : FileId) : Except Fault DeletedFile × Store :=
  match s.catalog.files.get? id with
  | none => (.error (.refused (.fileNotFound id)), s)
  | some file =>
    let chunkIds := s.catalog.idsOf id
    let catalog :=
      { s.catalog with
        files := s.catalog.files.erase id
        chunkIds := s.catalog.chunkIds.erase id }
    let d := chunkIds.foldl Deletion.dropChunk ⟨{ s with catalog }, some 0⟩
    match d.released with
    | none => (.error .overflow, d.store)
    | some released => (.ok ⟨file, chunkIds, released⟩, d.store)

/-! ## Nodes -/

/-- Takes a node out of service and out of every chunk. A node that holds copies is kept, unless
forced. The answer is the number of chunks that had a copy on it. -/
def retireNode (s : Store) (node : NodeId) (force : Bool) : Except ServiceError (Nat × Store) :=
  let references := s.catalog.references node
  (s.registry.remove node force references).map fun registry =>
    (references, { registry, catalog := s.catalog.strip node })

end Store

end ChunkCoordinator
