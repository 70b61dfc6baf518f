import ChunkCoordinator.Registry
import ChunkCoordinator.File
import ChunkCoordinator.StableSort

/-!
# The catalog of files and chunks

A `Catalog` holds the record of every file, the record of every chunk and, for each file, the
identifiers of its chunks. It is rebuilt from saved records by `Catalog.restore`, which refuses
records that contradict each other or the registry; an `Inconsistency` says how.
-/

namespace ChunkCoordinator

/-- The records of all files and chunks, and the chunks of each file. -/
structure Catalog where
  files : Table FileId FileRecord
  chunks : Table ChunkId ChunkRecord
  chunkIds : Table FileId (List ChunkId)
  deriving DecidableEq

/-- How saved records can contradict each other. -/
inductive Inconsistency where
  | strayChunk (chunk : ChunkId) (file : FileId)
  | indexPastEnd (chunk : ChunkId) (index : UInt64) (file : FileId) (totalChunks : UInt64)
  | deadReplica (chunk : ChunkId) (node : NodeId)
  | repeatedChunk
  deriving DecidableEq

/-- The explanation of an inconsistency. -/
def Inconsistency.message : Inconsistency → String
  | strayChunk chunk file => s!"chunk {chunk.toText} belongs to unknown file {file.toText}"
  | indexPastEnd chunk index file totalChunks =>
    s!"chunk {chunk.toText} has index {index.toNat} but file {file.toText} has {totalChunks.toNat} chunks"
  | deadReplica chunk node => s!"chunk {chunk.toText} references removed or unknown node {node}"
  | repeatedChunk => "duplicate chunk id in snapshot"

namespace Catalog

/-- The catalog without files. -/
def empty : Catalog := ⟨.empty, .empty, .empty⟩

instance : Inhabited Catalog := ⟨empty⟩

/-! ## Reading -/

/-- The identifiers of a file's chunks, as they were stored. -/
def idsOf (c : Catalog) (file : FileId) : List ChunkId := (c.chunkIds.get? file).getD []

/-- The chunks of a file by index. -/
def chunksOf (c : Catalog) (file : FileId) : List ChunkRecord :=
  sortedBy ChunkRecord.leByIndex ((c.idsOf file).filterMap c.chunks.get?)

/-- A file and its chunks by index. -/
def file (c : Catalog) (id : FileId) : Except ServiceError (FileRecord × List ChunkRecord) :=
  match c.files.get? id with
  | some file => .ok (file, c.chunksOf id)
  | none => .error (.fileNotFound id)

/-- Every file with its chunks: oldest first, then by name. -/
def listing (c : Catalog) : List (FileRecord × List ChunkRecord) :=
  (sortedBy FileRecord.leByAge c.files.values).map fun f => (f, c.chunksOf f.id)

/-- Every chunk. -/
def allChunks (c : Catalog) : List ChunkRecord := c.chunks.values

/-- How many chunks count a node among their replicas. -/
def references (c : Catalog) (node : NodeId) : Nat :=
  c.allChunks.countP fun chunk => chunk.replicas.contains node

/-- How many files and how many chunks there are. -/
def counts (c : Catalog) : Nat × Nat := (c.files.size, c.chunks.size)

/-- The records to be saved: files by identifier, chunks by file and index. -/
def exported (c : Catalog) : List FileRecord × List ChunkRecord :=
  (c.files.values, sortedBy ChunkRecord.leInFile c.allChunks)

/-! ## Changing -/

/-- Puts a file and its chunks in. -/
def addFile (c : Catalog) (file : FileRecord) (chunks : List ChunkRecord) : Catalog where
  files := c.files.insert file.id file
  chunks := c.chunks.insertAll (chunks.map fun chunk => (chunk.id, chunk))
  chunkIds := c.chunkIds.insert file.id (chunks.map ChunkRecord.id)

/-- Takes a node out of every chunk. -/
def strip (c : Catalog) (node : NodeId) : Catalog :=
  let chunks := c.chunks.map fun chunk =>
    { chunk with replicas := chunk.replicas.erase node, expected := chunk.expected.erase node }
  { c with chunks }

/-- Adds the live ones among some nodes to those that a chunk expects. The answer names the
others; there is no answer if the chunk is gone. -/
def expect (c : Catalog) (chunk : ChunkId) (targets : List NodeId) (registry : Registry) :
    Option (List NodeId × Catalog) :=
  (c.chunks.get? chunk).map fun record =>
    let expected := record.expected.addAll (targets.filter registry.isLive)
    (targets.filter fun t => !registry.isLive t,
      { c with chunks := c.chunks.insert chunk { record with expected } })

/-! ## Restoring -/

/-- Files without their chunks. Of two records of one identifier the later one counts. -/
def ofFiles (files : List FileRecord) : Catalog where
  files := .ofList (files.map fun f => (f.id, f))
  chunks := .empty
  chunkIds := .ofList (files.map fun f => (f.id, []))

/-- Adds a saved chunk, if it fits the records so far and the registry. -/
def restoreChunk (registry : Registry) (c : Catalog) (chunk : ChunkRecord) :
    Except Inconsistency Catalog :=
  match c.files.get? chunk.file with
  | none => .error (.strayChunk chunk.id chunk.file)
  | some file =>
    if file.totalChunks ≤ chunk.index then
      .error (.indexPastEnd chunk.id chunk.index file.id file.totalChunks)
    else
      match chunk.replicas.keys.find? fun node => !registry.isLive node with
      | some node => .error (.deadReplica chunk.id node)
      | none =>
        if c.chunks.contains chunk.id then .error .repeatedChunk
        else .ok
          { c with
            chunks := c.chunks.insert chunk.id chunk
            chunkIds := c.chunkIds.insert chunk.file (c.idsOf chunk.file ++ [chunk.id]) }

/-- The catalog of saved records. -/
def restore (registry : Registry) (files : List FileRecord) (chunks : List ChunkRecord) :
    Except Inconsistency Catalog :=
  chunks.foldlM (restoreChunk registry) (ofFiles files)

end Catalog

end ChunkCoordinator
