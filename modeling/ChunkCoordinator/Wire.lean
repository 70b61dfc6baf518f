import ChunkCoordinator.Cluster
import ChunkCoordinator.Json.Codec

/-!
# The records and messages as JSON

Each record and message has a codec. The names of the fields and their order are those that
callers see and that saved states hold.
-/

namespace ChunkCoordinator

open Codec (word word16 word32 string truth uuid count)
open Fields (need field)

/-! ## Nodes -/

/-- A health is written as its word. -/
def Health.codec : Codec Health := .named Health.all Health.word

/-- A node as JSON. -/
def Node.codec : Codec Node :=
  (need "node_id" string <| need "host" string <| need "port" word16 <|
    need "capacity_bytes" word <| need "free_bytes" word <| need "health" Health.codec <|
    need "last_heartbeat_unix" word <| need "registered_at_unix" word <| .none).record
    (fun n => (n.id, n.host, n.port, n.capacity, n.free, n.health, n.lastHeartbeat,
      n.registeredAt, ()))
    (fun (id, host, port, capacity, free, health, lastHeartbeat, registeredAt, ()) =>
      ⟨id, host, port, capacity, free, health, lastHeartbeat, registeredAt⟩)

/-- An endpoint as JSON. -/
def Endpoint.codec : Codec Endpoint :=
  (need "node_id" string <| need "host" string <| need "port" word16 <|
    need "health" Health.codec <| .none).record
    (fun e => (e.node, e.host, e.port, e.health, ()))
    (fun (node, host, port, health, ()) => ⟨node, host, port, health⟩)

/-! ## Files and chunks -/

/-- A set of nodes is written as a sorted list and read from any list. -/
def nodeSet : Codec (KeySet NodeId) := (Codec.list string).convert Table.keys .ofKeys

/-- A file as JSON. -/
def FileRecord.codec : Codec FileRecord :=
  (need "file_id" uuid <| need "name" string <| need "size_bytes" word <|
    need "chunk_size_bytes" word <| need "total_chunks" word <|
    need "replication_factor" word <| need "created_at_unix" word <| .none).record
    (fun f => (f.id, f.name, f.size, f.chunkSize, f.totalChunks, f.replication, f.createdAt, ()))
    (fun (id, name, size, chunkSize, totalChunks, replication, createdAt, ()) =>
      ⟨id, name, size, chunkSize, totalChunks, replication, createdAt⟩)

/-- A chunk as JSON. -/
def ChunkRecord.codec : Codec ChunkRecord :=
  (need "chunk_id" uuid <| need "file_id" uuid <| need "index" word <| need "size_bytes" word <|
    need "desired_replicas" word <| need "replica_nodes" nodeSet <|
    need "expected_nodes" nodeSet <| need "created_at_unix" word <| .none).record
    (fun c => (c.id, c.file, c.index, c.size, c.desired, c.replicas, c.expected, c.createdAt, ()))
    (fun (id, file, index, size, desired, replicas, expected, createdAt, ()) =>
      ⟨id, file, index, size, desired, replicas, expected, createdAt⟩)

/-- The saved state as JSON. -/
def Snapshot.codec : Codec Snapshot :=
  (need "version" word32 <| need "saved_at_unix" word <| need "nodes" Node.codec.list <|
    need "files" FileRecord.codec.list <| need "chunks" ChunkRecord.codec.list <| .none).record
    (fun s => (s.version, s.savedAt, s.nodes, s.files, s.chunks, ()))
    (fun (version, savedAt, nodes, files, chunks, ()) => ⟨version, savedAt, nodes, files, chunks⟩)

/-! ## Instructions -/

/-- An instruction as JSON. -/
def Instruction.codec : Codec Instruction :=
  (need "chunk_id" uuid <| need "file_id" uuid <| need "chunk_index" word <|
    need "size_bytes" word <| field "source_node_id" .nullable string.optional <|
    need "target_node_id" string <| need "issued_at_unix" word <| .none).record
    (fun i => (i.chunk, i.file, i.chunkIndex, i.size, i.source, i.target, i.issuedAt, ()))
    (fun (chunk, file, chunkIndex, size, source, target, issuedAt, ()) =>
      ⟨chunk, file, chunkIndex, size, source, target, issuedAt⟩)

/-- The report of a sweep as JSON. Older reports have no number of completed instructions. -/
def SweepReport.codec : Codec SweepReport :=
  (need "started_at_unix" word <| need "emitted" Instruction.codec.list <|
    need "unrecoverable" uuid.list <| field "completed" (.defaulted (.number 0)) count <|
    need "expired" count <| need "short_of_targets" count <| .none).record
    (fun r => (r.startedAt, r.emitted, r.unrecoverable, r.completed, r.expired,
      r.shortOfTargets, ()))
    (fun (startedAt, emitted, unrecoverable, completed, expired, shortOfTargets, ()) =>
      ⟨startedAt, emitted, unrecoverable, completed, expired, shortOfTargets⟩)

/-- The pending instructions as JSON. -/
def RebalanceListing.codec : Codec RebalanceListing :=
  (need "pending" Instruction.codec.list <| need "unrecoverable_chunks" uuid.list <|
    field "last_sweep_unix" .nullable word.optional <| .none).record
    (fun l => (l.pending, l.unrecoverable, l.lastSweep, ()))
    (fun (pending, unrecoverable, lastSweep, ()) => ⟨pending, unrecoverable, lastSweep⟩)

/-! ## Requests -/

/-- The introduction of a node as JSON. -/
def RegisterRequest.codec : Codec RegisterRequest :=
  (need "node_id" string <| need "host" string <| need "port" word16 <|
    need "capacity_bytes" word <| .none).record
    (fun r => (r.node, r.host, r.port, r.capacity, ()))
    (fun (node, host, port, capacity, ()) => ⟨node, host, port, capacity⟩)

/-- A sign of life as JSON. -/
def HeartbeatRequest.codec : Codec HeartbeatRequest :=
  (need "free_bytes" word <| .none).record (fun r => (r.free, ())) (fun (free, ()) => ⟨free⟩)

/-- A wish to upload a file as JSON. What it leaves open may be left out. -/
def UploadRequest.codec : Codec UploadRequest :=
  (need "name" string <| need "size_bytes" word <|
    field "chunk_size_bytes" (.defaulted .null) word.optional <|
    field "replication_factor" (.defaulted .null) word.optional <| .none).record
    (fun r => (r.name, r.size, r.chunkSize, r.replication, ()))
    (fun (name, size, chunkSize, replication, ()) => ⟨name, size, chunkSize, replication⟩)

/-- The report of a copy as JSON. -/
def ReportRequest.codec : Codec ReportRequest :=
  (need "node_id" string <| .none).record (fun r => (r.node, ())) (fun (node, ()) => ⟨node⟩)

/-! ## Answers -/

/-- The answer to a sign of life as JSON. -/
def HeartbeatResponse.codec : Codec HeartbeatResponse :=
  (need "ok" truth <| need "rebalances" Instruction.codec.list <| .none).record
    (fun r => (r.ok, r.rebalances, ()))
    (fun (ok, rebalances, ()) => ⟨ok, rebalances⟩)

/-- The placement of a chunk as JSON. -/
def ChunkPlacement.codec : Codec ChunkPlacement :=
  (need "chunk_id" uuid <| need "index" word <| need "size_bytes" word <|
    need "targets" Endpoint.codec.list <| .none).record
    (fun p => (p.chunk, p.index, p.size, p.targets, ()))
    (fun (chunk, index, size, targets, ()) => ⟨chunk, index, size, targets⟩)

/-- The plan of an upload as JSON. -/
def UploadPlan.codec : Codec UploadPlan :=
  (need "file" FileRecord.codec <| need "chunks" ChunkPlacement.codec.list <| .none).record
    (fun p => (p.file, p.chunks, ()))
    (fun (file, chunks, ()) => ⟨file, chunks⟩)

/-- The answer to the report of a copy as JSON. -/
def ReportResponse.codec : Codec ReportResponse :=
  (need "added" truth <| need "replica_count" count <| .none).record
    (fun r => (r.added, r.replicaCount, ()))
    (fun (added, replicaCount, ()) => ⟨added, replicaCount⟩)

/-- The copies of a chunk as JSON. -/
def ChunkReplicas.codec : Codec ChunkReplicas :=
  (need "chunk_id" uuid <| need "index" word <| need "size_bytes" word <|
    need "desired_replicas" word <| need "healthy_replicas" count <|
    need "replicas" Endpoint.codec.list <| .none).record
    (fun r => (r.chunk, r.index, r.size, r.desired, r.healthyReplicas, r.replicas, ()))
    (fun (chunk, index, size, desired, healthyReplicas, replicas, ()) =>
      ⟨chunk, index, size, desired, healthyReplicas, replicas⟩)

/-- A file and its copies as JSON. -/
def FileMetadata.codec : Codec FileMetadata :=
  (need "file" FileRecord.codec <| need "chunks" ChunkReplicas.codec.list <| .none).record
    (fun m => (m.file, m.chunks, ()))
    (fun (file, chunks, ()) => ⟨file, chunks⟩)

/-- A file in a listing as JSON. -/
def FileSummary.codec : Codec FileSummary :=
  (need "file_id" uuid <| need "name" string <| need "size_bytes" word <|
    need "chunk_size_bytes" word <| need "total_chunks" word <|
    need "replication_factor" word <| need "under_replicated_chunks" count <| .none).record
    (fun s => (s.file, s.name, s.size, s.chunkSize, s.totalChunks, s.replication,
      s.underReplicated, ()))
    (fun (file, name, size, chunkSize, totalChunks, replication, underReplicated, ()) =>
      ⟨file, name, size, chunkSize, totalChunks, replication, underReplicated⟩)

/-- The counters of the cluster as JSON. -/
def ClusterStatus.codec : Codec ClusterStatus :=
  (need "total_nodes" count <| need "healthy_nodes" count <| need "unhealthy_nodes" count <|
    need "removed_nodes" count <| need "capacity_bytes" word <| need "free_bytes" word <|
    need "files" count <| need "chunks" count <| need "pending_rebalances" count <|
    need "unrecoverable_chunks" count <| need "replication_factor" word <| .none).record
    (fun s => (s.totalNodes, s.healthyNodes, s.unhealthyNodes, s.removedNodes, s.capacity, s.free,
      s.files, s.chunks, s.pendingRebalances, s.unrecoverableChunks, s.replication, ()))
    (fun (totalNodes, healthyNodes, unhealthyNodes, removedNodes, capacity, free, files, chunks,
        pendingRebalances, unrecoverableChunks, replication, ()) =>
      ⟨totalNodes, healthyNodes, unhealthyNodes, removedNodes, capacity, free, files, chunks,
        pendingRebalances, unrecoverableChunks, replication⟩)

/-- The bare answer as JSON. -/
def Ack.codec : Codec Ack :=
  (need "ok" truth <| .none).record (fun a => (a.ok, ())) (fun (ok, ()) => ⟨ok⟩)

/-- The answer to a refused request as JSON. -/
def ErrorBody.codec : Codec ErrorBody :=
  (need "code" string <| need "message" string <| .none).record
    (fun e => (e.code, e.message, ()))
    (fun (code, message, ()) => ⟨code, message⟩)

/-- The answer of a server that is there as JSON. -/
def HealthStatus.codec : Codec HealthStatus :=
  (need "role" string <| need "online" truth <| .none).record
    (fun h => (h.role, h.online, ()))
    (fun (role, online, ()) => ⟨role, online⟩)

end ChunkCoordinator
