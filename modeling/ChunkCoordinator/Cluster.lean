import ChunkCoordinator.Message
import ChunkCoordinator.Metrics
import ChunkCoordinator.Queue
import ChunkCoordinator.Settings
import ChunkCoordinator.Store
import ChunkCoordinator.Text.Blank

/-!
# The coordinator of a cluster

A `Cluster` is the whole state of the coordinator: the records, the queue of copy instructions,
the metrics, and whether anything has changed since it was last saved. Every operation is a
function from a cluster to a `Reply`: what the caller is told, and the cluster afterwards. The
time is an argument, and new identifiers come from the cluster's supply.

A replication sweep has three steps, between which other operations may run:
`Cluster.beginSweep` takes copies of the records, `Cluster.mergeSweep` puts the new instructions
into the queue, and `Cluster.recordSweep` adds the targets to the chunks and drops the
instructions whose chunk or target has gone in the meantime. `Cluster.sweepOver` runs them in one
go over given records, `Cluster.sweep` over those that the cluster has.
-/

namespace ChunkCoordinator

/-- The state of the coordinator. `dirty` means changed since the last save. -/
structure Cluster where
  settings : Settings
  store : Store
  queue : Queue
  metrics : Metrics
  dirty : Bool
  ids : IdSupply

/-- The saved state of a coordinator. Instructions are not saved; the first sweep after a restart
issues them anew. -/
structure Snapshot where
  version : UInt32
  savedAt : UInt64
  nodes : List Node
  files : List FileRecord
  chunks : List ChunkRecord
  deriving DecidableEq

/-- The version of snapshots that are written, and the only one that is read. -/
def Snapshot.currentVersion : UInt32 := 1

/-- What a caller is told, and the cluster afterwards. -/
structure Reply (α : Type) where
  result : Except Fault α
  cluster : Cluster

namespace Cluster

/-- A coordinator without records. -/
def fresh (settings : Settings) (ids : IdSupply) : Cluster :=
  { settings, store := .empty, queue := .empty, metrics := .fresh, dirty := false, ids }

/-! ## Replies -/

/-- Answers a request. -/
def answer {α : Type} (c : Cluster) (value : α) : Reply α := ⟨.ok value, c⟩

/-- Refuses a request. -/
def refuse {α : Type} (c : Cluster) (why : ServiceError) : Reply α := ⟨.error (.refused why), c⟩

/-- Gives up because a number is too large. -/
def overflow {α : Type} (c : Cluster) : Reply α := ⟨.error .overflow, c⟩

/-- Notes that the state has changed since the last save. -/
def markDirty (c : Cluster) : Cluster := { c with dirty := true }

/-- Notes that nodes came to have a health. -/
def noteTransitions (c : Cluster) (health : Health) (n : Nat) : Cluster :=
  { c with metrics := c.metrics.countTransitions health n, dirty := true }

/-- Replaces the registry. -/
def withRegistry (c : Cluster) (registry : Registry) : Cluster :=
  { c with store := { c.store with registry } }

/-! ## Reading -/

/-- Every node record, by name. -/
def listNodes (c : Cluster) : List Node := c.store.registry.all

/-- How many copies of a chunk are on healthy nodes. -/
def healthyReplicas (c : Cluster) (chunk : ChunkRecord) : Nat :=
  (chunk.replicasIn c.store.registry.isHealthy).length

/-- Every file, with the number of its chunks that have too few healthy copies. -/
def listFiles (c : Cluster) : List FileSummary :=
  c.store.catalog.listing.map fun (file, chunks) =>
    { file := file.id, name := file.name, size := file.size, chunkSize := file.chunkSize,
      totalChunks := file.totalChunks, replication := file.replication,
      underReplicated := chunks.countP fun chunk => c.healthyReplicas chunk < chunk.desired.toNat }

/-- Where the copies of a chunk are. -/
def chunkReplicas (c : Cluster) (chunk : ChunkRecord) : ChunkReplicas :=
  let replicas := c.store.registry.endpoints chunk.replicas.keys
  { chunk := chunk.id, index := chunk.index, size := chunk.size, desired := chunk.desired,
    healthyReplicas := replicas.countP fun e => e.health = .healthy, replicas }

/-- A file and where its chunks are. -/
def getFile (c : Cluster) (file : FileId) : Reply FileMetadata :=
  match c.store.catalog.file file with
  | .error why => c.refuse why
  | .ok (record, chunks) => c.answer ⟨record, chunks.map c.chunkReplicas⟩

/-- The pending instructions, and what the last sweep could not help. -/
def listRebalances (c : Cluster) : RebalanceListing :=
  ⟨c.queue.instructions, c.queue.unrecoverable.keys, c.queue.lastSweep⟩

/-- The counters of the cluster; there are none if a total is not a word. -/
def currentStatus? (c : Cluster) : Option ClusterStatus :=
  c.store.registry.summary?.map fun s =>
    { totalNodes := s.total, healthyNodes := s.healthy, unhealthyNodes := s.unhealthy,
      removedNodes := s.removed, capacity := s.capacity, free := s.free,
      files := c.store.catalog.counts.1, chunks := c.store.catalog.counts.2,
      pendingRebalances := c.queue.pending.size,
      unrecoverableChunks := c.queue.unrecoverable.size,
      replication := c.settings.replication }

/-- Computes the counters of the cluster and lets the gauges show them. -/
def status (c : Cluster) : Reply ClusterStatus :=
  match c.currentStatus? with
  | none => c.overflow
  | some status => { c with metrics := c.metrics.observe status }.answer status

/-! ## Nodes -/

/-- Registers a node. -/
def register (c : Cluster) (request : RegisterRequest) (now : UInt64) : Reply Node :=
  if Text.blank request.node then c.refuse (.invalidRequest "node_id must not be empty")
  else if Text.blank request.host then c.refuse (.invalidRequest "host must not be empty")
  else
    match c.store.registry.register request.node request.host request.port request.capacity now with
    | .error why => c.refuse why
    | .ok (node, registry) => (c.withRegistry registry).markDirty.answer node

/-- Takes a sign of life and hands out the instructions that wait for the node. -/
def heartbeat (c : Cluster) (node : NodeId) (free now : UInt64) : Reply HeartbeatResponse :=
  match c.store.registry.recordHeartbeat node free now with
  | .error why => c.refuse why
  | .ok (recovered, registry) =>
    let c := c.withRegistry registry
    let c := if recovered then c.noteTransitions .healthy 1 else c
    c.answer ⟨true, c.queue.instructionsFor node⟩

/-- Makes a node unhealthy on an operator's word. The answer tells whether it was not. -/
def failNode (c : Cluster) (node : NodeId) : Reply Bool :=
  match c.store.registry.markUnhealthy node with
  | .error why => c.refuse why
  | .ok (changed, registry) =>
    let c := c.withRegistry registry
    (if changed then c.noteTransitions .unhealthy 1 else c).answer changed

/-- Makes a node healthy on an operator's word. The answer tells whether it was not. -/
def restoreNode (c : Cluster) (node : NodeId) (now : UInt64) : Reply Bool :=
  match c.store.registry.reinstate node now with
  | .error why => c.refuse why
  | .ok (changed, registry) =>
    let c := c.withRegistry registry
    (if changed then c.noteTransitions .healthy 1 else c).answer changed

/-- Takes a node out of service and drops its instructions. The answer is the number of chunks
that had a copy on it. -/
def removeNode (c : Cluster) (node : NodeId) (force : Bool) : Reply Nat :=
  match c.store.retireNode node force with
  | .error why => c.refuse why
  | .ok (stripped, store) =>
    let c := { c with store, queue := (c.queue.forgetTarget node).2 }
    (c.noteTransitions .removed 1).answer stripped

/-- Makes every node unhealthy that has not been heard of for too long, and names them. -/
def sweepTimeouts (c : Cluster) (now : UInt64) : List NodeId × Cluster :=
  let (demoted, registry) := c.store.registry.demoteStale now c.settings.heartbeatTimeout
  let c := c.withRegistry registry
  (demoted, if demoted.isEmpty then c else c.noteTransitions .unhealthy demoted.length)

/-! ## Files and copies -/

/-- Where the chunks of a new file are to be written. -/
def placement (c : Cluster) (chunk : ChunkRecord) : ChunkPlacement :=
  ⟨chunk.id, chunk.index, chunk.size, c.store.registry.endpoints chunk.expected.keys⟩

/-- Plans an upload, not counting it. -/
def planUpload (c : Cluster) (request : UploadRequest) (now : UInt64) : Reply UploadPlan :=
  if Text.blank request.name then c.refuse (.invalidRequest "file name must not be empty")
  else
    let new : NewFile :=
      { name := request.name, size := request.size
        chunkSize := request.chunkSize.getD c.settings.chunkSize
        replication := request.replication.getD c.settings.replication }
    match c.store.tryCreateFile c.ids new now with
    | .error fault => ⟨.error fault, c⟩
    | .ok ((file, chunks), store, ids) =>
      let c := { c with store, ids }.markDirty
      c.answer ⟨file, chunks.map c.placement⟩

/-- Counts an upload plan by its outcome. One that is given up is not counted. -/
def countPlan (metrics : Metrics) : Except Fault UploadPlan → Metrics
  | .ok _ => metrics.countUploadPlan "ok"
  | .error (.refused why) => metrics.countUploadPlan why.code
  | .error .overflow => metrics

/-- Plans an upload: stores the file and its chunks and says where to write them. -/
def upload (c : Cluster) (request : UploadRequest) (now : UInt64) : Reply UploadPlan :=
  let reply := c.planUpload request now
  { reply with
    cluster := { reply.cluster with metrics := countPlan reply.cluster.metrics reply.result } }

/-- Confirms a copy. A node with a pending instruction for the chunk counts as asked, even if the
sweep that issued it has not yet recorded it. -/
def report (c : Cluster) (chunk : ChunkId) (node : NodeId) : Reply ReportResponse :=
  let store :=
    if c.queue.isPending chunk node then
      ((c.store.expect chunk [node]).map Prod.snd).getD c.store
    else c.store
  match store.report chunk node with
  | .error why => { c with store }.refuse why
  | .ok (outcome, store) =>
    let (acknowledged, queue) := c.queue.acknowledge chunk node
    let c := { c with store, queue }
    let c := if acknowledged then { c with metrics := c.metrics.countCompleted } else c
    let c := if outcome.added then c.markDirty else c
    c.answer ⟨outcome.added, outcome.replicaCount⟩

/-- Drops a file, its chunks and everything pending about them. -/
def deleteFile (c : Cluster) (file : FileId) : Reply DeletedFile :=
  match c.store.deleteFile file with
  | (.error fault, store) => ⟨.error fault, { c with store }⟩
  | (.ok deleted, store) =>
    { c with store, queue := c.queue.forgetChunks deleted.chunkIds }.markDirty.answer deleted

/-! ## Replication sweeps -/

/-- Begins a sweep over the given records. -/
def beginSweep (c : Cluster) (chunks : List ChunkRecord) (nodes : List Node) (now : UInt64) :
    Reply Survey :=
  match c.queue.begin chunks nodes now c.settings.instructionTtl with
  | .error why => c.refuse why
  | .ok (survey, queue) => { c with queue }.answer survey

/-- Merges what a sweep has found into the queue. -/
def mergeSweep (c : Cluster) (now : UInt64) (found : Findings) : SweepReport × Cluster :=
  let (report, queue) := c.queue.merge now found
  (report, { c with queue })

/-- The targets of new instructions by chunk, in the order of the instructions. -/
def targetsByChunk (emitted : List Instruction) : Table ChunkId (List NodeId) :=
  emitted.foldl (fun t i => t.insert i.chunk ((t.get? i.chunk).getD [] ++ [i.target])) .empty

/-- Chunks and nodes that were gone when a sweep came to record its instructions. -/
structure Vanished where
  chunks : List ChunkId
  targets : KeySet NodeId

/-- Adds the targets of one chunk to those it expects, noting what is gone. -/
def recordTargets (acc : Store × Vanished) (chunk : ChunkId) (targets : List NodeId) :
    Store × Vanished :=
  match acc.1.expect chunk targets with
  | none => (acc.1, { acc.2 with chunks := acc.2.chunks ++ [chunk] })
  | some (skipped, store) => (store, { acc.2 with targets := acc.2.targets.addAll skipped })

/-- Drops the instructions for chunks and targets that are gone. -/
def forgetVanished (queue : Queue) (gone : Vanished) : Queue :=
  gone.targets.keys.foldl (fun q t => (q.forgetTarget t).2) (queue.forgetChunks gone.chunks)

/-- Ends a sweep: adds the targets of the new instructions to the chunks, drops the instructions
whose chunk or target is gone, counts, and refreshes the status. -/
def recordSweep (c : Cluster) (report : SweepReport) : Reply SweepReport :=
  let (store, gone) :=
    (targetsByChunk report.emitted).toList.foldl (fun acc (chunk, targets) =>
      recordTargets acc chunk targets) (c.store, ⟨[], .empty⟩)
  let emitted := report.emitted.filter fun i =>
    i.chunk ∉ gone.chunks && !gone.targets.contains i.target
  let report := { report with emitted }
  let queue := if gone.chunks.isEmpty && gone.targets.isEmpty then c.queue
    else forgetVanished c.queue gone
  let c := { c with
    store, queue := queue.finish, metrics := c.metrics.countSweep report
    dirty := c.dirty || !emitted.isEmpty }
  match c.status with
  | ⟨.ok _, c⟩ => c.answer report
  | ⟨.error fault, c⟩ => ⟨.error fault, c⟩

/-- A whole sweep over the given records, which may be older than the cluster. -/
def sweepOver (c : Cluster) (chunks : List ChunkRecord) (nodes : List Node) (now : UInt64) :
    Reply SweepReport :=
  match c.beginSweep chunks nodes now with
  | ⟨.error fault, c⟩ => ⟨.error fault, c⟩
  | ⟨.ok survey, c⟩ =>
    let (report, c) := c.mergeSweep now survey.findings
    c.recordSweep report

/-- A whole sweep over the records of the cluster. -/
def sweep (c : Cluster) (now : UInt64) : Reply SweepReport :=
  c.sweepOver c.store.catalog.allChunks c.store.registry.all now

/-! ## Saving and restoring -/

/-- The state to be saved. -/
def exportSnapshot (c : Cluster) (now : UInt64) : Snapshot :=
  let (files, chunks) := c.store.catalog.exported
  { version := Snapshot.currentVersion, savedAt := now, nodes := c.store.registry.all, files, chunks }

/-- Replaces the records by saved ones. The nodes are replaced even if the files and chunks are
then found to contradict them. -/
def restoreSnapshot (c : Cluster) (snapshot : Snapshot) (now : UInt64) : Reply Unit :=
  let c := c.withRegistry (.restore snapshot.nodes now)
  match Catalog.restore c.store.registry snapshot.files snapshot.chunks with
  | .error what => c.refuse (.invariantViolation what.message)
  | .ok catalog =>
    match { c with store := { c.store with catalog } }.status with
    | ⟨.ok _, c⟩ => c.answer ()
    | ⟨.error fault, c⟩ => ⟨.error fault, c⟩

/-- Whether the state has changed since the last save; asking resets it. -/
def takeDirty (c : Cluster) : Bool × Cluster := (c.dirty, { c with dirty := false })

end Cluster

end ChunkCoordinator
