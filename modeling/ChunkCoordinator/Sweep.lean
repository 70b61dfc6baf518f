import ChunkCoordinator.Instruction
import ChunkCoordinator.Placement

/-!
# Replication sweeps

A sweep compares, for every chunk, the copies that it should have with the copies on healthy
nodes, and orders the missing ones. It works on a `Survey`: the records of chunks and healthy
nodes, a copy of the pending instructions, the time, and how long an instruction stays good. It
changes none of them: its `Findings` say which pending instructions are done or past use, which new
ones to issue, and which chunks have no healthy copy left.

* `Survey.verdict` sorts the pending instructions.
* `Survey.visit` handles one chunk, `Survey.findings` all of them in the order of their age.

Copies that are under way count as copies: those of good pending instructions, and those that a
fresh upload is still writing.
-/

namespace ChunkCoordinator

/-- What a sweep looks at. Records may be older than the sweep. -/
structure Survey where
  chunks : List ChunkRecord
  chunksById : Table ChunkId ChunkRecord
  healthy : Table NodeId Node
  pending : Table CopyKey Instruction
  now : UInt64
  ttl : UInt64

/-- What becomes of a pending instruction: the copy is there, it may still come, or it is no
longer waited for. -/
inductive Verdict where
  | completed
  | inFlight
  | expired
  deriving DecidableEq

/-- What a sweep has found out. -/
structure Findings where
  completed : List CopyKey
  expired : List CopyKey
  emitted : List Instruction
  unrecoverable : List ChunkId
  shortOfTargets : Nat
  deriving DecidableEq

/-- A sweep under way: the nodes with the space that is not yet given away, the copies in flight
that no chunk has claimed yet, and the findings so far. -/
structure Progress where
  room : List Node
  inFlight : List CopyKey
  emitted : List Instruction
  unrecoverable : List ChunkId
  shortOfTargets : Nat

namespace Survey

/-- The survey of chunk and node records, in which ids may repeat: a look-up by id finds the last
record of the id, and of nodes the last healthy one. -/
def ofRecords (chunks : List ChunkRecord) (nodes : List Node) (pending : Table CopyKey Instruction)
    (now ttl : UInt64) : Survey where
  chunks
  chunksById := .ofList (chunks.map fun c => (c.id, c))
  healthy := .ofList ((nodes.filter Node.isHealthy).map fun n => (n.id, n))
  pending
  now
  ttl

/-- A time is recent if the life of an instruction issued then is not over. -/
def recent (s : Survey) (time : UInt64) : Bool := s.now.satSub time < s.ttl

/-- What becomes of a pending instruction. -/
def verdict (s : Survey) (key : CopyKey) (i : Instruction) : Verdict :=
  match s.chunksById.get? key.chunk with
  | none => .expired
  | some c =>
    if c.replicas.contains key.target then .completed
    else if s.recent i.issuedAt && s.healthy.contains key.target then .inFlight
    else .expired

/-- The pending instructions with a given verdict. -/
def withVerdict (s : Survey) (v : Verdict) : List CopyKey :=
  (s.pending.toList.filter fun (key, i) => s.verdict key i = v).map Prod.fst

/-- The healthy nodes that hold a copy of a chunk. -/
def holders (s : Survey) (c : ChunkRecord) : List Node :=
  c.replicas.keys.filterMap s.healthy.get?

/-- The holder with more free space, or of two with the same the one with the smaller name. -/
def roomier (a b : Node) : Node :=
  if a.free < b.free ∨ (a.free = b.free ∧ compare b.id a.id = .lt) then b else a

/-- The node to copy from: the holder with the most free space. -/
def source? : List Node → Option NodeId
  | [] => none
  | n :: ns => some (ns.foldl roomier n).id

/-- The chunk is so new that its upload may still be going on. -/
def uploading (s : Survey) (c : ChunkRecord) : Bool := s.recent c.createdAt

/-- The nodes that a fresh upload is still writing to. -/
def uploadTargets (s : Survey) (c : ChunkRecord) : List NodeId :=
  if s.uploading c then
    c.expected.keys.filter fun n => !c.replicas.contains n && s.healthy.contains n
  else []

/-- Handles one chunk. -/
def visit (s : Survey) (p : Progress) (c : ChunkRecord) : Progress :=
  let holders := s.holders c
  if c.desired.toNat ≤ holders.length then p
  else
    let (claimed, inFlight) := p.inFlight.partition fun key => key.chunk = c.id
    let underWay : KeySet NodeId :=
      (Table.ofKeys (claimed.map CopyKey.target)).addAll (s.uploadTargets c)
    let source := source? holders
    let unrecoverable :=
      if source.isNone && !(s.uploading c && c.isProvisional) then p.unrecoverable ++ [c.id]
      else p.unrecoverable
    let needed := c.desired.toNat - holders.length - underWay.size
    let p := { p with inFlight, unrecoverable }
    if needed = 0 then p
    else
      let exclude := c.replicas.addAll underWay.keys
      let targets := Placement.chooseTargets p.room needed exclude c.size
      { p with
        room := Placement.debit p.room targets c.size
        emitted := p.emitted ++ targets.map fun target =>
          { chunk := c.id, file := c.file, chunkIndex := c.index, size := c.size, source, target,
            issuedAt := s.now }
        shortOfTargets := p.shortOfTargets + if targets.length < needed then 1 else 0 }

/-- Before the first chunk. -/
def start (s : Survey) : Progress where
  room := s.healthy.values
  inFlight := s.withVerdict .inFlight
  emitted := []
  unrecoverable := []
  shortOfTargets := 0

/-- After the last chunk. -/
def finish (s : Survey) : Progress := (sortedBy ChunkRecord.leByAge s.chunks).foldl s.visit s.start

/-- What the sweep finds out. -/
def findings (s : Survey) : Findings :=
  let p := s.finish
  { completed := s.withVerdict .completed
    expired := s.withVerdict .expired
    emitted := p.emitted
    unrecoverable := p.unrecoverable
    shortOfTargets := p.shortOfTargets }

end Survey

end ChunkCoordinator
