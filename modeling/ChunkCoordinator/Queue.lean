import ChunkCoordinator.ServiceError
import ChunkCoordinator.Sweep

/-!
# The queue of copy instructions

A `Queue` holds the pending instructions, one per chunk and target, the chunks that the last
sweep found without a healthy copy, and when that was. An instruction leaves the queue when its
copy is reported (`Queue.acknowledge`), when its chunk or target is forgotten, or when a sweep
finds it completed or expired.

A sweep takes the queue twice: to copy it (`Queue.begin`) and to merge what it found
(`Queue.merge`). Between the two the queue may change; no other sweep can begin.
-/

namespace ChunkCoordinator

/-- The pending instructions and what the last sweep left behind. -/
structure Queue where
  pending : Table CopyKey Instruction
  unrecoverable : KeySet ChunkId
  lastSweep : Option UInt64
  sweeping : Bool
  deriving DecidableEq

namespace Queue

/-- The queue without instructions. -/
def empty : Queue := ⟨.empty, .empty, none, false⟩

instance : Inhabited Queue := ⟨empty⟩

/-! ## Reading -/

/-- The pending instructions, by chunk and target. -/
def instructions (q : Queue) : List Instruction := q.pending.values

/-- The pending instructions for a target. -/
def instructionsFor (q : Queue) (target : NodeId) : List Instruction :=
  q.instructions.filter fun i => i.target = target

/-- A copy of the chunk to the target is pending. -/
def isPending (q : Queue) (chunk : ChunkId) (target : NodeId) : Bool :=
  q.pending.contains ⟨chunk, target⟩

/-! ## Removing instructions -/

/-- Takes an instruction out because its copy is there. The answer tells whether there was one. -/
def acknowledge (q : Queue) (chunk : ChunkId) (target : NodeId) : Bool × Queue :=
  (q.isPending chunk target, { q with pending := q.pending.erase ⟨chunk, target⟩ })

/-- Drops everything about some chunks. -/
def forgetChunks (q : Queue) (chunks : List ChunkId) : Queue :=
  { q with
    pending := q.pending.filter fun key _ => key.chunk ∉ chunks
    unrecoverable := q.unrecoverable.filter fun chunk _ => chunk ∉ chunks }

/-- Drops the instructions for a target. The answer is their number. -/
def forgetTarget (q : Queue) (target : NodeId) : Nat × Queue :=
  let pending := q.pending.filter fun key _ => key.target ≠ target
  (q.pending.size - pending.size, { q with pending })

/-! ## Sweeps -/

/-- Begins a sweep over the given records. Only one may be running. -/
def begin (q : Queue) (chunks : List ChunkRecord) (nodes : List Node) (now ttl : UInt64) :
    Except ServiceError (Survey × Queue) :=
  if q.sweeping then .error .sweepInProgress
  else .ok (.ofRecords chunks nodes q.pending now ttl, { q with sweeping := true })

/-- Takes the instructions at some keys out, counting those that are still there. -/
def drop (count : Nat) (pending : Table CopyKey Instruction) :
    List CopyKey → Nat × Table CopyKey Instruction
  | [] => (count, pending)
  | key :: keys => drop (count + if pending.contains key then 1 else 0) (pending.erase key) keys

/-- Puts new instructions in, except where one is pending already. The answer lists those that
were put in, after the ones in `issued`. -/
def issue (issued : List Instruction) (pending : Table CopyKey Instruction) :
    List Instruction → List Instruction × Table CopyKey Instruction
  | [] => (issued, pending)
  | i :: rest =>
    if pending.contains i.key then issue issued pending rest
    else issue (issued ++ [i]) (pending.insert i.key i) rest

/-- Merges what a sweep has found into the queue as it is by then. Instructions that have left the
queue in the meantime are not counted. -/
def merge (q : Queue) (now : UInt64) (found : Findings) : SweepReport × Queue :=
  let (completed, pending) := drop 0 q.pending found.completed
  let (expired, pending) := drop 0 pending found.expired
  let (emitted, pending) := issue [] pending found.emitted
  ({ startedAt := now, emitted, unrecoverable := found.unrecoverable, completed, expired,
     shortOfTargets := found.shortOfTargets },
   { q with pending, unrecoverable := .ofKeys found.unrecoverable, lastSweep := some now })

/-- Ends a sweep, so that another one can begin. -/
def finish (q : Queue) : Queue := { q with sweeping := false }

/-- A whole sweep during which the queue does not change. -/
def sweep (q : Queue) (chunks : List ChunkRecord) (nodes : List Node) (now ttl : UInt64) :
    Except ServiceError (SweepReport × Queue) :=
  (q.begin chunks nodes now ttl).map fun (survey, q) =>
    let (report, q) := q.merge now survey.findings
    (report, q.finish)

end Queue

end ChunkCoordinator
