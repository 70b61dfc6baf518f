import ChunkCoordinator.Node
import ChunkCoordinator.Uuid

/-!
# Reasons for refusing a request

`ServiceError` lists them, `ServiceError.code` is the stable word that callers see,
`ServiceError.status` the status that the answer carries and `ServiceError.message` the
explanation. A `Fault` is either such a reason or an overflow: a total that is no 64-bit word, or a
list with more entries than a list can have.
-/

namespace ChunkCoordinator

/-- Why a request is refused. -/
inductive ServiceError where
  | duplicateNode (node : NodeId)
  | unknownNode (node : NodeId)
  | nodeInUse (node : NodeId) (chunks : Nat)
  | insufficientCapacity (node : NodeId) (free requested : UInt64)
  | noCapacity (chunkIndex : UInt64)
  | insufficientReplicas (chunkIndex required : UInt64) (available : Nat)
  | unknownChunk (chunk : ChunkId)
  | unexpectedNode (chunk : ChunkId) (node : NodeId)
  | fileNotFound (file : FileId)
  | invalidRequest (why : String)
  | sweepInProgress
  | invariantViolation (what : String)
  | internal (what : String)
  deriving DecidableEq

namespace ServiceError

/-- The stable word for a reason. -/
def code : ServiceError → String
  | duplicateNode _ => "duplicate_node_id"
  | unknownNode _ => "unknown_node"
  | nodeInUse .. => "node_in_use"
  | insufficientCapacity .. => "insufficient_capacity"
  | noCapacity _ => "no_capacity"
  | insufficientReplicas .. => "insufficient_replicas"
  | unknownChunk _ => "unknown_chunk"
  | unexpectedNode .. => "unexpected_node"
  | fileNotFound _ => "file_not_found"
  | invalidRequest _ => "invalid_request"
  | sweepInProgress => "sweep_in_progress"
  | invariantViolation _ => "invariant_violation"
  | internal _ => "internal"

/-- The status of the answer. -/
def status : ServiceError → Nat
  | unknownNode _ | unknownChunk _ | fileNotFound _ => 404
  | duplicateNode _ | nodeInUse .. | unexpectedNode .. | sweepInProgress => 409
  | noCapacity _ | insufficientCapacity .. => 507
  | insufficientReplicas .. => 503
  | invalidRequest _ => 400
  | invariantViolation _ | internal _ => 500

/-- The explanation of a reason. -/
def message : ServiceError → String
  | duplicateNode node => s!"node {node} is already registered"
  | unknownNode node => s!"node {node} is not registered"
  | nodeInUse node chunks => s!"node {node} is still referenced by {chunks} chunk(s)"
  | insufficientCapacity node free requested =>
    s!"node {node} has {free.toNat} free bytes, cannot debit {requested.toNat}"
  | noCapacity index => s!"no healthy node can hold chunk {index.toNat}"
  | insufficientReplicas index required available =>
    s!"chunk {index.toNat} can only be placed on {available} of {required.toNat} required nodes"
  | unknownChunk chunk => s!"chunk {chunk.toText} does not exist"
  | unexpectedNode chunk node => s!"node {node} was not asked to store chunk {chunk.toText}"
  | fileNotFound file => s!"file {file.toText} does not exist"
  | invalidRequest why => s!"invalid request: {why}"
  | sweepInProgress => "a replication sweep is already running"
  | invariantViolation what => s!"metadata invariant violated: {what}"
  | internal what => s!"internal error: {what}"

end ServiceError

/-- Why an operation gives no answer: the request is refused, or a number that it comes to is too
large. -/
inductive Fault where
  | refused (why : ServiceError)
  | overflow
  deriving DecidableEq

end ChunkCoordinator
