import ChunkCoordinator.ServiceError
import ChunkCoordinator.Table

/-!
# The registry of nodes

A `Registry` holds the record of every node that was ever registered. Operations on a node that
is unknown or removed are refused with `ServiceError.unknownNode` and change nothing.

A node's health moves as follows: a heartbeat or an operator makes it healthy, a timeout
(`Registry.demoteStale`) or an operator makes it unhealthy, `Registry.remove` takes it out of
service, and only `Registry.register` brings a removed name back, with a fresh record.
-/

namespace ChunkCoordinator

/-- The records of all nodes, by name. -/
structure Registry where
  nodes : Table NodeId Node
  deriving DecidableEq

/-- Counts of nodes by health, and the totals over nodes that are not removed. -/
structure Registry.Summary where
  total : Nat
  healthy : Nat
  unhealthy : Nat
  removed : Nat
  capacity : UInt64
  free : UInt64
  deriving DecidableEq

namespace Registry

/-- The registry without nodes. -/
def empty : Registry := ⟨.empty⟩

instance : Inhabited Registry := ⟨empty⟩

/-! ## Reading -/

/-- The record of a node. -/
def get? (r : Registry) (id : NodeId) : Option Node := r.nodes.get? id

/-- The record of a node that is not removed. -/
def live? (r : Registry) (id : NodeId) : Option Node := (r.get? id).filter Node.isLive

/-- The node is registered and not removed. -/
def isLive (r : Registry) (id : NodeId) : Bool := (r.live? id).isSome

/-- The record of a node that is not removed, or the refusal. -/
def live (r : Registry) (id : NodeId) : Except ServiceError Node :=
  match r.live? id with
  | some node => .ok node
  | none => .error (.unknownNode id)

/-- Every record, by name. -/
def all (r : Registry) : List Node := r.nodes.values

/-- The healthy nodes, by name. -/
def healthyNodes (r : Registry) : List Node := r.all.filter Node.isHealthy

/-- The node is healthy. -/
def isHealthy (r : Registry) (id : NodeId) : Bool := (r.get? id).any Node.isHealthy

/-- Where the nodes of a list listen; names without a record are passed over. -/
def endpoints (r : Registry) (ids : List NodeId) : List Endpoint :=
  ids.filterMap fun id => (r.get? id).map Node.endpoint

/-- How many nodes have a given health. -/
def count (r : Registry) (h : Health) : Nat := r.all.countP fun n => n.health = h

/-- The sum of a size over nodes, if it is a word. -/
def total? (size : Node → UInt64) (nodes : List Node) : Option UInt64 :=
  nodes.foldlM (fun sum n => sum.add? (size n)) 0

/-- The counts and totals; there are none if a total is not a word. -/
def summary? (r : Registry) : Option Summary := do
  let inService := r.all.filter Node.isLive
  let capacity ← total? Node.capacity inService
  let free ← total? Node.free inService
  pure {
    total := r.all.length
    healthy := r.count .healthy
    unhealthy := r.count .unhealthy
    removed := r.count .removed
    capacity, free }

/-! ## Changing -/

/-- Puts a record at a name. -/
def set (r : Registry) (id : NodeId) (node : Node) : Registry := ⟨r.nodes.insert id node⟩

/-- Adds a node with all its space free. A name in use is refused. -/
def register (r : Registry) (id : NodeId) (host : String) (port : UInt16) (capacity now : UInt64) :
    Except ServiceError (Node × Registry) :=
  if r.isLive id then .error (.duplicateNode id)
  else
    let node : Node :=
      { id, host, port, capacity, free := capacity, health := .healthy,
        lastHeartbeat := now, registeredAt := now }
    .ok (node, r.set id node)

/-- Gives a node a health. The answer tells whether it had another one before. -/
def setHealth (r : Registry) (id : NodeId) (h : Health) : Except ServiceError (Bool × Registry) :=
  (r.live id).map fun node => (node.health ≠ h, r.set id { node with health := h })

/-- Makes a node healthy. The answer tells whether it was not. -/
def markHealthy (r : Registry) (id : NodeId) : Except ServiceError (Bool × Registry) :=
  r.setHealth id .healthy

/-- Makes a node unhealthy. The answer tells whether it was not. -/
def markUnhealthy (r : Registry) (id : NodeId) : Except ServiceError (Bool × Registry) :=
  r.setHealth id .unhealthy

/-- Notes a sign of life: the time, the free space that the node reports (at most its capacity)
and that it is healthy. The answer tells whether it had to recover. -/
def recordHeartbeat (r : Registry) (id : NodeId) (free now : UInt64) :
    Except ServiceError (Bool × Registry) :=
  (r.live id).map fun node =>
    (!node.isHealthy,
      r.set id
        { node with lastHeartbeat := now, free := min free node.capacity, health := .healthy })

/-- Notes the time of a sign of life and nothing else. -/
def touch (r : Registry) (id : NodeId) (now : UInt64) : Except ServiceError Registry :=
  (r.live id).map fun node => r.set id { node with lastHeartbeat := now }

/-- Makes a node healthy on an operator's word and lets its deadline start anew. The answer tells
whether it was not healthy. -/
def reinstate (r : Registry) (id : NodeId) (now : UInt64) : Except ServiceError (Bool × Registry) :=
  do (← r.touch id now).markHealthy id

/-- A healthy node has not been heard of for longer than the timeout. -/
def isStale (now timeout : UInt64) (node : Node) : Bool :=
  node.isHealthy && timeout < now.satSub node.lastHeartbeat

/-- Makes every stale node unhealthy and names them. -/
def demoteStale (r : Registry) (now timeout : UInt64) : List NodeId × Registry :=
  ((r.all.filter (isStale now timeout)).map Node.id,
    ⟨r.nodes.map fun n => if isStale now timeout n then { n with health := .unhealthy } else n⟩)

/-- Takes a node out of service. One that `references` chunks still count on is kept, unless
forced. -/
def remove (r : Registry) (id : NodeId) (force : Bool) (references : Nat) :
    Except ServiceError Registry := do
  let node ← r.live id
  if 0 < references ∧ !force then throw (.nodeInUse id references)
  pure (r.set id { node with health := .removed })

/-- Gives space back to a node, up to its capacity. The answer is the space free afterwards. -/
def credit (r : Registry) (id : NodeId) (amount : UInt64) :
    Except ServiceError (UInt64 × Registry) :=
  (r.live id).map fun node =>
    let free := min (node.free.satAdd amount) node.capacity
    (free, r.set id { node with free })

/-- Takes space away from a node, which must have it. The answer is the space left. Taking nothing
is the same as giving nothing back: a record that claims more free space than the capacity is
brought down to it. -/
def debit (r : Registry) (id : NodeId) (amount : UInt64) :
    Except ServiceError (UInt64 × Registry) :=
  if amount = 0 then r.credit id 0
  else do
    let node ← r.live id
    if node.free < amount then throw (.insufficientCapacity id node.free amount)
    let free := node.free - amount
    pure (free, r.set id { node with free })

/-- Books a signed amount: a negative one is a debit, any other one a credit. -/
def adjustFree (r : Registry) (id : NodeId) (delta : Int64) :
    Except ServiceError (UInt64 × Registry) :=
  if delta.toInt < 0 then r.debit id (.ofNat delta.toInt.natAbs)
  else r.credit id (.ofNat delta.toInt.toNat)

/-- The registry of a list of saved records. The deadlines of healthy nodes start anew, so that a
restart demotes nobody at once. Of two records of one name the later one counts. -/
def restore (records : List Node) (now : UInt64) : Registry :=
  ⟨.ofList <| records.map fun n =>
    (n.id, if n.isHealthy then { n with lastHeartbeat := now } else n)⟩

end Registry

end ChunkCoordinator
