import ChunkCoordinator.Message

/-!
# Metrics

The counters and gauges that are exposed to a scraper. Gauges show the cluster status that was
computed last; counters grow where the event happens. `Metrics.text` is the exposition: for each
family a `HELP` and a `TYPE` line, then one line per sample.

Counters are natural numbers here. In a running coordinator they are 64-bit words, which would begin
anew after `2 ^ 64` events; no run comes to so many.
-/

namespace ChunkCoordinator

/-- How many nodes came to have each health by a change of health. -/
structure Transitions where
  toHealthy : Nat
  toUnhealthy : Nat
  toRemoved : Nat
  deriving DecidableEq

namespace Transitions

/-- The count of a health. -/
def count (t : Transitions) : Health → Nat
  | .healthy => t.toHealthy
  | .unhealthy => t.toUnhealthy
  | .removed => t.toRemoved

/-- Adds to the count of a health. -/
def add (t : Transitions) (n : Nat) : Health → Transitions
  | .healthy => { t with toHealthy := t.toHealthy + n }
  | .unhealthy => { t with toUnhealthy := t.toUnhealthy + n }
  | .removed => { t with toRemoved := t.toRemoved + n }

end Transitions

/-- The state of all metrics. `status` is the status that the gauges show. -/
structure Metrics where
  status : Option ClusterStatus
  emitted : Nat
  completed : Nat
  expired : Nat
  transitions : Transitions
  uploadPlans : Table String Nat
  deriving DecidableEq

namespace Metrics

/-- Nothing has happened yet. -/
def fresh : Metrics := ⟨none, 0, 0, 0, ⟨0, 0, 0⟩, .empty⟩

/-! ## Counting -/

/-- Counts changes of health. -/
def countTransitions (m : Metrics) (health : Health) (n : Nat) : Metrics :=
  { m with transitions := m.transitions.add n health }

/-- Counts an upload plan by its outcome. -/
def countUploadPlan (m : Metrics) (outcome : String) : Metrics :=
  { m with uploadPlans :=
      m.uploadPlans.insert outcome ((m.uploadPlans.get? outcome).getD 0 + 1) }

/-- Counts the instructions that a sweep issued and took from the queue. -/
def countSweep (m : Metrics) (report : SweepReport) : Metrics :=
  { m with
    emitted := m.emitted + report.emitted.length
    completed := m.completed + report.completed
    expired := m.expired + report.expired }

/-- Counts an instruction whose copy was reported. -/
def countCompleted (m : Metrics) : Metrics := { m with completed := m.completed + 1 }

/-- Lets the gauges show a status. -/
def observe (m : Metrics) (status : ClusterStatus) : Metrics := { m with status := some status }

/-! ## Exposition -/

/-- A metric with its samples, each of which may carry the value of a label. -/
structure Family where
  name : String
  help : String
  counter : Bool
  samples : List (Option (String × String) × Nat)

/-- Samples of counters are named for the total. -/
def Family.sampleName (f : Family) : String := if f.counter then f.name ++ "_total" else f.name

/-- The line of one sample. -/
def Family.sampleLine (f : Family) : Option (String × String) × Nat → String
  | (none, value) => s!"{f.sampleName} {value}"
  | (some (label, word), value) =>
    f.sampleName ++ "\x7b" ++ label ++ "=\"" ++ word ++ "\"\x7d " ++ toString value

/-- The lines of a family. -/
def Family.lines (f : Family) : List String :=
  let kind := if f.counter then "counter" else "gauge"
  s!"# HELP {f.name} {f.help}." :: s!"# TYPE {f.name} {kind}" :: f.samples.map f.sampleLine

/-- Gauges are signed words, so a size is shown up to the greatest of those. -/
def gaugeValue (size : UInt64) : Nat := min size.toNat 0x7FFFFFFFFFFFFFFF

/-- A gauge without label; it shows zero until a status has been computed. -/
def gauge (m : Metrics) (name help : String) (value : ClusterStatus → Nat) : Family :=
  ⟨name, help, false, [(none, (m.status.map value).getD 0)]⟩

/-- A counter without label. -/
def counter (name help : String) (value : Nat) : Family := ⟨name, help, true, [(none, value)]⟩

/-- The nodes by health; there is no sample until a status has been computed. -/
def nodeSamples (m : Metrics) : List (Option (String × String) × Nat) :=
  match m.status with
  | none => []
  | some s =>
    [(some ("health", "healthy"), s.healthyNodes), (some ("health", "removed"), s.removedNodes),
     (some ("health", "unhealthy"), s.unhealthyNodes)]

/-- The changes of health that have been counted. -/
def transitionSamples (m : Metrics) : List (Option (String × String) × Nat) :=
  [Health.healthy, .removed, .unhealthy].filterMap fun h =>
    if m.transitions.count h = 0 then none else some (some ("to", h.word), m.transitions.count h)

/-- Every family, in the order of the exposition. -/
def families (m : Metrics) : List Family :=
  [⟨"chunkvault_nodes", "Registered storage nodes by health", false, m.nodeSamples⟩,
   m.gauge "chunkvault_capacity_bytes" "Total capacity of non-removed nodes"
     fun s => gaugeValue s.capacity,
   m.gauge "chunkvault_free_bytes" "Free bytes across non-removed nodes"
     fun s => gaugeValue s.free,
   m.gauge "chunkvault_files" "Files known to the master" ClusterStatus.files,
   m.gauge "chunkvault_chunks" "Chunks known to the master" ClusterStatus.chunks,
   m.gauge "chunkvault_pending_rebalances" "Copy instructions waiting for completion"
     ClusterStatus.pendingRebalances,
   m.gauge "chunkvault_unrecoverable_chunks"
     "Chunks with no healthy replica as of the last sweep" ClusterStatus.unrecoverableChunks,
   counter "chunkvault_rebalances_emitted" "Copy instructions issued by the replication sweep"
     m.emitted,
   counter "chunkvault_rebalances_completed"
     "Copy instructions confirmed by a chunk report or found done by a sweep" m.completed,
   counter "chunkvault_rebalances_expired" "Copy instructions dropped before completion" m.expired,
   ⟨"chunkvault_node_health_transitions", "Node health changes by resulting state", true,
     m.transitionSamples⟩,
   ⟨"chunkvault_upload_plans", "Upload plan requests by outcome", true,
     m.uploadPlans.toList.map fun (outcome, n) => (some ("outcome", outcome), n)⟩]

/-- The lines of the exposition. -/
def lines (m : Metrics) : List String := m.families.flatMap Family.lines ++ ["# EOF"]

/-- The exposition. -/
def text (m : Metrics) : String := .join (m.lines.map (· ++ "\n"))

end Metrics

end ChunkCoordinator
