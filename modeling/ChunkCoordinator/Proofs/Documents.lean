import ChunkCoordinator.Host
import ChunkCoordinator.Proofs.Wire

/-!
# Everything that is written can be read

A `Document` is a kind of value that is written as JSON : a record, a request, an answer, a saved
state, or a list of such. Every value of every kind comes back from its text, in both layouts
(`Document.faithful_codec`), and a saved state comes back from its file if and only if it has the
version of this coordinator (`Document.read_written`).

Numbers of things are natural numbers here and words in a text, so they have to be words
(`Document.Countable`). All other numbers are words already.
-/

namespace ChunkCoordinator

/-- The kinds of values that are written as JSON. -/
inductive Document where
  | health
  | node
  | endpoint
  | file
  | chunk
  | instruction
  | registerRequest
  | heartbeatRequest
  | heartbeatResponse
  | uploadRequest
  | chunkPlacement
  | uploadPlan
  | reportRequest
  | reportResponse
  | chunkReplicas
  | fileMetadata
  | fileSummary
  | sweepReport
  | rebalanceListing
  | clusterStatus
  | ack
  | errorBody
  | healthStatus
  | snapshot
  | list (kind : Document)

namespace Document

/-- The values of a kind. -/
def Value : Document → Type
  | health => Health
  | node => Node
  | endpoint => Endpoint
  | file => FileRecord
  | chunk => ChunkRecord
  | instruction => Instruction
  | registerRequest => RegisterRequest
  | heartbeatRequest => HeartbeatRequest
  | heartbeatResponse => HeartbeatResponse
  | uploadRequest => UploadRequest
  | chunkPlacement => ChunkPlacement
  | uploadPlan => UploadPlan
  | reportRequest => ReportRequest
  | reportResponse => ReportResponse
  | chunkReplicas => ChunkReplicas
  | fileMetadata => FileMetadata
  | fileSummary => FileSummary
  | sweepReport => SweepReport
  | rebalanceListing => RebalanceListing
  | clusterStatus => ClusterStatus
  | ack => Ack
  | errorBody => ErrorBody
  | healthStatus => HealthStatus
  | snapshot => Snapshot
  | list kind => List kind.Value

/-- How they are written and read. -/
def codec : (kind : Document) → Codec kind.Value
  | health => Health.codec
  | node => Node.codec
  | endpoint => Endpoint.codec
  | file => FileRecord.codec
  | chunk => ChunkRecord.codec
  | instruction => Instruction.codec
  | registerRequest => RegisterRequest.codec
  | heartbeatRequest => HeartbeatRequest.codec
  | heartbeatResponse => HeartbeatResponse.codec
  | uploadRequest => UploadRequest.codec
  | chunkPlacement => ChunkPlacement.codec
  | uploadPlan => UploadPlan.codec
  | reportRequest => ReportRequest.codec
  | reportResponse => ReportResponse.codec
  | chunkReplicas => ChunkReplicas.codec
  | fileMetadata => FileMetadata.codec
  | fileSummary => FileSummary.codec
  | sweepReport => SweepReport.codec
  | rebalanceListing => RebalanceListing.codec
  | clusterStatus => ClusterStatus.codec
  | ack => Ack.codec
  | errorBody => ErrorBody.codec
  | healthStatus => HealthStatus.codec
  | snapshot => Snapshot.codec
  | list kind => kind.codec.list

/-- The numbers of things in a value are words. -/
def Countable : (kind : Document) → kind.Value → Prop
  | reportResponse, value => value.replicaCount < UInt64.size
  | chunkReplicas, value => value.healthyReplicas < UInt64.size
  | fileMetadata, value => ∀ r ∈ value.chunks, r.healthyReplicas < UInt64.size
  | fileSummary, value => value.underReplicated < UInt64.size
  | sweepReport, value => value.Countable
  | clusterStatus, value => value.Countable
  | list kind, values => ∀ v ∈ show List kind.Value from values, kind.Countable v
  | _, _ => True

/-- Values are read back as they are written. -/
theorem faithful_codec : ∀ (kind : Document) (value : kind.Value), kind.Countable value →
    kind.codec.Faithful value
  | health, h, _ => h.faithful_codec
  | node, n, _ => n.faithful_codec
  | endpoint, e, _ => e.faithful_codec
  | file, f, _ => f.faithful_codec
  | chunk, c, _ => c.faithful_codec
  | instruction, i, _ => i.faithful_codec
  | registerRequest, r, _ => r.faithful_codec
  | heartbeatRequest, r, _ => r.faithful_codec
  | heartbeatResponse, r, _ => r.faithful_codec
  | uploadRequest, r, _ => r.faithful_codec
  | chunkPlacement, p, _ => p.faithful_codec
  | uploadPlan, p, _ => p.faithful_codec
  | reportRequest, r, _ => r.faithful_codec
  | reportResponse, _, h => ReportResponse.faithful_codec h
  | chunkReplicas, _, h => ChunkReplicas.faithful_codec h
  | fileMetadata, _, h => FileMetadata.faithful_codec h
  | fileSummary, _, h => FileSummary.faithful_codec h
  | sweepReport, _, h => SweepReport.faithful_codec h
  | rebalanceListing, l, _ => l.faithful_codec
  | clusterStatus, _, h => ClusterStatus.faithful_codec h
  | ack, a, _ => a.faithful_codec
  | errorBody, e, _ => e.faithful_codec
  | healthStatus, h, _ => h.faithful_codec
  | snapshot, s, _ => s.faithful_codec
  | list kind, _, h => .list fun v hv => kind.faithful_codec v (h v hv)

end Document

/-! ## Saved states -/

/-- What the file of a saved state is read as. -/
theorem Snapshot.ofText_toText (path : String) (s : Snapshot) : ofText path s.toText =
    if s.version = currentVersion then .ok s else .error (.unsupported s.version path) := by
  have hread : codec.parse? s.toText = some s := congrArg Except.toOption s.faithful_codec.read_pretty
  rw [ofText, hread]

/-- A host that can write its file writes what it would save. -/
theorem Host.persist_eq {h : Host} (hdisk : h.disk ≠ .blocked) (now : UInt64) :
    h.persist now = (some (h.cluster.exportSnapshot now).toText,
      { h with disk := .file (h.cluster.exportSnapshot now).toText }) := by
  rw [persist]
  split
  · next heq => exact absurd heq hdisk
  · rfl

/-! ## All together -/

namespace Document

/-- Every value comes back from its text, with and without space. A saved state comes back from its
file if it has the version of this coordinator, and is refused if it has another. What a host has
written has this version. -/
theorem read_written :
    (∀ (kind : Document) (value : kind.Value), kind.Countable value →
      kind.codec.read (.ofString (kind.codec.text value)) = .ok value ∧
        kind.codec.read (.ofString (kind.codec.pretty value)) = .ok value) ∧
    (∀ (path : String) (s : Snapshot), Snapshot.ofText path s.toText =
      if s.version = Snapshot.currentVersion then .ok s
      else .error (.unsupported s.version path)) ∧
    ∀ (h : Host) (now : UInt64), h.disk ≠ .blocked → ∃ text,
      h.persist now = (some text, { h with disk := .file text }) ∧
        ∀ path, Snapshot.ofText path text = .ok (h.cluster.exportSnapshot now) := by
  refine ⟨fun kind value hvalue => ?_, Snapshot.ofText_toText, fun h now hdisk => ?_⟩
  · have hfaithful := kind.faithful_codec value hvalue
    exact ⟨hfaithful.read_text, hfaithful.read_pretty⟩
  · refine ⟨_, Host.persist_eq hdisk now, fun path => ?_⟩
    rw [Snapshot.ofText_toText]
    exact if_pos rfl

/-- A report with numbers as great as can be, in which a node has a name that has to be escaped. -/
def oddReport : SweepReport where
  startedAt := .greatest
  emitted := [⟨⟨1⟩, ⟨2⟩, 0, .greatest, none, "\"\\\n\u0000\u007f\u2028𝄞", 7⟩]
  unrecoverable := [⟨1⟩]
  completed := 0
  expired := 2 ^ 64 - 1
  shortOfTargets := 1

theorem read_written_oddReport :
    (list sweepReport).Countable [oddReport, oddReport] ∧
      (list sweepReport).codec.read (.ofString ((list sweepReport).codec.text
        [oddReport, oddReport])) = .ok [oddReport, oddReport] := by
  have hreport : oddReport.Countable := ⟨by decide, by decide, by decide⟩
  have hcountable : (list sweepReport).Countable [oddReport, oddReport] :=
    List.forall_mem_cons.2 ⟨hreport, List.forall_mem_singleton.2 hreport⟩
  exact ⟨hcountable, (read_written.1 _ _ hcountable).1⟩

end Document

end ChunkCoordinator
