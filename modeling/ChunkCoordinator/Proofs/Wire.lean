import ChunkCoordinator.Proofs.Codec
import ChunkCoordinator.Proofs.Table
import ChunkCoordinator.Wire

/-!
# Records and messages are read back as they are written

Every record and every message comes back from its text as it was, and so does a saved state. The
numbers of things that some answers hold have to be words (`Countable`); all other numbers are words
already.
-/

namespace ChunkCoordinator

open Codec (faithful_string faithful_word faithful_word16 faithful_word32 faithful_truth faithful_uuid
  faithful_named faithful_count faithful_optional)
open Fields (faithful_none)
open Fields.Faithful (need field record)

/-! ## Nodes -/

theorem Health.faithful_codec (h : Health) : Health.codec.Faithful h := by
  refine faithful_named ?_ fun a _ => ?_
  · cases h <;> decide
  · cases h <;> cases a <;> decide

theorem Node.faithful_codec (n : Node) : Node.codec.Faithful n :=
  record (need (faithful_string _) <| need (faithful_string _) <| need (faithful_word16 _) <|
    need (faithful_word _) <| need (faithful_word _) <| need (Health.faithful_codec _) <|
    need (faithful_word _) <| need (faithful_word _) faithful_none) rfl (by decide)

theorem Endpoint.faithful_codec (e : Endpoint) : Endpoint.codec.Faithful e :=
  record (need (faithful_string _) <| need (faithful_string _) <| need (faithful_word16 _) <|
    need (Health.faithful_codec _) faithful_none) rfl (by decide)

/-! ## Files and chunks -/

theorem faithful_nodeSet (s : KeySet NodeId) : nodeSet.Faithful s :=
  .convert (.list fun _ _ => faithful_string _) (Table.ofKeys_keys s)

theorem FileRecord.faithful_codec (f : FileRecord) : FileRecord.codec.Faithful f :=
  record (need (faithful_uuid _) <| need (faithful_string _) <| need (faithful_word _) <|
    need (faithful_word _) <| need (faithful_word _) <| need (faithful_word _) <|
    need (faithful_word _) faithful_none) rfl (by decide)

theorem ChunkRecord.faithful_codec (c : ChunkRecord) : ChunkRecord.codec.Faithful c :=
  record (need (faithful_uuid _) <| need (faithful_uuid _) <| need (faithful_word _) <|
    need (faithful_word _) <| need (faithful_word _) <| need (faithful_nodeSet _) <|
    need (faithful_nodeSet _) <| need (faithful_word _) faithful_none) rfl (by decide)

/-- A saved state is read back as it was saved. -/
theorem Snapshot.faithful_codec (s : Snapshot) : Snapshot.codec.Faithful s :=
  record (need (faithful_word32 _) <| need (faithful_word _) <|
    need (.list fun _ _ => Node.faithful_codec _) <|
    need (.list fun _ _ => FileRecord.faithful_codec _) <|
    need (.list fun _ _ => ChunkRecord.faithful_codec _) faithful_none) rfl (by decide)

/-! ## Instructions -/

theorem faithful_optional_string (s : Option String) : Codec.string.optional.Faithful s :=
  faithful_optional fun _ _ => ⟨faithful_string _, fun h => nomatch h⟩

theorem faithful_optional_word (n : Option UInt64) : Codec.word.optional.Faithful n :=
  faithful_optional fun _ _ => ⟨faithful_word _, fun h => nomatch h⟩

theorem Instruction.faithful_codec (i : Instruction) : Instruction.codec.Faithful i :=
  record (need (faithful_uuid _) <| need (faithful_uuid _) <| need (faithful_word _) <|
    need (faithful_word _) <| field _ (faithful_optional_string _) <| need (faithful_string _) <|
    need (faithful_word _) faithful_none) rfl (by decide)

/-- The numbers of things in a report are words. -/
structure SweepReport.Countable (r : SweepReport) : Prop where
  completed : r.completed < UInt64.size
  expired : r.expired < UInt64.size
  shortOfTargets : r.shortOfTargets < UInt64.size

theorem SweepReport.faithful_codec {r : SweepReport} (h : r.Countable) :
    SweepReport.codec.Faithful r :=
  record (need (faithful_word _) <| need (.list fun _ _ => Instruction.faithful_codec _) <|
    need (.list fun _ _ => faithful_uuid _) <| field _ (faithful_count h.completed) <|
    need (faithful_count h.expired) <| need (faithful_count h.shortOfTargets) faithful_none)
    rfl (by decide)

theorem RebalanceListing.faithful_codec (l : RebalanceListing) :
    RebalanceListing.codec.Faithful l :=
  record (need (.list fun _ _ => Instruction.faithful_codec _) <|
    need (.list fun _ _ => faithful_uuid _) <| field _ (faithful_optional_word _) faithful_none)
    rfl (by decide)

/-! ## Requests -/

theorem RegisterRequest.faithful_codec (r : RegisterRequest) : RegisterRequest.codec.Faithful r :=
  record (need (faithful_string _) <| need (faithful_string _) <| need (faithful_word16 _) <|
    need (faithful_word _) faithful_none) rfl (by decide)

theorem HeartbeatRequest.faithful_codec (r : HeartbeatRequest) :
    HeartbeatRequest.codec.Faithful r :=
  record (need (faithful_word _) faithful_none) rfl (by decide)

theorem UploadRequest.faithful_codec (r : UploadRequest) : UploadRequest.codec.Faithful r :=
  record (need (faithful_string _) <| need (faithful_word _) <|
    field _ (faithful_optional_word _) <| field _ (faithful_optional_word _) faithful_none)
    rfl (by decide)

theorem ReportRequest.faithful_codec (r : ReportRequest) : ReportRequest.codec.Faithful r :=
  record (need (faithful_string _) faithful_none) rfl (by decide)

/-! ## Answers -/

theorem HeartbeatResponse.faithful_codec (r : HeartbeatResponse) :
    HeartbeatResponse.codec.Faithful r :=
  record (need (faithful_truth _) <| need (.list fun _ _ => Instruction.faithful_codec _)
    faithful_none) rfl (by decide)

theorem ChunkPlacement.faithful_codec (p : ChunkPlacement) : ChunkPlacement.codec.Faithful p :=
  record (need (faithful_uuid _) <| need (faithful_word _) <| need (faithful_word _) <|
    need (.list fun _ _ => Endpoint.faithful_codec _) faithful_none) rfl (by decide)

theorem UploadPlan.faithful_codec (p : UploadPlan) : UploadPlan.codec.Faithful p :=
  record (need (FileRecord.faithful_codec _) <|
    need (.list fun _ _ => ChunkPlacement.faithful_codec _) faithful_none) rfl (by decide)

theorem ReportResponse.faithful_codec {r : ReportResponse} (h : r.replicaCount < UInt64.size) :
    ReportResponse.codec.Faithful r :=
  record (need (faithful_truth _) <| need (faithful_count h) faithful_none) rfl (by decide)

theorem ChunkReplicas.faithful_codec {r : ChunkReplicas} (h : r.healthyReplicas < UInt64.size) :
    ChunkReplicas.codec.Faithful r :=
  record (need (faithful_uuid _) <| need (faithful_word _) <| need (faithful_word _) <|
    need (faithful_word _) <| need (faithful_count h) <|
    need (.list fun _ _ => Endpoint.faithful_codec _) faithful_none) rfl (by decide)

theorem FileMetadata.faithful_codec {m : FileMetadata}
    (h : ∀ r ∈ m.chunks, r.healthyReplicas < UInt64.size) : FileMetadata.codec.Faithful m :=
  record (need (FileRecord.faithful_codec _) <|
    need (.list fun r hr => ChunkReplicas.faithful_codec (h r hr)) faithful_none) rfl (by decide)

theorem FileSummary.faithful_codec {s : FileSummary} (h : s.underReplicated < UInt64.size) :
    FileSummary.codec.Faithful s :=
  record (need (faithful_uuid _) <| need (faithful_string _) <| need (faithful_word _) <|
    need (faithful_word _) <| need (faithful_word _) <| need (faithful_word _) <|
    need (faithful_count h) faithful_none) rfl (by decide)

/-- The numbers of things in a status are words. -/
structure ClusterStatus.Countable (s : ClusterStatus) : Prop where
  totalNodes : s.totalNodes < UInt64.size
  healthyNodes : s.healthyNodes < UInt64.size
  unhealthyNodes : s.unhealthyNodes < UInt64.size
  removedNodes : s.removedNodes < UInt64.size
  files : s.files < UInt64.size
  chunks : s.chunks < UInt64.size
  pendingRebalances : s.pendingRebalances < UInt64.size
  unrecoverableChunks : s.unrecoverableChunks < UInt64.size

theorem ClusterStatus.faithful_codec {s : ClusterStatus} (h : s.Countable) :
    ClusterStatus.codec.Faithful s :=
  record (need (faithful_count h.totalNodes) <| need (faithful_count h.healthyNodes) <|
    need (faithful_count h.unhealthyNodes) <| need (faithful_count h.removedNodes) <|
    need (faithful_word _) <| need (faithful_word _) <| need (faithful_count h.files) <|
    need (faithful_count h.chunks) <| need (faithful_count h.pendingRebalances) <|
    need (faithful_count h.unrecoverableChunks) <| need (faithful_word _) faithful_none)
    rfl (by decide)

theorem Ack.faithful_codec (a : Ack) : Ack.codec.Faithful a :=
  record (need (faithful_truth _) faithful_none) rfl (by decide)

theorem ErrorBody.faithful_codec (e : ErrorBody) : ErrorBody.codec.Faithful e :=
  record (need (faithful_string _) <| need (faithful_string _) faithful_none) rfl (by decide)

theorem HealthStatus.faithful_codec (h : HealthStatus) : HealthStatus.codec.Faithful h :=
  record (need (faithful_string _) <| need (faithful_truth _) faithful_none) rfl (by decide)

end ChunkCoordinator
