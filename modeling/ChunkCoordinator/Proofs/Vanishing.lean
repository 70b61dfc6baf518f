import ChunkCoordinator.Proofs.Run

/-!
# What a sweep drops in the end

A sweep that worked on old records may have ordered copies of chunks that are no longer stored
(`Store.chunkGone`), or copies to nodes that are no longer in service (`Store.targetGone`). It finds
out when it records its instructions, and then drops everything that is pending for such a chunk or
node, not only what it has just ordered, and takes the chunk off the list of those that are beyond
help (`Cluster.queue_recordSweep`). It counts and reports what is left of its own instructions.
`Cluster.orders` and `Cluster.issued` are the instructions before and after that, and
`Cluster.pending_sweepOver` says what a whole sweep makes of the pending ones.
-/

set_option linter.unusedSectionVars false

namespace ChunkCoordinator

/-! ## What is gone -/

namespace Store

/-- There is an instruction for the chunk, which is not stored. -/
def chunkGone (s : Store) (orders : List Instruction) (id : ChunkId) : Bool :=
  (s.chunk? id).isNone && orders.any fun i => i.chunk = id

/-- There is an instruction to copy a stored chunk to the node, which is not in service. -/
def targetGone (s : Store) (orders : List Instruction) (t : NodeId) : Bool :=
  !s.registry.isLive t && orders.any fun i => i.target = t && (s.chunk? i.chunk).isSome

variable {s s' : Store} {orders : List Instruction}

theorem Expecting.isSome_chunk? (h : Expecting s s') (id : ChunkId) :
    (s'.chunk? id).isSome = (s.chunk? id).isSome := by
  obtain ⟨nodes, -, heq⟩ := h.chunk?_eq id
  rw [heq, Option.isSome_map]

/-- The chunk of the instruction is stored and the target in service. -/
def stands (s : Store) (i : Instruction) : Bool :=
  (s.chunk? i.chunk).isSome && s.registry.isLive i.target

theorem chunkGone_iff {id : ChunkId} :
    s.chunkGone orders id ↔ (s.chunk? id).isSome = false ∧ ∃ i ∈ orders, i.chunk = id := by
  simp [chunkGone]

theorem targetGone_iff {t : NodeId} : s.targetGone orders t ↔
    s.registry.isLive t = false ∧ ∃ i ∈ orders, i.target = t ∧ (s.chunk? i.chunk).isSome := by
  simp [targetGone]

/-- An instruction is dropped together with others only if it does not stand. -/
theorem stands_iff {i : Instruction} (hi : i ∈ orders) :
    s.stands i ↔ s.chunkGone orders i.chunk = false ∧ s.targetGone orders i.target = false := by
  rw [stands, Bool.and_eq_true, ← Bool.not_eq_true (s.chunkGone _ _), chunkGone_iff,
    ← Bool.not_eq_true (s.targetGone _ _), targetGone_iff]
  constructor
  · rintro ⟨hstored, hlive⟩
    rw [hstored, hlive]
    exact ⟨fun h => Bool.false_ne_true h.1.symm, fun h => Bool.false_ne_true h.1.symm⟩
  · rintro ⟨hchunk, htarget⟩
    have hstored : (s.chunk? i.chunk).isSome :=
      (Bool.eq_false_or_eq_true _).resolve_right fun h => hchunk ⟨h, i, hi, rfl⟩
    exact ⟨hstored, (Bool.eq_false_or_eq_true _).resolve_right fun h =>
      htarget ⟨h, i, hi, rfl, hstored⟩⟩

end Store

/-- How many instructions have been issued, found completed and found expired. -/
def Metrics.rebalances (m : Metrics) : Nat × Nat × Nat := (m.emitted, m.completed, m.expired)

namespace Cluster

open Store

variable {c : Cluster}

/-- What one more chunk adds. -/
theorem recordTargets_gone (acc : Store × Vanished) (chunk : ChunkId) (targets : List NodeId) :
    (∀ id, id ∈ (recordTargets acc chunk targets).2.chunks ↔
      id ∈ acc.2.chunks ∨ (acc.1.chunk? chunk).isSome = false ∧ chunk = id) ∧
      ∀ t, (recordTargets acc chunk targets).2.targets.contains t ↔
        acc.2.targets.contains t ∨
          acc.1.registry.isLive t = false ∧ t ∈ targets ∧ (acc.1.chunk? chunk).isSome := by
  cases hr : acc.1.chunk? chunk with
  | none =>
    rw [recordTargets_of_none targets hr]
    exact ⟨fun id => by simp [eq_comm], fun t => by simp⟩
  | some r =>
    obtain ⟨s, -, -, hstep⟩ := recordTargets_of_some targets hr
    rw [hstep]
    refine ⟨fun id => by simp, fun t => ?_⟩
    rw [Table.contains_addAll, List.mem_filter]
    simp [and_comm, or_comm]

theorem foldl_recordTargets_gone : ∀ (l : List (ChunkId × List NodeId)) (acc acc' : Store × Vanished),
    l.foldl (fun acc e => recordTargets acc e.1 e.2) acc = acc' →
    (∀ id, id ∈ acc'.2.chunks ↔
      id ∈ acc.2.chunks ∨ (acc.1.chunk? id).isSome = false ∧ ∃ e ∈ l, e.1 = id) ∧
      ∀ t, acc'.2.targets.contains t ↔ acc.2.targets.contains t ∨
        acc.1.registry.isLive t = false ∧ ∃ e ∈ l, t ∈ e.2 ∧ (acc.1.chunk? e.1).isSome
  | [], acc, _, rfl => by simp
  | (chunk, targets) :: l, acc, acc', hfold => by
    obtain ⟨hchunks, htargets⟩ := recordTargets_gone acc chunk targets
    have hexpecting := (recordTargets_spec acc chunk targets).1.expecting
    obtain ⟨hchunks', htargets'⟩ := foldl_recordTargets_gone l _ acc' hfold
    constructor
    · intro id
      rw [hchunks', hchunks, hexpecting.isSome_chunk?, or_assoc]
      simp only [List.mem_cons, or_and_right, exists_or, exists_eq_left]
      refine or_congr_right ⟨?_, ?_⟩
      · rintro (⟨hgone, rfl⟩ | ⟨hgone, h⟩)
        · exact ⟨hgone, .inl rfl⟩
        · exact ⟨hgone, .inr h⟩
      · rintro ⟨hgone, rfl | h⟩
        · exact .inl ⟨hgone, rfl⟩
        · exact .inr ⟨hgone, h⟩
    · intro t
      rw [htargets', htargets, hexpecting.registry, or_assoc, ← and_or_left]
      simp only [hexpecting.isSome_chunk?, List.mem_cons, or_and_right, exists_or, exists_eq_left]

/-- What is gone in the end is told by the instructions. -/
theorem mem_gone (c : Cluster) (report : SweepReport) :
    (∀ id, id ∈ (c.recording report).2.chunks ↔ c.store.chunkGone report.emitted id) ∧
      ∀ t, (c.recording report).2.targets.contains t ↔ c.store.targetGone report.emitted t := by
  obtain ⟨hchunks, htargets⟩ := foldl_recordTargets_gone _ _ (c.recording report) rfl
  constructor
  · intro id
    rw [hchunks, chunkGone_iff]
    refine (or_iff_right List.not_mem_nil).trans (and_congr_right fun _ => ⟨?_, ?_⟩)
    · rintro ⟨⟨chunk, targets⟩, he, rfl⟩
      exact (get?_targetsByChunk.1 (Table.mem_toList_iff.1 he)).1
    · intro h
      exact ⟨_, Table.mem_toList_iff.2 (get?_targetsByChunk.2 ⟨h, rfl⟩), rfl⟩
  · intro t
    rw [htargets, targetGone_iff]
    refine (or_iff_right Bool.false_ne_true).trans (and_congr_right fun _ => ⟨?_, ?_⟩)
    · rintro ⟨⟨chunk, targets⟩, he, ht, hstored⟩
      obtain ⟨-, rfl⟩ := get?_targetsByChunk.1 (Table.mem_toList_iff.1 he)
      obtain ⟨i, hi, rfl⟩ := List.mem_map.1 ht
      obtain ⟨hi, hchunk⟩ := List.mem_filter.1 hi
      exact ⟨i, hi, rfl, of_decide_eq_true hchunk ▸ hstored⟩
    · rintro ⟨i, hi, rfl, hstored⟩
      obtain ⟨targets, hget, hmem⟩ := exists_targetsByChunk hi
      exact ⟨_, Table.mem_toList_iff.2 hget, hmem, hstored⟩

/-! ## Recording a sweep -/

theorem rebalances_status (c : Cluster) :
    c.status.cluster.metrics.rebalances = c.metrics.rebalances := by
  unfold status
  split <;> rfl

/-- Of its own instructions a sweep reports those that stand. -/
theorem filter_spares (c : Cluster) (report : SweepReport) :
    report.emitted.filter (c.recording report).2.spares = report.emitted.filter c.store.stands := by
  obtain ⟨hchunks, htargets⟩ := mem_gone c report
  refine List.filter_congr fun i hi => ?_
  rw [Bool.eq_iff_iff, stands_iff hi, Vanished.spares_iff, hchunks, Bool.not_eq_true,
    ← Bool.not_eq_true (Table.contains _ _), htargets, Bool.not_eq_true]

theorem emitted_recordSweep {report answer : SweepReport}
    (h : (c.recordSweep report).result = .ok answer) :
    answer.emitted = report.emitted.filter c.store.stands := by
  rw [result_recordSweep h, filter_spares]

/-- Everything is dropped that is pending for chunks and nodes that are gone. -/
theorem queue_recordSweep (c : Cluster) (report : SweepReport) :
    (c.recordSweep report).cluster.queue =
      { c.queue with
        pending := c.queue.pending.filter fun key _ =>
          !c.store.chunkGone report.emitted key.chunk && !c.store.targetGone report.emitted key.target
        unrecoverable := c.queue.unrecoverable.filter fun chunk _ =>
          !c.store.chunkGone report.emitted chunk
        sweeping := false } := by
  obtain ⟨hchunks, htargets⟩ := mem_gone c report
  have hchunks : ∀ id, decide (id ∉ (c.recording report).2.chunks) =
      !c.store.chunkGone report.emitted id := by
    intro id
    rw [Bool.eq_iff_iff, decide_eq_true_eq, hchunks, Bool.not_eq_true, Bool.not_eq_true']
  have htargets : ∀ t, (c.recording report).2.targets.contains t =
      c.store.targetGone report.emitted t := fun t => Bool.eq_iff_iff.2 (htargets t)
  rw [cluster_recordSweep rfl, (cluster_status _).2.1]
  simp only [forgetVanished_eq, Queue.finish, hchunks, htargets]

/-- What is counted for a sweep. -/
theorem rebalances_recordSweep (c : Cluster) (report : SweepReport) :
    (c.recordSweep report).cluster.metrics.rebalances =
      (c.metrics.emitted + (report.emitted.filter c.store.stands).length,
        c.metrics.completed + report.completed, c.metrics.expired + report.expired) := by
  rw [cluster_recordSweep rfl, rebalances_status, ← filter_spares]
  rfl

/-! ## A whole sweep -/

variable {chunks : List ChunkRecord} {nodes : List Node} {now : UInt64}

/-- What a sweep over some records would make of the pending instructions. -/
def survey (c : Cluster) (chunks : List ChunkRecord) (nodes : List Node) (now : UInt64) : Survey :=
  .ofRecords chunks nodes c.queue.pending now c.settings.instructionTtl

/-- The instructions that a sweep over some records puts into the queue at first. -/
def orders (c : Cluster) (chunks : List ChunkRecord) (nodes : List Node) (now : UInt64) :
    List Instruction :=
  (c.queue.merge now (c.survey chunks nodes now).findings).1.emitted

/-- The instructions that an event issues for good. -/
def issued (c : Cluster) : Event → List Instruction
  | .sweep chunks nodes now =>
    if c.queue.sweeping then [] else (c.orders chunks nodes now).filter c.store.stands
  | _ => []

theorem issued_sweep (h : c.queue.sweeping = false) :
    c.issued (.sweep chunks nodes now) = (c.orders chunks nodes now).filter c.store.stands := by
  rw [issued, if_neg (Bool.eq_false_iff.1 h)]

/-- A sweep merges what it finds and records it. -/
theorem sweepOver_merged (h : c.queue.sweeping = false) : c.sweepOver chunks nodes now =
    { c with queue :=
        { (c.queue.merge now (c.survey chunks nodes now).findings).2 with sweeping := true } :
        Cluster }.recordSweep (c.queue.merge now (c.survey chunks nodes now).findings).1 := by
  have hsweeping : ∀ found : Findings,
      (({ c.queue with sweeping := true } : Queue).merge now found).1 = (c.queue.merge now found).1 ∧
        (({ c.queue with sweeping := true } : Queue).merge now found).2 =
          { (c.queue.merge now found).2 with sweeping := true } := fun found => ⟨rfl, rfl⟩
  rw [sweepOver_eq h, (hsweeping _).1, (hsweeping _).2]
  rfl

/-- The instructions in a returned report are the ones that are issued. -/
theorem emitted_sweepOver {report : SweepReport}
    (h : (c.sweepOver chunks nodes now).result = .ok report) :
    report.emitted = c.issued (.sweep chunks nodes now) := by
  obtain ⟨hsweeping, -⟩ := sweepOver_ok h
  rw [sweepOver_merged hsweeping] at h
  have hemitted := emitted_recordSweep h
  rw [issued_sweep hsweeping]
  exact hemitted

/-- What a sweep leaves in the queue. -/
theorem queue_sweepOver (h : c.queue.sweeping = false) :
    (c.sweepOver chunks nodes now).cluster.queue =
      { pending :=
          (c.queue.merge now (c.survey chunks nodes now).findings).2.pending.filter fun key _ =>
            !c.store.chunkGone (c.orders chunks nodes now) key.chunk &&
              !c.store.targetGone (c.orders chunks nodes now) key.target
        unrecoverable := (Table.ofKeys (c.survey chunks nodes now).findings.unrecoverable).filter
          fun chunk _ => !c.store.chunkGone (c.orders chunks nodes now) chunk
        lastSweep := some now
        sweeping := false } := by
  rw [sweepOver_merged h, queue_recordSweep]
  rfl

/-- A pending instruction is found completed or expired, or neither. -/
theorem verdict_of_mem {e : CopyKey × Instruction} (he : e ∈ c.queue.pending.toList) (v : Verdict) :
    e.1 ∈ (c.survey chunks nodes now).withVerdict v ↔
      (c.survey chunks nodes now).verdict e.1 e.2 = v := by
  have hpending : (c.survey chunks nodes now).pending.get? e.1 = some e.2 := Table.mem_toList_iff.1 he
  exact Survey.mem_withVerdict_of_get? hpending

/-- Afterwards what it has issued is pending, and of the rest what is in flight and not gone. -/
theorem pending_sweepOver (h : c.queue.sweeping = false) :
    (c.sweepOver chunks nodes now).cluster.queue.pending.toList.Perm
      ((c.issued (.sweep chunks nodes now)).map (fun i => (i.key, i)) ++
        c.queue.pending.toList.filter fun e =>
          (c.survey chunks nodes now).verdict e.1 e.2 = .inFlight &&
            (!c.store.chunkGone (c.orders chunks nodes now) e.1.chunk &&
              !c.store.targetGone (c.orders chunks nodes now) e.1.target)) := by
  have hmerged := Queue.perm_merge c.queue now (c.survey chunks nodes now).findings
  have horders : ((c.orders chunks nodes now).map fun i => (i.key, i)).filter (fun e =>
      !c.store.chunkGone (c.orders chunks nodes now) e.1.chunk &&
        !c.store.targetGone (c.orders chunks nodes now) e.1.target) =
      (c.issued (.sweep chunks nodes now)).map fun i => (i.key, i) := by
    rw [issued_sweep h, List.filter_map]
    refine congrArg _ (List.filter_congr fun i hi => ?_)
    rw [Bool.eq_iff_iff, stands_iff hi]
    simp [Instruction.key]
  have hold : (c.queue.pending.toList.filter fun e =>
      e.1 ∉ (c.survey chunks nodes now).findings.completed &&
        e.1 ∉ (c.survey chunks nodes now).findings.expired) =
      c.queue.pending.toList.filter fun e =>
        (c.survey chunks nodes now).verdict e.1 e.2 = .inFlight := by
    refine List.filter_congr fun e he => ?_
    have hpending : (c.survey chunks nodes now).pending.get? e.1 = some e.2 :=
      Table.mem_toList_iff.1 he
    rw [Bool.eq_iff_iff, decide_eq_true_eq, Survey.verdict_eq_inFlight hpending]
    simp
  rw [hold] at hmerged
  rw [queue_sweepOver h]
  refine (hmerged.filter _).trans (List.Perm.of_eq ?_)
  rw [List.filter_append, List.filter_filter]
  refine congrArg₂ _ horders (List.filter_congr fun e _ => ?_)
  rw [Bool.and_comm]

/-- What is counted for a sweep. -/
theorem rebalances_sweepOver (h : c.queue.sweeping = false) :
    (c.sweepOver chunks nodes now).cluster.metrics.rebalances =
      (c.metrics.emitted + (c.issued (.sweep chunks nodes now)).length,
        c.metrics.completed + c.queue.pending.toList.countP fun e =>
          (c.survey chunks nodes now).verdict e.1 e.2 = .completed,
        c.metrics.expired + c.queue.pending.toList.countP fun e =>
          (c.survey chunks nodes now).verdict e.1 e.2 = .expired) := by
  have hcompleted : (c.queue.merge now (c.survey chunks nodes now).findings).1.completed =
      c.queue.pending.toList.countP fun e =>
        (c.survey chunks nodes now).verdict e.1 e.2 = .completed := by
    rw [Queue.completed_merge]
    refine List.countP_congr fun e he => ?_
    rw [decide_eq_true_eq, decide_eq_true_eq]
    exact verdict_of_mem he .completed
  have hexpired : (c.queue.merge now (c.survey chunks nodes now).findings).1.expired =
      c.queue.pending.toList.countP fun e =>
        (c.survey chunks nodes now).verdict e.1 e.2 = .expired := by
    rw [Queue.expired_merge]
    refine List.countP_congr fun e he => ?_
    rw [Bool.and_eq_true, decide_eq_true_eq, decide_eq_true_eq, decide_eq_true_eq]
    constructor
    · exact fun h => (verdict_of_mem he .expired).1 h.1
    · refine fun h => ⟨(verdict_of_mem he .expired).2 h, fun hcompleted => ?_⟩
      rw [(verdict_of_mem he .completed).1 hcompleted] at h
      cases h
  rw [sweepOver_merged h, rebalances_recordSweep, issued_sweep h, ← hcompleted, ← hexpired, orders]

end Cluster

end ChunkCoordinator
