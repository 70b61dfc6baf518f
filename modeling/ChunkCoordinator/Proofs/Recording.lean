import ChunkCoordinator.Cluster
import ChunkCoordinator.Proofs.Queue
import ChunkCoordinator.Proofs.Space

/-!
# What a recorded sweep leaves behind

Recording a sweep (`Cluster.recording`) lets chunks expect more nodes in service and changes nothing
else in the store (`Store.Expecting`). A new instruction stays in the queue only if its chunk is
stored and expects the target, which is in service (`Cluster.Placed`,
`Cluster.get?_forgetVanished`). `Cluster.sweepOver_spec` says this of a whole sweep, over whatever
records it was given.
-/

set_option linter.unusedSectionVars false

namespace ChunkCoordinator

/-- The instruction is about the chunk as it is recorded. -/
def Instruction.Names (i : Instruction) (r : ChunkRecord) : Prop :=
  i.chunk = r.id ∧ i.file = r.file ∧ i.chunkIndex = r.index ∧ i.size = r.size

/-! ## More nodes expected -/

theorem ChunkRecord.contains_expecting {r : ChunkRecord} {nodes : List NodeId} {n : NodeId} :
    (r.expecting nodes).expected.contains n ↔ n ∈ nodes ∨ r.expected.contains n :=
  Table.contains_addAll

namespace Store

variable {s s' : Store} {chunk : ChunkId} {r : ChunkRecord} {n : NodeId}

/-- Chunks have come to expect more nodes, all of them in service. -/
structure Expecting (s s' : Store) : Prop where
  registry : s'.registry = s.registry
  files : s'.catalog.files = s.catalog.files
  chunkIds : s'.catalog.chunkIds = s.catalog.chunkIds
  chunk?_eq : ∀ id, ∃ nodes, (∀ n ∈ nodes, s.registry.isLive n) ∧
    s'.chunk? id = (s.chunk? id).map (·.expecting nodes)
  booked : ∀ n, s'.catalog.booked n = s.catalog.booked n

namespace Expecting

theorem refl (s : Store) : Expecting s s :=
  ⟨rfl, rfl, rfl, fun id => ⟨[], by simp, by simp⟩, fun _ => rfl⟩

theorem trans {s'' : Store} (h : Expecting s s') (h' : Expecting s' s'') : Expecting s s'' := by
  refine ⟨h'.registry.trans h.registry, h'.files.trans h.files, h'.chunkIds.trans h.chunkIds,
    fun id => ?_, fun n => (h'.booked n).trans (h.booked n)⟩
  obtain ⟨nodes, hlive, heq⟩ := h.chunk?_eq id
  obtain ⟨nodes', hlive', heq'⟩ := h'.chunk?_eq id
  refine ⟨nodes ++ nodes', fun n hn => ?_, ?_⟩
  · rcases List.mem_append.1 hn with hn | hn
    · exact hlive n hn
    · exact h.registry ▸ hlive' n hn
  · rw [heq', heq, Option.map_map]
    congr 1
    funext r
    simp [ChunkRecord.expecting, Table.addAll, List.foldl_append]

/-- The chunks are still there. -/
theorem exists_chunk? (h : Expecting s s') (hr : s.chunk? chunk = some r) :
    ∃ nodes, (∀ n ∈ nodes, s.registry.isLive n) ∧ s'.chunk? chunk = some (r.expecting nodes) := by
  obtain ⟨nodes, hlive, heq⟩ := h.chunk?_eq chunk
  exact ⟨nodes, hlive, by rw [heq, hr, Option.map_some]⟩

/-- No chunk has come in addition. -/
theorem exists_old (h : Expecting s s') (hr : s'.chunk? chunk = some r) :
    ∃ old nodes, s.chunk? chunk = some old ∧ (∀ n ∈ nodes, s.registry.isLive n) ∧
      r = old.expecting nodes := by
  obtain ⟨nodes, hlive, heq⟩ := h.chunk?_eq chunk
  rw [heq] at hr
  obtain ⟨old, hold, rfl⟩ := Option.map_eq_some_iff.1 hr
  exact ⟨old, nodes, hold, hlive, rfl⟩

end Expecting

/-- Letting a stored chunk expect some nodes takes those in service and names the others. -/
theorem expecting_of_expect {targets skipped : List NodeId} (hr : s.chunk? chunk = some r)
    (h : s.expect chunk targets = some (skipped, s')) :
    Expecting s s' ∧ skipped = targets.filter (fun t => !s.registry.isLive t) ∧
      s'.chunk? chunk = some (r.expecting (targets.filter s.registry.isLive)) := by
  rw [expect_eq_some targets hr] at h
  obtain ⟨rfl, rfl⟩ := Prod.mk.inj (Option.some.inj h)
  refine ⟨⟨rfl, rfl, rfl, fun id => ?_, fun n => ?_⟩, rfl, Table.get?_insert_self _ _ _⟩
  · by_cases hid : id = chunk
    · subst hid
      refine ⟨targets.filter s.registry.isLive, fun n hn => (List.mem_filter.1 hn).2, ?_⟩
      rw [hr, Option.map_some]
      exact Table.get?_insert_self _ _ _
    · refine ⟨[], by simp, ?_⟩
      simp only [ChunkRecord.expecting_nil, Option.map_id']
      exact Table.get?_insert_of_ne _ _ hid
  · exact Table.sum_insert_of_eq hr rfl

theorem expecting_getD (s : Store) (chunk : ChunkId) (targets : List NodeId) :
    Expecting s (((s.expect chunk targets).map Prod.snd).getD s) := by
  cases hr : s.chunk? chunk with
  | none =>
    rw [expect_eq_none targets hr]
    exact .refl s
  | some r =>
    obtain ⟨⟨skipped, s'⟩, h⟩ : ∃ answer, s.expect chunk targets = some answer :=
      ⟨_, expect_eq_some targets hr⟩
    rw [h]
    exact (expecting_of_expect hr h).1

end Store

namespace Cluster

open Store

variable {c : Cluster}

/-! ## Targets of the new instructions -/

/-- For each chunk these are the targets of its instructions, in their order. -/
theorem get?_targetsByChunk {emitted : List Instruction} {id : ChunkId} {targets : List NodeId} :
    (targetsByChunk emitted).get? id = some targets ↔
      (∃ i ∈ emitted, i.chunk = id) ∧
        targets = (emitted.filter fun i => i.chunk = id).map Instruction.target := by
  have hfold : ∀ (l : List Instruction) (t : Table ChunkId (List NodeId)),
      (l.foldl (fun t i => t.insert i.chunk ((t.get? i.chunk).getD [] ++ [i.target])) t).get? id =
        if (∃ i ∈ l, i.chunk = id) ∨ t.contains id then
          some ((t.get? id).getD [] ++ (l.filter fun i => i.chunk = id).map Instruction.target)
        else none := by
    intro l
    induction l with
    | nil =>
      intro t
      cases hget : t.get? id <;> simp [Table.contains, hget]
    | cons j l ih =>
      intro t
      rw [List.foldl_cons, ih]
      by_cases hj : j.chunk = id
      · subst hj
        simp [Table.contains]
      · have hget : (t.insert j.chunk ((t.get? j.chunk).getD [] ++ [j.target])).get? id = t.get? id :=
          Table.get?_insert_of_ne _ _ (Ne.symm hj)
        simp [Table.contains, hget, hj]
  rw [targetsByChunk, hfold]
  simp [Table.contains_empty, eq_comm]

theorem exists_targetsByChunk {i : Instruction} {emitted : List Instruction} (h : i ∈ emitted) :
    ∃ targets, (targetsByChunk emitted).get? i.chunk = some targets ∧ i.target ∈ targets :=
  ⟨_, get?_targetsByChunk.2 ⟨⟨i, h, rfl⟩, rfl⟩,
    List.mem_map_of_mem (List.mem_filter.2 ⟨h, decide_eq_true rfl⟩)⟩

/-- Some targets have been recorded : chunks expect more nodes, and more is known to be gone. -/
structure Recorded (acc acc' : Store × Vanished) : Prop where
  expecting : Expecting acc.1 acc'.1
  chunks : acc.2.chunks ⊆ acc'.2.chunks
  targets : ∀ t, acc.2.targets.contains t → acc'.2.targets.contains t

/-- Where a target of a chunk ends up : the chunk is gone, or the target is, or the chunk expects
it. -/
def Placed (acc : Store × Vanished) (chunk : ChunkId) (t : NodeId) : Prop :=
  chunk ∈ acc.2.chunks ∨ acc.2.targets.contains t ∨
    (acc.1.registry.isLive t ∧ ∃ r, acc.1.chunk? chunk = some r ∧ r.expected.contains t)

theorem Recorded.trans {acc acc' acc'' : Store × Vanished} (h : Recorded acc acc')
    (h' : Recorded acc' acc'') : Recorded acc acc'' :=
  ⟨h.expecting.trans h'.expecting, List.Subset.trans h.chunks h'.chunks,
    fun t ht => h'.targets t (h.targets t ht)⟩

theorem Placed.mono {acc acc' : Store × Vanished} {chunk : ChunkId} {t : NodeId}
    (h : Placed acc chunk t) (hrecorded : Recorded acc acc') : Placed acc' chunk t := by
  rcases h with h | h | ⟨hlive, r, hr, hexpected⟩
  · exact .inl (hrecorded.chunks h)
  · exact .inr (.inl (hrecorded.targets t h))
  · obtain ⟨nodes, -, hr'⟩ := hrecorded.expecting.exists_chunk? hr
    exact .inr (.inr ⟨hrecorded.expecting.registry ▸ hlive, _, hr',
      ChunkRecord.contains_expecting.2 (.inr hexpected)⟩)

section

variable {acc : Store × Vanished} {chunk : ChunkId} {r : ChunkRecord}

/-- A chunk that is not stored is noted, and the store stays as it is. -/
theorem recordTargets_of_none (targets : List NodeId) (h : acc.1.chunk? chunk = none) :
    recordTargets acc chunk targets =
      (acc.1, { acc.2 with chunks := acc.2.chunks ++ [chunk] }) := by
  rw [recordTargets, expect_eq_none targets h]

/-- A stored chunk comes to expect the targets in service, and the others are noted. -/
theorem recordTargets_of_some (targets : List NodeId) (h : acc.1.chunk? chunk = some r) :
    ∃ s, Expecting acc.1 s ∧
      s.chunk? chunk = some (r.expecting (targets.filter acc.1.registry.isLive)) ∧
      recordTargets acc chunk targets = (s, { acc.2 with
        targets := acc.2.targets.addAll (targets.filter fun t => !acc.1.registry.isLive t) }) := by
  have hexpect := expect_eq_some targets h
  obtain ⟨hexpecting, -, hchunk⟩ := expecting_of_expect h hexpect
  exact ⟨_, hexpecting, hchunk, by rw [recordTargets, hexpect]⟩

end

theorem recordTargets_spec (acc : Store × Vanished) (chunk : ChunkId) (targets : List NodeId) :
    Recorded acc (recordTargets acc chunk targets) ∧
      ∀ t ∈ targets, Placed (recordTargets acc chunk targets) chunk t := by
  cases hr : acc.1.chunk? chunk with
  | none =>
    rw [recordTargets_of_none targets hr]
    exact ⟨⟨.refl _, List.subset_append_left _ _, fun _ ht => ht⟩, fun t _ => .inl (by simp)⟩
  | some r =>
    obtain ⟨s, hexpecting, hchunk, hstep⟩ := recordTargets_of_some targets hr
    rw [hstep]
    refine ⟨⟨hexpecting, List.Subset.refl _, fun t ht => Table.contains_addAll.2 (.inr ht)⟩, ?_⟩
    intro t ht
    by_cases hlive : acc.1.registry.isLive t
    · refine .inr (.inr ⟨hexpecting.registry ▸ hlive, _, hchunk, ?_⟩)
      exact ChunkRecord.contains_expecting.2 (.inl (List.mem_filter.2 ⟨ht, hlive⟩))
    · refine .inr (.inl (Table.contains_addAll.2 (.inl ?_)))
      exact List.mem_filter.2 ⟨ht, by simpa using hlive⟩

theorem foldl_recordTargets : ∀ (l : List (ChunkId × List NodeId)) (acc acc' : Store × Vanished),
    l.foldl (fun acc e => recordTargets acc e.1 e.2) acc = acc' →
    Recorded acc acc' ∧ ∀ chunk targets, (chunk, targets) ∈ l → ∀ t ∈ targets, Placed acc' chunk t
  | [], acc, _, rfl => ⟨⟨.refl _, List.Subset.refl _, fun _ h => h⟩, by simp⟩
  | (chunk, targets) :: l, acc, acc', hfold => by
    obtain ⟨hfirst, hplaced⟩ := recordTargets_spec acc chunk targets
    obtain ⟨hrest, hplaced'⟩ := foldl_recordTargets l _ acc' hfold
    refine ⟨hfirst.trans hrest, fun chunk' targets' hmem t ht => ?_⟩
    rcases List.mem_cons.1 hmem with heq | hmem
    · obtain ⟨rfl, rfl⟩ := Prod.mk.inj heq
      exact (hplaced t ht).mono hrest
    · exact hplaced' chunk' targets' hmem t ht

/-! ## Instructions dropped -/

theorem foldl_forgetTarget : ∀ (targets : List NodeId) (q : Queue),
    targets.foldl (fun q t => (q.forgetTarget t).2) q =
      { q with pending := q.pending.filter fun key _ => key.target ∉ targets }
  | [], q => by
    have hall : q.pending.filter (fun key _ => key.target ∉ ([] : List NodeId)) = q.pending :=
      Table.ext_get? fun key => Option.ext fun i => by simp [Table.get?_filter_eq_some]
    rw [hall]
    rfl
  | t :: targets, q => by
    rw [List.foldl_cons, foldl_forgetTarget targets, Queue.forgetTarget]
    congr 1
    refine Table.ext_get? fun key => Option.ext fun i => ?_
    simp only [Table.get?_filter_eq_some, decide_eq_true_eq, List.mem_cons, not_or, and_assoc]

/-- Everything is dropped that is pending for vanished chunks and targets, and the chunks are taken
off the list. -/
theorem forgetVanished_eq (q : Queue) (gone : Vanished) : forgetVanished q gone =
    { q with
      pending := q.pending.filter fun key _ =>
        key.chunk ∉ gone.chunks && !gone.targets.contains key.target
      unrecoverable := q.unrecoverable.filter fun chunk _ => chunk ∉ gone.chunks } := by
  rw [forgetVanished, foldl_forgetTarget, Queue.forgetChunks]
  congr 1
  refine Table.ext_get? fun key => Option.ext fun i => ?_
  simp [Table.get?_filter_eq_some, Table.mem_keys, and_assoc]

/-- What is pending once the instructions for vanished chunks and targets are dropped. -/
theorem get?_forgetVanished {key : CopyKey} {i : Instruction} (q : Queue) (gone : Vanished) :
    (forgetVanished q gone).pending.get? key = some i ↔
      q.pending.get? key = some i ∧ key.chunk ∉ gone.chunks ∧
        gone.targets.contains key.target = false := by
  rw [forgetVanished_eq, Table.get?_filter_eq_some, Bool.and_eq_true, decide_eq_true_eq,
    Bool.not_eq_true']

/-- If nothing has vanished, nothing is dropped. -/
theorem forgetVanished_of_isEmpty {gone : Vanished} (q : Queue)
    (h : gone.chunks.isEmpty && gone.targets.isEmpty) : forgetVanished q gone = q := by
  rw [Bool.and_eq_true, List.isEmpty_iff, Table.isEmpty_iff] at h
  obtain ⟨hchunks, htargets⟩ := h
  have hpending : (forgetVanished q gone).pending = q.pending :=
    Table.ext_get? fun key => Option.ext fun i => by
      rw [get?_forgetVanished, hchunks, and_iff_left ⟨List.not_mem_nil, htargets _⟩]
  have hlisted : (forgetVanished q gone).unrecoverable = q.unrecoverable :=
    Table.ext_get? fun id => Option.ext fun _ => by
      simp [forgetVanished_eq, Table.get?_filter_eq_some, hchunks]
  calc forgetVanished q gone
    _ = { q with
          pending := (forgetVanished q gone).pending
          unrecoverable := (forgetVanished q gone).unrecoverable } := by rw [forgetVanished_eq]
    _ = q := by rw [hpending, hlisted]

/-! ## The whole sweep -/

/-- Refreshing the status changes the gauges only. -/
theorem cluster_status (c : Cluster) : c.status.cluster.store = c.store ∧
    c.status.cluster.queue = c.queue ∧ c.status.cluster.ids = c.ids := by
  unfold status
  split <;> exact ⟨rfl, rfl, rfl⟩

section

variable {report answer : SweepReport}

/-- Neither the chunk of the instruction nor its target is gone. -/
def Vanished.spares (gone : Vanished) (i : Instruction) : Bool :=
  i.chunk ∉ gone.chunks && !gone.targets.contains i.target

theorem Vanished.spares_iff {gone : Vanished} {i : Instruction} :
    gone.spares i ↔ i.chunk ∉ gone.chunks ∧ gone.targets.contains i.target = false := by
  rw [spares, Bool.and_eq_true, decide_eq_true_eq, Bool.not_eq_true']

/-- The store when all targets of a sweep are recorded, and what is found gone then. -/
def recording (c : Cluster) (report : SweepReport) : Store × Vanished :=
  (targetsByChunk report.emitted).toList.foldl (fun acc e => recordTargets acc e.1 e.2)
    (c.store, ⟨[], .empty⟩)

theorem expecting_recording (c : Cluster) (report : SweepReport) :
    Expecting c.store (c.recording report).1 :=
  (foldl_recordTargets _ _ (c.recording report) rfl).1.expecting

/-- An instruction for a chunk and a target that are not gone is expected. -/
theorem placed_of_emitted {i : Instruction} (hi : i ∈ report.emitted)
    (hspared : (c.recording report).2.spares i) :
    c.store.registry.isLive i.target ∧
      ∃ r, (c.recording report).1.chunk? i.chunk = some r ∧ r.expected.contains i.target := by
  obtain ⟨hchunk, htarget⟩ := Vanished.spares_iff.1 hspared
  obtain ⟨-, hplaced⟩ := foldl_recordTargets _ _ (c.recording report) rfl
  obtain ⟨targets, hget, hmem⟩ := exists_targetsByChunk hi
  rw [← (expecting_recording c report).registry]
  rcases hplaced i.chunk targets (Table.mem_toList_iff.2 hget) i.target hmem with h | h | h
  · exact absurd h hchunk
  · exact absurd h (Bool.eq_false_iff.1 htarget)
  · exact h

/-- A recorded sweep ends with the status of the cluster, whether that is a word or not. -/
theorem cluster_recordSweep {emitted : List Instruction}
    (hemitted : emitted = report.emitted.filter (c.recording report).2.spares) :
    (c.recordSweep report).cluster =
      { c with
        store := (c.recording report).1
        dirty := c.dirty || !emitted.isEmpty
        metrics := c.metrics.countSweep { report with emitted }
        queue := (forgetVanished c.queue (c.recording report).2).finish : Cluster }.status.cluster := by
  have hqueue : ∀ gone : Vanished, (if gone.chunks.isEmpty && gone.targets.isEmpty then c.queue
      else forgetVanished c.queue gone) = forgetVanished c.queue gone := by
    intro gone
    split
    · next hempty => exact (forgetVanished_of_isEmpty c.queue hempty).symm
    · rfl
  rw [hemitted]
  unfold recordSweep
  dsimp only
  rw [hqueue]
  split
  · next hstatus => exact (congrArg Reply.cluster hstatus).symm
  · next hstatus => exact (congrArg Reply.cluster hstatus).symm

theorem store_recordSweep (c : Cluster) (report : SweepReport) :
    (c.recordSweep report).cluster.store = (c.recording report).1 := by
  rw [cluster_recordSweep rfl, (cluster_status _).1]

/-- A recorded sweep answers with the instructions for chunks and targets that are not gone. -/
theorem result_recordSweep (h : (c.recordSweep report).result = .ok answer) :
    answer = { report with emitted := report.emitted.filter (c.recording report).2.spares } := by
  unfold recordSweep at h
  dsimp only at h
  split at h
  · exact (Except.ok.inj h).symm
  · cases h

/-- What is pending after a sweep is recorded was so before, and is not gone. -/
theorem pending_recordSweep {key : CopyKey} {i : Instruction}
    (h : (c.recordSweep report).cluster.queue.pending.get? key = some i) :
    c.queue.pending.get? key = some i ∧ key.chunk ∉ (c.recording report).2.chunks ∧
      (c.recording report).2.targets.contains key.target = false := by
  rw [cluster_recordSweep rfl, (cluster_status _).2.1] at h
  exact (get?_forgetVanished _ _).1 h

/-- After a sweep is recorded, what is pending was so before, and if the sweep has ordered it, a
stored chunk expects it on a node in service. -/
theorem recordSweep_spec (c : Cluster) (report : SweepReport) :
    Expecting c.store (c.recordSweep report).cluster.store ∧
      (c.recordSweep report).cluster.ids = c.ids ∧
      ∀ key i, (c.recordSweep report).cluster.queue.pending.get? key = some i →
        c.queue.pending.get? key = some i ∧
          ((∃ j ∈ report.emitted, j.key = key) → c.store.registry.isLive key.target ∧
            ∃ r, (c.recordSweep report).cluster.store.chunk? key.chunk = some r ∧
              r.expected.contains key.target) := by
  have hids : (c.recordSweep report).cluster.ids = c.ids := by
    rw [cluster_recordSweep rfl, (cluster_status _).2.2]
  rw [store_recordSweep]
  refine ⟨expecting_recording c report, hids, fun key i h => ?_⟩
  obtain ⟨hold, hspared⟩ := pending_recordSweep h
  refine ⟨hold, ?_⟩
  rintro ⟨j, hj, rfl⟩
  exact placed_of_emitted hj (Vanished.spares_iff.2 hspared)

/-- The answer of a recorded sweep lists instructions that stored chunks expect, among them all that
are pending of those that the sweep has ordered. -/
theorem recordSweep_ok (h : (c.recordSweep report).result = .ok answer) :
    answer.unrecoverable = report.unrecoverable ∧ answer.emitted.Sublist report.emitted ∧
      (∀ i ∈ answer.emitted, c.store.registry.isLive i.target ∧
        ∃ r, (c.recordSweep report).cluster.store.chunk? i.chunk = some r ∧
          r.expected.contains i.target) ∧
      ∀ i ∈ report.emitted, (c.recordSweep report).cluster.queue.pending.contains i.key →
        i ∈ answer.emitted := by
  obtain rfl := result_recordSweep h
  rw [store_recordSweep]
  refine ⟨rfl, List.filter_sublist, fun i hi => ?_, fun i hi hpending => ?_⟩
  · obtain ⟨hi, hspared⟩ := List.mem_filter.1 hi
    exact placed_of_emitted hi hspared
  · obtain ⟨old, hold⟩ := Table.contains_iff.1 hpending
    exact List.mem_filter.2 ⟨hi, Vanished.spares_iff.2 (pending_recordSweep hold).2⟩

end

section

variable {chunks : List ChunkRecord} {nodes : List Node} {now : UInt64}

/-- A sweep that none other stands in the way of. -/
theorem sweepOver_eq (h : c.queue.sweeping = false) :
    c.sweepOver chunks nodes now =
      { c with queue := (({ c.queue with sweeping := true } : Queue).merge now
        (Survey.ofRecords chunks nodes c.queue.pending now
          c.settings.instructionTtl).findings).2 : Cluster }.recordSweep
        (({ c.queue with sweeping := true } : Queue).merge now
          (Survey.ofRecords chunks nodes c.queue.pending now
            c.settings.instructionTtl).findings).1 := by
  simp [sweepOver, beginSweep, Queue.begin, h, answer, mergeSweep]

theorem sweepOver_refused (h : c.queue.sweeping) :
    c.sweepOver chunks nodes now = c.refuse .sweepInProgress := by
  simp [sweepOver, beginSweep, Queue.begin, h, refuse]

/-- What a sweep returns as new is expected by stored chunks on nodes in service. -/
theorem sweepOver_ok {answer : SweepReport}
    (h : (c.sweepOver chunks nodes now).result = .ok answer) :
    c.queue.sweeping = false ∧ ∀ i ∈ answer.emitted, c.store.registry.isLive i.target ∧
      ∃ r, (c.sweepOver chunks nodes now).cluster.store.chunk? i.chunk = some r ∧
        r.expected.contains i.target := by
  by_cases hsweeping : c.queue.sweeping
  · rw [sweepOver_refused hsweeping] at h
    cases h
  rw [Bool.not_eq_true] at hsweeping
  rw [sweepOver_eq hsweeping] at h ⊢
  exact ⟨hsweeping, (recordSweep_ok h).2.2.1⟩

end

/-- After a whole sweep what is pending was so before, or it copies a chunk that was looked at and
is stored to a node in service that the chunk expects. -/
theorem sweepOver_spec (c : Cluster) (chunks : List ChunkRecord) (nodes : List Node) (now : UInt64) :
    Expecting c.store (c.sweepOver chunks nodes now).cluster.store ∧
      (c.sweepOver chunks nodes now).cluster.ids = c.ids ∧
      ∀ key i, (c.sweepOver chunks nodes now).cluster.queue.pending.get? key = some i →
        c.queue.pending.get? key = some i ∨
          (i.key = key ∧ (∃ r ∈ chunks, i.Names r) ∧ c.store.registry.isLive key.target ∧
            ∃ r, (c.sweepOver chunks nodes now).cluster.store.chunk? key.chunk = some r ∧
              r.expected.contains key.target) := by
  by_cases hsweeping : c.queue.sweeping
  · rw [sweepOver_refused hsweeping]
    exact ⟨.refl _, rfl, fun key i h => .inl h⟩
  rw [Bool.not_eq_true] at hsweeping
  rw [sweepOver_eq hsweeping]
  generalize hs : Survey.ofRecords chunks nodes c.queue.pending now c.settings.instructionTtl = s
  generalize hq : ({ c.queue with sweeping := true } : Queue) = q
  have hpending : q.pending = c.queue.pending := by rw [← hq]
  obtain ⟨hexpecting, hdrawn, hrecorded⟩ := recordSweep_spec
    { c with queue := (q.merge now s.findings).2 } (q.merge now s.findings).1
  refine ⟨hexpecting, hdrawn, fun key i h => ?_⟩
  obtain ⟨hold, hplaced⟩ := hrecorded key i h
  rcases (Queue.get?_merge q now s.findings).1 hold with ⟨hkey, hi⟩ | ⟨hold, -⟩
  · obtain ⟨r, hr, heq⟩ :=
      Survey.mem_emitted_findings ((Queue.emitted_merge_sublist q now s.findings).subset hi)
    obtain ⟨hlive, hexpected⟩ := hplaced ⟨i, hi, hkey⟩
    refine .inr ⟨hkey, ⟨r, by rw [← hs] at hr; exact hr, ?_⟩, hlive, hexpected⟩
    rw [heq]
    exact ⟨rfl, rfl, rfl, rfl⟩
  · exact .inl (hpending ▸ hold)

end Cluster

end ChunkCoordinator
