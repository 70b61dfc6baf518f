import ChunkCoordinator.Proofs.Convergence

/-!
# What a sweep leaves in the queue

Every pending instruction belongs to one of three classes, whatever the records are : its target
has the copy by now (`Repair.HasCopy`), it is still waited for (`Repair.Awaited`), or neither. A
sweep takes those of the first and of the last class out, counts them, and puts in what it orders,
which may reuse a key that it has just taken out. `Repair.Upkeep` describes the queue afterwards,
and `Repair.sweep_upkeep` is the main statement : what is pending then is waited for, and what was
waited for before is pending as it was.
-/

set_option linter.unusedSectionVars false

namespace ChunkCoordinator

namespace Repair

/-! ## Three classes of instructions -/

/-- The chunk is on record, and so is its copy on the target. -/
def HasCopy (chunks : List ChunkRecord) (key : CopyKey) : Prop :=
  ∃ c ∈ chunks, c.id = key.chunk ∧ c.replicas.contains key.target

/-- The instruction is young, its chunk is on record, and its target is healthy and has no copy. -/
structure Awaited (chunks : List ChunkRecord) (nodes : List Node) (now ttl : UInt64) (key : CopyKey)
    (i : Instruction) : Prop where
  chunk : ∃ c ∈ chunks, c.id = key.chunk ∧ c.replicas.contains key.target = false
  target : ∃ n ∈ nodes, n.isHealthy ∧ n.id = key.target
  young : isFresh now ttl i.issuedAt

/-- How the queue `q` becomes the queue `q'` in a sweep that finds some instructions completed and
some expired. -/
structure Upkeep (q : Queue) (chunks : List ChunkRecord) (nodes : List Node) (now ttl : UInt64)
    (report : SweepReport) (q' : Queue) (completed expired : List CopyKey) : Prop where
  mem_completed : ∀ key, key ∈ completed ↔ q.pending.contains key ∧ HasCopy chunks key
  mem_expired : ∀ key, key ∈ expired ↔ ∃ i, q.pending.get? key = some i ∧ ¬HasCopy chunks key ∧
    ¬Awaited chunks nodes now ttl key i
  disjoint : completed.Disjoint expired
  /-- No key is listed twice, so the numbers are those of different instructions. -/
  nodup : completed.Nodup ∧ expired.Nodup
  counted : report.completed = completed.length ∧ report.expired = expired.length
  /-- What is ordered is new once the others are out. -/
  new : (report.emitted.map Instruction.key).Nodup ∧ ∀ i ∈ report.emitted,
    (q.pending.filter fun key _ => key ∉ completed ∧ key ∉ expired).contains i.key = false
  pending : q'.pending = (q.pending.filter fun key _ => key ∉ completed ∧ key ∉ expired).insertAll
    (report.emitted.map fun i => (i.key, i))
  /-- Whatever is pending afterwards is waited for. -/
  awaited : ∀ key i, q'.pending.get? key = some i → Awaited chunks nodes now ttl key i
  /-- What was waited for is pending as it was. -/
  unchanged : ∀ key i, q.pending.get? key = some i → Awaited chunks nodes now ttl key i →
    q'.pending.get? key = some i

variable {q q' : Queue} {chunks : List ChunkRecord} {nodes : List Node} {now ttl : UInt64}
  {pending : Table CopyKey Instruction} {report : SweepReport} {key : CopyKey} {i : Instruction}

/-! ## Verdicts -/

/-- The survey finds those completed that have their copy. -/
theorem verdict_eq_completed_iff (hc : (chunks.map ChunkRecord.id).Nodup) :
    (Survey.ofRecords chunks nodes pending now ttl).verdict key i = .completed ↔
      HasCopy chunks key := by
  rw [Survey.verdict]
  split
  · next hnone =>
    constructor
    · intro h
      cases h
    · rintro ⟨c, hmem, hid, -⟩
      rw [(Survey.get?_chunksById hc).2 ⟨hmem, hid⟩] at hnone
      cases hnone
  · next c hfound =>
    obtain ⟨hmem, hid⟩ := (Survey.get?_chunksById hc).1 hfound
    have hcopy : HasCopy chunks key ↔ c.replicas.contains key.target := by
      constructor
      · rintro ⟨c', hmem', hid', hcopy⟩
        rwa [List.inj_on_of_nodup_map hc hmem' hmem (hid'.trans hid.symm)] at hcopy
      · exact fun hcopy => ⟨c, hmem, hid, hcopy⟩
    rw [hcopy]
    cases c.replicas.contains key.target
    · simp only [Bool.false_eq_true, if_false, iff_false]
      intro hcompleted
      split at hcompleted <;> cases hcompleted
    · simp

/-- It finds those in flight that are waited for. -/
theorem verdict_eq_inFlight_iff (hc : (chunks.map ChunkRecord.id).Nodup)
    (hn : (nodes.map Node.id).Nodup) :
    (Survey.ofRecords chunks nodes pending now ttl).verdict key i = .inFlight ↔
      Awaited chunks nodes now ttl key i := by
  have htarget : key.target ∈ (nodes.filter Node.isHealthy).map Node.id ↔
      ∃ n ∈ nodes, n.isHealthy ∧ n.id = key.target := by
    simp only [List.mem_map, List.mem_filter, and_assoc]
  constructor
  · intro h
    obtain ⟨c, hmem, hid⟩ : ∃ c ∈ chunks, c.id = key.chunk := by
      rw [Survey.verdict] at h
      split at h
      · cases h
      · next c hfound => exact ⟨c, (Survey.get?_chunksById hc).1 hfound⟩
    obtain ⟨chunk, target⟩ := key
    subst hid
    obtain ⟨hnone, hyoung, hhealthy⟩ := (Survey.verdict_ofRecords hc hn hmem).1 h
    exact ⟨⟨c, hmem, rfl, hnone⟩, htarget.1 hhealthy, hyoung⟩
  · rintro ⟨⟨c, hmem, hid, hnone⟩, hhealthy, hyoung⟩
    obtain ⟨chunk, target⟩ := key
    subst hid
    exact (Survey.verdict_ofRecords hc hn hmem).2 ⟨hnone, hyoung, htarget.2 hhealthy⟩

theorem nodup_withVerdict (s : Survey) (v : Verdict) : (s.withVerdict v).Nodup :=
  s.pending.nodup_keys.sublist (List.filter_sublist.map _)

/-- As many instructions are taken out as keys are listed. -/
theorem countP_withVerdict (s : Survey) (v : Verdict) :
    s.pending.toList.countP (fun e => e.1 ∈ s.withVerdict v) = (s.withVerdict v).length := by
  rw [Survey.withVerdict, List.length_map, ← List.countP_eq_length_filter]
  refine List.countP_congr fun e he => ?_
  have hget : s.pending.get? e.1 = some e.2 := Table.mem_toList_iff.1 he
  rw [decide_eq_true_eq, decide_eq_true_eq, ← Survey.mem_withVerdict_of_get? hget]
  rfl

/-- No instruction has two verdicts. -/
theorem disjoint_withVerdict (s : Survey) {v v' : Verdict} (h : v ≠ v') :
    (s.withVerdict v).Disjoint (s.withVerdict v') := by
  intro key hv hv'
  obtain ⟨i, hget, hverdict⟩ := Survey.mem_withVerdict.1 hv
  rw [Survey.mem_withVerdict_of_get? hget, hverdict] at hv'
  exact h hv'

/-- What stays is what is neither completed nor expired. -/
theorem kept_eq_filter (s : Survey) : Queue.kept s =
    s.pending.filter fun key _ => key ∉ s.findings.completed ∧ key ∉ s.findings.expired := by
  refine Table.ext_get? fun key => Option.ext fun i => ?_
  rw [Queue.get?_kept, Table.get?_filter_eq_some, decide_eq_true_eq]
  exact and_congr_right fun hget => Survey.verdict_eq_inFlight hget

/-! ## A whole sweep -/

section

variable (hc : (chunks.map ChunkRecord.id).Nodup)

include hc

/-- Completed is what has its copy, -/
theorem mem_completed_findings :
    key ∈ (Survey.ofRecords chunks nodes pending now ttl).findings.completed ↔
      pending.contains key ∧ HasCopy chunks key := by
  rw [Table.contains_iff, ← exists_and_right]
  exact Survey.mem_withVerdict.trans
    (exists_congr fun i => and_congr_right fun _ => verdict_eq_completed_iff hc)

variable (hn : (nodes.map Node.id).Nodup)

include hn

/-- and expired is what has none and is not waited for. -/
theorem mem_expired_findings :
    key ∈ (Survey.ofRecords chunks nodes pending now ttl).findings.expired ↔
      ∃ i, pending.get? key = some i ∧ ¬HasCopy chunks key ∧
        ¬Awaited chunks nodes now ttl key i := by
  refine Survey.mem_withVerdict.trans (exists_congr fun i => and_congr_right fun _ => ?_)
  rw [← verdict_eq_completed_iff (i := i) hc, ← verdict_eq_inFlight_iff hc hn]
  cases Survey.verdict _ key i <;> simp

variable (httl : 1 ≤ ttl)

include httl

/-- What is ordered is waited for. -/
theorem awaited_of_mem_emitted
    (hreport : report.emitted = (Survey.ofRecords chunks nodes pending now ttl).findings.emitted)
    (hi : i ∈ report.emitted) : Awaited chunks nodes now ttl i.key i := by
  obtain ⟨c, hmem, hchunk, hissued, htarget⟩ := exists_emittedFor hreport hi
  have hserved : Served pending nodes now ttl report c := served hc hn hreport hmem
  refine ⟨⟨c, hmem, hchunk.symm, (hserved.outside _ htarget).1⟩, hserved.healthy _ htarget, ?_⟩
  rw [hissued, isFresh, Nat.sub_self]
  exact decide_eq_true (UInt64.le_iff_toNat_le.1 httl)

/-- So is all that is pending after the merge. -/
theorem awaited_of_get?_merge
    (hi : (q.merge now (Survey.ofRecords chunks nodes q.pending now ttl).findings).2.pending.get?
      key = some i) : Awaited chunks nodes now ttl key i := by
  have hids : ((Survey.ofRecords chunks nodes q.pending now ttl).chunks.map
    ChunkRecord.id).Nodup := hc
  rcases (Queue.get?_merge_findings rfl hids now).1 hi with ⟨hnew, rfl⟩ | ⟨-, -, hverdict⟩
  · have hemitted := (Queue.merge_findings (q := q) rfl hids now).1
    exact awaited_of_mem_emitted hc hn httl hemitted (hemitted.symm ▸ hnew)
  · exact (verdict_eq_inFlight_iff hc hn).1 hverdict

omit httl in
/-- What was waited for before is still pending, and the same. -/
theorem get?_merge_of_awaited (hi : q.pending.get? key = some i)
    (hawaited : Awaited chunks nodes now ttl key i) :
    (q.merge now (Survey.ofRecords chunks nodes q.pending now ttl).findings).2.pending.get? key =
      some i := by
  have hids : ((Survey.ofRecords chunks nodes q.pending now ttl).chunks.map
    ChunkRecord.id).Nodup := hc
  have hverdict : (Survey.ofRecords chunks nodes q.pending now ttl).verdict key i = .inFlight :=
    (verdict_eq_inFlight_iff hc hn).2 hawaited
  refine (Queue.get?_merge_findings rfl hids now).2 (.inr ⟨fun hnew => ?_, hi, hverdict⟩)
  obtain ⟨j, hj, rfl⟩ := List.mem_map.1 hnew
  have hnone := Queue.contains_kept hids hj
  rw [Table.contains_of_get? (Queue.get?_kept.2 ⟨hi, hverdict⟩)] at hnone
  cases hnone

end

/-- The merge into the queue that was surveyed counts every instruction that is listed. -/
theorem counted_merge {s : Survey} (hq : q.pending = s.pending) (now : UInt64) :
    (q.merge now s.findings).1.completed = s.findings.completed.length ∧
      (q.merge now s.findings).1.expired = s.findings.expired.length := by
  rw [Queue.completed_merge, Queue.expired_merge, hq]
  refine ⟨countP_withVerdict s .completed, ?_⟩
  refine Eq.trans (List.countP_congr fun e _ => ?_) (countP_withVerdict s .expired)
  simp only [Bool.and_eq_true, decide_eq_true_eq]
  exact and_iff_left_of_imp fun hexpired hcompleted =>
    disjoint_withVerdict s (by decide) hcompleted hexpired

/-- Every sweep of a queue over records with different identifiers keeps it up. -/
theorem sweep_upkeep (q : Queue) (chunks : List ChunkRecord) (nodes : List Node) (now ttl : UInt64)
    (hq : q.sweeping = false) (hc : (chunks.map ChunkRecord.id).Nodup)
    (hn : (nodes.map Node.id).Nodup) (httl : 1 ≤ ttl) :
    ∃ report q' completed expired, q.sweep chunks nodes now ttl = .ok (report, q') ∧
      Upkeep q chunks nodes now ttl report q' completed expired := by
  have hids : ((Survey.ofRecords chunks nodes q.pending now ttl).chunks.map
    ChunkRecord.id).Nodup := hc
  obtain ⟨hemitted, hmerged⟩ :=
    Queue.merge_findings (q := { q with sweeping := true }) rfl hids now
  refine ⟨_, _, (Survey.ofRecords chunks nodes q.pending now ttl).findings.completed,
    (Survey.ofRecords chunks nodes q.pending now ttl).findings.expired, sweep_eq hq, ?_⟩
  constructor
  case mem_completed => exact fun key => mem_completed_findings hc
  case mem_expired => exact fun key => mem_expired_findings hc hn
  case disjoint => exact disjoint_withVerdict _ (by decide)
  case nodup => exact ⟨nodup_withVerdict _ _, nodup_withVerdict _ _⟩
  case counted => exact counted_merge rfl now
  case new =>
    rw [hemitted]
    refine ⟨Queue.nodup_key_findings hids, fun i hi => ?_⟩
    have hnone := Queue.contains_kept hids hi
    rwa [kept_eq_filter] at hnone
  case pending =>
    rw [kept_eq_filter] at hmerged
    rw [hemitted]
    exact hmerged
  case awaited => exact fun key i => awaited_of_get?_merge hc hn httl
  case unchanged => exact fun key i => get?_merge_of_awaited hc hn

/-- A chunk with two of four copies. -/
def sparseChunk : ChunkRecord where
  id := ⟨1⟩
  file := ⟨9⟩
  index := 0
  size := 10
  desired := 4
  replicas := .ofKeys ["a", "b"]
  expected := .ofKeys ["a", "b"]
  createdAt := 0

/-- Four nodes that fare well and one, `d`, that does not. -/
def fiveNodes : List Node :=
  ["a", "b", "c", "d", "e"].map fun id =>
    ⟨id, "host", 1, 100, 50, if id = "d" then .unhealthy else .healthy, 0, 0⟩

/-- Instructions for a copy that is there, for an old one, for one to a node that does not fare
well, for one that may still come, and for a chunk that is not on record. -/
def mixedQueue : Queue where
  pending := .ofList ([(1, "b", 90), (1, "c", 50), (1, "d", 90), (1, "e", 90), (2, "a", 90)].map
    fun (chunk, target, issuedAt) =>
      (⟨⟨chunk⟩, target⟩, ⟨⟨chunk⟩, ⟨9⟩, 0, 10, some "a", target, issuedAt⟩))
  unrecoverable := .empty
  lastSweep := none
  sweeping := false

/-- One of them is completed and three expire. The old one is issued anew under its key, and the one
that may still come stays. -/
theorem sweep_upkeep_mixedQueue :
    ∃ report q' completed expired, mixedQueue.sweep [sparseChunk] fiveNodes 100 30 =
        .ok (report, q') ∧
      Upkeep mixedQueue [sparseChunk] fiveNodes 100 30 report q' completed expired ∧
      report.completed = 1 ∧ report.expired = 3 ∧
      report.emitted.map Instruction.key = [⟨⟨1⟩, "c"⟩] ∧ ⟨⟨1⟩, "c"⟩ ∈ expired ∧
      q'.pending.get? ⟨⟨1⟩, "e"⟩ = mixedQueue.pending.get? ⟨⟨1⟩, "e"⟩ := by
  obtain ⟨report, q', completed, expired, hsweep, h⟩ := sweep_upkeep mixedQueue [sparseChunk]
    fiveNodes 100 30 rfl (by decide) (by decide) (by decide)
  have hread : (mixedQueue.sweep [sparseChunk] fiveNodes 100 30).map
      (fun r => (r.1.completed, r.1.expired, r.1.emitted.map Instruction.key,
        r.2.pending.get? ⟨⟨1⟩, "e"⟩)) =
      .ok (1, 3, [⟨⟨1⟩, "c"⟩], mixedQueue.pending.get? ⟨⟨1⟩, "e"⟩) := by
    decide +kernel
  rw [hsweep] at hread
  obtain ⟨hcompleted, hexpired, hemitted, hkept⟩ : report.completed = 1 ∧ report.expired = 3 ∧
      report.emitted.map Instruction.key = [⟨⟨1⟩, "c"⟩] ∧
        q'.pending.get? ⟨⟨1⟩, "e"⟩ = mixedQueue.pending.get? ⟨⟨1⟩, "e"⟩ := by
    simpa [Except.map] using hread
  refine ⟨report, q', completed, expired, hsweep, h, hcompleted, hexpired, hemitted, ?_, hkept⟩
  refine (h.mem_expired _).2 ⟨⟨⟨1⟩, ⟨9⟩, 0, 10, some "a", "c", 50⟩, by decide +kernel, ?_,
    fun hawaited => absurd hawaited.young (by decide)⟩
  rintro ⟨c, hmem, -, hcopy⟩
  rw [List.mem_singleton.1 hmem] at hcopy
  exact absurd hcopy (by decide)

end Repair

end ChunkCoordinator
