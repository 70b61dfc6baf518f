import ChunkCoordinator.Proofs.Convergence

/-!
# Nodes that come and go

A holder that is healthy at one sweep and not at the next one changes how many copies a chunk
lacks, but not what is under way. `Queue.Calm` describes a run of requests to the queue in which
one chunk keeps its record, nothing that is pending for it is taken out, every sweep falls into the
life of an instruction, and the nodes that were told to fetch a copy stay healthy. All else is free :
the holders and the other nodes, the other chunks, and what is taken out while a sweep is under way.

Whatever such a run has ordered for the chunk is still under way (`Repair.UnderWay`), so a sweep
only orders what is missing beyond that. Hence the whole run orders no more copies than the worst of
its sweeps has found missing, each of them once (`Queue.Calm.ordered_bounded`).
-/

set_option linter.unusedSectionVars false

namespace ChunkCoordinator

/-! ## Requests to the queue -/

namespace Queue

/-- Something that takes instructions out of the queue. -/
inductive Removal where
  | acknowledge (chunk : ChunkId) (target : NodeId)
  | forgetChunks (chunks : List ChunkId)
  | forgetTarget (target : NodeId)

/-- A sweep over some records. Between its survey and its merge some instructions are taken out. -/
structure Sweeping where
  chunks : List ChunkRecord
  nodes : List Node
  now : UInt64
  meanwhile : List Removal

/-- What is asked of the queue. -/
inductive Request where
  | remove (removal : Removal)
  | sweep (sweeping : Sweeping)

/-- The queue after a removal. -/
def remove (q : Queue) : Removal → Queue
  | .acknowledge chunk target => (q.acknowledge chunk target).2
  | .forgetChunks chunks => q.forgetChunks chunks
  | .forgetTarget target => (q.forgetTarget target).2

/-- A whole sweep, during which the queue may change. -/
def sweepAmid (q : Queue) (s : Sweeping) (ttl : UInt64) :
    Except ServiceError (SweepReport × Queue) :=
  (q.begin s.chunks s.nodes s.now ttl).map fun (survey, q) =>
    let (report, q) := (s.meanwhile.foldl remove q).merge s.now survey.findings
    (report, q.finish)

/-- If nothing is taken out, this is any other sweep. -/
example (q : Queue) (chunks : List ChunkRecord) (nodes : List Node) (now ttl : UInt64) :
    q.sweepAmid ⟨chunks, nodes, now, []⟩ ttl = q.sweep chunks nodes now ttl := rfl

/-- The instructions that a request issues, and the queue afterwards. -/
def handle (ttl : UInt64) (q : Queue) : Request → List Instruction × Queue
  | .remove removal => ([], q.remove removal)
  | .sweep s =>
    match q.sweepAmid s ttl with
    | .error _ => ([], q)
    | .ok (report, q) => (report.emitted, q)

/-- The queue after some requests, the newest of which comes first. -/
def after (ttl : UInt64) (start : Queue) : List Request → Queue
  | [] => start
  | request :: past => ((after ttl start past).handle ttl request).2

/-- The instructions that some requests issue, the newest last. -/
def issued (ttl : UInt64) (start : Queue) : List Request → List Instruction
  | [] => []
  | request :: past => issued ttl start past ++ ((after ttl start past).handle ttl request).1

/-- The targets of the instructions that some requests issue for a chunk. -/
def ordered (ttl : UInt64) (start : Queue) (id : ChunkId) (requests : List Request) : List NodeId :=
  ((issued ttl start requests).filter fun i => i.chunk = id).map Instruction.target

/-- What is pending for the chunk stays so. -/
def Spares (q : Queue) (id : ChunkId) (removals : List Removal) : Prop :=
  ∀ t, q.isPending id t → (removals.foldl remove q).isPending id t

/-- A sweep that finds the chunk as it ever was, before an instruction of the opening time has
expired, and every node healthy that has been told to fetch a copy. -/
structure Steady (c : ChunkRecord) (opening : Nat) (ttl : UInt64) (q : Queue) (told : List NodeId)
    (s : Sweeping) : Prop where
  distinctChunks : (s.chunks.map ChunkRecord.id).Nodup
  distinctNodes : (s.nodes.map Node.id).Nodup
  present : ∃ r ∈ s.chunks, r.id = c.id ∧ r.replicas = c.replicas ∧ r.desired = c.desired
  since : opening ≤ s.now.toNat
  before : s.now.toNat < opening + ttl.toNat
  healthy : ∀ t ∈ told, ∃ n ∈ s.nodes, n.isHealthy ∧ n.id = t
  spares : q.Spares c.id s.meanwhile

/-- Requests, the newest first, that leave a chunk and what is ordered for it alone. -/
inductive Calm (c : ChunkRecord) (opening : Nat) (ttl : UInt64) (start : Queue) :
    List Request → Prop where
  | nil : Calm c opening ttl start []
  | remove {past : List Request} {removal : Removal} (calm : Calm c opening ttl start past)
      (spares : (after ttl start past).Spares c.id [removal]) :
      Calm c opening ttl start (.remove removal :: past)
  | sweep {past : List Request} {s : Sweeping} (calm : Calm c opening ttl start past)
      (steady : Steady c opening ttl (after ttl start past) (ordered ttl start c.id past) s) :
      Calm c opening ttl start (.sweep s :: past)

end Queue

namespace Repair

open Queue

/-- How many copies a sweep finds missing on healthy nodes, those under way included. -/
def deficit (c : ChunkRecord) (s : Sweeping) : Nat :=
  c.desired.toNat - (holders s.nodes c).length

/-- The greatest deficit of all sweeps. -/
def worstDeficit (c : ChunkRecord) : List Request → Nat
  | [] => 0
  | .remove _ :: past => worstDeficit c past
  | .sweep s :: past => max (worstDeficit c past) (deficit c s)

/-- Copies of the chunk to some nodes have been ordered, each once, and are pending since the opening
time at the earliest. -/
structure UnderWay (c : ChunkRecord) (opening : Nat) (q : Queue) (told : List NodeId) : Prop where
  nodup : told.Nodup
  outside : ∀ t ∈ told, c.replicas.contains t = false
  pending : ∀ t ∈ told, ∃ i, q.pending.get? ⟨c.id, t⟩ = some i ∧ opening ≤ i.issuedAt.toNat

end Repair

/-! ## Removals -/

namespace Queue

theorem get?_remove {q : Queue} {key : CopyKey} {i : Instruction} :
    ∀ {removal : Removal}, (q.remove removal).pending.get? key = some i →
      q.pending.get? key = some i
  | .acknowledge _ _, h => (Table.get?_erase_eq_some.1 h).2
  | .forgetChunks _, h => (Table.get?_filter_eq_some.1 h).1
  | .forgetTarget _, h => (Table.get?_filter_eq_some.1 h).1

theorem get?_foldl_remove {key : CopyKey} {i : Instruction} :
    ∀ {removals : List Removal} {q : Queue},
      (removals.foldl remove q).pending.get? key = some i → q.pending.get? key = some i
  | [], _, h => h
  | _ :: _, _, h => get?_remove (get?_foldl_remove h)

/-- Only the pending instructions matter to removals. -/
theorem pending_foldl_remove : ∀ (removals : List Removal) {q q' : Queue}, q.pending = q'.pending →
    (removals.foldl remove q).pending = (removals.foldl remove q').pending
  | [], _, _, h => h
  | removal :: removals, q, q', h => by
    have hfirst : (q.remove removal).pending = (q'.remove removal).pending := by
      cases removal <;> simp [remove, acknowledge, forgetChunks, forgetTarget, h]
    exact pending_foldl_remove removals hfirst

/-- Spared instructions are the same as before. -/
theorem Spares.get? {q : Queue} {id : ChunkId} {removals : List Removal} {t : NodeId}
    {i : Instruction} (h : q.Spares id removals) (hi : q.pending.get? ⟨id, t⟩ = some i) :
    (removals.foldl remove q).pending.get? ⟨id, t⟩ = some i := by
  obtain ⟨j, hj⟩ := Table.contains_iff.1 (h t (Table.contains_of_get? hi))
  have hold := get?_foldl_remove hj
  rw [hi] at hold
  rw [hj, hold]

/-- A sweep that is refused issues nothing. -/
theorem handle_sweep_of_sweeping {q : Queue} (h : q.sweeping) (s : Sweeping) (ttl : UInt64) :
    q.handle ttl (.sweep s) = ([], q) := by
  simp [handle, sweepAmid, Queue.begin, h, Except.map]

/-- A sweep issues some of what its survey finds. Of what is not taken out meanwhile, it leaves alone
what is in flight. -/
theorem exists_handle_sweep {q : Queue} (h : q.sweeping = false) (s : Sweeping) (ttl : UInt64) :
    ∃ new q', q.handle ttl (.sweep s) = (new, q') ∧
      new.Sublist (Survey.ofRecords s.chunks s.nodes q.pending s.now ttl).findings.emitted ∧
      (∀ i ∈ new, q'.pending.get? i.key = some i) ∧
      ∀ key i, (s.meanwhile.foldl remove q).pending.get? key = some i →
        (Survey.ofRecords s.chunks s.nodes q.pending s.now ttl).verdict key i = .inFlight →
        q'.pending.get? key = some i := by
  generalize hsurvey : Survey.ofRecords s.chunks s.nodes q.pending s.now ttl = survey
  generalize hamid : s.meanwhile.foldl remove { q with sweeping := true } = amid
  have hpending : (s.meanwhile.foldl remove q).pending = amid.pending := by
    rw [← hamid]
    exact pending_foldl_remove s.meanwhile rfl
  have hsurveyed : survey.pending = q.pending := by
    rw [← hsurvey]
    rfl
  refine ⟨(amid.merge s.now survey.findings).1.emitted, (amid.merge s.now survey.findings).2.finish,
    ?_, emitted_merge_sublist _ _ _, fun i hi => ?_, fun key i hi hverdict => ?_⟩
  · rw [← hamid, ← hsurvey]
    simp [handle, sweepAmid, Queue.begin, h, Except.map]
  · exact (get?_merge amid s.now survey.findings).2 (.inl ⟨rfl, hi⟩)
  · have hold : survey.pending.get? key = some i := hsurveyed ▸ get?_foldl_remove hi
    exact (get?_merge amid s.now survey.findings).2
      (.inr ⟨hpending ▸ hi, (Survey.verdict_eq_inFlight hold).1 hverdict⟩)

/-- At a steady sweep nothing has expired that was issued since the opening time. -/
theorem Steady.isFresh {c : ChunkRecord} {opening : Nat} {ttl : UInt64} {q : Queue}
    {told : List NodeId} {s : Sweeping} (hs : Steady c opening ttl q told s) {issued : UInt64}
    (h : opening ≤ issued.toNat) : Repair.isFresh s.now ttl issued := by
  have hsince := hs.since
  have hbefore := hs.before
  exact decide_eq_true (by omega)

end Queue

namespace Repair

open Queue

variable {c : ChunkRecord} {opening : Nat} {ttl : UInt64} {q start : Queue} {told : List NodeId}
  {s : Sweeping}

theorem UnderWay.remove (h : UnderWay c opening q told) {removals : List Removal}
    (hspares : q.Spares c.id removals) : UnderWay c opening (removals.foldl Queue.remove q) told where
  nodup := h.nodup
  outside := h.outside
  pending t ht := by
    obtain ⟨i, hi, hissued⟩ := h.pending t ht
    exact ⟨i, hspares.get? hi, hissued⟩

/-! ## One sweep -/

/-- What is under way is in flight at a sweep. -/
theorem UnderWay.mem_inFlight (h : UnderWay c opening q told) (hs : Steady c opening ttl q told s)
    {r : ChunkRecord} (hid : r.id = c.id) (hreplicas : r.replicas = c.replicas) {t : NodeId}
    (ht : t ∈ told) : t ∈ inFlight q.pending s.nodes s.now ttl r := by
  obtain ⟨i, hi, hissued⟩ := h.pending t ht
  obtain ⟨n, hn, hhealthy, hname⟩ := hs.healthy t ht
  refine Survey.mem_inFlight.2 ⟨hreplicas ▸ h.outside t ht, ?_,
    .inl ⟨i, hid ▸ hi, hs.isFresh hissued⟩⟩
  exact List.mem_map.2 ⟨n, List.mem_filter.2 ⟨hn, hhealthy⟩, hname⟩

/-- Something is ordered only as long as all that is under way makes up for less than the deficit. -/
theorem UnderWay.length_le (h : UnderWay c opening q told) (hs : Steady c opening ttl q told s)
    {r : ChunkRecord} (hid : r.id = c.id) (hreplicas : r.replicas = c.replicas)
    (hdesired : r.desired = c.desired) {n : Nat} (hn : n ≤ missing q.pending s.nodes s.now ttl r) :
    told.length + n ≤ max told.length (deficit c s) := by
  have hholders : holders s.nodes r = holders s.nodes c := by
    unfold holders
    rw [hreplicas]
  have hflight : told.length ≤ (inFlight q.pending s.nodes s.now ttl r).length :=
    (List.subperm_of_subset h.nodup fun t ht => h.mem_inFlight hs hid hreplicas ht).length_le
  unfold missing at hn
  rw [hdesired, hholders] at hn
  unfold deficit
  omega

/-- A sweep adds the nodes that it tells to fetch a copy to those that a copy is under way to, as
many as its deficit allows. -/
theorem UnderWay.sweep (h : UnderWay c opening q told) (hs : Steady c opening ttl q told s)
    {new : List Instruction} {q' : Queue} (hhandle : q.handle ttl (.sweep s) = (new, q')) :
    UnderWay c opening q' (told ++ (new.filter fun i => i.chunk = c.id).map Instruction.target) ∧
      (told ++ (new.filter fun i => i.chunk = c.id).map Instruction.target).length ≤
        max told.length (deficit c s) := by
  by_cases hsweeping : q.sweeping
  · obtain ⟨rfl, rfl⟩ := Prod.mk.inj ((handle_sweep_of_sweeping hsweeping s ttl).symm.trans hhandle)
    rw [List.filter_nil, List.map_nil, List.append_nil]
    exact ⟨h, Nat.le_max_left _ _⟩
  obtain ⟨new', q'', hhandle', hsub, hissued, hkept⟩ :=
    exists_handle_sweep (Bool.eq_false_iff.2 hsweeping) s ttl
  obtain ⟨rfl, rfl⟩ := Prod.mk.inj (hhandle'.symm.trans hhandle)
  obtain ⟨r, hmem, hid, hreplicas, hdesired⟩ := hs.present
  generalize hsurvey : Survey.ofRecords s.chunks s.nodes q.pending s.now ttl = survey at hsub hkept
  -- what is found for the chunk goes to nodes that have not been told, and not to too many
  obtain ⟨report, hreport⟩ : ∃ report : SweepReport, report.emitted = survey.findings.emitted :=
    ⟨⟨s.now, survey.findings.emitted, [], 0, 0, 0⟩, rfl⟩
  have hserved : Served q.pending s.nodes s.now ttl report r :=
    served hs.distinctChunks hs.distinctNodes (by rw [hreport, ← hsurvey]) hmem
  have htargets : ((new'.filter fun i => i.chunk = c.id).map Instruction.target).Sublist
      (emittedFor report r) := by
    rw [emittedFor, hreport, hid]
    exact (hsub.filter _).map _
  refine ⟨⟨List.nodup_append.2 ⟨h.nodup, hserved.nodup.sublist htargets, ?_⟩, ?_, ?_⟩, ?_⟩
  · rintro t ht t' ht' rfl
    exact (hserved.outside t (htargets.subset ht')).2 (h.mem_inFlight hs hid hreplicas ht)
  · intro t ht
    rcases List.mem_append.1 ht with ht | ht
    · exact h.outside t ht
    · exact hreplicas ▸ (hserved.outside t (htargets.subset ht)).1
  · intro t ht
    rcases List.mem_append.1 ht with ht | ht
    · obtain ⟨i, hi, hsince⟩ := h.pending t ht
      refine ⟨i, hkept _ _ (hs.spares.get? hi) ?_, hsince⟩
      rw [← hsurvey, ← hid, Survey.verdict_ofRecords hs.distinctChunks hs.distinctNodes hmem]
      obtain ⟨hout, hhealthy, -⟩ := Survey.mem_inFlight.1 (h.mem_inFlight hs hid hreplicas ht)
      exact ⟨hout, hs.isFresh hsince, hhealthy⟩
    · obtain ⟨i, hi, rfl⟩ := List.mem_map.1 ht
      obtain ⟨hi, hchunk⟩ := List.mem_filter.1 hi
      have hkey : i.key = ⟨c.id, i.target⟩ := by rw [Instruction.key, of_decide_eq_true hchunk]
      obtain ⟨_, -, heq⟩ := Survey.mem_emitted_findings (hsub.subset hi)
      refine ⟨i, hkey ▸ hissued i hi, ?_⟩
      rw [heq, Survey.order, ← hsurvey]
      exact hs.since
  · rw [List.length_append]
    exact h.length_le hs hid hreplicas hdesired (htargets.length_le.trans hserved.bounded)

/-! ## The whole run -/

variable {requests : List Request}

theorem ordered_cons (id : ChunkId) (request : Request) (past : List Request) :
    ordered ttl start id (request :: past) = ordered ttl start id past ++
      ((((after ttl start past).handle ttl request).1.filter fun i => i.chunk = id).map
        Instruction.target) := by
  rw [ordered, issued, List.filter_append, List.map_append]
  rfl

/-- All that has been ordered is under way. -/
theorem underWay_of_calm (calm : Calm c opening ttl start requests) :
    UnderWay c opening (after ttl start requests) (ordered ttl start c.id requests) ∧
      (ordered ttl start c.id requests).length ≤ worstDeficit c requests := by
  induction calm with
  | nil => exact ⟨⟨.nil, by simp [ordered, issued], by simp [ordered, issued]⟩, Nat.le_refl 0⟩
  | @remove past removal calm spares ih =>
    obtain ⟨hunderWay, hle⟩ := ih
    have hsame : ordered ttl start c.id (.remove removal :: past) = ordered ttl start c.id past := by
      rw [ordered_cons]
      exact List.append_nil _
    rw [hsame]
    exact ⟨hunderWay.remove spares, hle⟩
  | @sweep past s calm steady ih =>
    obtain ⟨hunderWay, hle⟩ := ih
    obtain ⟨hunderWay', hle'⟩ := hunderWay.sweep steady rfl
    rw [ordered_cons]
    exact ⟨hunderWay', hle'.trans (max_le_max_right _ hle)⟩

end Repair

/-- However the holders of a chunk and all other nodes come and go, no copy of it is ordered twice,
and no more copies in all than were missing at the worst of the sweeps. -/
theorem Queue.Calm.ordered_bounded {c : ChunkRecord} {opening : Nat} {ttl : UInt64} {start : Queue}
    {requests : List Request} (calm : Calm c opening ttl start requests) :
    (ordered ttl start c.id requests).Nodup ∧
      (ordered ttl start c.id requests).length ≤ Repair.worstDeficit c requests := by
  obtain ⟨hunderWay, hle⟩ := Repair.underWay_of_calm calm
  exact ⟨hunderWay.nodup, hle⟩

namespace Repair

/-- A chunk that should have two copies and has one. -/
def halvedChunk : ChunkRecord :=
  { freshUpload with
    desired := 2, replicas := .ofKeys ["a"], expected := .ofKeys ["a"], createdAt := 0 }

/-- A sweep that finds the holder in some health, and two spare nodes. -/
def holderIs (health : Health) (now : UInt64) : Queue.Sweeping where
  chunks := [halvedChunk]
  nodes := [{ spareNode with id := "a", health }, spareNode, { spareNode with id := "c" }]
  now
  meanwhile := []

/-- The holder fails between two sweeps and is back at a third. -/
def flappingHolder : List Queue.Request :=
  [.sweep (holderIs .healthy 129), .sweep (holderIs .unhealthy 110), .sweep (holderIs .healthy 100)]

/-- Both copies that were missing at the worst are ordered, and when the holder is back, no more. -/
theorem ordered_bounded_flappingHolder :
    Queue.ordered 30 .empty halvedChunk.id flappingHolder = ["b", "c"] ∧
      (Queue.ordered 30 .empty halvedChunk.id flappingHolder).Nodup ∧
      (Queue.ordered 30 .empty halvedChunk.id flappingHolder).length ≤
        worstDeficit halvedChunk flappingHolder := by
  have hsteady : ∀ {health : Health} {now : UInt64} {q : Queue} {told : List NodeId},
      100 ≤ now.toNat → now.toNat < 130 → told ⊆ ["b", "c"] →
      Queue.Steady halvedChunk 100 30 q told (holderIs health now) := by
    intro health now q told hsince hbefore htold
    refine ⟨by simp [holderIs], by simp [holderIs, spareNode], ⟨_, List.mem_cons_self, rfl, rfl, rfl⟩,
      hsince, hbefore, fun t ht => ?_, fun t h => h⟩
    rcases List.mem_cons.1 (htold ht) with rfl | hc
    · exact ⟨spareNode, by simp [holderIs], rfl, rfl⟩
    · exact ⟨{ spareNode with id := "c" }, by simp [holderIs], rfl, (List.mem_singleton.1 hc).symm⟩
  have hcalm : Queue.Calm halvedChunk 100 30 .empty flappingHolder := by
    refine .sweep (.sweep (.sweep .nil (hsteady ?_ ?_ ?_)) (hsteady ?_ ?_ ?_)) (hsteady ?_ ?_ ?_)
    all_goals decide +kernel
  exact ⟨by decide +kernel, hcalm.ordered_bounded⟩

end Repair

end ChunkCoordinator
