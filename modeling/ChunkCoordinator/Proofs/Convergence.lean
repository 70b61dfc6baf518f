import ChunkCoordinator.Proofs.Repair
import Mathlib.Algebra.Order.BigOperators.Group.List
import Mathlib.Algebra.Order.Group.Nat

/-!
# Repeated sweeps come to rest

`Queue.sweepTimes` sweeps over the same records again and again. What one sweep orders is fresh, so
the next one finds it in flight : a sweep adds to the copies in flight those that it orders and
takes none away (`Repair.perm_inFlight_sweep`). There are no more of them than pairs of a chunk and
a healthy node, so some sweep orders nothing. A sweep orders nothing if and only if every chunk is
settled (`Repair.emitted_eq_nil_iff`), and then it leaves them settled. Together this is
`Repair.sweeps_settle`.
-/

set_option linter.unusedSectionVars false

namespace ChunkCoordinator

/-- The reports of some number of sweeps over the same records, and the queue afterwards. -/
def Queue.sweepTimes (chunks : List ChunkRecord) (nodes : List Node) (now ttl : UInt64) :
    Nat → Queue → Except ServiceError (List SweepReport × Queue)
  | 0, q => .ok ([], q)
  | n + 1, q =>
    match q.sweep chunks nodes now ttl with
    | .error why => .error why
    | .ok (report, q) =>
      (sweepTimes chunks nodes now ttl n q).map fun (reports, q) => (report :: reports, q)

namespace Repair

variable {q q' : Queue} {chunks : List ChunkRecord} {nodes : List Node} {now ttl : UInt64}
  {pending : Table CopyKey Instruction} {c : ChunkRecord} {report : SweepReport}

/-! ## Settled chunks -/

/-- The chunk has its copies or will have them, or no healthy node with room for it is left. -/
def Settled (pending : Table CopyKey Instruction) (nodes : List Node) (now ttl : UInt64)
    (c : ChunkRecord) : Prop :=
  c.desired.toNat ≤ (holders nodes c).length + (inFlight pending nodes now ttl c).length ∨
    ∀ n ∈ nodes, n.isHealthy → c.size ≤ n.free →
      c.replicas.contains n.id ∨ n.id ∈ inFlight pending nodes now ttl c

theorem Settled.of_perm {pending' : Table CopyKey Instruction}
    (hperm : (inFlight pending' nodes now ttl c).Perm (inFlight pending nodes now ttl c))
    (h : Settled pending nodes now ttl c) : Settled pending' nodes now ttl c := by
  unfold Settled at h ⊢
  simpa only [hperm.length_eq, hperm.mem_iff] using h

/-- With all the room there is, no node is chosen for a settled chunk, and only for those. -/
theorem targets_eq_nil_iff (hc : (chunks.map ChunkRecord.id).Nodup)
    (hn : (nodes.map Node.id).Nodup) (hmem : c ∈ chunks) :
    (Survey.ofRecords chunks nodes pending now ttl).targets
        (Survey.ofRecords chunks nodes pending now ttl).healthy.values c = [] ↔
      Settled pending nodes now ttl c := by
  have hneeded : (Survey.ofRecords chunks nodes pending now ttl).needed c =
      missing pending nodes now ttl c := Survey.needed_ofRecords hc hn hmem
  have hunderWay : ∀ t, ((Survey.ofRecords chunks nodes pending now ttl).underWay c).contains t ↔
      t ∈ inFlight pending nodes now ttl c := fun t =>
    Survey.contains_underWay_ofRecords hc hn hmem
  have hhealthy : ∀ n, n ∈ (Survey.ofRecords chunks nodes pending now ttl).healthy.values ↔
      n ∈ nodes ∧ n.isHealthy := by
    intro n
    simp only [Table.mem_values, Survey.get?_healthy hn, exists_and_left, exists_eq', and_true]
  constructor
  · intro htargets
    by_cases hzero : missing pending nodes now ttl c = 0
    · refine .inl ?_
      unfold missing at hzero
      omega
    · refine .inr fun n hmem' hhealthy' hfree => ?_
      by_contra hout
      have helig : Placement.eligible (c.replicas.addAll
          ((Survey.ofRecords chunks nodes pending now ttl).underWay c).keys) c.size n := by
        have hexclude : ¬(c.replicas.addAll
            ((Survey.ofRecords chunks nodes pending now ttl).underWay c).keys).contains n.id := by
          rw [Table.contains_addAll, Table.mem_keys, hunderWay]
          exact fun h => hout h.symm
        simpa [Placement.eligible, hhealthy', hfree] using hexclude
      obtain ⟨t, ht⟩ := Placement.exists_mem_chooseTargets
        (hneeded ▸ Nat.pos_of_ne_zero hzero) ((hhealthy n).2 ⟨hmem', hhealthy'⟩) helig
      rw [Survey.targets] at htargets
      rw [htargets] at ht
      cases ht
  · rintro (henough | hfull)
    · refine Survey.targets_of_needed_eq_zero _ ?_ _
      rw [hneeded, missing]
      omega
    · refine List.eq_nil_iff_forall_not_mem.2 fun t ht => ?_
      obtain ⟨⟨n, hmem', hhealthy', hfree, rfl⟩, hout, hnot⟩ := Survey.mem_targets ht
      rcases hfull n ((hhealthy n).1 hmem').1 hhealthy' hfree with h | h
      · rw [h] at hout
        cases hout
      · rw [(hunderWay n.id).2 h] at hnot
        cases hnot

/-- As long as no chunk is given anything, the room stays the same for all of them. -/
theorem forall_orders_eq_nil (s : Survey) (room : List Node) : ∀ cs : List ChunkRecord,
    (∀ o ∈ s.orders room cs, o.2 = []) ↔ ∀ c ∈ cs, s.targets room c = []
  | [] => by simp [Survey.orders]
  | c :: cs => by
    rw [Survey.orders, List.forall_mem_cons, List.forall_mem_cons]
    refine and_congr_right fun htargets => ?_
    have htargets : s.targets room c = [] := htargets
    rw [htargets, Placement.debit_nil]
    exact forall_orders_eq_nil s room cs

/-- A sweep orders nothing if and only if every chunk is settled. -/
theorem emitted_eq_nil_iff (hc : (chunks.map ChunkRecord.id).Nodup)
    (hn : (nodes.map Node.id).Nodup) :
    (Survey.ofRecords chunks nodes pending now ttl).findings.emitted = [] ↔
      ∀ c ∈ chunks, Settled pending nodes now ttl c := by
  have hscanned : ∀ c, c ∈ (Survey.ofRecords chunks nodes pending now ttl).scanned ↔ c ∈ chunks :=
    fun c => (Survey.perm_scanned _).mem_iff
  rw [(Survey.findings_eq hc).1, List.flatMap_eq_nil_iff]
  simp only [List.map_eq_nil_iff]
  rw [forall_orders_eq_nil]
  simp only [hscanned]
  exact forall₂_congr fun c hmem => targets_eq_nil_iff hc hn hmem

/-! ## One sweep after the other -/

theorem exists_sweep (hq : q.sweeping = false) (chunks : List ChunkRecord) (nodes : List Node)
    (now ttl : UInt64) : ∃ report q', q.sweep chunks nodes now ttl = .ok (report, q') :=
  ⟨_, _, sweep_eq hq⟩

/-- A sweep reports what its survey finds, and leaves the queue free for the next one. -/
theorem sweep_ok (hq : q.sweeping = false) (hc : (chunks.map ChunkRecord.id).Nodup)
    (hsweep : q.sweep chunks nodes now ttl = .ok (report, q')) :
    q'.sweeping = false ∧
      report.emitted = (Survey.ofRecords chunks nodes q.pending now ttl).findings.emitted ∧
      ∀ key i, q'.pending.get? key = some i ↔ (i ∈ report.emitted ∧ i.key = key) ∨
        (key ∉ report.emitted.map Instruction.key ∧ q.pending.get? key = some i ∧
          (Survey.ofRecords chunks nodes q.pending now ttl).verdict key i = .inFlight) := by
  rw [sweep_eq hq] at hsweep
  obtain ⟨rfl, rfl⟩ := Prod.mk.inj (Except.ok.inj hsweep)
  have hmerge := Queue.merge_findings (q := { q with sweeping := true })
    (s := Survey.ofRecords chunks nodes q.pending now ttl) rfl hc now
  refine ⟨rfl, hmerge.1, fun key i => ?_⟩
  rw [hmerge.1]
  exact Queue.get?_merge_findings rfl hc now

/-- A sweep adds to the copies in flight those that it orders. -/
theorem perm_inFlight_sweep (hq : q.sweeping = false) (hc : (chunks.map ChunkRecord.id).Nodup)
    (hn : (nodes.map Node.id).Nodup) (httl : 0 < ttl)
    (hsweep : q.sweep chunks nodes now ttl = .ok (report, q')) (hmem : c ∈ chunks) :
    (inFlight q'.pending nodes now ttl c).Perm
      (inFlight q.pending nodes now ttl c ++ emittedFor report c) := by
  obtain ⟨-, hemitted, hpending⟩ := sweep_ok hq hc hsweep
  have hserved : Served q.pending nodes now ttl report c := served hc hn hemitted hmem
  refine (List.perm_ext_iff_of_nodup (Survey.nodup_inFlight hn c) ?_).2 fun t => ?_
  · refine List.nodup_append.2 ⟨Survey.nodup_inFlight hn c, hserved.nodup, ?_⟩
    rintro t ht t' ht' rfl
    exact (hserved.outside t ht').2 ht
  rw [List.mem_append, mem_emittedFor, Survey.mem_inFlight, Survey.mem_inFlight]
  constructor
  · rintro ⟨hout, hhealthy, ⟨i, hi, hfresh⟩ | hupload⟩
    · rcases (hpending _ _).1 hi with hi | ⟨-, hi, -⟩
      · exact .inr ⟨i, hi⟩
      · exact .inl ⟨hout, hhealthy, .inl ⟨i, hi, hfresh⟩⟩
    · exact .inl ⟨hout, hhealthy, .inr hupload⟩
  · rintro (⟨hout, hhealthy, ⟨i, hi, hfresh⟩ | hupload⟩ | ⟨i, hi, hkey⟩)
    · refine ⟨hout, hhealthy, .inl ?_⟩
      -- the instruction stays, as none can be ordered for a copy in flight
      refine ⟨i, (hpending _ _).2 (.inr ⟨fun hkey => ?_, hi,
        (Survey.verdict_ofRecords hc hn hmem).2 ⟨hout, hfresh, hhealthy⟩⟩), hfresh⟩
      obtain ⟨j, hj, hkey⟩ := List.mem_map.1 hkey
      exact (hserved.outside t (mem_emittedFor.2 ⟨j, hj, hkey⟩)).2
        (Survey.mem_inFlight.2 ⟨hout, hhealthy, .inl ⟨i, hi, hfresh⟩⟩)
    · exact ⟨hout, hhealthy, .inr hupload⟩
    · have ht : t ∈ emittedFor report c := mem_emittedFor.2 ⟨i, hi, hkey⟩
      obtain ⟨n, hn', hhealthy, hid⟩ := hserved.healthy t ht
      refine ⟨(hserved.outside t ht).1,
        List.mem_map.2 ⟨n, List.mem_filter.2 ⟨hn', hhealthy⟩, hid⟩, .inl ?_⟩
      refine ⟨i, (hpending _ _).2 (.inl ⟨hi, hkey⟩), ?_⟩
      obtain ⟨c', -, heq⟩ := Survey.mem_emitted_findings (hemitted ▸ hi)
      have hissued : i.issuedAt = now := by
        rw [heq]
        rfl
      rw [hissued, isFresh, Nat.sub_self]
      exact decide_eq_true (UInt64.lt_iff_toNat_lt.1 httl)

/-! ## The measure -/

/-- The number of copies in flight. -/
def flights (pending : Table CopyKey Instruction) (chunks : List ChunkRecord) (nodes : List Node)
    (now ttl : UInt64) : Nat :=
  (chunks.map fun c => (inFlight pending nodes now ttl c).length).sum

theorem flights_le (pending : Table CopyKey Instruction) (chunks : List ChunkRecord)
    (nodes : List Node) (now ttl : UInt64) :
    flights pending chunks nodes now ttl ≤
      chunks.length * (nodes.filter Node.isHealthy).length := by
  have hle : ∀ x ∈ chunks.map fun c => (inFlight pending nodes now ttl c).length,
      x ≤ (nodes.filter Node.isHealthy).length := by
    intro x hx
    obtain ⟨c, -, rfl⟩ := List.mem_map.1 hx
    exact (List.length_filter_le _ _).trans (List.length_map _).le
  simpa [flights] using List.sum_le_card_nsmul _ _ hle

/-- There are more of them after a sweep that orders something. -/
theorem flights_lt (hq : q.sweeping = false) (hc : (chunks.map ChunkRecord.id).Nodup)
    (hn : (nodes.map Node.id).Nodup) (httl : 0 < ttl)
    (hsweep : q.sweep chunks nodes now ttl = .ok (report, q')) (hemitted : report.emitted ≠ []) :
    flights q.pending chunks nodes now ttl < flights q'.pending chunks nodes now ttl := by
  have hlength : ∀ c ∈ chunks, (inFlight q'.pending nodes now ttl c).length =
      (inFlight q.pending nodes now ttl c).length + (emittedFor report c).length := by
    intro c hmem
    rw [(perm_inFlight_sweep hq hc hn httl hsweep hmem).length_eq, List.length_append]
  obtain ⟨i, hi⟩ := List.exists_mem_of_ne_nil _ hemitted
  obtain ⟨c, hmem, hchunk⟩ : ∃ c ∈ chunks, i.chunk = c.id := by
    obtain ⟨c, hmem, heq⟩ :=
      Survey.mem_emitted_findings ((sweep_ok hq hc hsweep).2.1 ▸ hi)
    exact ⟨c, hmem, by rw [heq]; rfl⟩
  refine List.sum_lt_sum _ _ (fun c hmem => ?_) ⟨c, hmem, ?_⟩
  · rw [hlength c hmem]
    omega
  · have hkey : i.key = ⟨c.id, i.target⟩ := by rw [Instruction.key, hchunk]
    have hpos : 0 < (emittedFor report c).length :=
      List.length_pos_of_mem (mem_emittedFor.2 ⟨i, hi, hkey⟩)
    rw [hlength c hmem]
    omega

/-! ## Rest -/

/-- `n` sweeps from a queue end with every chunk settled, if there are at least `k` of them, and
order nothing but in the first `k`. -/
def RestsAfter (chunks : List ChunkRecord) (nodes : List Node) (now ttl : UInt64) (q : Queue)
    (k n : Nat) : Prop :=
  ∃ reports q', q.sweepTimes chunks nodes now ttl n = .ok (reports, q') ∧ reports.length = n ∧
    (∀ report ∈ reports.drop k, report.emitted = []) ∧
    (k ≤ n → ∀ c ∈ chunks, Settled q'.pending nodes now ttl c)

/-- A run of sweeps begins with one sweep. -/
theorem RestsAfter.cons {k n : Nat} (hsweep : q.sweep chunks nodes now ttl = .ok (report, q'))
    (h : RestsAfter chunks nodes now ttl q' k n) :
    RestsAfter chunks nodes now ttl q (k + 1) (n + 1) := by
  obtain ⟨reports, last, hrun, hlength, hempty, hsettled⟩ := h
  refine ⟨report :: reports, last, ?_, by rw [List.length_cons, hlength], hempty,
    fun hle => hsettled (Nat.le_of_succ_le_succ hle)⟩
  rw [Queue.sweepTimes, hsweep]
  simp [hrun, Except.map]

/-- Settled chunks stay settled, and no sweep orders anything. -/
theorem rests_of_settled (hc : (chunks.map ChunkRecord.id).Nodup) (hn : (nodes.map Node.id).Nodup)
    (httl : 0 < ttl) : ∀ (n : Nat) {q : Queue}, q.sweeping = false →
      (∀ c ∈ chunks, Settled q.pending nodes now ttl c) →
      RestsAfter chunks nodes now ttl q 0 n
  | 0, q, _, hsettled => ⟨[], q, rfl, rfl, by simp, fun _ => hsettled⟩
  | n + 1, q, hq, hsettled => by
    obtain ⟨report, q', hsweep⟩ := exists_sweep hq chunks nodes now ttl
    obtain ⟨hq', hemitted, -⟩ := sweep_ok hq hc hsweep
    have hempty : report.emitted = [] := by
      rw [hemitted]
      exact (emitted_eq_nil_iff hc hn).2 hsettled
    have hsettled' : ∀ c ∈ chunks, Settled q'.pending nodes now ttl c := by
      intro c hmem
      refine (hsettled c hmem).of_perm ?_
      simpa [emittedFor, hempty] using perm_inFlight_sweep hq hc hn httl hsweep hmem
    obtain ⟨reports, last, hrun, hlength, hrest, hlast⟩ := rests_of_settled hc hn httl n hq' hsettled'
    refine ⟨report :: reports, last, ?_, by rw [List.length_cons, hlength], ?_,
      fun _ => hlast (Nat.zero_le n)⟩
    · rw [Queue.sweepTimes, hsweep]
      simp [hrun, Except.map]
    · exact List.forall_mem_cons.2 ⟨hempty, hrest⟩

/-- The fewer pairs of a chunk and a node are left, the sooner the sweeps come to rest. -/
theorem exists_rest (hc : (chunks.map ChunkRecord.id).Nodup) (hn : (nodes.map Node.id).Nodup)
    (httl : 0 < ttl) : ∀ (left : Nat) {q : Queue}, q.sweeping = false →
      chunks.length * (nodes.filter Node.isHealthy).length ≤
        flights q.pending chunks nodes now ttl + left →
      ∃ k ≤ left, ∀ n, RestsAfter chunks nodes now ttl q k n := by
  intro left
  induction left with
  | zero =>
    intro q hq hleft
    refine ⟨0, Nat.le_refl 0, fun n => rests_of_settled hc hn httl n hq ?_⟩
    obtain ⟨report, q', hsweep⟩ := exists_sweep hq chunks nodes now ttl
    obtain ⟨-, hemitted, -⟩ := sweep_ok hq hc hsweep
    refine (emitted_eq_nil_iff hc hn).1 (hemitted ▸ ?_)
    by_contra hsome
    have hlt := flights_lt hq hc hn httl hsweep hsome
    have hle := flights_le q'.pending chunks nodes now ttl
    omega
  | succ left ih =>
    intro q hq hleft
    obtain ⟨report, q', hsweep⟩ := exists_sweep hq chunks nodes now ttl
    obtain ⟨hq', hemitted, -⟩ := sweep_ok hq hc hsweep
    by_cases hempty : report.emitted = []
    · have hsettled := (emitted_eq_nil_iff hc hn).1 (hemitted ▸ hempty)
      exact ⟨0, Nat.zero_le _, fun n => rests_of_settled hc hn httl n hq hsettled⟩
    · have hlt := flights_lt hq hc hn httl hsweep hempty
      obtain ⟨k, hk, hrest⟩ := ih hq' (by omega)
      refine ⟨k + 1, Nat.succ_le_succ hk, fun n => ?_⟩
      cases n with
      | zero => exact ⟨[], q, rfl, rfl, by simp, fun hle => absurd hle (by omega)⟩
      | succ n => exact (hrest n).cons hsweep

/-- However many sweeps there are, all but a first few order nothing. Those few are no more than
there are pairs of a chunk and a healthy node, and after them every chunk is settled. -/
theorem sweeps_settle (q : Queue) (chunks : List ChunkRecord) (nodes : List Node) (now ttl : UInt64)
    (hq : q.sweeping = false) (hc : (chunks.map ChunkRecord.id).Nodup)
    (hn : (nodes.map Node.id).Nodup) (httl : 1 ≤ ttl) :
    ∃ k ≤ chunks.length * (nodes.filter Node.isHealthy).length, ∀ n, ∃ reports q',
      q.sweepTimes chunks nodes now ttl n = .ok (reports, q') ∧ reports.length = n ∧
      (∀ report ∈ reports.drop k, report.emitted = []) ∧
      (k ≤ n → ∀ c ∈ chunks, Settled q'.pending nodes now ttl c) :=
  exists_rest hc hn (UInt64.lt_iff_toNat_lt.2 (UInt64.le_iff_toNat_le.1 httl)) _ hq (by omega)

/-- A healthy node with room. -/
def spareNode : Node where
  id := "b"
  host := "h"
  port := 1
  capacity := 1000
  free := 1000
  health := .healthy
  lastHeartbeat := 0
  registeredAt := 0

/-- One chunk and one node : one sweep is enough. -/
theorem sweeps_settle_freshUpload : ∃ k ≤ 1, ∀ n, ∃ reports q',
    Queue.empty.sweepTimes [freshUpload] [spareNode] 100 30 n = .ok (reports, q') ∧
      reports.length = n ∧ (∀ report ∈ reports.drop k, report.emitted = []) ∧
      (k ≤ n → ∀ c ∈ [freshUpload], Settled q'.pending [spareNode] 100 30 c) :=
  sweeps_settle .empty [freshUpload] [spareNode] 100 30 rfl (by decide) (by decide) (by decide)

end Repair

end ChunkCoordinator
