import ChunkCoordinator.Proofs.Lifetime
import ChunkCoordinator.Proofs.Repair
import Mathlib.Data.List.Perm.Subperm

/-!
# Repairs come to an end

A sweep over the records of the coordinator counts the copies of a chunk that are on healthy nodes
and those that are under way, and orders the rest (`Cluster.Swept`). If it finds nodes for all of
them and every one of these copies is reported, the chunk has as many healthy copies as it should
have, nothing about it is pending any more, and as long as the nodes stay healthy no sweep orders
another copy. `Repaired.completed` says so, whatever else happens in the meantime.

What is followed through the steps of a life are the single copies : a chunk goes on having a copy
on a node while the node is not removed (`Cluster.Holds.after`).
-/

set_option linter.unusedSectionVars false

namespace ChunkCoordinator

namespace Cluster

open Store

variable {c c' : Cluster} {e : Event} {key : CopyKey}

/-! ## A sweep over the records of the cluster -/

/-- The healthy nodes that a copy of the chunk is under way to. -/
def inFlight (c : Cluster) (now : UInt64) (r : ChunkRecord) : List NodeId :=
  Repair.inFlight c.queue.pending c.store.registry.all now c.settings.instructionTtl r

/-- How many copies of the chunk are neither on healthy nodes nor under way. -/
def missing (c : Cluster) (now : UInt64) (r : ChunkRecord) : Nat :=
  Repair.missing c.queue.pending c.store.registry.all now c.settings.instructionTtl r

/-- The holders that a sweep counts are the healthy replicas. -/
theorem length_holders (h : c.store.registry.Keyed) (r : ChunkRecord) :
    (Repair.holders c.store.registry.all r).length = c.healthyReplicas r := by
  have hperm : ((Repair.holders c.store.registry.all r).map Node.id).Perm
      (r.replicasIn c.store.registry.isHealthy) := by
    refine (List.perm_ext_iff_of_nodup (h.nodup_all.sublist (List.filter_sublist.map _))
      ((Table.nodup_keys _).filter _)).2 fun t => ?_
    simp only [List.mem_filter, List.mem_map, Bool.and_eq_true, Table.mem_keys, h.isHealthy_iff]
    constructor
    · rintro ⟨n, ⟨hn, hhealthy, hreplica⟩, rfl⟩
      exact ⟨hreplica, n, hn, hhealthy, rfl⟩
    · rintro ⟨hreplica, n, hn, hhealthy, rfl⟩
      exact ⟨n, ⟨hn, hhealthy, hreplica⟩, rfl⟩
  rw [healthyReplicas, ← hperm.length_eq, List.length_map]

theorem healthy_of_mem_inFlight (h : c.store.registry.Keyed) {now : UInt64} {r : ChunkRecord}
    {t : NodeId} (ht : t ∈ c.inFlight now r) : c.store.registry.isHealthy t := by
  obtain ⟨n, hn, rfl⟩ := List.mem_map.1 (Survey.mem_inFlight.1 ht).2.1
  obtain ⟨hmem, hhealthy⟩ := List.mem_filter.1 hn
  exact h.isHealthy_iff.2 ⟨n, hmem, hhealthy, rfl⟩

/-- What a sweep over the records of the cluster says and does about a stored chunk. -/
structure Swept (c : Cluster) (now : UInt64) (report : SweepReport) (r : ChunkRecord) : Prop where
  nodup : (Repair.emittedFor report r).Nodup
  outside : ∀ t ∈ Repair.emittedFor report r, r.replicas.contains t = false ∧ t ∉ c.inFlight now r
  healthy : ∀ t ∈ Repair.emittedFor report r, c.store.registry.isHealthy t
  satisfied : r.desired.toNat ≤ c.healthyReplicas r → Repair.emittedFor report r = []
  pending : ∀ t, (c.after (c.sweepNow now)).queue.isPending r.id t →
    t ∈ c.inFlight now r ++ Repair.emittedFor report r

theorem Orderly.swept (h : c.Orderly) {now : UInt64} {report : SweepReport}
    (hsweep : (c.sweep now).result = .ok report) {id : ChunkId} {r : ChunkRecord}
    (hr : c.store.chunk? id = some r) : c.Swept now report r := by
  obtain ⟨hsweeping, -⟩ := sweepOver_ok hsweep
  have hc : (c.store.catalog.allChunks.map ChunkRecord.id).Nodup := h.sound.nodup_allChunks
  have hn : (c.store.registry.all.map Node.id).Nodup := h.keyed.nodup_all
  have hmem : r ∈ c.store.catalog.allChunks := mem_allChunks.2 ⟨id, hr⟩
  have hafter : c.after (c.sweepNow now) = (c.sweep now).cluster := rfl
  rw [sweep, sweepOver_eq hsweeping] at hsweep hafter
  generalize hs : Survey.ofRecords c.store.catalog.allChunks c.store.registry.all c.queue.pending
    now c.settings.instructionTtl = s at hsweep hafter
  have hids : (s.chunks.map ChunkRecord.id).Nodup := by rwa [← hs]
  have hqueue : ({ c.queue with sweeping := true } : Queue).pending = s.pending := by rw [← hs]; rfl
  generalize hmerge : ({ c.queue with sweeping := true } : Queue).merge now s.findings = merged
    at hsweep hafter
  have hemitted : merged.1.emitted = s.findings.emitted := by
    rw [← hmerge]
    exact (Queue.merge_findings hqueue hids now).1
  obtain ⟨-, hsub, -, hkept⟩ := recordSweep_ok hsweep
  have hserved := Repair.served hc hn (hemitted.trans (by rw [hs])) hmem
  have hfewer : (Repair.emittedFor report r).Sublist (Repair.emittedFor merged.1 r) :=
    (hsub.filter _).map _
  constructor
  case nodup => exact hserved.nodup.sublist hfewer
  case outside => exact fun t ht => hserved.outside t (hfewer.subset ht)
  case healthy => exact fun t ht => h.keyed.isHealthy_iff.2 (hserved.healthy t (hfewer.subset ht))
  case satisfied =>
    intro henough
    rw [← length_holders h.keyed] at henough
    exact List.sublist_nil.1 (hserved.satisfied henough ▸ hfewer)
  case pending =>
    intro t ht
    rw [hafter] at ht
    obtain ⟨i, hi⟩ := Table.contains_iff.1 ht
    have hmerged := ((recordSweep_spec _ _).2.2 _ i hi).1
    rw [← hmerge] at hmerged
    refine List.mem_append.2 ?_
    rcases (Queue.get?_merge_findings hqueue hids now).1 hmerged with ⟨hi', hkey⟩ | ⟨-, hold, hv⟩
    · have hreported : i ∈ report.emitted := hkept i (hemitted ▸ hi') (hkey ▸ ht)
      exact .inr (Repair.mem_emittedFor.2 ⟨i, hreported, hkey⟩)
    · rw [← hs] at hv hold
      obtain ⟨hout, hfresh, hhealthy⟩ := (Survey.verdict_ofRecords hc hn hmem).1 hv
      exact .inl (Survey.mem_inFlight.2 ⟨hout, hhealthy, .inl ⟨i, hold, hfresh⟩⟩)

/-- The healthy replicas, the copies under way and those that are ordered are enough, and on
different healthy nodes. -/
theorem Swept.exists_cover {now : UInt64} {report : SweepReport} {r : ChunkRecord}
    (h : c.Swept now report r) (horderly : c.Orderly)
    (henough : c.missing now r ≤ (Repair.emittedFor report r).length) :
    ∃ nodes : List NodeId, nodes.Nodup ∧ r.desired.toNat ≤ nodes.length ∧
      ∀ t ∈ nodes, c.store.registry.isHealthy t ∧ (r.replicas.contains t ∨
        c.healthyReplicas r < r.desired.toNat ∧
          t ∈ c.inFlight now r ++ Repair.emittedFor report r) := by
  have hkeyed := horderly.keyed
  have hholders : (r.replicasIn c.store.registry.isHealthy).Nodup := (Table.nodup_keys _).filter _
  have hholder : ∀ t ∈ r.replicasIn c.store.registry.isHealthy,
      r.replicas.contains t ∧ c.store.registry.isHealthy t := fun t ht =>
    (List.mem_filter.1 ht).imp_left Table.mem_keys.1
  by_cases hshort : c.healthyReplicas r < r.desired.toNat
  · have hinFlight : (c.inFlight now r).Nodup := Survey.nodup_inFlight hkeyed.nodup_all r
    refine ⟨r.replicasIn c.store.registry.isHealthy ++
      (c.inFlight now r ++ Repair.emittedFor report r), ?_, ?_, fun t ht => ?_⟩
    · refine List.nodup_append.2 ⟨hholders, List.nodup_append.2 ⟨hinFlight, h.nodup, ?_⟩, ?_⟩
      · rintro t ht _ ht' rfl
        exact (h.outside t ht').2 ht
      · rintro t ht _ ht' rfl
        have hreplica := (hholder t ht).1
        rcases List.mem_append.1 ht' with ht' | ht'
        · exact absurd hreplica (Bool.eq_false_iff.1 (Survey.mem_inFlight.1 ht').1)
        · exact absurd hreplica (Bool.eq_false_iff.1 (h.outside t ht').1)
    · have hheld := length_holders hkeyed r
      unfold missing Repair.missing at henough
      rw [hheld, healthyReplicas] at henough
      rw [List.length_append, List.length_append, inFlight]
      omega
    · rcases List.mem_append.1 ht with ht | ht
      · exact ⟨(hholder t ht).2, .inl (hholder t ht).1⟩
      · refine ⟨?_, .inr ⟨hshort, ht⟩⟩
        rcases List.mem_append.1 ht with ht | ht
        · exact healthy_of_mem_inFlight hkeyed ht
        · exact h.healthy t ht
  · exact ⟨_, hholders, Nat.not_lt.1 hshort, fun t ht => ⟨(hholder t ht).2, .inl (hholder t ht).1⟩⟩

/-- A sweep lists stored chunks only, and of those the ones that have too few healthy replicas. -/
theorem Orderly.of_mem_unrecoverable (h : c.Orderly) {now : UInt64} {report : SweepReport}
    (hsweep : (c.sweep now).result = .ok report) {id : ChunkId} (hid : id ∈ report.unrecoverable) :
    ∃ r, c.store.chunk? id = some r ∧ c.healthyReplicas r < r.desired.toNat := by
  obtain ⟨hsweeping, -⟩ := sweepOver_ok hsweep
  rw [sweep, sweepOver_eq hsweeping] at hsweep
  rw [(recordSweep_ok hsweep).1] at hid
  have hid : id ∈ (Survey.ofRecords c.store.catalog.allChunks c.store.registry.all c.queue.pending
    now c.settings.instructionTtl).findings.unrecoverable := hid
  rw [(Survey.findings_eq h.sound.nodup_allChunks).2.1] at hid
  obtain ⟨r, hr, rfl⟩ := List.mem_map.1 hid
  obtain ⟨hscanned, hlost⟩ := List.mem_filter.1 hr
  rw [Survey.lost_ofRecords h.keyed.nodup_all] at hlost
  obtain ⟨id, hr⟩ := mem_allChunks.1 ((Survey.perm_scanned _).subset hscanned)
  refine ⟨r, ?_, length_holders h.keyed r ▸ hlost.1⟩
  rwa [(h.sound.fits id r hr).id_eq]

/-- A sweep leaves a chunk alone if it has enough healthy replicas. -/
theorem Orderly.sweep_idle (h : c.Orderly) {now : UInt64} {report : SweepReport}
    (hsweep : (c.sweep now).result = .ok report) {id : ChunkId}
    (henough : ∀ r, c.store.chunk? id = some r → r.desired.toNat ≤ c.healthyReplicas r) :
    (∀ i ∈ report.emitted, i.chunk ≠ id) ∧ id ∉ report.unrecoverable := by
  constructor
  · rintro i hi rfl
    obtain ⟨-, r', hr', -⟩ := (sweepOver_ok hsweep).2 i hi
    obtain ⟨r, -, hr, -, -⟩ := (sweepOver_spec c _ _ now).1.exists_old hr'
    have hnone := (h.swept hsweep hr).satisfied (henough r hr)
    have hkey : i.key = ⟨r.id, i.target⟩ := by
      rw [Instruction.key, (h.sound.fits i.chunk r hr).id_eq]
    have hemitted : i.target ∈ Repair.emittedFor report r :=
      Repair.mem_emittedFor.2 ⟨i, hi, hkey⟩
    rw [hnone] at hemitted
    cases hemitted
  · intro hid
    obtain ⟨r, hr, hshort⟩ := h.of_mem_unrecoverable hsweep hid
    exact absurd hshort (Nat.not_lt.2 (henough r hr))

/-! ## Single copies -/

/-- If the chunk is stored, it has a copy on the node. -/
def Holds (c : Cluster) (key : CopyKey) : Prop := ∀ r, c.store.chunk? key.chunk = some r →
  r.replicas.contains key.target

/-- A copy is there until the node is removed. -/
theorem Holds.after (h : c.Holds key) (hsound : c.store.Sound) (hfresh : DrawsFresh c (c.after e))
    (hold : ∀ k ∈ Set.Ioc c.ids.drawn (c.after e).ids.drawn, c.ids.nth k ≠ key.chunk)
    (hno : ¬c.Removes key.target e) : (c.after e).Holds key := by
  intro r' hr'
  have heffect := effect_after c e
  rcases heffect.chunk?_cases hsound hr' with ⟨r, hr, -⟩ | ⟨k, hk, hid⟩
  · have hreplica := h r hr
    have hlive := (hsound.fits key.chunk r hr).replica_live hreplica
    have hlive' := (heffect.isLive hsound hlive).resolve_right hno
    exact (heffect.grows hsound hfresh.drawsNew hr hr' hlive').replicas hreplica
  · exact absurd hid (hold k hk)

theorem Holds.restart {s : Cluster} (h : s.Holds key) (horderly : s.Orderly) (c : Cluster)
    (settings : Settings) (time now : UInt64) :
    (c.restart settings (s.exportSnapshot time) now).cluster.Holds key :=
  fun r hr => h r (horderly.chunk?_of_restart hr)

/-- A report that is accepted confirms the copy and takes its instruction from the queue. -/
theorem report_accepted {chunk : ChunkId} {node : NodeId} {response : ReportResponse}
    {reply : Reply ReportResponse} (hreply : c.report chunk node = reply)
    (h : reply.result = .ok response) : reply.cluster.Holds ⟨chunk, node⟩ ∧
      reply.cluster.queue.isPending chunk node = false := by
  unfold report at hreply
  dsimp only at hreply
  split at hreply
  · subst hreply
    cases h
  next outcome store hreport =>
  have hreplica : ∀ r, store.chunk? chunk = some r → r.replicas.contains node :=
    fun r hr => contains_replicas_report hreport hr
  have herased : (c.queue.pending.erase ⟨chunk, node⟩).contains ⟨chunk, node⟩ = false :=
    Table.get?_eq_none_iff.1 (Table.get?_erase_self _ _)
  subst hreply
  split <;> split <;> exact ⟨hreplica, herased⟩

/-- Only a sweep makes an instruction pending. -/
theorem not_pending_after {chunk : ChunkId} {t : NodeId} (h : c.queue.isPending chunk t = false)
    (hsound : c.store.Sound) (hno : ∀ chunks nodes now, e ≠ .sweep chunks nodes now) :
    (c.after e).queue.isPending chunk t = false := by
  refine Bool.eq_false_iff.2 fun hpending => ?_
  obtain ⟨i, hi⟩ := Table.contains_iff.1 hpending
  rcases (effect_after c e).pending_cases hsound hi with hold | ⟨⟨chunks, nodes, now, hsweep⟩, -⟩
  · exact absurd (Table.contains_of_get? hold) (Bool.eq_false_iff.1 h)
  · exact hno chunks nodes now hsweep

end Cluster

/-! ## The time of the repair -/

/-- These steps are requests other than sweeps, and none of them deletes the file of the chunk or
removes a node. -/
def Quiet (id : ChunkId) (steps : List (Cluster × Turn)) : Prop := ∀ s turn, (s, turn) ∈ steps →
  ∃ e, turn = .event e ∧ (∀ chunks nodes now, e ≠ .sweep chunks nodes now) ∧
    ∀ t, ¬s.Withdraws ⟨id, t⟩ e

namespace Lifetime

variable {settings : Settings} {ids : IdSupply} {steps later : List (Cluster × Turn)}
  {b c : Cluster} {id : ChunkId} {key : CopyKey}

theorem savedSince_of_quiet : ∀ {later : List (Cluster × Turn)}, Quiet id later → SavedSince later
  | [], _ => trivial
  | (_, .event _) :: later, h => by
    have hrest : SavedSince later :=
      savedSince_of_quiet fun s turn hstep => h s turn (List.mem_cons_of_mem _ hstep)
    exact hrest
  | (s, .restart settings snapshot now) :: _, h => by
    obtain ⟨e, he, -⟩ := h s (.restart settings snapshot now) List.mem_cons_self
    cases he

/-- In quiet times there are no restarts to look at. -/
theorem since_quiet {P : Cluster → Prop} (hbefore : Lifetime (.fresh settings ids) steps b)
    (hb : P b) (h : Lifetime (.fresh settings ids) (later ++ steps) c)
    (hinj : Set.InjOn ids.nth (Set.Ioc ids.drawn c.ids.drawn)) (hquiet : Quiet id later)
    (hevent : ∀ s e, s.Orderly → Cluster.DrawsFresh s (s.after e) →
      (∀ chunks nodes now, e ≠ .sweep chunks nodes now) → (∀ t, ¬s.Withdraws ⟨id, t⟩ e) →
      P s → P (s.after e)) : P c := by
  refine hbefore.since hb h hinj (savedSince_of_quiet hquiet) ?_ ?_ c List.mem_cons_self
  · intro states s e hstep happening _ hs
    obtain ⟨_, heq, hsweep, hwithdraws⟩ := hquiet s (.event e) hstep
    cases heq
    exact hevent s e happening.orderly happening.fresh hsweep hwithdraws hs
  · intro s saved settings' time now hstep
    obtain ⟨_, heq, -⟩ := hquiet s _ hstep
    cases heq

/-- A chunk that was stored before goes on having a copy on a node that is not removed. -/
theorem holds_since (hbefore : Lifetime (.fresh settings ids) steps b) (hb : b.Holds key)
    (h : Lifetime (.fresh settings ids) (later ++ steps) c)
    (hinj : Set.InjOn ids.nth (Set.Ioc ids.drawn c.ids.drawn)) (hsaved : SavedSince later)
    (hstored : ∃ s ∈ steps.map Prod.fst, ∃ r, s.store.chunk? key.chunk = some r)
    (hno : ∀ s e, (s, .event e) ∈ later → ¬s.Removes key.target e) : c.Holds key := by
  refine hbefore.since (P := fun s => s.Holds key) hb h hinj hsaved ?_ ?_ c List.mem_cons_self
  · intro states s e hstep happening hearlier hs
    refine hs.after happening.orderly.sound happening.fresh ?_ (hno s e hstep)
    -- the identifier of the chunk has been drawn before
    intro k hk hid
    obtain ⟨first, hfirst, r, hr⟩ := hstored
    exact happening.unused hk (hearlier hfirst) (.inl ⟨r, hid ▸ hr⟩)
  · intro s saved settings' time now _ _ horderly hs
    exact hs.restart horderly s settings' time now

end Lifetime

/-- A sweep over the records of the coordinator has found nodes for all missing copies of a chunk,
and while they stay healthy every copy that is under way is reported. -/
structure Repaired (settings : Settings) (ids : IdSupply) (steps : List (Cluster × Turn))
    (c : Cluster) (now : UInt64) (report : SweepReport) (id : ChunkId) (r : ChunkRecord)
    (mid : List (Cluster × Turn)) (d : Cluster) : Prop where
  life : Lifetime (.fresh settings ids) (mid ++ (c, .event (c.sweepNow now)) :: steps) d
  distinct : Set.InjOn ids.nth (Set.Ioc ids.drawn d.ids.drawn)
  swept : (c.sweep now).result = .ok report
  stored : c.store.chunk? id = some r
  enough : c.missing now r ≤ (Repair.emittedFor report r).length
  quiet : Quiet id mid
  healthy : ∀ t, c.store.registry.isHealthy t → d.store.registry.isHealthy t
  reported : c.healthyReplicas r < r.desired.toNat →
    ∀ t ∈ c.inFlight now r ++ Repair.emittedFor report r, ∃ s response,
      (s, .event (.report id t)) ∈ mid ∧ (s.report id t).result = .ok response

namespace Repaired

variable {settings : Settings} {ids : IdSupply} {steps mid late : List (Cluster × Turn)}
  {b c d : Cluster} {now : UInt64} {report : SweepReport} {id : ChunkId} {r : ChunkRecord}

theorem orderly (h : Repaired settings ids steps c now report id r mid d) : c.Orderly :=
  (h.life.annals h.distinct).orderly c (by simp)

/-- The life up to the state that the sweep leaves behind. -/
theorem life_swept (h : Repaired settings ids steps c now report id r mid d) :
    Lifetime (.fresh settings ids) ((c, .event (c.sweepNow now)) :: steps)
      (c.after (c.sweepNow now)) := by
  obtain ⟨_, hlife, -⟩ := h.life.of_append
  cases hlife with
  | cons life read => exact life.cons read

/-- The chunk is still stored, and it is to have as many copies as before. -/
theorem exists_chunk? (h : Repaired settings ids steps c now report id r mid d) :
    ∃ r', d.store.chunk? id = some r' := by
  obtain ⟨nodes, -, hr⟩ := (Cluster.sweepOver_spec c _ _ now).1.exists_chunk? h.stored
  refine h.life_swept.since_quiet (P := fun s => ∃ r', s.store.chunk? id = some r') ⟨_, hr⟩ h.life
    h.distinct h.quiet ?_
  rintro s e horderly hfresh - hwithdraws ⟨r', hr'⟩
  refine ((Cluster.effect_after s e).stays horderly.sound hfresh.drawsNew hr').resolve_right ?_
  exact fun hdeletes => hwithdraws "" (.inl ⟨r', hr', hdeletes⟩)

/-- A part of the life that ends with a report, and the part after it. -/
theorem of_reported (h : Repaired settings ids steps c now report id r mid d) {t : NodeId}
    (hshort : c.healthyReplicas r < r.desired.toNat)
    (ht : t ∈ c.inFlight now r ++ Repair.emittedFor report r) :
    ∃ s late early, mid = late ++ early ∧
      Lifetime (.fresh settings ids) (early ++ (c, .event (c.sweepNow now)) :: steps) s ∧
      s.Holds ⟨id, t⟩ ∧ s.queue.isPending id t = false := by
  obtain ⟨s, response, hstep, hresponse⟩ := h.reported hshort t ht
  obtain ⟨late, early, rfl⟩ := List.append_of_mem hstep
  have hlife := h.life
  rw [List.append_assoc] at hlife
  obtain ⟨_, hb, -⟩ := hlife.of_append
  obtain ⟨hholds, hpending⟩ := Cluster.report_accepted rfl hresponse
  refine ⟨s.after (.report id t), late, (s, .event (.report id t)) :: early, rfl, ?_, hholds,
    hpending⟩
  cases hb with
  | cons life read => exact life.cons read

/-- Nothing about the chunk is pending any more if it had too few healthy copies. -/
theorem not_pending (h : Repaired settings ids steps c now report id r mid d)
    (hshort : c.healthyReplicas r < r.desired.toNat) (t : NodeId) :
    d.queue.isPending id t = false := by
  have hkept : ∀ {s late early}, mid = late ++ early →
      Lifetime (.fresh settings ids) (early ++ (c, .event (c.sweepNow now)) :: steps) s →
      s.queue.isPending id t = false → d.queue.isPending id t = false := by
    rintro s late early rfl hlife hs
    have hquiet : Quiet id late := fun s turn hstep =>
      h.quiet s turn (List.mem_append_left _ hstep)
    refine hlife.since_quiet (P := fun s => s.queue.isPending id t = false) hs
      (List.append_assoc .. ▸ h.life) h.distinct hquiet ?_
    exact fun s e horderly _ hsweep _ hs => Cluster.not_pending_after hs horderly.sound hsweep
  cases hpending : (c.after (c.sweepNow now)).queue.isPending id t with
  | false => exact hkept (List.append_nil mid).symm h.life_swept hpending
  | true =>
    have hid : r.id = id := (h.orderly.sound.fits id r h.stored).id_eq
    have hmem := (h.orderly.swept h.swept h.stored).pending t (hid ▸ hpending)
    obtain ⟨s, late, early, hsplit, hlife, -, hs⟩ := h.of_reported hshort hmem
    exact hkept hsplit hlife hs

/-- The healthy replicas that the sweep found still have their copies, and the other nodes that it
counted on have come by theirs. -/
theorem holds (h : Repaired settings ids steps c now report id r mid d) {t : NodeId}
    (ht : r.replicas.contains t ∨ c.healthyReplicas r < r.desired.toNat ∧
      t ∈ c.inFlight now r ++ Repair.emittedFor report r) : d.Holds ⟨id, t⟩ := by
  have hkept : ∀ {s late early}, mid = late ++ early →
      Lifetime (.fresh settings ids) (early ++ (c, .event (c.sweepNow now)) :: steps) s →
      s.Holds ⟨id, t⟩ → d.Holds ⟨id, t⟩ := by
    rintro s late early rfl hlife hs
    have hquiet : Quiet id late := fun s turn hstep =>
      h.quiet s turn (List.mem_append_left _ hstep)
    refine hlife.holds_since hs (List.append_assoc .. ▸ h.life) h.distinct
      (Lifetime.savedSince_of_quiet hquiet) ⟨c, by simp, r, h.stored⟩ fun s e hstep hremoves => ?_
    obtain ⟨_, heq, -, hwithdraws⟩ := hquiet s (.event e) hstep
    cases heq
    exact hwithdraws t (.inr hremoves)
  rcases ht with hreplica | ⟨hshort, ht⟩
  · refine hkept (List.append_nil mid).symm h.life_swept fun r' hr' => ?_
    obtain ⟨nodes, -, hr⟩ := (Cluster.sweepOver_spec c _ _ now).1.exists_chunk? h.stored
    rw [← Option.some.inj (hr.symm.trans hr')]
    exact hreplica
  · obtain ⟨s, late, early, hsplit, hlife, hholds, -⟩ := h.of_reported hshort ht
    exact hkept hsplit hlife hholds

/-- From then on the chunk has enough healthy copies as long as the healthy nodes stay. -/
theorem enough_since (h : Repaired settings ids steps c now report id r mid d)
    (hlife : Lifetime (.fresh settings ids)
      (late ++ (mid ++ (c, .event (c.sweepNow now)) :: steps)) b)
    (hinj : Set.InjOn ids.nth (Set.Ioc ids.drawn b.ids.drawn)) (hsaved : Lifetime.SavedSince late)
    (hno : ∀ s e t, (s, .event e) ∈ late → d.store.registry.isHealthy t → ¬s.Removes t e)
    (hhealthy : ∀ t, d.store.registry.isHealthy t → b.store.registry.isHealthy t)
    {r' : ChunkRecord} (hr' : b.store.chunk? id = some r') :
    r'.desired.toNat ≤ b.healthyReplicas r' := by
  obtain ⟨nodes, hnodup, hlength, hnodes⟩ :=
    (h.orderly.swept h.swept h.stored).exists_cover h.orderly h.enough
  have hbare : r.bare = r'.bare :=
    (hlife.annals hinj).kept c (by simp) b List.mem_cons_self id r r' h.stored hr'
  have hdesired : r.desired = r'.desired := ChunkRecord.eq_of_bare hbare fun _ => rfl
  have hcounted : nodes ⊆ r'.replicasIn b.store.registry.isHealthy := by
    intro t ht
    obtain ⟨hc, hheld⟩ := hnodes t ht
    have hd := h.healthy t hc
    have hb := h.life.holds_since (h.holds hheld) hlife hinj hsaved ⟨c, by simp, r, h.stored⟩
      fun s e hstep => hno s e t hstep hd
    exact List.mem_filter.2 ⟨Table.mem_keys.2 (hb r' hr'), hhealthy t hd⟩
  rw [← hdesired]
  exact hlength.trans (hnodup.subperm hcounted).length_le

/-- When every copy has been reported, the chunk has enough healthy copies. If there were too few of
them, nothing about it is pending. As long as the healthy nodes stay healthy, no sweep orders a copy
of it or takes it for lost. -/
theorem completed (h : Repaired settings ids steps c now report id r mid d) :
    (∃ r', d.store.chunk? id = some r' ∧ r'.desired.toNat ≤ d.healthyReplicas r') ∧
      (c.healthyReplicas r < r.desired.toNat → ∀ t, d.queue.isPending id t = false) ∧
      ∀ {late : List (Cluster × Turn)} {b : Cluster}, Lifetime (.fresh settings ids)
        (late ++ (mid ++ (c, .event (c.sweepNow now)) :: steps)) b →
      Set.InjOn ids.nth (Set.Ioc ids.drawn b.ids.drawn) → Lifetime.SavedSince late →
      (∀ s e t, (s, .event e) ∈ late → d.store.registry.isHealthy t → ¬s.Removes t e) →
      (∀ t, d.store.registry.isHealthy t → b.store.registry.isHealthy t) →
      ∀ now report, (b.sweep now).result = .ok report →
        (∀ i ∈ report.emitted, i.chunk ≠ id) ∧ id ∉ report.unrecoverable := by
  refine ⟨?_, h.not_pending, fun hlife hinj hsaved hno hhealthy now report hsweep => ?_⟩
  · obtain ⟨r', hr'⟩ := h.exists_chunk?
    have hnow : Lifetime (.fresh settings ids)
        ([] ++ (mid ++ (c, .event (c.sweepNow now)) :: steps)) d := h.life
    exact ⟨r', hr', h.enough_since hnow h.distinct trivial
      (fun s e t hstep => absurd hstep List.not_mem_nil) (fun t ht => ht) hr'⟩
  · have horderly := (hlife.annals hinj).orderly _ List.mem_cons_self
    exact horderly.sweep_idle hsweep fun r' hr' =>
      h.enough_since hlife hinj hsaved hno hhealthy hr'

end Repaired

/-- One of the two nodes that have a copy fails. -/
def lostReplica : List (Cluster → Turn) :=
  [fun _ => .event (.register ⟨"a", "host", 1, 1000⟩ 0),
   fun _ => .event (.register ⟨"b", "host", 1, 1000⟩ 0),
   fun _ => .event (.register ⟨"c", "host", 1, 1000⟩ 0),
   fun _ => .event (.upload ⟨"name", 10, none, some 2⟩ 0),
   fun _ => .event (.report ⟨2⟩ "a"),
   fun _ => .event (.report ⟨2⟩ "b"),
   fun _ => .event (.failNode "a")]

/-- What a sweep says then. -/
def lostReplicaReport : SweepReport where
  startedAt := 1000
  emitted := [⟨⟨2⟩, ⟨1⟩, 0, 10, some "b", "c", 1000⟩]
  unrecoverable := []
  completed := 0
  expired := 0
  shortOfTargets := 0

/-- The third node makes the copy, and a sweep after a restart has nothing to do for the chunk. -/
theorem Repaired.completed_lostReplica : ∃ steps c r mid d late b,
    Repaired .default .counting steps c 1000 lostReplicaReport ⟨2⟩ r mid d ∧
      c.healthyReplicas r = 1 ∧ Repair.emittedFor lostReplicaReport r = ["c"] ∧
      (∃ r', d.store.chunk? ⟨2⟩ = some r' ∧ r'.desired.toNat ≤ d.healthyReplicas r') ∧
      (∀ t, d.queue.isPending ⟨2⟩ t = false) ∧
      Lifetime (.fresh .default .counting)
        (late ++ (mid ++ (c, .event (c.sweepNow 1000)) :: steps)) b ∧
      ∃ report, (b.sweep 4000).result = .ok report ∧
        (∀ i ∈ report.emitted, i.chunk ≠ ⟨2⟩) ∧ ⟨2⟩ ∉ report.unrecoverable := by
  have hread : ∀ choose ∈ lostReplica, ∀ s, (choose s).ReadFrom [s] := by
    simp [lostReplica, Turn.ReadFrom, Event.ReadFrom]
  obtain ⟨c, hc⟩ : ∃ c, (Lifetime.played lostReplica).2 = c := ⟨_, rfl⟩
  obtain ⟨s, hs⟩ : ∃ s, c.after (c.sweepNow 1000) = s := ⟨_, rfl⟩
  obtain ⟨d, hd⟩ : ∃ d, s.after (.report ⟨2⟩ "c") = d := ⟨_, rfl⟩
  obtain ⟨b, hb⟩ : ∃ b, (d.restart .default (d.exportSnapshot 2000) 3000).cluster = b := ⟨_, rfl⟩
  have hsweep : Lifetime (.fresh .default .counting)
      ((c, .event (c.sweepNow 1000)) :: (Lifetime.played lostReplica).1) s :=
    hs ▸ hc ▸ (Lifetime.of_played hread).cons
      ⟨⟨_, List.mem_cons_self, .refl _⟩, _, List.mem_cons_self, .refl _⟩
  have hlife : Lifetime (.fresh .default .counting) ([(s, .event (.report ⟨2⟩ "c"))] ++
      (c, .event (c.sweepNow 1000)) :: (Lifetime.played lostReplica).1) d :=
    hd ▸ hsweep.cons trivial
  have hlate : Lifetime (.fresh .default .counting)
      ([(d, .restart .default (d.exportSnapshot 2000) 3000)] ++ ([(s, .event (.report ⟨2⟩ "c"))] ++
        (c, .event (c.sweepNow 1000)) :: (Lifetime.played lostReplica).1)) b :=
    hb ▸ hlife.cons ⟨d, List.mem_cons_self, 2000, rfl⟩
  have hdrawn : d.ids.drawn = 2 ∧ b.ids.drawn = 2 := by
    rw [← hb, ← hd, ← hs, ← hc]
    decide +kernel
  have hinj : Set.InjOn IdSupply.counting.nth (Set.Ioc 0 2) := IdSupply.injOn_counting (by decide)
  have hhealthy : (∀ n ∈ c.store.registry.all, n.isHealthy → d.store.registry.isHealthy n.id) ∧
      ∀ n ∈ d.store.registry.all, n.isHealthy → b.store.registry.isHealthy n.id := by
    rw [← hb, ← hd, ← hs, ← hc]
    decide +kernel
  have horderly := (hlate.annals (hdrawn.2 ▸ hinj)).orderly
  have hstay : ∀ {c d : Cluster}, c.store.registry.Keyed →
      (∀ n ∈ c.store.registry.all, n.isHealthy → d.store.registry.isHealthy n.id) →
      ∀ t, c.store.registry.isHealthy t → d.store.registry.isHealthy t := by
    intro c d hkeyed hall t ht
    obtain ⟨n, hn, hn', rfl⟩ := hkeyed.isHealthy_iff.1 ht
    exact hall n hn hn'
  have hfacts : (c.store.chunk? ⟨2⟩).map (fun r => (c.missing 1000 r, c.inFlight 1000 r,
      c.healthyReplicas r, r.desired, Repair.emittedFor lostReplicaReport r)) =
        some (1, [], 1, 2, ["c"]) := by
    rw [← hc]
    decide +kernel
  obtain ⟨r, hr, hfacts⟩ := Option.map_eq_some_iff.1 hfacts
  simp only [Prod.mk.injEq] at hfacts
  obtain ⟨hmissing, hinFlight, hcopies, hdesired, hemitted⟩ := hfacts
  have hrepaired : Repaired .default .counting (Lifetime.played lostReplica).1 c 1000
      lostReplicaReport ⟨2⟩ r [(s, .event (.report ⟨2⟩ "c"))] d := by
    constructor
    case life => exact hlife
    case distinct => exact hdrawn.1 ▸ hinj
    case swept =>
      rw [← hc]
      decide +kernel
    case stored => exact hr
    case enough =>
      rw [hmissing, hemitted]
      decide
    case quiet =>
      intro s' turn hstep
      obtain ⟨rfl, rfl⟩ := Prod.mk.inj (List.mem_singleton.1 hstep)
      exact ⟨_, rfl, by simp, fun t => Cluster.not_withdraws (by simp) (by simp)⟩
    case healthy => exact hstay (horderly c (by simp)).keyed hhealthy.1
    case reported =>
      intro _ t ht
      rw [hinFlight, hemitted] at ht
      obtain rfl := List.mem_singleton.1 ht
      refine ⟨s, ⟨true, 3⟩, List.mem_singleton_self _, ?_⟩
      rw [← hs, ← hc]
      decide +kernel
  have hagain : (b.sweep 4000).result = .ok ⟨4000, [], [], 0, 0, 0⟩ := by
    rw [← hb, ← hd, ← hs, ← hc]
    decide +kernel
  obtain ⟨henough, hpending, hlater⟩ := Repaired.completed hrepaired
  refine ⟨_, c, r, _, d, _, b, hrepaired, hcopies, hemitted, henough, hpending ?_, hlate, _, hagain,
    hlater hlate (hdrawn.2 ▸ hinj) ⟨⟨d, List.mem_cons_self, 2000, rfl⟩, trivial⟩ (by simp)
      (hstay (horderly d (by simp)).keyed hhealthy.2) 4000 _ hagain⟩
  rw [hcopies, hdesired]
  decide

end ChunkCoordinator
