import ChunkCoordinator.Proofs.Convergence
import ChunkCoordinator.Proofs.Ledger
import ChunkCoordinator.Proofs.Rationing
import ChunkCoordinator.Proofs.Totals

/-!
# Sweeps over the records as they are

Between two requests no sweep is under way, so another one may begin (`Lifetime.idle`). If it works
on the records as they are, every chunk that it orders copies of is stored, and every target that it
chooses is in service, so it drops nothing in the end. What the coordinator makes of such a sweep is
therefore what the queue alone makes of it (`Cluster.SweepsNow`), but for the answer, which is given
up if the totals of the nodes are no words.

`Cluster.Orderly.exists_sweepsNow` says that every such sweep ends with a report, and the lemmas
under `Cluster.SweepsNow` read the report off the stored chunks.
-/

set_option linter.unusedSectionVars false

namespace ChunkCoordinator

theorem Registry.isLive_of_isHealthy {r : Registry} {id : NodeId} (h : r.isHealthy id) :
    r.isLive id := by
  obtain ⟨n, hn, hhealthy⟩ := (Option.any_eq_true _ _).1 h
  refine Option.isSome_iff_exists.2 ⟨n, Option.filter_eq_some_iff.2 ⟨hn, ?_⟩⟩
  rw [Node.isHealthy, decide_eq_true_eq] at hhealthy
  rw [Node.isLive, hhealthy]
  rfl

namespace Store

variable {s : Store} {orders : List Instruction}

/-- Nothing is gone if all instructions stand. -/
theorem not_gone (h : ∀ i ∈ orders, s.stands i) :
    (∀ id, s.chunkGone orders id = false) ∧ ∀ t, s.targetGone orders t = false := by
  constructor
  · intro id
    rw [← Bool.not_eq_true, chunkGone_iff]
    rintro ⟨hgone, i, hi, rfl⟩
    have hstored := (Bool.and_eq_true_iff.1 (h i hi)).1
    rw [hgone] at hstored
    cases hstored
  · intro t
    rw [← Bool.not_eq_true, targetGone_iff]
    rintro ⟨hgone, i, hi, rfl, -⟩
    have hlive := (Bool.and_eq_true_iff.1 (h i hi)).2
    rw [hgone] at hlive
    cases hlive

end Store

/-! ## Between two requests -/

namespace Cluster

open Store

variable {c : Cluster} {now : UInt64} {report : SweepReport} {id : ChunkId} {r : ChunkRecord}

/-- No request leaves a sweep under way. -/
theorem sweeping_after (h : c.queue.sweeping = false) : ∀ e, (c.after e).queue.sweeping = false
  | .register request now => (congrArg Queue.sweeping (quiet_register c request now).queue).trans h
  | .heartbeat node free now =>
    (congrArg Queue.sweeping (quiet_heartbeat c node free now).queue).trans h
  | .upload request now => (congrArg Queue.sweeping (quiet_upload c request now).queue).trans h
  | .failNode node => (congrArg Queue.sweeping (quiet_failNode c node).queue).trans h
  | .restoreNode node now =>
    (congrArg Queue.sweeping (quiet_restoreNode c node now).queue).trans h
  | .sweepTimeouts now => (congrArg Queue.sweeping (quiet_sweepTimeouts c now).queue).trans h
  | .report chunk node => by
    rcases c.report_cases chunk node with ⟨-, -, hquiet⟩ | ⟨-, -, hqueue, -⟩
    · exact (congrArg Queue.sweeping hquiet.queue).trans h
    · exact (congrArg Queue.sweeping hqueue).trans h
  | .deleteFile file => by
    rcases c.deleteFile_cases file with ⟨-, -, hquiet⟩ | ⟨deleted, -, hqueue, -⟩
    · exact (congrArg Queue.sweeping hquiet.queue).trans h
    · exact (congrArg Queue.sweeping hqueue).trans h
  | .removeNode node force => by
    rcases c.removeNode_cases node force with ⟨-, -, hquiet⟩ | ⟨-, -, hqueue, -⟩
    · exact (congrArg Queue.sweeping hquiet.queue).trans h
    · exact (congrArg Queue.sweeping hqueue).trans h
  | .sweep _ _ _ => congrArg Queue.sweeping (queue_sweepOver h)

end Cluster

/-- All along a life no sweep is under way between two requests. -/
theorem Lifetime.idle {settings : Settings} {ids : IdSupply} {steps : List (Cluster × Turn)}
    {c : Cluster} (h : Lifetime (.fresh settings ids) steps c)
    (hinj : Set.InjOn ids.nth (Set.Ioc ids.drawn c.ids.drawn)) :
    ∀ s ∈ c :: steps.map Prod.fst, s.queue.sweeping = false := by
  refine h.always (P := fun s => s.queue.sweeping = false) hinj rfl ?_ ?_
  · exact fun _ s e _ _ hs => s.sweeping_after hs e
  · intro s saved settings' time now horderly _
    rw [(Cluster.restart_spec s settings' time now horderly.sound horderly.filed rfl).1]
    rfl

/-! ## A sweep over the records as they are -/

namespace Cluster

open Store

variable {c : Cluster} {now : UInt64} {report : SweepReport} {id : ChunkId} {r : ChunkRecord}

/-- A sweep over the records as they are ends with this report, which it answers unless the totals
of the nodes are no words. -/
structure SweepsNow (c : Cluster) (now : UInt64) (report : SweepReport) : Prop where
  queue : c.queue.sweep c.store.catalog.allChunks c.store.registry.all now
    c.settings.instructionTtl = .ok (report, (c.after (c.sweepNow now)).queue)
  result : (c.sweep now).result =
    if c.store.registry.TotalsFit then .ok report else .error .overflow

/-- It orders copies of stored chunks to nodes in service. -/
theorem Orderly.stands_of_mem_orders (h : c.Orderly) {i : Instruction}
    (hi : i ∈ c.orders c.store.catalog.allChunks c.store.registry.all now) : c.store.stands i := by
  have hc := h.sound.nodup_allChunks
  have hn := h.keyed.nodup_all
  have hemitted : c.orders c.store.catalog.allChunks c.store.registry.all now =
      (c.survey c.store.catalog.allChunks c.store.registry.all now).findings.emitted :=
    (Queue.merge_findings rfl hc now).1
  obtain ⟨r, hr, hchunk, -, htarget⟩ := Repair.exists_emittedFor hemitted hi
  have hhealthy := (Repair.served hc hn hemitted hr).healthy _ htarget
  obtain ⟨id, hid⟩ := mem_allChunks.1 hr
  rw [stands, Bool.and_eq_true, hchunk, (h.sound.fits id r hid).id_eq, hid]
  exact ⟨rfl, Registry.isLive_of_isHealthy (h.keyed.isHealthy_iff.2 hhealthy)⟩

/-- The end of a sweep all whose instructions stand. -/
theorem result_recordSweep_of_stands (hstands : ∀ i ∈ report.emitted, c.store.stands i) :
    (c.recordSweep report).result =
      if c.store.registry.TotalsFit then .ok report else .error .overflow := by
  obtain ⟨answer, hresult⟩ := c.exists_result_recordSweep report
  by_cases hfit : c.store.registry.TotalsFit
  · rw [if_pos hfit] at hresult ⊢
    rw [hresult, result_recordSweep hresult, filter_spares, List.filter_eq_self.2 hstands]
  · rwa [if_neg hfit] at hresult ⊢

/-- Every sweep that may begin and works on the records as they are ends with a report. -/
theorem Orderly.exists_sweepsNow (h : c.Orderly) (hidle : c.queue.sweeping = false) (now : UInt64) :
    ∃ report, c.SweepsNow now report := by
  have hstands : ∀ i ∈ c.orders c.store.catalog.allChunks c.store.registry.all now,
      c.store.stands i := fun i hi => h.stands_of_mem_orders hi
  obtain ⟨hchunks, htargets⟩ := not_gone hstands
  refine ⟨(c.queue.merge now
    (c.survey c.store.catalog.allChunks c.store.registry.all now).findings).1, ?_, ?_⟩
  · have hafter : (c.after (c.sweepNow now)).queue = _ := queue_sweepOver hidle
    rw [hafter, Table.filter_eq_self fun _ _ _ => by rw [hchunks, htargets]; rfl,
      Table.filter_eq_self fun _ _ _ => by rw [hchunks]; rfl]
    exact Repair.sweep_eq hidle
  · rw [sweep, sweepOver_merged hidle]
    exact result_recordSweep_of_stands hstands

/-! ## What the report says -/

namespace SweepsNow

theorem idle (h : c.SweepsNow now report) : c.queue.sweeping = false := by
  have hqueue := h.queue
  cases hsweeping : c.queue.sweeping with
  | false => rfl
  | true =>
    rw [Queue.sweep, Queue.begin, hsweeping] at hqueue
    cases hqueue

/-- The report tells what the survey finds. -/
theorem found (h : c.SweepsNow now report) (horderly : c.Orderly) :
    report.emitted =
        (c.survey c.store.catalog.allChunks c.store.registry.all now).findings.emitted ∧
      report.unrecoverable =
        (c.survey c.store.catalog.allChunks c.store.registry.all now).findings.unrecoverable ∧
      report.shortOfTargets =
        (c.survey c.store.catalog.allChunks c.store.registry.all now).findings.shortOfTargets := by
  have hemitted := (Repair.sweep_ok h.idle horderly.sound.nodup_allChunks h.queue).2.1
  have hmerged := h.queue
  rw [Repair.sweep_eq h.idle] at hmerged
  obtain ⟨rfl, -⟩ := Prod.mk.inj (Except.ok.inj hmerged)
  exact ⟨hemitted, rfl, rfl⟩

variable (h : c.SweepsNow now report) (horderly : c.Orderly)

include h horderly

/-- It serves every stored chunk, -/
theorem served (hr : c.store.chunk? id = some r) : Repair.Served c.queue.pending
    c.store.registry.all now c.settings.instructionTtl report r :=
  Repair.served horderly.sound.nodup_allChunks horderly.keyed.nodup_all (h.found horderly).1
    (mem_allChunks.2 ⟨id, hr⟩)

/-- and no other chunk. -/
theorem exists_chunk? {i : Instruction} (hi : i ∈ report.emitted) :
    ∃ r, c.store.chunk? i.chunk = some r := by
  obtain ⟨r, hr, hchunk, -, -⟩ := Repair.exists_emittedFor (h.found horderly).1 hi
  obtain ⟨id, hid⟩ := mem_allChunks.1 hr
  rw [hchunk, (horderly.sound.fits id r hid).id_eq]
  exact ⟨r, hid⟩

/-- It counts the stored chunks that are ordered fewer copies than they lack, -/
theorem shortOfTargets_eq : report.shortOfTargets = c.store.catalog.allChunks.countP fun r =>
    Repair.IsShort c.queue.pending c.store.registry.all now c.settings.instructionTtl report r :=
  (h.found horderly).2.2.trans (Repair.shortOfTargets_findings horderly.sound.nodup_allChunks
    horderly.keyed.nodup_all (h.found horderly).1)

/-- and lists those that are beyond help, -/
theorem mem_unrecoverable : id ∈ report.unrecoverable ↔ ∃ r, c.store.chunk? id = some r ∧
    Repair.IsLost c.store.registry.all now c.settings.instructionTtl r := by
  rw [(h.found horderly).2.1]
  refine (Survey.mem_unrecoverable_findings horderly.sound.nodup_allChunks
    horderly.keyed.nodup_all).trans ⟨?_, ?_⟩
  · rintro ⟨r, hr, rfl, hlost⟩
    obtain ⟨id, hid⟩ := mem_allChunks.1 hr
    exact ⟨r, (horderly.sound.fits id r hid).id_eq ▸ hid, hlost⟩
  · rintro ⟨r, hr, hlost⟩
    exact ⟨r, mem_allChunks.2 ⟨id, hr⟩, (horderly.sound.fits id r hr).id_eq, hlost⟩

/-- as the queue does afterwards. -/
theorem mem_listRebalances :
    id ∈ (c.after (c.sweepNow now)).listRebalances.unrecoverable ↔ id ∈ report.unrecoverable := by
  have hmerged := h.queue
  rw [Repair.sweep_eq h.idle] at hmerged
  obtain ⟨rfl, hqueue⟩ := Prod.mk.inj (Except.ok.inj hmerged)
  rw [listRebalances, Table.mem_keys, ← hqueue]
  exact Table.contains_ofKeys

end SweepsNow

end Cluster

end ChunkCoordinator
