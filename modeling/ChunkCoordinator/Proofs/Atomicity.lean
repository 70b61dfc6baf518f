import ChunkCoordinator.Proofs.Lifetime

/-!
# Refused requests change nothing

A request that is refused leaves the records, the queue and the mark of unsaved changes as they were
(`Lifetime.unmoved_of_refused`). Most operations look before they change anything. A report may make
a chunk expect the reporting node before it turns out that the node has no room, but only if a copy
is pending, and then a coordinator in good order has expected the node before
(`Cluster.Orderly.asked_eq`).
-/

set_option linter.unusedSectionVars false

namespace ChunkCoordinator

namespace Store

variable {s : Store}

/-- To expect what is expected already is to do nothing. -/
theorem expect_of_expected {chunk : ChunkId} {targets : List NodeId}
    (h : ∀ r, s.chunk? chunk = some r → ∀ t ∈ targets, r.expected.contains t) :
    ((s.expect chunk targets).map Prod.snd).getD s = s := by
  cases hr : s.chunk? chunk with
  | none =>
    rw [expect_eq_none targets hr]
    rfl
  | some r =>
    have hsame : r.expecting (targets.filter s.registry.isLive) = r := by
      rw [ChunkRecord.expecting, Table.addAll_of_contains]
      exact fun t ht => h r hr t (List.mem_of_mem_filter ht)
    rw [expect_eq_some targets hr, hsame, Table.insert_of_get? hr]
    rfl

theorem deleteFile_refused {file : FileId} {why : ServiceError} {s' : Store}
    (h : s.deleteFile file = (.error (.refused why), s')) : s' = s := by
  unfold deleteFile at h
  split at h
  · exact (Prod.mk.inj h).2.symm
  · dsimp only at h
    split at h
    · cases (Prod.mk.inj h).1
    · cases (Prod.mk.inj h).1

end Store

namespace Cluster

open Store

variable {c : Cluster} {why : ServiceError}

/-- The records and the queue are the same, and so is the need to save them. -/
structure Unmoved (c c' : Cluster) : Prop where
  store : c'.store = c.store
  queue : c'.queue = c.queue
  dirty : c'.dirty = c.dirty

theorem Unmoved.refl (c : Cluster) : Unmoved c c := ⟨rfl, rfl, rfl⟩

/-- In good order no report makes a chunk expect a node. -/
theorem Orderly.asked_eq (h : c.Orderly) (chunk : ChunkId) (node : NodeId) :
    (if c.queue.isPending chunk node then
      ((c.store.expect chunk [node]).map Prod.snd).getD c.store else c.store) = c.store := by
  split
  · next hpending =>
    obtain ⟨i, hi⟩ := Table.contains_iff.1 hpending
    refine expect_of_expected fun r hr t ht => ?_
    rw [List.mem_singleton.1 ht]
    exact (h.expected _ i hi).2 r hr
  · rfl

theorem unmoved_register {request : RegisterRequest} {now : UInt64} {reply : Reply Node}
    (hreply : c.register request now = reply) (h : reply.refusal? = some why) :
    Unmoved c reply.cluster := by
  unfold register at hreply
  split at hreply
  · exact hreply ▸ .refl c
  split at hreply
  · exact hreply ▸ .refl c
  split at hreply
  · exact hreply ▸ .refl c
  · subst hreply
    cases h

theorem unmoved_heartbeat {node : NodeId} {free now : UInt64} {reply : Reply HeartbeatResponse}
    (hreply : c.heartbeat node free now = reply) (h : reply.refusal? = some why) :
    Unmoved c reply.cluster := by
  unfold heartbeat at hreply
  split at hreply
  · exact hreply ▸ .refl c
  · subst hreply
    cases h

theorem unmoved_upload {request : UploadRequest} {now : UInt64} {reply : Reply UploadPlan}
    (hreply : c.upload request now = reply) (h : reply.refusal? = some why) :
    Unmoved c reply.cluster := by
  subst hreply
  rcases c.upload_cases request now with ⟨_, _, heq⟩ | ⟨_, _, _, _, _, -, heq⟩ <;> rw [heq] at h ⊢
  · exact ⟨rfl, rfl, rfl⟩
  · cases h

theorem unmoved_report (horderly : c.Orderly) {chunk : ChunkId} {node : NodeId}
    {reply : Reply ReportResponse} (hreply : c.report chunk node = reply)
    (h : reply.refusal? = some why) : Unmoved c reply.cluster := by
  unfold report at hreply
  rw [horderly.asked_eq] at hreply
  dsimp only at hreply
  split at hreply
  · exact hreply ▸ ⟨rfl, rfl, rfl⟩
  · subst hreply
    cases h

theorem unmoved_deleteFile {file : FileId} {reply : Reply DeletedFile}
    (hreply : c.deleteFile file = reply) (h : reply.refusal? = some why) :
    Unmoved c reply.cluster := by
  unfold deleteFile at hreply
  split at hreply
  · next fault store hdelete =>
    subst hreply
    cases fault with
    | refused why => exact ⟨deleteFile_refused hdelete, rfl, rfl⟩
    | overflow => cases h
  · subst hreply
    cases h

theorem unmoved_failNode {node : NodeId} {reply : Reply Bool} (hreply : c.failNode node = reply)
    (h : reply.refusal? = some why) : Unmoved c reply.cluster := by
  unfold failNode at hreply
  split at hreply
  · exact hreply ▸ .refl c
  · subst hreply
    cases h

theorem unmoved_restoreNode {node : NodeId} {now : UInt64} {reply : Reply Bool}
    (hreply : c.restoreNode node now = reply) (h : reply.refusal? = some why) :
    Unmoved c reply.cluster := by
  unfold restoreNode at hreply
  split at hreply
  · exact hreply ▸ .refl c
  · subst hreply
    cases h

theorem unmoved_removeNode {node : NodeId} {force : Bool} {reply : Reply Nat}
    (hreply : c.removeNode node force = reply) (h : reply.refusal? = some why) :
    Unmoved c reply.cluster := by
  unfold removeNode at hreply
  split at hreply
  · exact hreply ▸ .refl c
  · subst hreply
    cases h

theorem refusal?_recordSweep (c : Cluster) (report : SweepReport) :
    (c.recordSweep report).refusal? = none := by
  unfold recordSweep
  dsimp only
  split
  · rfl
  · next fault c' hstatus =>
    unfold status at hstatus
    split at hstatus
    · cases hstatus
      rfl
    · cases hstatus

/-- A sweep is refused only while another one is going on. -/
theorem unmoved_sweepOver {chunks : List ChunkRecord} {nodes : List Node} {now : UInt64}
    {reply : Reply SweepReport} (hreply : c.sweepOver chunks nodes now = reply)
    (h : reply.refusal? = some why) : Unmoved c reply.cluster := by
  unfold sweepOver beginSweep at hreply
  split at hreply
  · next hbegin =>
    split at hbegin
    · cases hbegin
      exact hreply ▸ .refl c
    · cases hbegin
  · subst hreply
    rw [refusal?_recordSweep] at h
    cases h

/-- A coordinator in good order refuses a request without changing anything. -/
theorem Orderly.unmoved (horderly : c.Orderly) : ∀ {e : Event}, c.refusal? e = some why →
    Unmoved c (c.after e)
  | .register .., h => unmoved_register rfl h
  | .heartbeat .., h => unmoved_heartbeat rfl h
  | .upload .., h => unmoved_upload rfl h
  | .report .., h => unmoved_report horderly rfl h
  | .deleteFile _, h => unmoved_deleteFile rfl h
  | .failNode _, h => unmoved_failNode rfl h
  | .restoreNode .., h => unmoved_restoreNode rfl h
  | .removeNode .., h => unmoved_removeNode rfl h
  | .sweep .., h => unmoved_sweepOver rfl h

end Cluster

/-- Wherever a life has come to that draws no identifier twice, a refused request leaves the
records of nodes, files and chunks, the queue and the mark of unsaved changes as they are. -/
theorem Lifetime.unmoved_of_refused {settings : Settings} {ids : IdSupply}
    {steps : List (Cluster × Turn)} {c : Cluster} (h : Lifetime (.fresh settings ids) steps c)
    (hinj : Set.InjOn ids.nth (Set.Ioc ids.drawn c.ids.drawn)) {e : Event} {why : ServiceError}
    (hrefused : c.refusal? e = some why) :
    (c.after e).store = c.store ∧ (c.after e).queue = c.queue ∧ (c.after e).dirty = c.dirty := by
  have hannals := h.annals hinj
  obtain ⟨hstore, hqueue, hdirty⟩ := (hannals.orderly c hannals.last).unmoved hrefused
  exact ⟨hstore, hqueue, hdirty⟩

/-- A copy is on its way to a node that has no room for it any more. -/
def crowdedTarget : List (Cluster → Turn) :=
  [fun _ => .event (.register ⟨"a", "host", 1, 1000⟩ 0),
   fun _ => .event (.register ⟨"b", "host", 1, 1000⟩ 0),
   fun _ => .event (.upload ⟨"name", 10, none, some 2⟩ 0),
   fun _ => .event (.report ⟨2⟩ "a"),
   fun s => .event (s.sweepNow 1000),
   fun _ => .event (.heartbeat "b" 0 1000)]

/-- Its report is refused although the node is one that the chunk is to expect. -/
theorem Lifetime.unmoved_crowdedTarget :
    Lifetime (.fresh .default .counting) (played crowdedTarget).1 (played crowdedTarget).2 ∧
      Set.InjOn IdSupply.counting.nth (Set.Ioc 0 (played crowdedTarget).2.ids.drawn) ∧
      (played crowdedTarget).2.queue.isPending ⟨2⟩ "b" ∧
      (played crowdedTarget).2.refusal? (.report ⟨2⟩ "b") =
        some (.insufficientCapacity "b" 0 10) ∧
      ((played crowdedTarget).2.after (.report ⟨2⟩ "b")).store = (played crowdedTarget).2.store ∧
      ((played crowdedTarget).2.after (.report ⟨2⟩ "b")).queue = (played crowdedTarget).2.queue ∧
      ((played crowdedTarget).2.after (.report ⟨2⟩ "b")).dirty =
        (played crowdedTarget).2.dirty := by
  have hlife : Lifetime (.fresh .default .counting) (played crowdedTarget).1
      (played crowdedTarget).2 :=
    of_played (by simp [crowdedTarget, Turn.ReadFrom, Event.ReadFrom, Cluster.sweepNow])
  have hdrawn : (played crowdedTarget).2.ids.drawn = 2 := by decide +kernel
  have hinj : Set.InjOn IdSupply.counting.nth (Set.Ioc 0 (played crowdedTarget).2.ids.drawn) := by
    rw [hdrawn]
    exact IdSupply.injOn_counting (by decide)
  have hrefused : (played crowdedTarget).2.refusal? (.report ⟨2⟩ "b") =
      some (.insufficientCapacity "b" 0 10) := by decide +kernel
  exact ⟨hlife, hinj, by decide +kernel, hrefused, Lifetime.unmoved_of_refused hlife hinj hrefused⟩

end ChunkCoordinator
