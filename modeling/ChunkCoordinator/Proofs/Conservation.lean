import ChunkCoordinator.Proofs.Run

/-!
# No space is lost

As long as no heartbeat overwrites what a node has free, every node in service has its capacity
either free or booked for confirmed copies, in every state of a run, if and only if no deletion
stops within the copies of a chunk (`Run.conserved_iff`). Such a deletion (`Cluster.LosesSpace`) has
dropped the chunk and gives back only some of its copies.
-/

set_option linter.unusedSectionVars false

namespace ChunkCoordinator

namespace Cluster

open Store

variable {c c' : Cluster} {e : Event}

/-- The event is a deletion that stops within the copies of a chunk. -/
def LosesSpace (c : Cluster) : Event → Prop
  | .deleteFile file => Deletion.Meets Deletion.StopsWithin 0 (c.store.catalog.recordsOf file)
  | _ => False

/-! ## One event -/

/-- The deletion of a stored file keeps the space if and only if it does not stop within a chunk. -/
theorem conserved_after_deleteFile (hsound : c.store.Sound) (hconserved : c.store.Conserved)
    {file : FileId} {record : FileRecord} (hfile : c.store.catalog.files.get? file = some record) :
    (c.after (.deleteFile file)).store.Conserved ↔ ¬c.LosesSpace (.deleteFile file) := by
  have hforgetting : (c.store.forgetting file).Conserved := hconserved
  exact (after_deleteFile hsound hfile).1.conserved hforgetting

/-- Every other event keeps the space, but for a heartbeat. -/
theorem Effect.conserved (h : Effect c e c') (hsound : c.store.Sound) (hnew : DrawsNew c c')
    (hquiet : e.isHeartbeat = false) (hconserved : c.store.Conserved) (hno : ¬c.LosesSpace e) :
    c'.store.Conserved := by
  have hexpecting : ∀ {s : Store}, Expecting c.store s → s.Conserved := fun h =>
    hconserved.of_agree (h.registry ▸ .refl _) h.booked
  cases h with
  | health standing room catalog queue ids =>
    exact hconserved.of_agree (room hquiet) fun n => by rw [catalog]
  | @registered _ _ id node new live named free store queue ids =>
    rw [store]
    refine hconserved.register free (Catalog.booked_eq_zero fun chunk r hr => ?_)
    -- a node out of service holds no copies
    rw [Bool.eq_false_iff]
    intro hcopy
    have hlive := (hsound.fits chunk r hr).replica_live hcopy
    rw [new] at hlive
    cases hlive
  | created created queue =>
    obtain ⟨hids, hunused⟩ := hnew.chunks created
    exact hconserved.createFile created hids hunused
  | reported expecting report pending ids =>
    rcases report with report | ⟨chunk, node, outcome, report⟩
    · rw [report]
      exact hexpecting expecting
    · exact (hexpecting expecting).report report
  | deleted stored => exact (conserved_after_deleteFile hsound hconserved stored).2 hno
  | retired retire pending ids => exact hconserved.retireNode retire
  | swept chunks nodes now => exact hexpecting (sweepOver_spec c chunks nodes now).1

/-- A deletion that stops within a chunk has lost space. -/
theorem not_conserved_of_losesSpace (hsound : c.store.Sound) (hconserved : c.store.Conserved)
    (h : c.LosesSpace e) : ¬(c.after e).store.Conserved := by
  cases e with
  | deleteFile file =>
    obtain ⟨record, hfile⟩ := hsound.stored_of_meets h
    rw [conserved_after_deleteFile hsound hconserved hfile, not_not]
    exact h
  | _ => cases h

end Cluster

/-! ## A whole run -/

/-- Along a run without heartbeats that draws no identifier twice, every node in service has its
capacity free or booked in every state, if and only if no deletion stops within the copies of a
chunk. -/
theorem Run.conserved_iff {settings : Settings} {ids : IdSupply} {steps : List (Cluster × Event)}
    {c : Cluster} (h : Run (.fresh settings ids) steps c)
    (hinj : Set.InjOn ids.nth (Set.Ioc ids.drawn c.ids.drawn))
    (hquiet : ∀ s e, (s, e) ∈ steps → e.isHeartbeat = false) :
    (∀ s ∈ c :: steps.map Prod.fst, s.store.Conserved) ↔
      ∀ s e, (s, e) ∈ steps → ¬s.LosesSpace e := by
  refine ⟨fun hall s e hstep hloses => ?_, ?_⟩
  · obtain ⟨hbefore, hafter⟩ := h.mem_states hstep
    have hsound := (h.history hinj).sound s hbefore
    exact Cluster.not_conserved_of_losesSpace hsound (hall s hbefore) hloses (hall _ hafter)
  induction h with
  | nil =>
    refine fun _ => List.forall_mem_singleton.2 fun id node hnode => ?_
    cases hnode
  | @cons steps c e run read ih =>
    intro hno
    have hinj' := Run.injOn_before hinj
    have hconserved := ih hinj' (fun s e hstep => hquiet s e (List.mem_cons_of_mem _ hstep))
      fun s e hstep => hno s e (List.mem_cons_of_mem _ hstep)
    have hhistory := run.history hinj'
    have heffect := Cluster.effect_after c e
    refine List.forall_mem_cons.2 ⟨?_, hconserved⟩
    exact heffect.conserved (hhistory.sound c List.mem_cons_self)
      (hhistory.drawsNew heffect.drawn.2 hinj) (hquiet c e List.mem_cons_self)
      (hconserved c List.mem_cons_self) (hno c e List.mem_cons_self)

/-- A node that holds a copy is taken out of service and comes back. -/
def comeback : List (Cluster → Event) :=
  [fun _ => .register ⟨"a", "host", 1, 1000⟩ 0,
   fun _ => .upload ⟨"name", 10, none, some 1⟩ 0,
   fun _ => .report ⟨2⟩ "a",
   fun _ => .removeNode "a" true,
   fun _ => .register ⟨"a", "host", 1, 500⟩ 7]

/-- It comes back with all its space free. -/
theorem Run.conserved_iff_comeback :
    Run (.fresh .default .counting) (played comeback).1 (played comeback).2 ∧
      Set.InjOn IdSupply.counting.nth (Set.Ioc 0 (played comeback).2.ids.drawn) ∧
      (∀ s e, (s, e) ∈ (played comeback).1 → e.isHeartbeat = false) ∧
      ∀ s ∈ (played comeback).2 :: (played comeback).1.map Prod.fst, s.store.Conserved := by
  have hrun : Run (.fresh .default .counting) (played comeback).1 (played comeback).2 :=
    of_played (by simp [comeback, Event.ReadFrom])
  have hdrawn : (played comeback).2.ids.drawn = 2 := by decide +kernel
  have hinj : Set.InjOn IdSupply.counting.nth (Set.Ioc 0 (played comeback).2.ids.drawn) := by
    rw [hdrawn]
    exact IdSupply.injOn_counting (by decide)
  have hchosen : ∀ s e, (s, e) ∈ (played comeback).1 → e.isHeartbeat = false ∧ ¬s.LosesSpace e := by
    intro s e hstep
    obtain ⟨choose, hchoose, rfl⟩ := mem_played hstep
    simp only [comeback, List.mem_cons, List.not_mem_nil, or_false] at hchoose
    rcases hchoose with rfl | rfl | rfl | rfl | rfl <;> exact ⟨rfl, fun h => h⟩
  have hquiet := fun s e hstep => (hchosen s e hstep).1
  exact ⟨hrun, hinj, hquiet,
    (Run.conserved_iff hrun hinj hquiet).2 fun s e hstep => (hchosen s e hstep).2⟩

/-- A chunk of `2 ^ 63` bytes has copies on three nodes when its file is deleted. -/
def leakingDeletion : List (Cluster → Event) :=
  [fun _ => .register ⟨"a", "host", 1, 0x8000000000000000⟩ 0,
   fun _ => .register ⟨"b", "host", 1, 0x8000000000000000⟩ 0,
   fun _ => .register ⟨"c", "host", 1, 0x8000000000000000⟩ 0,
   fun _ => .upload ⟨"name", 0x8000000000000000, some 0x8000000000000000, some 3⟩ 0,
   fun _ => .report ⟨2⟩ "a",
   fun _ => .report ⟨2⟩ "b",
   fun _ => .report ⟨2⟩ "c",
   fun _ => .deleteFile ⟨1⟩]

/-- The deletion stops at the second copy, and the third node does not get its space back. -/
theorem Run.exists_not_conserved :
    ¬∀ (settings : Settings) (ids : IdSupply) (steps : List (Cluster × Event)) (c : Cluster),
      Run (.fresh settings ids) steps c → Set.InjOn ids.nth (Set.Ioc ids.drawn c.ids.drawn) →
      (∀ s e, (s, e) ∈ steps → e.isHeartbeat = false) →
      ∀ s ∈ c :: steps.map Prod.fst, s.store.Conserved := by
  intro h
  have hrun : Run (.fresh .default .counting) (played leakingDeletion).1
      (played leakingDeletion).2 :=
    of_played (by simp [leakingDeletion, Event.ReadFrom])
  have hdrawn : (played leakingDeletion).2.ids.drawn = 2 := by decide +kernel
  have hquiet : ∀ s e, (s, e) ∈ (played leakingDeletion).1 → e.isHeartbeat = false := by
    intro s e hstep
    obtain ⟨choose, hchoose, rfl⟩ := mem_played hstep
    simp only [leakingDeletion, List.mem_cons, List.not_mem_nil, or_false] at hchoose
    rcases hchoose with rfl | rfl | rfl | rfl | rfl | rfl | rfl | rfl <;> rfl
  have hnode : ((played leakingDeletion).2.store.registry.live? "c").map
      (fun n => (n.capacity, n.free)) = some (0x8000000000000000, 1) := by
    decide +kernel
  have hbooked : (played leakingDeletion).2.store.catalog.booked "c" = 0 := by decide +kernel
  obtain ⟨node, hlive, heq⟩ := Option.map_eq_some_iff.1 hnode
  obtain ⟨hcapacity, hfree⟩ := Prod.mk.inj heq
  have hlost := h _ _ _ _ hrun (by rw [hdrawn]; exact IdSupply.injOn_counting (by decide)) hquiet _
    List.mem_cons_self "c" node hlive
  rw [hbooked, hcapacity, hfree] at hlost
  exact absurd hlost (by decide)

end ChunkCoordinator
