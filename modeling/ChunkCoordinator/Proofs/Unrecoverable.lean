import ChunkCoordinator.Proofs.Ledger
import ChunkCoordinator.Proofs.Repair

/-!
# The list of chunks beyond help

The queue lists the chunks without a healthy copy as of the last sweep. A sweep writes the list
anew from the records that it has read, which may be old, and then takes those off that it has
ordered copies of and does not find stored any more. So a chunk that has been deleted in the
meantime stays on the list if no copy of it was ordered, and a deletion that stops halfway leaves
its chunks on it (`Cluster.LeavesListed`). `Lifetime.listed_stored` says that all along a life
every chunk on the list is stored if and only if neither happens.
-/

set_option linter.unusedSectionVars false

namespace ChunkCoordinator

namespace Cluster

open Store

variable {c : Cluster} {e : Event} {chunks : List ChunkRecord} {nodes : List Node} {now : UInt64}

/-- Every chunk on the list is stored. -/
def ListedStored (c : Cluster) : Prop :=
  ∀ id ∈ c.listRebalances.unrecoverable, ∃ r, c.store.chunk? id = some r

/-- The event is a deletion that stops halfway, and it drops a chunk that is on the list, or it is a
sweep that has read of a chunk without healthy copies which is not stored any more, and orders no
copy of it. -/
def LeavesListed (c : Cluster) : Event → Prop
  | .deleteFile file =>
    2 ^ 64 ≤ copiedBytes (c.store.catalog.recordsOf file) ∧
      Deletion.Meets (fun _ r => c.queue.unrecoverable.contains r.id) 0
        (c.store.catalog.recordsOf file)
  | .sweep chunks nodes now =>
    c.queue.sweeping = false ∧ ∃ r ∈ chunks, c.store.chunk? r.id = none ∧
      Repair.IsLost nodes now c.settings.instructionTtl r ∧
      ∀ i ∈ c.orders chunks nodes now, i.chunk ≠ r.id
  | _ => False

theorem listedStored_iff : c.ListedStored ↔
    ∀ id, c.queue.unrecoverable.contains id → (c.store.chunk? id).isSome := by
  simp only [ListedStored, listRebalances, Table.mem_keys, Option.isSome_iff_exists]

/-- The status counts the chunks on the list. -/
theorem unrecoverableChunks_eq {status : ClusterStatus} (h : c.currentStatus? = some status) :
    status.unrecoverableChunks = c.listRebalances.unrecoverable.length := by
  obtain ⟨summary, -, rfl⟩ := Option.map_eq_some_iff.1 h
  exact (Table.length_keys _).symm

/-! ## Sweeps -/

/-- A sweep lists the chunks that its records show to be without help, but for those that are gone
and that it has ordered copies of. -/
theorem contains_unrecoverable_sweepOver (hsweeping : c.queue.sweeping = false)
    (hc : (chunks.map ChunkRecord.id).Nodup) (hn : (nodes.map Node.id).Nodup) (id : ChunkId) :
    (c.sweepOver chunks nodes now).cluster.queue.unrecoverable.contains id ↔
      (∃ r ∈ chunks, r.id = id ∧ Repair.IsLost nodes now c.settings.instructionTtl r) ∧
        c.store.chunkGone (c.orders chunks nodes now) id = false := by
  have hfound : id ∈ (c.survey chunks nodes now).findings.unrecoverable ↔
      ∃ r ∈ chunks, r.id = id ∧ Repair.IsLost nodes now c.settings.instructionTtl r :=
    Survey.mem_unrecoverable_findings hc hn
  rw [← hfound, ← Table.contains_ofKeys, queue_sweepOver hsweeping]
  simp only [Table.contains_iff, Table.get?_filter_eq_some, Bool.not_eq_true', exists_and_right]

/-- When a sweep leaves only stored chunks on the list. -/
theorem listedStored_sweepOver (hsweeping : c.queue.sweeping = false)
    (hc : (chunks.map ChunkRecord.id).Nodup) (hn : (nodes.map Node.id).Nodup) :
    (c.after (.sweep chunks nodes now)).ListedStored ↔
      ¬c.LeavesListed (.sweep chunks nodes now) := by
  have hstored : ∀ id, ((c.after (.sweep chunks nodes now)).store.chunk? id).isSome =
      (c.store.chunk? id).isSome := (sweepOver_spec c chunks nodes now).1.isSome_chunk?
  have hlisted : ∀ id, (c.after (.sweep chunks nodes now)).queue.unrecoverable.contains id ↔ _ :=
    contains_unrecoverable_sweepOver hsweeping hc hn
  rw [listedStored_iff]
  simp only [hstored, hlisted]
  constructor
  · rintro hall ⟨-, r, hr, hgone, hlost, hnone⟩
    have hkept : c.store.chunkGone (c.orders chunks nodes now) r.id = false := by
      rw [← Bool.not_eq_true, chunkGone_iff]
      rintro ⟨-, i, hi, heq⟩
      exact hnone i hi heq
    have hsome := hall r.id ⟨⟨r, hr, rfl, hlost⟩, hkept⟩
    rw [hgone] at hsome
    cases hsome
  · rintro hno id ⟨⟨r, hr, rfl, hlost⟩, hkept⟩
    by_contra hgone
    refine hno ⟨hsweeping, r, hr, Option.not_isSome_iff_eq_none.1 hgone, hlost, fun i hi heq => ?_⟩
    have htaken : c.store.chunkGone (c.orders chunks nodes now) r.id :=
      chunkGone_iff.2 ⟨Bool.not_eq_true _ ▸ hgone, i, hi, heq⟩
    rw [hkept] at htaken
    cases htaken

/-! ## Other events -/

/-- Nothing but a deletion or a sweep changes the list. -/
theorem unrecoverable_after (hdelete : ∀ file, e ≠ .deleteFile file)
    (hsweep : ∀ chunks nodes now, e ≠ .sweep chunks nodes now) :
    (c.after e).queue.unrecoverable = c.queue.unrecoverable := by
  cases e with
  | register request now => exact congrArg _ (quiet_register c request now).queue
  | heartbeat node free now => exact congrArg _ (quiet_heartbeat c node free now).queue
  | upload request now => exact congrArg _ (quiet_upload c request now).queue
  | failNode node => exact congrArg _ (quiet_failNode c node).queue
  | restoreNode node now => exact congrArg _ (quiet_restoreNode c node now).queue
  | sweepTimeouts now => exact congrArg _ (quiet_sweepTimeouts c now).queue
  | report chunk node =>
    rcases c.report_cases chunk node with ⟨-, -, hquiet⟩ | ⟨-, -, hqueue, -⟩
    · exact congrArg _ hquiet.queue
    · have hsame := congrArg Queue.unrecoverable hqueue
      exact hsame
  | removeNode node force =>
    rcases c.removeNode_cases node force with ⟨-, -, hquiet⟩ | ⟨-, -, hqueue, -⟩
    · exact congrArg _ hquiet.queue
    · have hsame := congrArg Queue.unrecoverable hqueue
      exact hsame
  | deleteFile file => exact absurd rfl (hdelete file)
  | sweep chunks nodes now => exact absurd rfl (hsweep chunks nodes now)

/-- A deletion takes the chunks of the file off the list, unless it stops halfway. -/
theorem contains_unrecoverable_deleteFile (hsound : c.store.Sound) {file : FileId}
    {record : FileRecord} (hfile : c.store.catalog.files.get? file = some record) (id : ChunkId) :
    (c.after (.deleteFile file)).queue.unrecoverable.contains id ↔
      c.queue.unrecoverable.contains id ∧
        (copiedBytes (c.store.catalog.recordsOf file) < 2 ^ 64 →
          id ∉ c.store.catalog.idsOf file) := by
  obtain ⟨s', -, heq⟩ := hsound.deleteFile_eq hfile
  rw [after, deleteFile, heq]
  by_cases hword : copiedBytes (c.store.catalog.recordsOf file) < 2 ^ 64
  · rw [asWord?_of_lt hword, forall_prop_of_true hword]
    dsimp only [Queue.forgetChunks, answer, markDirty]
    simp only [Table.contains_iff, Table.get?_filter_eq_some, decide_eq_true_eq, exists_and_right]
  · rw [asWord?_of_le (Nat.not_lt.1 hword)]
    exact (and_iff_left fun h => absurd h hword).symm

/-- A deletion leaves only stored chunks on the list, unless it stops halfway and drops a chunk that
is on it. -/
theorem ListedStored.deleteFile (h : c.ListedStored) (hsound : c.store.Sound) {file : FileId}
    {record : FileRecord} (hfile : c.store.catalog.files.get? file = some record)
    (hno : ¬c.LeavesListed (.deleteFile file)) : (c.after (.deleteFile file)).ListedStored := by
  obtain ⟨hdeleted, -⟩ := after_deleteFile hsound hfile
  rw [listedStored_iff] at h ⊢
  intro id hid
  obtain ⟨hbefore, hforgotten⟩ := (contains_unrecoverable_deleteFile hsound hfile id).1 hid
  obtain ⟨r, hr⟩ := Option.isSome_iff_exists.1 (h id hbefore)
  have hkept : ¬Deletion.Meets (fun _ d => d.id = id) 0 (c.store.catalog.recordsOf file) := by
    intro hmeets
    by_cases hword : copiedBytes (c.store.catalog.recordsOf file) < 2 ^ 64
    · obtain ⟨d, hmem, -, rfl⟩ := hmeets.exists_mem
      exact hforgotten hword (hsound.of_mem_recordsOf hmem).1
    · obtain ⟨before, d, after, hsplit, hsum, rfl⟩ := hmeets
      exact hno ⟨Nat.not_lt.1 hword, before, d, after, hsplit, hsum, hbefore⟩
  rw [(hdeleted.chunk?_iff id r).2 ⟨hr, hkept⟩]
  rfl

/-- Such a deletion leaves a chunk on the list that is not stored. -/
theorem not_listedStored_deleteFile (hsound : c.store.Sound) {file : FileId}
    (h : c.LeavesListed (.deleteFile file)) : ¬(c.after (.deleteFile file)).ListedStored := by
  obtain ⟨record, hfile⟩ := hsound.stored_of_meets h.2
  obtain ⟨hbytes, before, d, after, hsplit, hsum, hlisted⟩ := h
  obtain ⟨hdeleted, -⟩ := after_deleteFile hsound hfile
  rw [listedStored_iff]
  intro hall
  have hleft := (contains_unrecoverable_deleteFile hsound hfile d.id).2
    ⟨hlisted, fun hword => absurd hword (Nat.not_lt.2 hbytes)⟩
  obtain ⟨r, hr⟩ := Option.isSome_iff_exists.1 (hall d.id hleft)
  exact ((hdeleted.chunk?_iff d.id r).1 hr).2 ⟨before, d, after, hsplit, hsum, rfl⟩

/-! ## Every event -/

/-- The records that a sweep has read have different identifiers. -/
theorem nodup_of_read {ids : IdSupply} {states : List Cluster} (h : Annals ids states c)
    (hread : (Event.sweep chunks nodes now).ReadFrom states) :
    (chunks.map ChunkRecord.id).Nodup ∧ (nodes.map Node.id).Nodup := by
  obtain ⟨⟨s, hs, hchunks⟩, s', hs', hnodes⟩ := hread
  exact ⟨(hchunks.map _).nodup_iff.2 (h.orderly s hs).sound.nodup_allChunks,
    (hnodes.map _).nodup_iff.2 (h.orderly s' hs').keyed.nodup_all⟩

/-- All events but those leave only stored chunks on the list. -/
theorem ListedStored.step {ids : IdSupply} {states : List Cluster} (hlisted : c.ListedStored)
    (h : Lifetime.Happening ids states c e) (hno : ¬c.LeavesListed e) :
    (c.after e).ListedStored := by
  have hsound := h.orderly.sound
  have heffect := effect_after c e
  have hkept : (∀ file, e ≠ .deleteFile file) →
      (c.after e).queue.unrecoverable = c.queue.unrecoverable → (c.after e).ListedStored := by
    intro hdelete hqueue
    rw [listedStored_iff, hqueue]
    rw [listedStored_iff] at hlisted
    intro id hid
    obtain ⟨r, hr⟩ := Option.isSome_iff_exists.1 (hlisted id hid)
    refine Option.isSome_iff_exists.2 ((heffect.stays hsound h.fresh.drawsNew hr).resolve_right ?_)
    exact fun hdeletes => hdelete r.file hdeletes.1
  cases e with
  | deleteFile file =>
    cases hfile : c.store.catalog.files.get? file with
    | none =>
      have hrefused : c.after (.deleteFile file) = c := cluster_deleteFile_of_none hfile
      rwa [hrefused]
    | some record => exact hlisted.deleteFile hsound hfile hno
  | sweep chunks nodes now =>
    cases hsweeping : c.queue.sweeping with
    | true =>
      have hrefused : c.after (.sweep chunks nodes now) = c :=
        congrArg Reply.cluster (sweepOver_refused hsweeping)
      rwa [hrefused]
    | false =>
      obtain ⟨hc, hn⟩ := nodup_of_read h.annals h.read
      exact (listedStored_sweepOver hsweeping hc hn).2 hno
  | _ => exact hkept (fun _ => nofun) (unrecoverable_after (fun _ => nofun) fun _ _ _ => nofun)

/-- Those do not. -/
theorem not_listedStored_of_leaves {ids : IdSupply} {states : List Cluster}
    (h : Annals ids states c) (hread : e.ReadFrom states) (hleaves : c.LeavesListed e) :
    ¬(c.after e).ListedStored := by
  cases e with
  | deleteFile file => exact not_listedStored_deleteFile (h.orderly c h.last).sound hleaves
  | sweep chunks nodes now =>
    obtain ⟨hc, hn⟩ := nodup_of_read h hread
    exact fun hall => (listedStored_sweepOver hleaves.1 hc hn).1 hall hleaves
  | _ => exact absurd hleaves id

/-- A sweep over the records as they are leaves only stored chunks on the list. -/
theorem not_leavesListed_sweepNow (h : c.store.Sound) (now : UInt64) :
    ¬c.LeavesListed (c.sweepNow now) := by
  rintro ⟨-, r, hr, hgone, -⟩
  obtain ⟨id, hid⟩ := mem_allChunks.1 hr
  rw [(h.fits id r hid).id_eq, hid] at hgone
  cases hgone

end Cluster

/-! ## A whole life -/

namespace Lifetime

/-- All along a life every chunk on the list is stored if and only if no deletion that stops halfway
drops one that is on it, and no sweep lists a chunk that has been deleted since its records were
read. The status counts what is on the list. -/
theorem listed_stored {settings : Settings} {ids : IdSupply} {steps : List (Cluster × Turn)}
    {c : Cluster} (h : Lifetime (.fresh settings ids) steps c)
    (hinj : Set.InjOn ids.nth (Set.Ioc ids.drawn c.ids.drawn)) :
    ((∀ s ∈ c :: steps.map Prod.fst, s.ListedStored) ↔
        ∀ s e, (s, .event e) ∈ steps → ¬s.LeavesListed e) ∧
      ∀ s ∈ c :: steps.map Prod.fst, ∀ status, s.currentStatus? = some status →
        status.unrecoverableChunks = s.listRebalances.unrecoverable.length := by
  refine ⟨⟨fun hall s e hstep hleaves => ?_, fun hno => ?_⟩,
    fun s _ status => Cluster.unrecoverableChunks_eq⟩
  · have hafter := hall _ (h.mem_states hstep).2
    obtain ⟨later, earlier, rfl⟩ := List.append_of_mem hstep
    obtain ⟨b, hb, hle⟩ := h.of_append
    have happening := hb.happening (injOn_of_le hle hinj)
    exact Cluster.not_listedStored_of_leaves happening.annals happening.read hleaves hafter
  · refine h.always hinj (fun id hid => by cases hid) ?_ ?_
    · exact fun states s e hstep happening hs => hs.step happening (hno s e hstep)
    · intro s saved settings' time now horderly _ id hid
      rw [Cluster.listRebalances, (Cluster.restart_spec s settings' time now horderly.sound
        horderly.filed rfl).1] at hid
      cases hid

/-- The only copy of a chunk is lost, and a sweep lists the chunk. -/
def lostCopy : List (Cluster → Event) :=
  [fun _ => .register ⟨"a", "host", 1, 100⟩ 0,
   fun _ => .upload ⟨"name", 10, some 10, some 1⟩ 0,
   fun _ => .report ⟨2⟩ "a",
   fun _ => .failNode "a",
   Cluster.sweepNow 1000]

theorem run_lostCopy :
    Run (.fresh .default .counting) (Run.played lostCopy).1 (Run.played lostCopy).2 :=
  Run.of_played (by simp [lostCopy, Event.ReadFrom, Cluster.sweepNow])

/-- The deletion of the file takes the chunk off the list. -/
theorem listed_stored_lostCopy :
    ∃ steps c, Lifetime (.fresh .default .counting) steps c ∧
      Set.InjOn IdSupply.counting.nth (Set.Ioc 0 c.ids.drawn) ∧
      (∃ s ∈ steps.map Prod.fst, s.listRebalances.unrecoverable = [⟨2⟩]) ∧
      c.listRebalances.unrecoverable = [] ∧ ∀ s ∈ c :: steps.map Prod.fst, s.ListedStored := by
  have hlife := (run_lostCopy.cons (e := .deleteFile ⟨1⟩) trivial).lifetime
  have hinj := IdSupply.injOn_counting
    (n := ((Run.played lostCopy).2.after (.deleteFile ⟨1⟩)).ids.drawn) (by decide +kernel)
  refine ⟨_, _, hlife, hinj, ⟨_, List.mem_cons_self, by decide +kernel⟩, by decide +kernel,
    (listed_stored hlife hinj).1.2 fun s e hstep hleaves => ?_⟩
  obtain ⟨hs, -⟩ := hlife.mem_states hstep
  rcases List.mem_cons.1 (Run.mem_turns.1 hstep) with heq | hstep
  · obtain ⟨rfl, rfl⟩ := Prod.mk.inj heq
    have hbytes : copiedBytes ((Run.played lostCopy).2.store.catalog.recordsOf ⟨1⟩) < 2 ^ 64 := by
      decide +kernel
    exact absurd hbytes (Nat.not_lt.2 hleaves.1)
  · obtain ⟨choose, hchoose, rfl⟩ := Run.mem_played hstep
    simp only [lostCopy, List.mem_cons, List.not_mem_nil, or_false] at hchoose
    rcases hchoose with rfl | rfl | rfl | rfl | rfl
    case inr.inr.inr.inr =>
      have hsound := ((hlife.annals hinj).orderly _ hs).sound
      exact Cluster.not_leavesListed_sweepNow hsound 1000 hleaves
    all_goals exact hleaves

/-- A sweep that has read of the chunk before the deletion puts it on the list again. -/
theorem exists_not_listedStored :
    ¬∀ (settings : Settings) (ids : IdSupply) (steps : List (Cluster × Turn)) (c : Cluster),
      Lifetime (.fresh settings ids) steps c → Set.InjOn ids.nth (Set.Ioc ids.drawn c.ids.drawn) →
      ∀ s ∈ c :: steps.map Prod.fst, s.ListedStored := by
  intro h
  have hlate := (run_lostCopy.cons_late (e := .deleteFile ⟨1⟩) trivial 1001).lifetime
  have hgone : (((Run.played lostCopy).2.after (.deleteFile ⟨1⟩)).after
      ((Run.played lostCopy).2.sweepNow 1001)).store.chunk? ⟨2⟩ = none := by decide +kernel
  obtain ⟨r, hr⟩ := h _ _ _ _ hlate (IdSupply.injOn_counting (by decide +kernel)) _
    List.mem_cons_self ⟨2⟩ (by decide +kernel)
  rw [hgone] at hr
  cases hr

end Lifetime

end ChunkCoordinator
