import ChunkCoordinator.Proofs.Lifetime

/-!
# Files stay whole

In every state of a life every stored file can be read with all its chunks, in their order and with
the lengths that make up the file (`Cluster.FilesComplete`). No chunk is ever without its file, or
on the lists of two, if and only if no deletion stops before it has come to all chunks of the file
(`Cluster.Abandons`). `Lifetime.files_intact` says both, restarts from earlier states included.
-/

set_option linter.unusedSectionVars false

namespace ChunkCoordinator

namespace Cluster

open Store

variable {c : Cluster} {e : Event}

/-- Every stored file can be read, with all its chunks in their order, none of them twice. -/
def FilesComplete (c : Cluster) : Prop := ∀ id file, c.store.catalog.files.get? id = some file →
  file.id = id ∧ (c.store.catalog.idsOf id).Nodup ∧
    ∃ chunks, c.store.catalog.file id = .ok (file, chunks) ∧
      (c.getFile id).result = .ok ⟨file, chunks.map c.chunkReplicas⟩ ∧
      chunks.map ChunkRecord.id = c.store.catalog.idsOf id ∧ file.Complete chunks

/-- The event is a deletion that stops before it comes to all chunks of the file. -/
def Abandons (c : Cluster) : Event → Prop
  | .deleteFile file => ∃ r ∈ c.store.catalog.recordsOf file,
    ¬Deletion.Meets (fun _ d => d.id = r.id) 0 (c.store.catalog.recordsOf file)
  | _ => False

theorem Orderly.filesComplete (h : c.Orderly) : c.FilesComplete := by
  intro id file hfile
  have hread := h.filed.file_eq hfile
  refine ⟨h.filed.named id file hfile, h.sound.listed_once id, _, hread, ?_,
    h.sound.map_id_recordsOf id, h.filed.complete id file hfile⟩
  rw [getFile, hread]
  rfl

/-- Such a deletion leaves a chunk without its file. -/
theorem not_noStrays_of_abandons (h : c.Orderly) (habandons : c.Abandons e) :
    ¬(c.after e).store.catalog.NoStrays := by
  cases e with
  | deleteFile file =>
    obtain ⟨r, hmem, hkept⟩ := habandons
    have hlisted := (h.sound.of_mem_recordsOf hmem).1
    obtain ⟨record, hfile⟩ :=
      Table.contains_iff.1 (h.sound.filed file (List.ne_nil_of_mem hlisted))
    exact Catalog.not_noStrays_of_deleted h.filed h.sound (after_deleteFile h.sound hfile).1 hmem
      hkept
  | _ => cases habandons

/-- No other event does. -/
theorem noStrays_after (h : c.Orderly) (hfresh : DrawsFresh c (c.after e))
    (hstrays : c.store.catalog.NoStrays) (hno : ¬c.Abandons e) :
    (c.after e).store.catalog.NoStrays := by
  rcases (effect_after c e).catalog_cases h.sound with
    halike | ⟨file, chunks, hcreated⟩ | ⟨file, rfl, hdeleted⟩
  · exact hstrays.alike halike
  · obtain ⟨hids, hunused⟩ := hfresh.drawsNew.chunks hcreated
    exact hstrays.createFile h.filed h.sound hcreated hids hunused fun id r =>
      hfresh.file_ne hcreated
  · refine hstrays.deleted h.filed h.sound hdeleted fun r hmem => ?_
    by_contra hkept
    exact hno ⟨r, hmem, hkept⟩

theorem noStrays_restart {s : Cluster} (h : s.Orderly) (hstrays : s.store.catalog.NoStrays)
    (c : Cluster) (settings : Settings) (time now : UInt64) :
    (c.restart settings (s.exportSnapshot time) now).cluster.store.catalog.NoStrays := by
  obtain ⟨-, -, hcatalog | ⟨hcatalog, -⟩⟩ := restart_spec c settings time now h.sound h.filed rfl
  · rwa [hcatalog]
  · rw [hcatalog]
    exact .empty

end Cluster

/-- All along a life whose deletions come to all chunks of their files, no chunk is without its
file. -/
theorem Lifetime.noStrays {settings : Settings} {ids : IdSupply} {steps : List (Cluster × Turn)}
    {c : Cluster} (h : Lifetime (.fresh settings ids) steps c)
    (hinj : Set.InjOn ids.nth (Set.Ioc ids.drawn c.ids.drawn))
    (hno : ∀ s e, (s, .event e) ∈ steps → ¬s.Abandons e) :
    ∀ s ∈ c :: steps.map Prod.fst, s.store.catalog.NoStrays := by
  refine h.always (P := fun s => s.store.catalog.NoStrays) hinj .empty ?_ ?_
  · intro states s e hstep happening hs
    exact Cluster.noStrays_after happening.orderly happening.fresh hs (hno s e hstep)
  · intro s saved settings' time now horderly hsaved
    exact Cluster.noStrays_restart horderly hsaved s settings' time now

/-- All along a life that draws no identifier twice, the stored files are complete. Every chunk is
on the list of exactly one file all along if and only if no deletion stops before it comes to all
chunks of the file. -/
theorem Lifetime.files_intact {settings : Settings} {ids : IdSupply}
    {steps : List (Cluster × Turn)} {c : Cluster} (h : Lifetime (.fresh settings ids) steps c)
    (hinj : Set.InjOn ids.nth (Set.Ioc ids.drawn c.ids.drawn)) :
    (∀ s ∈ c :: steps.map Prod.fst, s.FilesComplete) ∧
      ((∀ s ∈ c :: steps.map Prod.fst, s.store.catalog.NoStrays) ↔
        ∀ s e, (s, .event e) ∈ steps → ¬s.Abandons e) := by
  have hannals := h.annals hinj
  refine ⟨fun s hs => (hannals.orderly s hs).filesComplete, fun hall s e hstep habandons => ?_,
    h.noStrays hinj⟩
  obtain ⟨hbefore, hafter⟩ := h.mem_states hstep
  exact Cluster.not_noStrays_of_abandons (hannals.orderly s hbefore) habandons (hall _ hafter)

/-- A file of three chunks, on which the coordinator is started anew. -/
def interruptedUpload : List (Cluster → Turn) :=
  [fun _ => .event (.register ⟨"a", "host", 1, 1000⟩ 0),
   fun _ => .event (.register ⟨"b", "host", 1, 1000⟩ 0),
   fun _ => .event (.upload ⟨"name", 25, some 10, some 2⟩ 0),
   fun _ => .event (.report ⟨3⟩ "a"),
   fun s => .restart .default (s.exportSnapshot 4) 5,
   fun _ => .event (.report ⟨3⟩ "b"),
   fun s => .event (s.sweepNow 1000)]

/-- The file is read after the restart as before. -/
theorem Lifetime.files_intact_interruptedUpload :
    Lifetime (.fresh .default .counting) (played interruptedUpload).1 (played interruptedUpload).2 ∧
      Set.InjOn IdSupply.counting.nth (Set.Ioc 0 (played interruptedUpload).2.ids.drawn) ∧
      (played interruptedUpload).2.store.catalog.idsOf ⟨1⟩ = [⟨2⟩, ⟨3⟩, ⟨4⟩] ∧
      ∀ s ∈ (played interruptedUpload).2 :: (played interruptedUpload).1.map Prod.fst,
        s.FilesComplete ∧ s.store.catalog.NoStrays := by
  have hlife : Lifetime (.fresh .default .counting) (played interruptedUpload).1
      (played interruptedUpload).2 := by
    refine of_played fun choose hchoose s => ?_
    simp only [interruptedUpload, List.mem_cons, List.not_mem_nil, or_false] at hchoose
    rcases hchoose with rfl | rfl | rfl | rfl | rfl | rfl | rfl
    case inr.inr.inr.inr.inl => exact ⟨s, List.mem_singleton_self s, 4, rfl⟩
    case inr.inr.inr.inr.inr.inr =>
      exact ⟨⟨s, List.mem_singleton_self s, .refl _⟩, s, List.mem_singleton_self s, .refl _⟩
    all_goals trivial
  have hdrawn : (played interruptedUpload).2.ids.drawn = 4 := by decide +kernel
  have hinj : Set.InjOn IdSupply.counting.nth
      (Set.Ioc 0 (played interruptedUpload).2.ids.drawn) := by
    rw [hdrawn]
    exact IdSupply.injOn_counting (by decide)
  have hwhole : ∀ s e, (s, .event e) ∈ (played interruptedUpload).1 → ¬s.Abandons e :=
    forall_play (by simp [interruptedUpload, Cluster.sweepNow, Cluster.Abandons])
  obtain ⟨hcomplete, hstrays⟩ := Lifetime.files_intact hlife hinj
  exact ⟨hlife, hinj, by decide +kernel, fun s hs => ⟨hcomplete s hs, hstrays.2 hwhole s hs⟩⟩

/-- Two of three chunks of `2 ^ 62` bytes each have copies on two nodes when their file is
deleted. -/
def unfinishedDeletion : List (Cluster → Turn) :=
  [fun _ => .event (.register ⟨"a", "host", 1, 0xFFFFFFFFFFFFFFFF⟩ 0),
   fun _ => .event (.register ⟨"b", "host", 1, 0xFFFFFFFFFFFFFFFF⟩ 0),
   fun _ => .event (.upload ⟨"name", 0xC000000000000000, some 0x4000000000000000, some 2⟩ 0),
   fun _ => .event (.report ⟨2⟩ "a"),
   fun _ => .event (.report ⟨2⟩ "b"),
   fun _ => .event (.report ⟨3⟩ "a"),
   fun _ => .event (.report ⟨3⟩ "b"),
   fun _ => .event (.deleteFile ⟨1⟩)]

/-- The deletion stops at the second chunk, and the third one is left without its file. -/
theorem Lifetime.exists_not_noStrays :
    ¬∀ (settings : Settings) (ids : IdSupply) (steps : List (Cluster × Turn)) (c : Cluster),
      Lifetime (.fresh settings ids) steps c → Set.InjOn ids.nth (Set.Ioc ids.drawn c.ids.drawn) →
      ∀ s ∈ c :: steps.map Prod.fst, s.store.catalog.NoStrays := by
  intro h
  have hlife : Lifetime (.fresh .default .counting) (played unfinishedDeletion).1
      (played unfinishedDeletion).2 :=
    of_played (by simp [unfinishedDeletion, Turn.ReadFrom, Event.ReadFrom])
  have hdrawn : (played unfinishedDeletion).2.ids.drawn = 4 := by decide +kernel
  have hleft : ((played unfinishedDeletion).2.store.catalog.chunks.get? ⟨4⟩).isSome := by
    decide +kernel
  have hgone : (played unfinishedDeletion).2.store.catalog.files = .empty := by decide +kernel
  obtain ⟨r, hr⟩ := Option.isSome_iff_exists.1 hleft
  obtain ⟨file, ⟨hfile, -⟩, -⟩ := h _ _ _ _ hlife
    (by rw [hdrawn]; exact IdSupply.injOn_counting (by decide)) _ List.mem_cons_self _ r hr
  rw [hgone, Table.contains_empty] at hfile
  cases hfile

end ChunkCoordinator
