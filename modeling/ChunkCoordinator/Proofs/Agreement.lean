import ChunkCoordinator.Proofs.Completion
import ChunkCoordinator.Proofs.Current
import ChunkCoordinator.Proofs.Integrity

/-!
# What is said about missing copies

How many chunks of a file have too few healthy copies is told in three ways. The list of files gives
a number for each file, the metadata of a file give the healthy copies of each of its chunks, and a
sweep finds out for itself what to order. All three agree on the chunks of stored files
(`Cluster.ReadingsAgree`). A sweep, however, looks at every chunk, and a chunk whose file is gone is
in no list (`Cluster.ShortStray`). `Lifetime.readings_agree` says that such chunks are the only
exception, and that there are none unless a deletion has stopped before it came to all chunks of its
file. After such a deletion the three disagree (`Lifetime.exists_not_counted`).
-/

set_option linter.unusedSectionVars false

namespace ChunkCoordinator

namespace Cluster

open Store

variable {c : Cluster} {now : UInt64} {report : SweepReport} {id : ChunkId} {r : ChunkRecord}
  {file : FileId}

/-! ## Lists and metadata -/

/-- The chunk has fewer healthy copies than it should have. -/
def IsUnderReplicated (c : Cluster) (r : ChunkRecord) : Prop :=
  c.healthyReplicas r < r.desired.toNat

instance (c : Cluster) (r : ChunkRecord) : Decidable (c.IsUnderReplicated r) :=
  inferInstanceAs (Decidable (_ < _))

/-- The metadata of some file list the chunk with fewer healthy copies than it should have. -/
def Counted (c : Cluster) (id : ChunkId) : Prop :=
  ∃ file metadata, (c.getFile file).result = .ok metadata ∧
    ∃ entry ∈ metadata.chunks, entry.chunk = id ∧ entry.healthyReplicas < entry.desired.toNat

/-- The chunk is stored though its file is not, and has fewer healthy copies than it should have. -/
def ShortStray (c : Cluster) (id : ChunkId) : Prop :=
  ∃ r, c.store.chunk? id = some r ∧ c.store.catalog.files.contains r.file = false ∧
    c.IsUnderReplicated r

/-- The healthy copies in the metadata are those that the list of files counts. -/
theorem healthyReplicas_chunkReplicas (c : Cluster) (r : ChunkRecord) :
    (c.chunkReplicas r).healthyReplicas = c.healthyReplicas r := by
  have hcount : (c.store.registry.endpoints r.replicas.keys).countP (fun e => e.health = .healthy) =
      r.replicas.keys.countP c.store.registry.isHealthy := by
    rw [Registry.endpoints, List.countP_filterMap]
    refine List.countP_congr fun t _ => ?_
    rw [Registry.isHealthy]
    cases c.store.registry.get? t <;> rfl
  rw [chunkReplicas, healthyReplicas, ChunkRecord.replicasIn, ← List.countP_eq_length_filter]
  exact hcount

theorem countP_chunkReplicas (c : Cluster) (chunks : List ChunkRecord) :
    (chunks.map c.chunkReplicas).countP (fun e => e.healthyReplicas < e.desired.toNat) =
      chunks.countP fun r => c.IsUnderReplicated r := by
  rw [List.countP_map]
  refine List.countP_congr fun r _ => ?_
  rw [Function.comp_apply, healthyReplicas_chunkReplicas]
  rfl

/-- The metadata of a file are about its chunks. -/
theorem getFile_eq_ok {metadata : FileMetadata} : (c.getFile file).result = .ok metadata ↔
    ∃ record, c.store.catalog.files.get? file = some record ∧
      metadata = ⟨record, (c.store.catalog.chunksOf file).map c.chunkReplicas⟩ := by
  rw [getFile, Catalog.file]
  cases c.store.catalog.files.get? file with
  | none => simp [refuse]
  | some record => simp [answer, eq_comm]

section

variable (h : c.Orderly)

include h

/-- The list of files counts the chunks of each that have too few healthy copies. -/
theorem Orderly.of_mem_listFiles {summary : FileSummary} (hsummary : summary ∈ c.listFiles) :
    ∃ record, c.store.catalog.files.get? summary.file = some record ∧ summary.underReplicated =
      (c.store.catalog.chunksOf summary.file).countP fun r => c.IsUnderReplicated r := by
  obtain ⟨⟨record, chunks⟩, hlisted, rfl⟩ := List.mem_map.1 hsummary
  obtain ⟨record', hrecord, heq⟩ := List.mem_map.1 hlisted
  obtain ⟨rfl, rfl⟩ := Prod.mk.inj heq
  obtain ⟨id, hid⟩ := Table.mem_values.1 ((perm_sortedBy _ _).subset hrecord)
  obtain rfl := h.filed.named id record' hid
  exact ⟨record', hid, rfl⟩

/-- Every stored file is in the list. -/
theorem Orderly.exists_mem_listFiles {record : FileRecord}
    (hfile : c.store.catalog.files.get? file = some record) :
    ∃ summary ∈ c.listFiles, summary.file = file := by
  have hrecord : record ∈ sortedBy FileRecord.leByAge c.store.catalog.files.values :=
    (perm_sortedBy _ _).symm.subset (Table.mem_values.2 ⟨file, hfile⟩)
  exact ⟨_, List.mem_map_of_mem (List.mem_map_of_mem hrecord), h.filed.named file record hfile⟩

/-- The chunks of a file are the stored ones that belong to it. -/
theorem Orderly.mem_chunksOf (hfile : c.store.catalog.files.contains file) :
    r ∈ c.store.catalog.chunksOf file ↔ c.store.chunk? r.id = some r ∧ r.file = file := by
  rw [Catalog.chunksOf, (perm_sortedBy _ _).mem_iff, List.mem_filterMap]
  constructor
  · rintro ⟨id, hid, hr⟩
    obtain ⟨r', hr', hfile'⟩ := h.sound.listed file id hid
    obtain rfl : r = r' := Option.some.inj (hr.symm.trans hr')
    exact ⟨(h.sound.fits id r hr).id_eq.symm ▸ hr, hfile'⟩
  · rintro ⟨hr, rfl⟩
    exact ⟨r.id, h.filed.on_list r.id r hr hfile, hr⟩

/-- What the metadata count are the chunks of stored files that have too few healthy copies. -/
theorem Orderly.counted_iff : c.Counted id ↔ ∃ r, c.store.chunk? id = some r ∧
    c.store.catalog.files.contains r.file ∧ c.IsUnderReplicated r := by
  constructor
  · rintro ⟨file, metadata, hmetadata, entry, hentry, rfl, hshort⟩
    obtain ⟨record, hfile, rfl⟩ := getFile_eq_ok.1 hmetadata
    obtain ⟨r, hr, rfl⟩ := List.mem_map.1 hentry
    rw [healthyReplicas_chunkReplicas] at hshort
    have hcontains := Table.contains_of_get? hfile
    obtain ⟨hstored, rfl⟩ := (h.mem_chunksOf hcontains).1 hr
    exact ⟨r, hstored, hcontains, hshort⟩
  · rintro ⟨r, hr, hfile, hshort⟩
    obtain ⟨record, hrecord⟩ := Table.contains_iff.1 hfile
    have hid := (h.sound.fits id r hr).id_eq
    refine ⟨r.file, _, getFile_eq_ok.2 ⟨record, hrecord, rfl⟩, c.chunkReplicas r,
      List.mem_map_of_mem ((h.mem_chunksOf hfile).2 ⟨hid.symm ▸ hr, rfl⟩), hid, ?_⟩
    rw [healthyReplicas_chunkReplicas]
    exact hshort

/-- Every other stored chunk that has too few is without its file. -/
theorem Orderly.counted_or_shortStray_iff : c.Counted id ∨ c.ShortStray id ↔
    ∃ r, c.store.chunk? id = some r ∧ c.IsUnderReplicated r := by
  rw [h.counted_iff]
  constructor
  · rintro (⟨r, hr, -, hshort⟩ | ⟨r, hr, -, hshort⟩) <;> exact ⟨r, hr, hshort⟩
  · rintro ⟨r, hr, hshort⟩
    cases hfile : c.store.catalog.files.contains r.file with
    | true => exact .inl ⟨r, hr, hfile, hshort⟩
    | false => exact .inr ⟨r, hr, hfile, hshort⟩

/-- The list of files shows no number but zero if the metadata count nothing. -/
theorem Orderly.underReplicated_eq_zero_iff :
    (∀ summary ∈ c.listFiles, summary.underReplicated = 0) ↔ ∀ id, ¬c.Counted id := by
  constructor
  · intro hzero id hcounted
    obtain ⟨r, hr, hfile, hshort⟩ := h.counted_iff.1 hcounted
    obtain ⟨record, hrecord⟩ := Table.contains_iff.1 hfile
    obtain ⟨summary, hsummary, heq⟩ := h.exists_mem_listFiles hrecord
    obtain ⟨-, -, hcount⟩ := h.of_mem_listFiles hsummary
    rw [hzero summary hsummary, heq] at hcount
    have hmem := (h.mem_chunksOf hfile).2 ⟨(h.sound.fits id r hr).id_eq.symm ▸ hr, rfl⟩
    exact List.countP_eq_zero.1 hcount.symm r hmem (decide_eq_true hshort)
  · intro hnone summary hsummary
    obtain ⟨record, hfile, hcount⟩ := h.of_mem_listFiles hsummary
    have hcontains := Table.contains_of_get? hfile
    rw [hcount, List.countP_eq_zero]
    intro r hr hshort
    obtain ⟨hstored, howner⟩ := (h.mem_chunksOf hcontains).1 hr
    exact hnone r.id
      (h.counted_iff.2 ⟨r, hstored, howner ▸ hcontains, of_decide_eq_true hshort⟩)

end

/-! ## Sweeps -/

namespace SweepsNow

variable (h : c.SweepsNow now report) (horderly : c.Orderly)

include h horderly

/-- Copies are ordered only of chunks that have too few healthy ones, -/
theorem underReplicated_of_emitted {i : Instruction} (hi : i ∈ report.emitted) :
    ∃ r, c.store.chunk? i.chunk = some r ∧ c.IsUnderReplicated r := by
  obtain ⟨r, hr⟩ := h.exists_chunk? horderly hi
  refine ⟨r, hr, ?_⟩
  by_contra henough
  have hnone := (h.served horderly hr).satisfied
    ((length_holders horderly.keyed r).symm ▸ Nat.not_lt.1 henough)
  exact Repair.emittedFor_eq_nil.1 hnone i hi (horderly.sound.fits i.chunk r hr).id_eq.symm

/-- and only such chunks are listed. -/
theorem underReplicated_of_unrecoverable (hid : id ∈ report.unrecoverable) :
    ∃ r, c.store.chunk? id = some r ∧ c.IsUnderReplicated r := by
  obtain ⟨r, hr, hlost⟩ := (h.mem_unrecoverable horderly).1 hid
  refine ⟨r, hr, ?_⟩
  rw [IsUnderReplicated, ← length_holders horderly.keyed]
  exact hlost.1

/-- If nothing is pending and no chunk is fresh, no copy is under way. -/
theorem missing_eq (hpending : c.queue.pending = .empty)
    (hold : Repair.isFresh now c.settings.instructionTtl r.createdAt = false) :
    c.missing now r = r.desired.toNat - c.healthyReplicas r := by
  have hnone : Repair.inFlight c.queue.pending c.store.registry.all now
      c.settings.instructionTtl r = [] := by
    refine List.eq_nil_iff_forall_not_mem.2 fun t ht => ?_
    obtain ⟨-, -, ⟨i, hi, -⟩ | ⟨hfresh, -⟩⟩ := Survey.mem_inFlight.1 ht
    · rw [hpending] at hi
      cases hi
    · rw [hold] at hfresh
      cases hfresh
  rw [missing, Repair.missing, hnone, length_holders horderly.keyed]
  rfl

/-- Then nothing is ordered and no chunk comes out short just if all have enough healthy copies. -/
theorem nothing_to_do_iff (hpending : c.queue.pending = .empty)
    (hold : ∀ id r, c.store.chunk? id = some r →
      Repair.isFresh now c.settings.instructionTtl r.createdAt = false) :
    report.emitted = [] ∧ report.shortOfTargets = 0 ↔
      ∀ id r, c.store.chunk? id = some r → ¬c.IsUnderReplicated r := by
  rw [h.shortOfTargets_eq horderly, List.countP_eq_zero]
  constructor
  · rintro ⟨hnone, hshort⟩ id r hr hunder
    refine hshort r (mem_allChunks.2 ⟨id, hr⟩) (decide_eq_true ?_)
    have hmissing := missing_eq h horderly hpending (hold id r hr)
    have hordered : Repair.emittedFor report r = [] :=
      Repair.emittedFor_eq_nil.2 (hnone ▸ List.forall_mem_nil _)
    rw [Repair.IsShort, hordered]
    exact (Nat.sub_pos_of_lt hunder).trans_eq hmissing.symm
  · intro henough
    refine ⟨List.eq_nil_iff_forall_not_mem.2 fun i hi => ?_, fun r hr hshort => ?_⟩
    · obtain ⟨r, hr, hunder⟩ := h.underReplicated_of_emitted horderly hi
      exact henough i.chunk r hr hunder
    · obtain ⟨id, hid⟩ := mem_allChunks.1 hr
      have hmissing := missing_eq h horderly hpending (hold id r hid)
      have hshort : (Repair.emittedFor report r).length < c.missing now r :=
        of_decide_eq_true hshort
      have henough := Nat.not_lt.1 (henough id r hid)
      omega

end SweepsNow

/-! ## All readings -/

/-- What the list of files, the metadata of files and sweeps over the records as they are say about
missing copies. -/
structure ReadingsAgree (c : Cluster) : Prop where
  /-- Every stored file is in the list, with the number of chunks that its metadata show to have too
  few healthy copies. -/
  files : ∀ file, c.store.catalog.files.contains file → ∃ metadata,
    (c.getFile file).result = .ok metadata ∧ (∃ summary ∈ c.listFiles, summary.file = file) ∧
      ∀ summary ∈ c.listFiles, summary.file = file → summary.underReplicated =
        metadata.chunks.countP fun entry => entry.healthyReplicas < entry.desired.toNat
  /-- A sweep orders copies only of such chunks, and lists no others, unless their file is gone. -/
  sweeps : ∀ now, ∃ report, c.SweepsNow now report ∧
    (∀ i ∈ report.emitted, c.Counted i.chunk ∨ c.ShortStray i.chunk) ∧
    (∀ id ∈ report.unrecoverable, c.Counted id ∨ c.ShortStray id) ∧
    (c.queue.pending = .empty → (∀ id r, c.store.chunk? id = some r →
        Repair.isFresh now c.settings.instructionTtl r.createdAt = false) →
      (report.emitted = [] ∧ report.shortOfTargets = 0 ↔
        (∀ summary ∈ c.listFiles, summary.underReplicated = 0) ∧ ∀ id, ¬c.ShortStray id))

theorem Orderly.readingsAgree (h : c.Orderly) (hidle : c.queue.sweeping = false) :
    c.ReadingsAgree := by
  constructor
  case files =>
    intro file hfile
    obtain ⟨record, hrecord⟩ := Table.contains_iff.1 hfile
    refine ⟨_, getFile_eq_ok.2 ⟨record, hrecord, rfl⟩, h.exists_mem_listFiles hrecord, ?_⟩
    rintro summary hsummary rfl
    obtain ⟨-, -, hcount⟩ := h.of_mem_listFiles hsummary
    rw [hcount, countP_chunkReplicas]
  case sweeps =>
    intro now
    obtain ⟨report, hsweep⟩ := h.exists_sweepsNow hidle now
    refine ⟨report, hsweep,
      fun i hi => h.counted_or_shortStray_iff.2 (hsweep.underReplicated_of_emitted h hi),
      fun id hid => h.counted_or_shortStray_iff.2 (hsweep.underReplicated_of_unrecoverable h hid),
      fun hpending hold => ?_⟩
    rw [hsweep.nothing_to_do_iff h hpending hold, h.underReplicated_eq_zero_iff, ← forall_and]
    refine forall_congr' fun id => ?_
    rw [← not_or, h.counted_or_shortStray_iff]
    simp only [not_exists, not_and]

/-- A chunk is not without its file if it is on a list. -/
theorem Orderly.not_shortStray (h : c.Orderly) (hstrays : c.store.catalog.NoStrays)
    (id : ChunkId) : ¬c.ShortStray id := by
  rintro ⟨r, hr, hgone, -⟩
  have hfile := (Catalog.noStrays_iff h.sound h.filed).1 hstrays id r hr
  rw [hgone] at hfile
  cases hfile

end Cluster

/-- All along a life that draws no identifier twice, the list of files, the metadata of files and
sweeps over the records as they are agree about missing copies, but for chunks whose file is gone.
There are no such chunks all along if no deletion stops before it comes to all chunks of the
file. -/
theorem Lifetime.readings_agree {settings : Settings} {ids : IdSupply}
    {steps : List (Cluster × Turn)} {c : Cluster} (h : Lifetime (.fresh settings ids) steps c)
    (hinj : Set.InjOn ids.nth (Set.Ioc ids.drawn c.ids.drawn)) :
    (∀ s ∈ c :: steps.map Prod.fst, s.ReadingsAgree) ∧
      ((∀ s e, (s, .event e) ∈ steps → ¬s.Abandons e) →
        ∀ s ∈ c :: steps.map Prod.fst, ∀ id, ¬s.ShortStray id) := by
  have horderly := (h.annals hinj).orderly
  refine ⟨fun s hs => (horderly s hs).readingsAgree (h.idle hinj s hs), fun hwhole s hs id => ?_⟩
  exact (horderly s hs).not_shortStray (h.noStrays hinj hwhole s hs) id

/-- One of two copies of a chunk is on a node that fails. -/
def failedHost : List (Cluster → Turn) :=
  [fun _ => .event (.register ⟨"a", "host", 1, 100⟩ 0),
   fun _ => .event (.register ⟨"b", "host", 1, 100⟩ 0),
   fun _ => .event (.register ⟨"c", "host", 1, 100⟩ 0),
   fun _ => .event (.upload ⟨"name", 20, some 10, some 2⟩ 0),
   fun _ => .event (.report ⟨2⟩ "a"),
   fun _ => .event (.report ⟨2⟩ "b"),
   fun _ => .event (.report ⟨3⟩ "a"),
   fun _ => .event (.report ⟨3⟩ "c"),
   fun _ => .event (.failNode "b")]

/-- The list counts one of the two chunks of the file, and a sweep orders a copy of it. -/
theorem Lifetime.readings_agree_failedHost :
    Lifetime (.fresh .default .counting) (played failedHost).1 (played failedHost).2 ∧
      Set.InjOn IdSupply.counting.nth (Set.Ioc 0 (played failedHost).2.ids.drawn) ∧
      (played failedHost).2.listFiles.map FileSummary.underReplicated = [1] ∧
      ((played failedHost).2.sweep 1000).result.toOption.map (fun report =>
        report.emitted.map fun i => (i.chunk, i.target)) = some [(⟨2⟩, "c")] ∧
      ∀ s ∈ (played failedHost).2 :: (played failedHost).1.map Prod.fst,
        s.ReadingsAgree ∧ ∀ id, ¬s.ShortStray id := by
  have hlife : Lifetime (.fresh .default .counting) (played failedHost).1 (played failedHost).2 :=
    of_played (by simp [failedHost, Turn.ReadFrom, Event.ReadFrom])
  have hdrawn : (played failedHost).2.ids.drawn = 3 := by decide +kernel
  have hinj : Set.InjOn IdSupply.counting.nth (Set.Ioc 0 (played failedHost).2.ids.drawn) := by
    rw [hdrawn]
    exact IdSupply.injOn_counting (by decide)
  have hwhole : ∀ s e, (s, .event e) ∈ (played failedHost).1 → ¬s.Abandons e :=
    forall_play (by simp [failedHost, Cluster.Abandons])
  obtain ⟨hagree, hstrays⟩ := Lifetime.readings_agree hlife hinj
  exact ⟨hlife, hinj, by decide +kernel, by decide +kernel, fun s hs =>
    ⟨hagree s hs, hstrays hwhole s hs⟩⟩

/-- After an unfinished deletion one of the nodes is removed. -/
def abandonedChunk : List (Cluster → Turn) :=
  unfinishedDeletion ++ [fun _ => .event (.removeNode "b" true)]

/-- A sweep lists the chunk that the deletion has left behind, though no file is left whose metadata
could count it. -/
theorem Lifetime.exists_not_counted :
    ¬∀ (settings : Settings) (ids : IdSupply) (steps : List (Cluster × Turn)) (c : Cluster),
      Lifetime (.fresh settings ids) steps c → Set.InjOn ids.nth (Set.Ioc ids.drawn c.ids.drawn) →
      ∀ now report, c.SweepsNow now report →
        (∀ i ∈ report.emitted, c.Counted i.chunk) ∧ ∀ id ∈ report.unrecoverable, c.Counted id := by
  intro h
  have hlife : Lifetime (.fresh .default .counting) (played abandonedChunk).1
      (played abandonedChunk).2 :=
    of_played (by simp [abandonedChunk, unfinishedDeletion, Turn.ReadFrom, Event.ReadFrom])
  have hdrawn : (played abandonedChunk).2.ids.drawn = 4 := by decide +kernel
  have hinj : Set.InjOn IdSupply.counting.nth
      (Set.Ioc 0 (played abandonedChunk).2.ids.drawn) := by
    rw [hdrawn]
    exact IdSupply.injOn_counting (by decide)
  have hgone : (played abandonedChunk).2.store.catalog.files = .empty := by decide +kernel
  have hlost : ((played abandonedChunk).2.sweep 1000).result.toOption.map
      SweepReport.unrecoverable = some [⟨4⟩] := by decide +kernel
  have horderly := (hlife.annals hinj).orderly _ List.mem_cons_self
  obtain ⟨report, hsweep⟩ := horderly.exists_sweepsNow (hlife.idle hinj _ List.mem_cons_self) 1000
  have hmem : (⟨4⟩ : ChunkId) ∈ report.unrecoverable := by
    rw [hsweep.result] at hlost
    split at hlost
    · rw [Option.some.inj hlost]
      exact List.mem_singleton_self _
    · cases hlost
  obtain ⟨r, -, hfile, -⟩ :=
    horderly.counted_iff.1 ((h _ _ _ _ hlife hinj 1000 report hsweep).2 _ hmem)
  rw [hgone, Table.contains_empty] at hfile
  cases hfile

end ChunkCoordinator
