import ChunkCoordinator.Cluster
import ChunkCoordinator.Proofs.Filing
import ChunkCoordinator.Proofs.Recording
import Mathlib.Data.List.Nodup

/-!
# Records come back as they were saved

Restoring takes the saved chunks one after the other, each onto the list of its file
(`Catalog.Restored`). The chunks of a file are saved in the order of their indices, which is the
order of its list, so a well filed catalog that is restored from its own records is the same again
(`Catalog.eq_of_restore_exported`).

`Cluster.restart` lets a new coordinator restore a saved state. If it was saved by a coordinator in
good order, its nodes are in service as before, and its files and chunks are as they were or, if
they are refused, all gone (`Cluster.restart_spec`).
-/

set_option linter.unusedSectionVars false

namespace ChunkCoordinator

/-! ## The order of saved chunks -/

/-- A list that is sorted by a comparison is in its order. -/
theorem pairwise_sortedBy_isLE {α : Type} (cmp : α → α → Ordering) [Std.TransCmp cmp] (l : List α) :
    (sortedBy (fun a b => (cmp a b).isLE) l).Pairwise fun a b => (cmp a b).isLE := by
  refine pairwise_sortedBy (fun a b => ?_) (fun a b c => Std.TransCmp.isLE_trans) l
  have hswap : cmp a b = (cmp b a).swap := Std.OrientedCmp.eq_swap
  rw [hswap]
  cases cmp b a <;> simp

namespace ChunkRecord

/-- Within a file it is the order by index. -/
theorem index_le_of_leInFile {a b : ChunkRecord} (h : leInFile a b) (hfile : a.file = b.file) :
    a.index ≤ b.index := by
  rw [leInFile, hfile, Std.ReflOrd.compare_self] at h
  exact Std.isLE_compare.1 h

end ChunkRecord

namespace Catalog

/-! ## Restoring a list of records -/

/-- The catalog holds these files and chunks, and every file lists its chunks in the order given. -/
structure Restored (files : List FileRecord) (chunks : List ChunkRecord) (c : Catalog) : Prop where
  files : c.files = .ofList (files.map fun f => (f.id, f))
  chunk_iff : ∀ id r, c.chunks.get? id = some r ↔ r ∈ chunks ∧ r.id = id
  in_file : ∀ r ∈ chunks, c.files.contains r.file
  lists : ∀ file, c.chunkIds.get? file = if c.files.contains file then
    some ((chunks.filter fun r => r.file = file).map ChunkRecord.id) else none

section

variable {registry : Registry} {files : List FileRecord} {chunks rest : List ChunkRecord}
  {r : ChunkRecord} {c c' : Catalog}

theorem restored_ofFiles (files : List FileRecord) : Restored files [] (ofFiles files) := by
  have hlists : (ofFiles files).chunkIds = (ofFiles files).files.map fun _ => [] := by
    rw [ofFiles, Table.map_ofList, List.map_map]
    rfl
  refine ⟨rfl, fun id r => ?_, fun r hr => absurd hr List.not_mem_nil, fun file => ?_⟩
  · exact iff_of_false (fun h => by cases h) fun h => List.not_mem_nil h.1
  · rw [hlists, Table.get?_map, Table.contains]
    cases (ofFiles files).files.get? file <;> rfl

theorem restoreChunk_ok (h : restoreChunk registry c r = .ok c') :
    c.files.contains r.file ∧ c.chunks.get? r.id = none ∧
      c' = { c with
        chunks := c.chunks.insert r.id r
        chunkIds := c.chunkIds.insert r.file (c.idsOf r.file ++ [r.id]) } := by
  unfold restoreChunk at h
  split at h
  · cases h
  next file hfile =>
  split at h
  · cases h
  split at h
  · cases h
  split at h
  · cases h
  next hnew =>
  refine ⟨Table.contains_of_get? hfile, Table.get?_eq_none_iff.2 ?_, (Except.ok.inj h).symm⟩
  rwa [Bool.not_eq_true] at hnew

/-- One more chunk is restored. -/
theorem Restored.snoc (hc : Restored files chunks c) (h : restoreChunk registry c r = .ok c') :
    Restored files (chunks ++ [r]) c' := by
  obtain ⟨hfile, hnew, rfl⟩ := restoreChunk_ok h
  constructor
  case files => exact hc.files
  case chunk_iff =>
    intro id r'
    refine Table.get?_insert_eq_some.trans ?_
    rw [hc.chunk_iff, List.mem_append, List.mem_singleton]
    constructor
    · rintro (⟨rfl, rfl⟩ | ⟨-, hr', rfl⟩)
      · exact ⟨.inr rfl, rfl⟩
      · exact ⟨.inl hr', rfl⟩
    · rintro ⟨hr' | rfl, rfl⟩
      · refine .inr ⟨fun heq => ?_, hr', rfl⟩
        rw [← heq, (hc.chunk_iff r'.id r').2 ⟨hr', rfl⟩] at hnew
        cases hnew
      · exact .inl ⟨rfl, rfl⟩
  case in_file =>
    intro r' hr'
    rcases List.mem_append.1 hr' with hr' | hr'
    · exact hc.in_file r' hr'
    · rw [List.mem_singleton.1 hr']
      exact hfile
  case lists =>
    intro file
    rw [List.filter_append, List.map_append]
    by_cases hid : r.file = file
    · subst hid
      have hids : c.idsOf r.file =
          (chunks.filter fun r' => r'.file = r.file).map ChunkRecord.id := by
        rw [idsOf, hc.lists, if_pos hfile, Option.getD_some]
      rw [Table.get?_insert_self, if_pos hfile, hids]
      simp
    · rw [Table.get?_insert_of_ne _ _ fun heq => hid heq.symm, hc.lists]
      simp [hid]

theorem Restored.append (hc : Restored files chunks c)
    (h : rest.foldlM (restoreChunk registry) c = .ok c') : Restored files (chunks ++ rest) c' := by
  induction rest generalizing chunks c with
  | nil =>
    obtain rfl := Except.ok.inj h
    rwa [List.append_nil]
  | cons r rest ih =>
    rw [List.foldlM_cons] at h
    cases hstep : restoreChunk registry c r with
    | error what => rw [hstep] at h; cases h
    | ok mid =>
      rw [hstep] at h
      rw [List.append_cons]
      exact ih (hc.snoc hstep) h

theorem restored_of_restore (h : restore registry files chunks = .ok c) : Restored files chunks c :=
  (restored_ofFiles files).append h

/-- The chunk is one of a file that has so many chunks, and its replicas are in service. -/
def Admits (registry : Registry) (files : Table FileId FileRecord) (r : ChunkRecord) : Prop :=
  (∃ file, files.get? r.file = some file ∧ r.index < file.totalChunks) ∧
    ∀ n, r.replicas.contains n → registry.isLive n

theorem exists_restoreChunk (h : Admits registry c.files r)
    (hnew : c.chunks.contains r.id = false) : ∃ c', restoreChunk registry c r = .ok c' := by
  obtain ⟨⟨file, hfile, hindex⟩, hlive⟩ := h
  have hnone : (r.replicas.keys.find? fun node => !registry.isLive node) = none := by
    refine List.find?_eq_none.2 fun n hn => ?_
    rw [hlive n (Table.mem_keys.1 hn)]
    exact Bool.false_ne_true
  unfold restoreChunk
  rw [hfile]
  dsimp only
  rw [if_neg (UInt64.not_le.2 hindex), hnone]
  dsimp only
  rw [hnew]
  exact ⟨_, rfl⟩

/-- Nothing else is asked of chunks with different identifiers. -/
theorem Restored.exists_append (hc : Restored files chunks c)
    (hids : ((chunks ++ rest).map ChunkRecord.id).Nodup)
    (hadmits : ∀ r ∈ rest, Admits registry c.files r) :
    ∃ c', rest.foldlM (restoreChunk registry) c = .ok c' := by
  induction rest generalizing chunks c with
  | nil => exact ⟨c, rfl⟩
  | cons r rest ih =>
    have hnew : c.chunks.contains r.id = false := by
      refine Bool.eq_false_iff.2 fun hcontains => ?_
      obtain ⟨old, hold⟩ := Table.contains_iff.1 hcontains
      obtain ⟨hmem, hid⟩ := (hc.chunk_iff r.id old).1 hold
      rw [List.map_append, List.nodup_append] at hids
      exact hids.2.2 old.id (List.mem_map_of_mem hmem) r.id (by simp) hid
    obtain ⟨hfirst, hrest⟩ := List.forall_mem_cons.1 hadmits
    obtain ⟨mid, hmid⟩ := exists_restoreChunk hfirst hnew
    have hfiles : mid.files = c.files := (hc.snoc hmid).files.trans hc.files.symm
    rw [List.append_cons] at hids
    rw [List.foldlM_cons, hmid]
    exact ih (hc.snoc hmid) hids (hfiles ▸ hrest)

end

/-! ## Restoring a catalog from its own records -/

section

variable {s : Store} {registry : Registry}

theorem mem_exported {r : ChunkRecord} :
    r ∈ s.catalog.exported.2 ↔ ∃ id, s.chunk? id = some r :=
  (perm_sortedBy _ _).mem_iff.trans Store.mem_allChunks

theorem nodup_exported (hsound : s.Sound) :
    (s.catalog.exported.2.map ChunkRecord.id).Nodup :=
  ((perm_sortedBy _ _).map _).nodup_iff.2 hsound.nodup_allChunks

/-- A chunk with its file has a place in it. -/
theorem WellFiled.placed (hfiled : s.catalog.WellFiled) {id : ChunkId} {r : ChunkRecord}
    (hr : s.chunk? id = some r) (hstored : s.catalog.files.contains r.file) :
    ∃ file, s.catalog.files.get? r.file = some file ∧ r.index < file.totalChunks := by
  obtain ⟨file, hfile⟩ := Table.contains_iff.1 hstored
  have hlisted : r ∈ s.catalog.recordsOf r.file :=
    Store.mem_recordsOf.2 ⟨id, hfiled.on_list id r hr hstored, hr⟩
  exact ⟨file, hfile, (hfiled.complete r.file file hfile).index_lt hlisted⟩

/-- Of the saved chunks those of a file are the chunks on its list, in the same order. -/
theorem filter_exported (hsound : s.Sound) (hfiled : s.catalog.WellFiled) {file : FileId}
    (hfile : s.catalog.files.contains file) :
    (s.catalog.exported.2.filter fun r => r.file = file) = s.catalog.recordsOf file := by
  obtain ⟨record, hrecord⟩ := Table.contains_iff.1 hfile
  have hcomplete := hfiled.complete file record hrecord
  have hindices : ((s.catalog.recordsOf file).map fun r => r.index.toNat).Nodup := by
    rw [hcomplete.indices]
    exact List.nodup_range
  have hmem : ∀ r, r ∈ s.catalog.exported.2.filter (fun r => r.file = file) ↔
      r ∈ s.catalog.recordsOf file := by
    intro r
    rw [List.mem_filter, mem_exported, decide_eq_true_eq]
    constructor
    · rintro ⟨⟨id, hid⟩, rfl⟩
      exact Store.mem_recordsOf.2 ⟨id, hfiled.on_list id r hid hfile, hid⟩
    · intro hr
      obtain ⟨-, hr, hrfile⟩ := hsound.of_mem_recordsOf hr
      exact ⟨⟨r.id, hr⟩, hrfile⟩
  have hnodup : s.catalog.exported.2.Nodup :=
    (perm_sortedBy _ _).nodup_iff.2 (hsound.nodup_allChunks.of_map _)
  have hsorted : s.catalog.exported.2.Pairwise fun a b => ChunkRecord.leInFile a b :=
    pairwise_sortedBy_isLE (compareLex (compareOn ChunkRecord.file) (compareOn ChunkRecord.index)) _
  have hfiltered : (s.catalog.exported.2.filter fun r => r.file = file).Pairwise
      fun a b => ChunkRecord.leByIndex a b := by
    refine List.pairwise_filter.2 (hsorted.imp fun hle ha hb => ?_)
    exact decide_eq_true (ChunkRecord.index_le_of_leInFile hle
      ((of_decide_eq_true ha).trans (of_decide_eq_true hb).symm))
  refine List.Perm.eq_of_pairwise (fun a b ha hb hab hba => ?_) hfiltered hcomplete.sorted
    ((List.perm_ext_iff_of_nodup (hnodup.filter _) (hindices.of_map _)).2 hmem)
  -- no two chunks of the file have the same index
  have heq : a.index = b.index := UInt64.le_antisymm (of_decide_eq_true hab) (of_decide_eq_true hba)
  exact List.inj_on_of_nodup_map hindices ((hmem a).1 ha) hb (congrArg UInt64.toNat heq)

/-- A catalog that is restored from its own records is the same again. -/
theorem eq_of_restore_exported (hsound : s.Sound) (hfiled : s.catalog.WellFiled) {c : Catalog}
    (h : restore registry s.catalog.exported.1 s.catalog.exported.2 = .ok c) : c = s.catalog := by
  obtain ⟨hfiles, hchunks, -, hlists⟩ := restored_of_restore h
  have hfiles : c.files = s.catalog.files := by
    rw [hfiles]
    exact (Table.ofList_values hfiled.named id).trans (Table.map_id _)
  have hchunks : c.chunks = s.catalog.chunks := by
    refine Table.ext_get? fun id => Option.ext fun r => ?_
    rw [hchunks, mem_exported]
    constructor
    · rintro ⟨⟨id', hr⟩, rfl⟩
      rwa [(hsound.fits id' r hr).id_eq]
    · exact fun hr => ⟨⟨id, hr⟩, (hsound.fits id r hr).id_eq⟩
  have hlists : c.chunkIds = s.catalog.chunkIds := by
    refine Table.ext_get? fun file => ?_
    rw [hlists, hfiles]
    split
    · next hfile =>
      obtain ⟨ids, hids⟩ := Table.contains_iff.1 ((hfiled.has_list file).trans hfile)
      have hidsOf : s.catalog.idsOf file = ids := by rw [idsOf, hids, Option.getD_some]
      rw [filter_exported hsound hfiled hfile, hsound.map_id_recordsOf, hidsOf, hids]
    · next hfile =>
      rw [← hfiled.has_list, Bool.not_eq_true, ← Table.get?_eq_none_iff] at hfile
      exact hfile.symm
  calc c = ⟨c.files, c.chunks, c.chunkIds⟩ := rfl
    _ = s.catalog := by rw [hfiles, hchunks, hlists]

/-- If no chunk is without its file, the records of a sound store are not refused. -/
theorem restore_exported (hsound : s.Sound) (hfiled : s.catalog.WellFiled)
    (hstrays : s.catalog.NoStrays) (hlive : ∀ n, s.registry.isLive n → registry.isLive n) :
    restore registry s.catalog.exported.1 s.catalog.exported.2 = .ok s.catalog := by
  have hfiles : (ofFiles s.catalog.exported.1).files = s.catalog.files :=
    (Table.ofList_values hfiled.named id).trans (Table.map_id _)
  have hadmits : ∀ r ∈ s.catalog.exported.2,
      Admits registry (ofFiles s.catalog.exported.1).files r := by
    intro r hr
    obtain ⟨id, hid⟩ := mem_exported.1 hr
    rw [hfiles]
    exact ⟨hfiled.placed hid ((noStrays_iff hsound hfiled).1 hstrays id r hid),
      fun n hn => hlive n ((hsound.fits id r hid).replica_live hn)⟩
  obtain ⟨c, hc⟩ := (restored_ofFiles s.catalog.exported.1).exists_append
    (nodup_exported hsound) hadmits
  exact hc.trans (congrArg Except.ok (eq_of_restore_exported hsound hfiled hc))

end

end Catalog

/-! ## Starting anew -/

/-- Why a request was refused, if it was. -/
def Reply.refusal? {α : Type} (reply : Reply α) : Option ServiceError :=
  match reply.result with
  | .error (.refused why) => some why
  | _ => none

namespace Cluster

/-- A new coordinator takes over a saved state. Of the old one it keeps the supply of
identifiers. -/
def restart (c : Cluster) (settings : Settings) (snapshot : Snapshot) (now : UInt64) : Reply Unit :=
  (fresh settings c.ids).restoreSnapshot snapshot now

theorem restoreSnapshot_of_error {c : Cluster} {snapshot : Snapshot} {now : UInt64}
    {what : Inconsistency} (h : Catalog.restore (.restore snapshot.nodes now) snapshot.files
      snapshot.chunks = .error what) :
    c.restoreSnapshot snapshot now =
      (c.withRegistry (.restore snapshot.nodes now)).refuse (.invariantViolation what.message) := by
  unfold restoreSnapshot
  dsimp only [withRegistry]
  rw [h]

/-- A restore that is not refused ends with the status of the cluster, whether that is a word or
not. -/
theorem cluster_restoreSnapshot {c : Cluster} {snapshot : Snapshot} {now : UInt64}
    {catalog : Catalog} (h : Catalog.restore (.restore snapshot.nodes now) snapshot.files
      snapshot.chunks = .ok catalog) :
    (c.restoreSnapshot snapshot now).cluster =
      ({ c with store := ⟨.restore snapshot.nodes now, catalog⟩ } : Cluster).status.cluster := by
  unfold restoreSnapshot
  dsimp only [withRegistry]
  rw [h]
  dsimp only
  split
  · next hstatus => exact (congrArg Reply.cluster hstatus).symm
  · next hstatus => exact (congrArg Reply.cluster hstatus).symm

theorem ids_restart (c : Cluster) (settings : Settings) (snapshot : Snapshot) (now : UInt64) :
    (c.restart settings snapshot now).cluster.ids = c.ids := by
  cases hrestore : Catalog.restore (.restore snapshot.nodes now) snapshot.files snapshot.chunks with
  | error what =>
    rw [restart, restoreSnapshot_of_error hrestore]
    rfl
  | ok catalog =>
    rw [restart, cluster_restoreSnapshot hrestore, (cluster_status _).2.2]
    rfl

/-- What a restart makes of a state that was saved in good order. -/
theorem restart_spec (c : Cluster) {s : Cluster} (settings : Settings) (time now : UInt64)
    (hsound : s.store.Sound) (hfiled : s.store.catalog.WellFiled) {reply : Reply Unit}
    (hreply : c.restart settings (s.exportSnapshot time) now = reply) :
    reply.cluster.queue = .empty ∧
      reply.cluster.store.registry = .restore s.store.registry.all now ∧
      (reply.cluster.store.catalog = s.store.catalog ∨
        (reply.cluster.store.catalog = .empty ∧ reply.refusal?.isSome)) := by
  obtain rfl := hreply
  cases hrestore : Catalog.restore (.restore (s.exportSnapshot time).nodes now)
      (s.exportSnapshot time).files (s.exportSnapshot time).chunks with
  | error what =>
    rw [restart, restoreSnapshot_of_error hrestore]
    exact ⟨rfl, rfl, .inr ⟨rfl, rfl⟩⟩
  | ok catalog =>
    obtain rfl : catalog = s.store.catalog := Catalog.eq_of_restore_exported hsound hfiled hrestore
    obtain ⟨hstore, hqueue, -⟩ := cluster_status { fresh settings c.ids with
      store := ⟨.restore (s.exportSnapshot time).nodes now, s.store.catalog⟩ }
    rw [restart, cluster_restoreSnapshot hrestore, hstore, hqueue]
    exact ⟨rfl, rfl, .inl rfl⟩

/-- If no chunk was without its file, they are all there again. -/
theorem catalog_restart (c : Cluster) {s : Cluster} (settings : Settings) (time now : UInt64)
    (hsound : s.store.Sound) (hkeyed : s.store.registry.Keyed) (hfiled : s.store.catalog.WellFiled)
    (hstrays : s.store.catalog.NoStrays) :
    (c.restart settings (s.exportSnapshot time) now).cluster.store.catalog = s.store.catalog := by
  have hagree := Registry.agree_restore_all hkeyed now
  have hrestore : Catalog.restore (.restore (s.exportSnapshot time).nodes now)
      (s.exportSnapshot time).files (s.exportSnapshot time).chunks = .ok s.store.catalog :=
    Catalog.restore_exported hsound hfiled hstrays fun n hn => hagree.isLive n ▸ hn
  rw [restart, cluster_restoreSnapshot hrestore, (cluster_status _).1]

end Cluster

end ChunkCoordinator
