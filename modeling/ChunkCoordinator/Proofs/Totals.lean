import ChunkCoordinator.Http.Server
import ChunkCoordinator.Proofs.RoundTrip
import Mathlib.Algebra.BigOperators.Group.Finset.Basic
import Mathlib.Algebra.Order.BigOperators.Group.List
import Mathlib.Algebra.Order.Group.Nat

/-!
# Totals that are no words

The status of a cluster adds up what the nodes in service can hold and what they have free, and a
deletion adds up the bytes of the copies that it gives back. Where such a sum is no word the request
is given up (`Cluster.StopsAtOverflow`). By then a sweep has issued its instructions, and a deletion
has dropped the file.

Nothing that comes before keeps the sums small : nodes register with any capacity, and each adds to
the total. In the life of a coordinator there is nothing else to look at, since no node has more
space free than it can hold (`Registry.Bounded`) and every copy is on a node in service
(`Lifetime.stops_at_overflow`).
-/

set_option linter.unusedSectionVars false

namespace ChunkCoordinator

/-! ## What the nodes can hold -/

/-- The bytes that the nodes in service can hold in all. -/
def Registry.capacityTotal (r : Registry) : Nat :=
  ((r.all.filter Node.isLive).map fun n => n.capacity.toNat).sum

/-- What they have free is a word if what they can hold is one. -/
theorem Registry.Bounded.totalsFit_iff {r : Registry} (h : r.Bounded) :
    r.TotalsFit ↔ r.capacityTotal < 2 ^ 64 := by
  refine and_iff_left_of_imp fun hcapacity => Nat.lt_of_le_of_lt ?_ hcapacity
  refine List.sum_le_sum fun n hn => ?_
  obtain ⟨id, hid⟩ := Table.mem_values.1 (List.mem_filter.1 hn).1
  exact UInt64.le_iff_toNat_le.1 (h id n hid)

/-! ## What a deletion gives back -/

namespace Store

open Deletion

/-- The bytes of the copies of a chunk that are on nodes in service, if the chunk is stored. -/
def heldBytes (s : Store) (id : ChunkId) : Nat :=
  (s.chunk? id).elim 0 fun r => r.size.toNat * r.replicas.keys.countP s.registry.isLive

/-- The bytes of all such copies of the chunks that a file lists. -/
def heldBytesOf (s : Store) (file : FileId) : Nat :=
  ∑ id ∈ (s.catalog.idsOf file).toFinset, s.heldBytes id

/-- One copy counts if its node is in service. -/
theorem exists_releaseReplica (size : UInt64) (s : Store) (sum : Nat) (n : NodeId) :
    ∃ registry, Registry.Agree Registry.standing s.registry registry ∧
      releaseReplica size ⟨s, asWord? sum⟩ n =
        ⟨{ s with registry },
          asWord? (sum + size.toNat * if s.registry.isLive n then 1 else 0)⟩ := by
  by_cases hsum : sum < 2 ^ 64
  · cases hlive : s.registry.live? n with
    | none =>
      refine ⟨s.registry, .refl _, ?_⟩
      rw [Registry.isLive, hlive, asWord?_of_lt hsum]
      simp [releaseReplica, Registry.credit, Registry.live, hlive, Except.map, asWord?_of_lt hsum]
    | some node =>
      refine ⟨s.registry.set n (Registry.crediting node (bookable size)),
        Registry.agree_set hlive (Registry.live?_eq_some.1 hlive).2 rfl, ?_⟩
      rw [releaseReplica_eq hsum hlive, if_pos (Registry.isLive_of_live? hlive), Nat.mul_one]
  · refine ⟨s.registry, .refl _, ?_⟩
    rw [asWord?_of_le (by omega), asWord?_of_le (by omega)]
    rfl

theorem exists_foldl_releaseReplica (size : UInt64) : ∀ (nodes : List NodeId) (s : Store) (sum : Nat),
    ∃ registry, Registry.Agree Registry.standing s.registry registry ∧
      nodes.foldl (releaseReplica size) ⟨s, asWord? sum⟩ =
        ⟨{ s with registry }, asWord? (sum + size.toNat * nodes.countP s.registry.isLive)⟩
  | [], s, sum => ⟨s.registry, .refl _, rfl⟩
  | n :: nodes, s, sum => by
    obtain ⟨mid, hmid, hfirst⟩ := exists_releaseReplica size s sum n
    obtain ⟨registry, hregistry, hrest⟩ := exists_foldl_releaseReplica size nodes
      { s with registry := mid } (sum + size.toNat * if s.registry.isLive n then 1 else 0)
    refine ⟨registry, hmid.trans hregistry, ?_⟩
    rw [List.foldl_cons, hfirst, hrest]
    have hsame : mid.isLive = s.registry.isLive := funext hmid.isLive
    rw [hsame, List.countP_cons, Nat.mul_add, Nat.add_assoc, Nat.add_comm (size.toNat * _)]

/-- Dropping a chunk gives back the bytes of its copies and nothing else. -/
theorem exists_dropChunk (s : Store) (id : ChunkId) {sum : Nat} (hsum : sum < 2 ^ 64) :
    ∃ registry, Registry.Agree Registry.standing s.registry registry ∧
      dropChunk ⟨s, asWord? sum⟩ id = ⟨s.dropping id registry, asWord? (sum + s.heldBytes id)⟩ := by
  rw [heldBytes]
  cases hr : s.chunk? id with
  | none =>
    have hkept : s.catalog.chunks.erase id = s.catalog.chunks := Table.erase_of_get?_eq_none hr
    refine ⟨s.registry, .refl _, ?_⟩
    rw [dropping, hkept]
    unfold chunk? at hr
    simp [dropChunk, asWord?_of_lt hsum, hr]
  | some r =>
    obtain ⟨registry, hregistry, hfold⟩ := exists_foldl_releaseReplica r.size r.replicas.keys
      { s with catalog := { s.catalog with chunks := s.catalog.chunks.erase id } } sum
    refine ⟨registry, hregistry, Eq.trans ?_ hfold⟩
    rw [asWord?_of_lt hsum]
    unfold chunk? at hr
    simp only [dropChunk, hr]

/-- A dropped chunk has nothing more to give back, and the others have what they had. -/
theorem heldBytes_dropping {s : Store} {registry : Registry}
    (h : Registry.Agree Registry.standing s.registry registry) (id id' : ChunkId) :
    (s.dropping id registry).heldBytes id' = if id' = id then 0 else s.heldBytes id' := by
  have hsame : registry.isLive = s.registry.isLive := funext h.isLive
  unfold heldBytes chunk? dropping
  split
  · next heq => rw [heq, Table.get?_erase_self]; rfl
  · next hne => rw [Table.get?_erase_of_ne _ hne, hsame]

/-- So a chunk counts once, however often it is listed. -/
theorem sum_heldBytes_cons {s : Store} {registry : Registry}
    (h : Registry.Agree Registry.standing s.registry registry) (id : ChunkId) (ids : List ChunkId) :
    ∑ id' ∈ (id :: ids).toFinset, s.heldBytes id' =
      s.heldBytes id + ∑ id' ∈ ids.toFinset, (s.dropping id registry).heldBytes id' := by
  have hzero : (s.dropping id registry).heldBytes id = 0 := by rw [heldBytes_dropping h, if_pos rfl]
  rw [List.toFinset_cons, ← Finset.sum_erase _ hzero,
    ← Finset.add_sum_erase _ _ (Finset.mem_insert_self id ids.toFinset), Finset.erase_insert_eq_erase]
  refine congrArg _ (Finset.sum_congr rfl fun id' hid' => ?_)
  rw [heldBytes_dropping h, if_neg (Finset.ne_of_mem_erase hid')]

theorem released_foldl_dropChunk : ∀ (ids : List ChunkId) (s : Store) (sum : Nat),
    (ids.foldl dropChunk ⟨s, asWord? sum⟩).released =
        asWord? (sum + ∑ id ∈ ids.toFinset, s.heldBytes id) ∧
      (ids.foldl dropChunk ⟨s, asWord? sum⟩).store.catalog.files = s.catalog.files
  | [], s, sum => ⟨rfl, rfl⟩
  | id :: ids, s, sum => by
    by_cases hsum : sum < 2 ^ 64
    · obtain ⟨registry, hregistry, hfirst⟩ := exists_dropChunk s id hsum
      obtain ⟨hreleased, hfiles⟩ := released_foldl_dropChunk ids (s.dropping id registry)
        (sum + s.heldBytes id)
      rw [List.foldl_cons, hfirst, sum_heldBytes_cons hregistry, ← Nat.add_assoc]
      exact ⟨hreleased, hfiles⟩
    · rw [asWord?_of_le (by omega), asWord?_of_le (by omega), foldl_dropChunk_none]
      exact ⟨rfl, rfl⟩

/-- No chunk comes to be stored when some are dropped. -/
theorem chunk?_of_foldl_dropChunk {id : ChunkId} {r : ChunkRecord} :
    ∀ (ids : List ChunkId) (s : Store) (sum : Nat),
      (ids.foldl dropChunk ⟨s, asWord? sum⟩).store.chunk? id = some r → s.chunk? id = some r
  | [], s, sum, hr => hr
  | id' :: ids, s, sum, hr => by
    by_cases hsum : sum < 2 ^ 64
    · obtain ⟨registry, -, hfirst⟩ := exists_dropChunk s id' hsum
      rw [List.foldl_cons, hfirst] at hr
      exact (chunk?_dropping.1 (chunk?_of_foldl_dropChunk ids _ _ hr)).2
    · rw [asWord?_of_le (by omega), foldl_dropChunk_none] at hr
      exact hr

/-- Nor when a file is deleted, even if the deletion stops halfway. -/
theorem chunk?_of_deleteFile {s : Store} {file : FileId} {id : ChunkId} {r : ChunkRecord}
    (hr : (s.deleteFile file).2.chunk? id = some r) : s.chunk? id = some r := by
  have hfold :
      ((s.catalog.idsOf file).foldl dropChunk ⟨s.forgetting file, some 0⟩).store.chunk? id = some r →
        s.chunk? id = some r := chunk?_of_foldl_dropChunk _ _ 0
  unfold deleteFile at hr
  split at hr
  · exact hr
  · unfold forgetting at hfold
    dsimp only at hr
    split at hr
    · exact hfold hr
    · exact hfold hr

/-- A deletion is given up if and only if the file is stored and the bytes to give back are no word.
The file is gone in any case. -/
theorem deleteFile_overflow_iff (s : Store) (file : FileId) :
    ((s.deleteFile file).1 = .error .overflow ↔
      s.catalog.files.contains file ∧ 2 ^ 64 ≤ s.heldBytesOf file) ∧
      (s.deleteFile file).2.catalog.files = s.catalog.files.erase file := by
  obtain ⟨hreleased, hfiles⟩ : ((s.catalog.idsOf file).foldl dropChunk
        ⟨s.forgetting file, some 0⟩).released = asWord? (s.heldBytesOf file) ∧
      ((s.catalog.idsOf file).foldl dropChunk ⟨s.forgetting file, some 0⟩).store.catalog.files =
        s.catalog.files.erase file := by
    have hfold := released_foldl_dropChunk (s.catalog.idsOf file) (s.forgetting file) 0
    rwa [Nat.zero_add] at hfold
  unfold deleteFile
  cases hfile : s.catalog.files.get? file with
  | none =>
    rw [Table.contains, hfile, Table.erase_of_get?_eq_none hfile]
    exact ⟨by simp, rfl⟩
  | some record =>
    rw [Table.contains, hfile, Option.isSome_some, and_iff_right (rfl : true = true),
      ← asWord?_eq_none, ← hreleased]
    unfold forgetting at hfiles ⊢
    dsimp only
    split
    · next hnone => exact ⟨iff_of_true rfl hnone, hfiles⟩
    · next released hsome => exact ⟨iff_of_false (by simp) (by simp [hsome]), hfiles⟩

/-- In a sound store these are the bytes of all confirmed copies. -/
theorem Sound.heldBytesOf_eq {s : Store} (h : s.Sound) (file : FileId) :
    s.heldBytesOf file = copiedBytes (s.catalog.recordsOf file) := by
  have hone : ∀ id r, s.chunk? id = some r → s.heldBytes id = r.copiedBytes := by
    intro id r hr
    have hlive : ∀ n ∈ r.replicas.keys, s.registry.isLive n := fun n hn =>
      (h.fits id r hr).replica_live (Table.mem_keys.1 hn)
    rw [heldBytes, hr, Option.elim_some, List.countP_eq_length.2 hlive, Table.length_keys]
    rfl
  have hall : ∀ ids : List ChunkId, (ids.map s.heldBytes).sum =
      copiedBytes (ids.filterMap s.catalog.chunks.get?) := by
    intro ids
    induction ids with
    | nil => rfl
    | cons id ids ih =>
      rw [List.map_cons, List.sum_cons, ih]
      cases hr : s.catalog.chunks.get? id with
      | none =>
        have hzero : s.heldBytes id = 0 := by
          rw [heldBytes, chunk?, hr]
          rfl
        rw [List.filterMap_cons_none hr, hzero, Nat.zero_add]
      | some r =>
        rw [List.filterMap_cons_some hr, hone id r hr]
        rfl
  rw [heldBytesOf, List.sum_toFinset _ (h.listed_once file), hall]
  rfl

end Store

/-! ## Requests that are given up -/

namespace Cluster

variable {c : Cluster}

theorem status_overflow_iff (c : Cluster) :
    c.status.result = .error .overflow ↔ ¬c.store.registry.TotalsFit := by
  rw [← Registry.isSome_summary?]
  unfold status currentStatus?
  cases c.store.registry.summary? <;> simp [answer, overflow]

/-- An answer for which the status is refreshed first is given if the totals are words. -/
theorem result_refreshed {α : Type} (c : Cluster) (value : α) :
    (match c.status with
      | ⟨.ok _, c⟩ => c.answer value
      | ⟨.error fault, c⟩ => (⟨.error fault, c⟩ : Reply α)).result =
      if c.store.registry.TotalsFit then .ok value else .error .overflow := by
  have hfit := Registry.isSome_summary? (r := c.store.registry)
  unfold status currentStatus?
  cases hsummary : c.store.registry.summary? with
  | none =>
    rw [hsummary] at hfit
    exact (if_neg fun h => Bool.false_ne_true (hfit.2 h)).symm
  | some summary =>
    rw [hsummary] at hfit
    exact (if_pos (hfit.1 rfl)).symm

/-- The end of a sweep is answered if the totals are words. -/
theorem exists_result_recordSweep (c : Cluster) (report : SweepReport) :
    ∃ answer, (c.recordSweep report).result =
      if c.store.registry.TotalsFit then .ok answer else .error .overflow := by
  rw [← (expecting_recording c report).registry]
  exact ⟨_, result_refreshed _ _⟩

/-- The end of a sweep is given up just when the status is. The time of the sweep stays noted. -/
theorem recordSweep_overflow_iff (c : Cluster) (report : SweepReport) :
    ((c.recordSweep report).result = .error .overflow ↔ ¬c.store.registry.TotalsFit) ∧
      (c.recordSweep report).cluster.queue.lastSweep = c.queue.lastSweep := by
  constructor
  · obtain ⟨answer, hresult⟩ := c.exists_result_recordSweep report
    rw [hresult]
    split <;> simp [*]
  · rw [cluster_recordSweep rfl, (cluster_status _).2.1, forgetVanished_eq]
    rfl

/-- A sweep over whatever records is given up if and only if none other is under way and the totals
are no words. -/
theorem sweepOver_overflow_iff (c : Cluster) (chunks : List ChunkRecord) (nodes : List Node)
    (now : UInt64) :
    ((c.sweepOver chunks nodes now).result = .error .overflow ↔
      c.queue.sweeping = false ∧ ¬c.store.registry.TotalsFit) ∧
      (c.queue.sweeping = false →
        (c.sweepOver chunks nodes now).cluster.queue.lastSweep = some now) := by
  cases hsweeping : c.queue.sweeping with
  | true =>
    rw [sweepOver_refused hsweeping]
    exact ⟨iff_of_false (by simp [refuse]) (by simp), by simp⟩
  | false =>
    rw [sweepOver_eq hsweeping]
    obtain ⟨hresult, hlast⟩ := recordSweep_overflow_iff _ _
    exact ⟨hresult.trans (and_iff_right rfl).symm, fun _ => hlast⟩

theorem deleteFile_overflow_iff (c : Cluster) (file : FileId) :
    ((c.deleteFile file).result = .error .overflow ↔
      c.store.catalog.files.contains file ∧ 2 ^ 64 ≤ c.store.heldBytesOf file) ∧
      ((c.deleteFile file).cluster.store.catalog.files = c.store.catalog.files.erase file) := by
  obtain ⟨hresult, hfiles⟩ := c.store.deleteFile_overflow_iff file
  rw [← hresult, ← hfiles]
  unfold deleteFile
  split
  · next heq => rw [heq]; exact ⟨by simp, rfl⟩
  · next heq => rw [heq]; exact ⟨by simp [answer], rfl⟩

/-- A scrape of the metrics refreshes the gauges first. -/
theorem scrape_overflow_iff (c : Cluster) (now : UInt64) {request : Http.Request}
    (hpath : Http.Resource.ofPath? request.target.path = some .metrics)
    (hmethod : request.method = "GET" ∨ request.method = "HEAD") :
    (Http.Server.handle c now request).response = none ↔ ¬c.store.registry.TotalsFit := by
  have hscrape : (Http.Server.respondMetrics c).response = none ↔ ¬c.store.registry.TotalsFit := by
    rw [← status_overflow_iff]
    unfold Http.Server.respondMetrics status
    cases c.currentStatus? <;> simp [overflow, answer]
  unfold Http.Server.handle
  rw [hpath]
  dsimp only
  rcases hmethod with hget | hhead
  · rw [hget, if_neg (by decide)]
    exact hscrape
  · rw [if_pos hhead, Option.map_eq_none_iff]
    exact hscrape

/-- When requests are given up in a state, and what a sweep and a deletion have done by then. -/
structure StopsAtOverflow (s : Cluster) : Prop where
  /-- The status of the cluster. -/
  status : s.status.result = .error .overflow ↔ ¬s.store.registry.TotalsFit
  /-- A scrape of the metrics. -/
  scrape : ∀ (now : UInt64) (request : Http.Request),
    Http.Resource.ofPath? request.target.path = some .metrics →
    request.method = "GET" ∨ request.method = "HEAD" →
    ((Http.Server.handle s now request).response = none ↔ ¬s.store.registry.TotalsFit)
  /-- A sweep over any records. -/
  sweep : ∀ (chunks : List ChunkRecord) (nodes : List Node) (now : UInt64),
    (s.sweepOver chunks nodes now).result = .error .overflow ↔
      s.queue.sweeping = false ∧ ¬s.store.registry.TotalsFit
  /-- A sweep has taken place, whether it is given up or not. -/
  swept : ∀ (chunks : List ChunkRecord) (nodes : List Node) (now : UInt64),
    s.queue.sweeping = false → (s.sweepOver chunks nodes now).cluster.queue.lastSweep = some now
  /-- The end of a sweep that began in another state. -/
  record : ∀ report : SweepReport,
    (s.recordSweep report).result = .error .overflow ↔ ¬s.store.registry.TotalsFit
  /-- A restore of any records. -/
  restore : ∀ (snapshot : Snapshot) (now : UInt64),
    (s.restoreSnapshot snapshot now).result = .error .overflow ↔
      (∃ catalog, Catalog.restore (.restore snapshot.nodes now) snapshot.files snapshot.chunks =
        .ok catalog) ∧ ¬(Registry.restore snapshot.nodes now).TotalsFit
  /-- The deletion of a file. -/
  delete : ∀ file : FileId, (s.deleteFile file).result = .error .overflow ↔
    s.store.catalog.files.contains file ∧ 2 ^ 64 ≤ s.store.heldBytesOf file
  /-- The file is dropped, whether the deletion is given up or not. -/
  dropped : ∀ file : FileId,
    (s.deleteFile file).cluster.store.catalog.files = s.store.catalog.files.erase file

theorem stopsAtOverflow (s : Cluster) : s.StopsAtOverflow where
  status := s.status_overflow_iff
  scrape := fun now _ hpath hmethod => s.scrape_overflow_iff now hpath hmethod
  sweep := fun chunks nodes now => (s.sweepOver_overflow_iff chunks nodes now).1
  swept := fun chunks nodes now => (s.sweepOver_overflow_iff chunks nodes now).2
  record := fun report => (s.recordSweep_overflow_iff report).1
  restore := s.restoreSnapshot_overflow_iff
  delete := fun file => (s.deleteFile_overflow_iff file).1
  dropped := fun file => (s.deleteFile_overflow_iff file).2

end Cluster

/-! ## All along a life -/

namespace Lifetime

variable {settings : Settings} {ids : IdSupply} {steps : List (Cluster × Turn)} {c : Cluster}

/-- No node ever has more space free than it can hold. -/
theorem bounded (h : Lifetime (.fresh settings ids) steps c)
    (hinj : Set.InjOn ids.nth (Set.Ioc ids.drawn c.ids.drawn)) :
    ∀ s ∈ c :: steps.map Prod.fst, s.store.registry.Bounded := by
  refine h.always (P := fun s => s.store.registry.Bounded) hinj .empty ?_ ?_
  · exact fun _ s e _ _ hs => hs.steps (Cluster.steps_after s e)
  · intro s saved settings time now horderly hsaved
    obtain ⟨-, hregistry, -⟩ :=
      Cluster.restart_spec s settings time now horderly.sound horderly.filed rfl
    rw [hregistry]
    exact hsaved.restore_all now

/-- In any state the requests that add up sizes are given up where the sum is no word, and nowhere
else. In a state of a life the sums are what the nodes in service can hold and what the confirmed
copies of the file take up, and a fresh coordinator that is started from the state is given up for
the same reason. -/
theorem stops_at_overflow (s : Cluster) :
    s.StopsAtOverflow ∧ ∀ (settings : Settings) (ids : IdSupply) (steps : List (Cluster × Turn)),
      Lifetime (.fresh settings ids) steps s →
      Set.InjOn ids.nth (Set.Ioc ids.drawn s.ids.drawn) →
      (s.store.registry.TotalsFit ↔ s.store.registry.capacityTotal < 2 ^ 64) ∧
        (∀ file, s.store.heldBytesOf file = copiedBytes (s.store.catalog.recordsOf file)) ∧
        ∀ (settings' : Settings) (ids' : IdSupply) (time now : UInt64),
          ((Cluster.fresh settings' ids').restoreSnapshot (s.exportSnapshot time) now).result =
            .error .overflow ↔
          s.store.catalog.NoStrays ∧ 2 ^ 64 ≤ s.store.registry.capacityTotal := by
  refine ⟨s.stopsAtOverflow, fun settings ids steps h hinj => ?_⟩
  have horderly := (h.annals hinj).orderly s List.mem_cons_self
  have hfit := (h.bounded hinj s List.mem_cons_self).totalsFit_iff
  refine ⟨hfit, horderly.sound.heldBytesOf_eq, fun settings' ids' time now => ?_⟩
  rw [Cluster.restoreSnapshot_overflow_iff]
  refine and_congr (horderly.restore_exported_iff now) ?_
  rw [← Nat.not_lt, ← hfit]
  exact not_congr (Registry.totalsFit_restore_all horderly.keyed now)

/-- Two nodes of `2 ^ 63` bytes, each with a copy of a file that takes up all its space. -/
def overfull : List (Cluster → Turn) :=
  [fun _ => .event (.register ⟨"a", "host", 1, 0x8000000000000000⟩ 0),
   fun _ => .event (.register ⟨"b", "host", 1, 0x8000000000000000⟩ 0),
   fun _ => .event (.upload ⟨"name", 0x8000000000000000, some 0x8000000000000000, some 2⟩ 0),
   fun _ => .event (.report ⟨2⟩ "a"),
   fun _ => .event (.report ⟨2⟩ "b")]

theorem of_overfull : Lifetime (.fresh .default .counting) (played overfull).1 (played overfull).2 ∧
    Set.InjOn IdSupply.counting.nth (Set.Ioc 0 (played overfull).2.ids.drawn) := by
  have hdrawn : (played overfull).2.ids.drawn = 2 := by decide +kernel
  refine ⟨of_played (by simp [overfull, Turn.ReadFrom, Event.ReadFrom]), ?_⟩
  rw [hdrawn]
  exact IdSupply.injOn_counting (by decide)

/-- Neither a sweep nor the deletion of the file comes to its end, nor does a restart. -/
theorem stops_at_overflow_overfull :
    ((played overfull).2.sweep 1000).result = .error .overflow ∧
      ((played overfull).2.deleteFile ⟨1⟩).result = .error .overflow ∧
      ((Cluster.fresh .default .counting).restoreSnapshot
        ((played overfull).2.exportSnapshot 1000) 1000).result = .error .overflow := by
  obtain ⟨hlife, hinj⟩ := of_overfull
  obtain ⟨hgives, hsums⟩ := stops_at_overflow (played overfull).2
  obtain ⟨hfit, hbytes, hrestore⟩ := hsums _ _ _ hlife hinj
  have htotal : 2 ^ 64 ≤ (played overfull).2.store.registry.capacityTotal := by decide +kernel
  have hcopies : 2 ^ 64 ≤ (played overfull).2.store.heldBytesOf ⟨1⟩ := by
    rw [hbytes]
    decide +kernel
  have hwhole : ∀ s e, (s, .event e) ∈ (played overfull).1 → ¬s.Abandons e :=
    forall_play (by simp [overfull, Cluster.Abandons])
  have hstrays := hlife.noStrays hinj hwhole _ List.mem_cons_self
  refine ⟨?sweep, ?delete, (hrestore .default .counting 1000 1000).2 ⟨hstrays, htotal⟩⟩
  case sweep =>
    exact (hgives.sweep _ _ 1000).2 ⟨by decide +kernel, fun h => absurd (hfit.1 h) (by omega)⟩
  case delete => exact (hgives.delete ⟨1⟩).2 ⟨by decide +kernel, hcopies⟩

/-- So a life can come to a state in which a sweep is given up, and to one in which a deletion is. -/
theorem exists_stopped :
    (¬∀ (settings : Settings) (ids : IdSupply) (steps : List (Cluster × Turn)) (c : Cluster),
      Lifetime (.fresh settings ids) steps c → Set.InjOn ids.nth (Set.Ioc ids.drawn c.ids.drawn) →
      ∀ now, (c.sweep now).result ≠ .error .overflow) ∧
    ¬∀ (settings : Settings) (ids : IdSupply) (steps : List (Cluster × Turn)) (c : Cluster),
      Lifetime (.fresh settings ids) steps c → Set.InjOn ids.nth (Set.Ioc ids.drawn c.ids.drawn) →
      ∀ file, (c.deleteFile file).result ≠ .error .overflow := by
  obtain ⟨hlife, hinj⟩ := of_overfull
  exact ⟨fun h => h _ _ _ _ hlife hinj 1000 (by decide +kernel),
    fun h => h _ _ _ _ hlife hinj ⟨1⟩ (by decide +kernel)⟩

end Lifetime

end ChunkCoordinator
