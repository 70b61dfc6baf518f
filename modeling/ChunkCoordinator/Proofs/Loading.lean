import ChunkCoordinator.Proofs.RoundTrip

/-!
# Loading any snapshot

A coordinator loads whatever it is given, be it what a coordinator has saved or not. The records
are refused unless every chunk has a place in one of the files and its copies on nodes in service,
and no two chunks have the same identifier (`Snapshot.Admissible`). Nothing else is refused, and a
load that is not refused can only fail on the totals of the nodes (`Cluster.result_load_iff`).

That much is true of what has been loaded (`Store.Anchored`). Two things are not looked at : the
nodes that a chunk expects, and whether another chunk has the same place. The records are coherent
(`Store.Coherent`) if and only if the snapshot happens to be right in both
(`Cluster.loaded_coherent_iff`).

A load that is refused has already replaced the nodes. It leaves everything else alone, so the
records are as before if and only if the snapshot has the same nodes (`Cluster.refused_load`).
-/

set_option linter.unusedSectionVars false

namespace ChunkCoordinator

/-! ## What a snapshot says -/

namespace Snapshot

/-- The record of a node, the last one of that name. -/
def node? (s : Snapshot) (id : NodeId) : Option Node := s.nodes.reverse.find? fun n => n.id = id

/-- The record of a file, the last one of that identifier. -/
def file? (s : Snapshot) (id : FileId) : Option FileRecord :=
  s.files.reverse.find? fun f => f.id = id

/-- The node has a record and is not removed. -/
def serves (s : Snapshot) (id : NodeId) : Bool := (s.node? id).any Node.isLive

/-- The chunk has a place in one of the files, and its copies are on nodes in service. -/
structure Admits (s : Snapshot) (r : ChunkRecord) : Prop where
  placed : ∃ file, s.file? r.file = some file ∧ r.index < file.totalChunks
  copies : ∀ n, r.replicas.contains n → s.serves n

/-- Every chunk is admitted, and no two have the same identifier. -/
structure Admissible (s : Snapshot) : Prop where
  admits : ∀ r ∈ s.chunks, s.Admits r
  distinct : (s.chunks.map ChunkRecord.id).Nodup

variable {s : Snapshot} {r : ChunkRecord}

theorem get?_restore (s : Snapshot) (now : UInt64) (id : NodeId) :
    (Registry.restore s.nodes now).get? id = (s.node? id).map (Registry.restarted now) :=
  Table.get?_ofList_map Node.id (Registry.restarted now) s.nodes id

theorem isLive_restarted (now : UInt64) (node : Node) :
    (Registry.restarted now node).isLive = node.isLive := by
  rw [Node.isLive, Registry.health_restarted, Node.isLive]

theorem isLive_restore (s : Snapshot) (now : UInt64) (id : NodeId) :
    (Registry.restore s.nodes now).isLive id = s.serves id := by
  rw [Registry.isLive, Registry.live?, get?_restore, serves]
  cases s.node? id with
  | none => rfl
  | some node =>
    have hlive := isLive_restarted now node
    cases hnode : node.isLive <;> simp [Option.filter, hlive, hnode]

theorem get?_ofFiles (s : Snapshot) (id : FileId) :
    (Catalog.ofFiles s.files).files.get? id = s.file? id :=
  (Table.get?_ofList_map FileRecord.id (fun f => f) s.files id).trans Option.map_id'

theorem admits_iff (now : UInt64) :
    Catalog.Admits (.restore s.nodes now) (Catalog.ofFiles s.files).files r ↔ s.Admits r := by
  simp only [Catalog.Admits, get?_ofFiles, isLive_restore]
  exact ⟨fun h => ⟨h.1, h.2⟩, fun h => ⟨h.placed, h.copies⟩⟩

end Snapshot

/-! ## What is refused -/

namespace Catalog

variable {registry : Registry} {files : List FileRecord} {chunks rest : List ChunkRecord}
  {r : ChunkRecord} {c c' : Catalog}

theorem admits_of_restoreChunk (h : restoreChunk registry c r = .ok c') :
    Admits registry c.files r := by
  unfold restoreChunk at h
  split at h
  · cases h
  next file hfile =>
  split at h
  · cases h
  next hindex =>
  split at h
  · cases h
  next hlive =>
  refine ⟨⟨file, hfile, UInt64.not_le.1 hindex⟩, fun n hn => ?_⟩
  have hfound := List.find?_eq_none.1 hlive n (Table.mem_keys.2 hn)
  rwa [Bool.not_eq_true, Bool.not_eq_false'] at hfound

/-- Chunks that have been restored were all admitted, each under an identifier of its own. -/
theorem Restored.admits_of_append (hc : Restored files chunks c)
    (hids : (chunks.map ChunkRecord.id).Nodup)
    (h : rest.foldlM (restoreChunk registry) c = .ok c') :
    (∀ r ∈ rest, Admits registry c.files r) ∧ ((chunks ++ rest).map ChunkRecord.id).Nodup := by
  induction rest generalizing chunks c with
  | nil => exact ⟨fun r hr => absurd hr List.not_mem_nil, by rwa [List.append_nil]⟩
  | cons r rest ih =>
    rw [List.foldlM_cons] at h
    cases hstep : restoreChunk registry c r with
    | error what => rw [hstep] at h; cases h
    | ok mid =>
      rw [hstep] at h
      have hmid := hc.snoc hstep
      have hnew : r.id ∉ chunks.map ChunkRecord.id := by
        intro hmem
        obtain ⟨old, hold, hid⟩ := List.mem_map.1 hmem
        have hget := (hc.chunk_iff r.id old).2 ⟨hold, hid⟩
        rw [(restoreChunk_ok hstep).2.1] at hget
        cases hget
      have hids' : ((chunks ++ [r]).map ChunkRecord.id).Nodup := by
        rw [List.map_append, List.map_singleton, ← List.concat_eq_append]
        exact hids.concat hnew
      obtain ⟨hadmits, hnodup⟩ := ih hmid hids' h
      rw [hmid.files.trans hc.files.symm] at hadmits
      rw [List.append_cons]
      exact ⟨List.forall_mem_cons.2 ⟨admits_of_restoreChunk hstep, hadmits⟩, hnodup⟩

/-- Chunks are restored if and only if each is admitted and no two have the same identifier. -/
theorem exists_restore_iff : (∃ c, restore registry files chunks = .ok c) ↔
    (∀ r ∈ chunks, Admits registry (ofFiles files).files r) ∧
      (chunks.map ChunkRecord.id).Nodup := by
  have hnone := restored_ofFiles files
  constructor
  · rintro ⟨c, hc⟩
    exact hnone.admits_of_append List.nodup_nil hc
  · rintro ⟨hadmits, hids⟩
    exact hnone.exists_append hids hadmits

end Catalog

namespace Snapshot

theorem exists_restore_iff (s : Snapshot) (now : UInt64) :
    (∃ c, Catalog.restore (.restore s.nodes now) s.files s.chunks = .ok c) ↔ s.Admissible := by
  simp only [Catalog.exists_restore_iff, admits_iff]
  exact ⟨fun h => ⟨h.1, h.2⟩, fun h => ⟨h.admits, h.distinct⟩⟩

end Snapshot

namespace Cluster

variable {c : Cluster} {snapshot : Snapshot} {now : UInt64}

/-- A load is refused if and only if the snapshot is not admissible. -/
theorem isSome_refusal?_load (c : Cluster) (snapshot : Snapshot) (now : UInt64) :
    (c.restoreSnapshot snapshot now).refusal?.isSome ↔ ¬snapshot.Admissible := by
  rw [← snapshot.exists_restore_iff now]
  cases hrestore : Catalog.restore (.restore snapshot.nodes now) snapshot.files snapshot.chunks with
  | error what =>
    rw [restoreSnapshot_of_error hrestore]
    exact iff_of_true rfl fun ⟨catalog, h⟩ => by cases h
  | ok catalog =>
    refine iff_of_false ?_ (not_not_intro ⟨catalog, rfl⟩)
    unfold restoreSnapshot
    dsimp only [withRegistry]
    rw [hrestore]
    dsimp only [status, currentStatus?]
    cases (Registry.restore snapshot.nodes now).summary? <;>
      simp [answer, overflow, Reply.refusal?]

/-- It succeeds if and only if the totals of the nodes are words besides. -/
theorem result_load_iff (c : Cluster) (snapshot : Snapshot) (now : UInt64) :
    (c.restoreSnapshot snapshot now).result = .ok () ↔
      snapshot.Admissible ∧ (Registry.restore snapshot.nodes now).TotalsFit := by
  rw [result_restoreSnapshot, snapshot.exists_restore_iff]

end Cluster

/-! ## What has been loaded -/

namespace Store

/-- Every chunk has an identifier of its own and a place in a stored file, and its copies are on
nodes in service. -/
structure Anchored (s : Store) : Prop where
  distinct : (s.catalog.allChunks.map ChunkRecord.id).Nodup
  named : ∀ id r, s.chunk? id = some r → r.id = id
  placed : ∀ id r, s.chunk? id = some r →
    ∃ file, s.catalog.files.get? r.file = some file ∧ r.index < file.totalChunks
  copies : ∀ id r, s.chunk? id = some r → ∀ n, r.replicas.contains n → s.registry.isLive n

/-- Besides, no two chunks have the same place, and chunks expect only nodes in service. -/
structure Coherent (s : Store) : Prop extends Anchored s where
  places : ∀ id r id' r', s.chunk? id = some r → s.chunk? id' = some r' → r.file = r'.file →
    r.index = r'.index → id = id'
  targets : ∀ id r, s.chunk? id = some r → ∀ n, r.expected.contains n → s.registry.isLive n

end Store

namespace Snapshot

/-- No two chunks have the same place. -/
def PlacesDiffer (s : Snapshot) : Prop := (s.chunks.map fun r => (r.file, r.index)).Nodup

/-- Chunks expect only nodes in service. -/
def TargetsServe (s : Snapshot) : Prop := ∀ r ∈ s.chunks, ∀ n, r.expected.contains n → s.serves n

/-- The store has the records of the snapshot. -/
structure Loaded (s : Snapshot) (now : UInt64) (store : Store) : Prop where
  admissible : s.Admissible
  registry : store.registry = .restore s.nodes now
  catalog : Catalog.Restored s.files s.chunks store.catalog

namespace Loaded

variable {s : Snapshot} {now : UInt64} {store : Store}

theorem isLive (h : s.Loaded now store) (id : NodeId) : store.registry.isLive id = s.serves id := by
  rw [h.registry, isLive_restore]

theorem get?_files (h : s.Loaded now store) (id : FileId) :
    store.catalog.files.get? id = s.file? id :=
  (congrArg (fun files => Table.get? files id) h.catalog.files).trans (get?_ofFiles s id)

theorem chunk?_iff (h : s.Loaded now store) (id : ChunkId) (r : ChunkRecord) :
    store.chunk? id = some r ↔ r ∈ s.chunks ∧ r.id = id :=
  h.catalog.chunk_iff id r

theorem anchored (h : s.Loaded now store) : store.Anchored := by
  have hnamed : ∀ id r, store.chunk? id = some r → r.id = id :=
    fun id r hr => ((h.chunk?_iff id r).1 hr).2
  refine ⟨Table.nodup_map_values hnamed, hnamed, fun id r hr => ?_, fun id r hr n hn => ?_⟩
  · rw [h.get?_files]
    exact (h.admissible.admits r ((h.chunk?_iff id r).1 hr).1).placed
  · rw [h.isLive]
    exact (h.admissible.admits r ((h.chunk?_iff id r).1 hr).1).copies n hn

/-- Two things are taken on trust. -/
theorem coherent_iff (h : s.Loaded now store) :
    store.Coherent ↔ s.PlacesDiffer ∧ s.TargetsServe := by
  have hids := h.admissible.distinct
  have hstored : ∀ r ∈ s.chunks, store.chunk? r.id = some r :=
    fun r hr => (h.chunk?_iff r.id r).2 ⟨hr, rfl⟩
  constructor
  · rintro ⟨-, hplaces, htargets⟩
    refine ⟨(hids.of_map _).map_on fun r hr r' hr' heq => ?_, fun r hr n hn => ?_⟩
    · obtain ⟨hfile, hindex⟩ := Prod.mk.inj heq
      have hid := hplaces r.id r r'.id r' (hstored r hr) (hstored r' hr') hfile hindex
      exact List.inj_on_of_nodup_map hids hr hr' hid
    · exact h.isLive n ▸ htargets r.id r (hstored r hr) n hn
  · rintro ⟨hplaces, htargets⟩
    refine ⟨h.anchored, fun id r id' r' hr hr' hfile hindex => ?_, fun id r hr n hn => ?_⟩
    · obtain ⟨hmem, rfl⟩ := (h.chunk?_iff id r).1 hr
      obtain ⟨hmem', rfl⟩ := (h.chunk?_iff id' r').1 hr'
      exact congrArg ChunkRecord.id
        (List.inj_on_of_nodup_map hplaces hmem hmem' (Prod.ext hfile hindex))
    · rw [h.isLive]
      exact htargets r ((h.chunk?_iff id r).1 hr).1 n hn

end Loaded

end Snapshot

namespace Cluster

variable {c : Cluster} {snapshot : Snapshot} {now : UInt64} {reply : Reply Unit}

theorem loaded (hreply : c.restoreSnapshot snapshot now = reply) (hok : reply.result = .ok ()) :
    snapshot.Loaded now reply.cluster.store := by
  obtain rfl := hreply
  have hadmissible := ((c.result_load_iff snapshot now).1 hok).1
  obtain ⟨catalog, hrestore⟩ := (snapshot.exists_restore_iff now).2 hadmissible
  rw [cluster_restoreSnapshot hrestore, (cluster_status _).1]
  exact ⟨hadmissible, rfl, Catalog.restored_of_restore hrestore⟩

/-- Whatever snapshot a coordinator has loaded, every chunk has a place in a file and its copies on
nodes in service. All records are coherent if and only if no two chunks of the snapshot have the
same place and none expects a node that is not in service. -/
theorem loaded_coherent_iff (hreply : c.restoreSnapshot snapshot now = reply)
    (hok : reply.result = .ok ()) :
    reply.cluster.store.Anchored ∧
      (reply.cluster.store.Coherent ↔ snapshot.PlacesDiffer ∧ snapshot.TargetsServe) :=
  ⟨(loaded hreply hok).anchored, (loaded hreply hok).coherent_iff⟩

/-- A file of two chunks, one of which has its copy, on a node in service. The other node is
removed. -/
def halfStored : Snapshot where
  version := 1
  savedAt := 5
  nodes := [⟨"a", "host", 1, 1000, 990, .healthy, 5, 0⟩,
    ⟨"b", "host", 1, 1000, 1000, .removed, 0, 0⟩]
  files := [⟨⟨1⟩, "name", 20, 10, 2, 1, 0⟩]
  chunks := [⟨⟨2⟩, ⟨1⟩, 0, 10, 1, .ofKeys ["a"], .ofKeys ["a"], 0⟩,
    ⟨⟨3⟩, ⟨1⟩, 1, 10, 1, .empty, .ofKeys ["a"], 0⟩]

/-- It is loaded, and all is coherent. -/
theorem loaded_coherent_halfStored :
    ((fresh .default .counting).restoreSnapshot halfStored 9).result = .ok () ∧
      ((fresh .default .counting).restoreSnapshot halfStored 9).cluster.store.Coherent := by
  have hok : ((fresh .default .counting).restoreSnapshot halfStored 9).result = .ok () := by
    decide +kernel
  refine ⟨hok, (loaded_coherent_iff rfl hok).2.2 ⟨by unfold Snapshot.PlacesDiffer; decide, ?_⟩⟩
  intro r hr n hn
  have hkeys : ∀ r ∈ halfStored.chunks, ∀ n ∈ r.expected.keys, halfStored.serves n := by
    decide +kernel
  exact hkeys r hr n (Table.mem_keys.2 hn)

/-- The same file, whose chunks expect the removed node and are both the first one. -/
def misdirected : Snapshot :=
  { halfStored with
    chunks := [⟨⟨2⟩, ⟨1⟩, 0, 10, 1, .ofKeys ["a"], .ofKeys ["a", "b"], 0⟩,
      ⟨⟨3⟩, ⟨1⟩, 0, 10, 1, .empty, .ofKeys ["b"], 0⟩] }

/-- It is loaded all the same. -/
theorem exists_loaded_not_coherent :
    ¬∀ (settings : Settings) (ids : IdSupply) (snapshot : Snapshot) (now : UInt64),
      ((fresh settings ids).restoreSnapshot snapshot now).result = .ok () →
      ((fresh settings ids).restoreSnapshot snapshot now).cluster.store.Coherent := by
  intro h
  have hok : ((fresh .default .counting).restoreSnapshot misdirected 9).result = .ok () := by
    decide +kernel
  have hcoherent := h .default .counting misdirected 9 hok
  generalize hreply : (fresh .default .counting).restoreSnapshot misdirected 9 = reply
    at hok hcoherent
  have hloaded := loaded hreply hok
  have htargets := (hloaded.coherent_iff.1 hcoherent).2 _ List.mem_cons_self "b" (by decide)
  have hremoved : misdirected.serves "b" = false := by decide +kernel
  rw [hremoved] at htargets
  cases htargets

/-! ## What a refused load leaves behind -/

/-- A load is refused only if the snapshot is not admissible. The files, the chunks and the queue
are then as before, but the nodes are those of the snapshot already, so that all is as before if
and only if they are the same. -/
theorem refused_load (hreply : c.restoreSnapshot snapshot now = reply)
    (hrefused : reply.refusal?.isSome) :
    ¬snapshot.Admissible ∧ reply.cluster.store.catalog = c.store.catalog ∧
      reply.cluster.queue = c.queue ∧
      (∀ id, reply.cluster.store.registry.get? id =
        (snapshot.node? id).map (Registry.restarted now)) ∧
      (reply.cluster.store = c.store ↔
        ∀ id, c.store.registry.get? id = (snapshot.node? id).map (Registry.restarted now)) := by
  obtain rfl := hreply
  have hnot := (c.isSome_refusal?_load snapshot now).1 hrefused
  cases hrestore : Catalog.restore (.restore snapshot.nodes now) snapshot.files snapshot.chunks with
  | ok catalog => exact absurd ((snapshot.exists_restore_iff now).1 ⟨catalog, hrestore⟩) hnot
  | error what =>
    rw [restoreSnapshot_of_error hrestore]
    refine ⟨hnot, rfl, rfl, snapshot.get?_restore now, fun hsame id => ?_, fun hsame => ?_⟩
    · rw [← snapshot.get?_restore now, ← hsame]
      rfl
    · have hnodes : (Registry.restore snapshot.nodes now).nodes = c.store.registry.nodes :=
        Table.ext_get? fun id => (snapshot.get?_restore now id).trans (hsame id).symm
      have hregistry : Registry.restore snapshot.nodes now = c.store.registry :=
        congrArg Registry.mk hnodes
      calc (c.withRegistry (.restore snapshot.nodes now)).store
        _ = { c.store with registry := .restore snapshot.nodes now } := rfl
        _ = c.store := by rw [hregistry]

/-- A coordinator with one node. -/
def oneNode : Cluster := (fresh .default .counting).after (.register ⟨"a", "host", 1, 1000⟩ 0)

/-- The records of another node and of a chunk without its file. -/
def strayChunk : Snapshot where
  version := 1
  savedAt := 5
  nodes := [⟨"b", "host", 1, 1000, 1000, .unhealthy, 5, 0⟩]
  files := []
  chunks := [⟨⟨9⟩, ⟨8⟩, 0, 10, 1, .empty, .empty, 0⟩]

/-- The chunk is refused, and the node is taken over in place of the one that was there. -/
theorem refused_load_strayChunk :
    (oneNode.restoreSnapshot strayChunk 9).refusal?.isSome ∧ ¬strayChunk.Admissible ∧
      (oneNode.restoreSnapshot strayChunk 9).cluster.store.catalog = oneNode.store.catalog ∧
      (oneNode.restoreSnapshot strayChunk 9).cluster.queue = oneNode.queue ∧
      (oneNode.restoreSnapshot strayChunk 9).cluster.store.registry.get? "a" = none ∧
      (oneNode.restoreSnapshot strayChunk 9).cluster.store.registry.get? "b" =
        some ⟨"b", "host", 1, 1000, 1000, .unhealthy, 5, 0⟩ := by
  have hrefused : (oneNode.restoreSnapshot strayChunk 9).refusal?.isSome := by decide +kernel
  obtain ⟨hnot, hcatalog, hqueue, hnodes, -⟩ := refused_load rfl hrefused
  exact ⟨hrefused, hnot, hcatalog, hqueue, hnodes "a", hnodes "b"⟩

/-- So a load that is refused may have changed the records. -/
theorem exists_refused_moved :
    ¬∀ (c : Cluster) (snapshot : Snapshot) (now : UInt64) (why : ServiceError),
      (c.restoreSnapshot snapshot now).refusal? = some why →
      (c.restoreSnapshot snapshot now).cluster.store = c.store ∧
        (c.restoreSnapshot snapshot now).cluster.queue = c.queue := by
  intro h
  have hrefused : (oneNode.restoreSnapshot strayChunk 9).refusal?.isSome := by decide +kernel
  obtain ⟨why, hwhy⟩ := Option.isSome_iff_exists.1 hrefused
  have hstore := (h oneNode strayChunk 9 why hwhy).1
  have hgone :
      (oneNode.restoreSnapshot strayChunk 9).cluster.store.registry.isLive "a" = false := by
    decide +kernel
  have hthere : oneNode.store.registry.isLive "a" = true := by decide +kernel
  rw [hstore, hthere] at hgone
  cases hgone

end Cluster

end ChunkCoordinator
