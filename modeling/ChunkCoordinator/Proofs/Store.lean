import ChunkCoordinator.Store
import ChunkCoordinator.Proofs.Chunking
import ChunkCoordinator.Proofs.Placement
import ChunkCoordinator.Proofs.Registry

/-!
# What the store's operations change

The chunks of a store are seen through `Store.chunk?`. Reading an accepted operation off its
answer gives

* `Store.expect_eq_some` : a chunk expects more nodes, all of them in service;
* `Store.report_ok` : nothing happens, or the node joins the replicas of the chunk and is debited;
* `Store.retireNode_ok` : the node is removed and every chunk forgets it;
* `Store.createFile_ok` : a file with new identifiers is added together with all its chunks, which
  have no replica yet and expect nodes in service (`Store.Created`).

No operation changes what a chunk record says besides the nodes that it names
(`ChunkRecord.bare`).
-/

namespace ChunkCoordinator

namespace ChunkRecord

/-- The record without the nodes that it names. -/
def bare (r : ChunkRecord) : ChunkRecord := { r with replicas := .empty, expected := .empty }

/-- The record when it expects some nodes besides. -/
def expecting (r : ChunkRecord) (nodes : List NodeId) : ChunkRecord :=
  { r with expected := r.expected.addAll nodes }

/-- The record when a copy on one more node is confirmed. -/
def confirming (r : ChunkRecord) (node : NodeId) : ChunkRecord :=
  { r with replicas := r.replicas.add node }

/-- The record without one node. -/
def without (r : ChunkRecord) (node : NodeId) : ChunkRecord :=
  { r with replicas := r.replicas.erase node, expected := r.expected.erase node }

@[simp] theorem bare_expecting (r : ChunkRecord) (nodes : List NodeId) :
    (r.expecting nodes).bare = r.bare := rfl

@[simp] theorem bare_confirming (r : ChunkRecord) (node : NodeId) :
    (r.confirming node).bare = r.bare := rfl

@[simp] theorem bare_without (r : ChunkRecord) (node : NodeId) :
    (r.without node).bare = r.bare := rfl

@[simp] theorem expecting_nil (r : ChunkRecord) : r.expecting [] = r := rfl

/-- What does not depend on the nodes that a record names. -/
theorem eq_of_bare {α : Type} {view : ChunkRecord → α} {r r' : ChunkRecord} (h : r.bare = r'.bare)
    (hview : ∀ r, view r.bare = view r) : view r = view r' := by
  rw [← hview r, h, hview]

end ChunkRecord

namespace Store

variable {s s' : Store} {chunk : ChunkId} {node : NodeId} {record : ChunkRecord}

/-- The record of a chunk. -/
def chunk? (s : Store) (id : ChunkId) : Option ChunkRecord := s.catalog.chunks.get? id

theorem mem_allChunks : record ∈ s.catalog.allChunks ↔ ∃ id, s.chunk? id = some record :=
  Table.mem_values

/-! ## Copies -/

theorem expect_eq_none (targets : List NodeId) (h : s.chunk? chunk = none) :
    s.expect chunk targets = none := by
  unfold chunk? at h
  rw [expect, Catalog.expect, h]
  rfl

theorem expect_eq_some (targets : List NodeId) (h : s.chunk? chunk = some record) :
    s.expect chunk targets = some (targets.filter fun t => !s.registry.isLive t,
      { s with catalog := { s.catalog with
          chunks := s.catalog.chunks.insert chunk
            (record.expecting (targets.filter s.registry.isLive)) } }) := by
  unfold chunk? at h
  rw [expect, Catalog.expect, h]
  rfl

theorem report_ok {outcome : ReportOutcome} (h : s.report chunk node = .ok (outcome, s')) :
    ∃ record, s.chunk? chunk = some record ∧ record.expected.contains node ∧
      ((record.replicas.contains node ∧ s' = s ∧ outcome.added = false) ∨
        (record.replicas.contains node = false ∧ outcome.added = true ∧ ∃ free registry,
          s.registry.debit node (bookable record.size) = .ok (free, registry) ∧
          s' = { registry, catalog := { s.catalog with
            chunks := s.catalog.chunks.insert chunk (record.confirming node) } })) := by
  unfold report at h
  split at h
  · cases h
  · next record hrecord =>
    refine ⟨record, hrecord, ?_⟩
    split at h
    · cases h
    · next hexpected =>
      refine ⟨by simpa using hexpected, ?_⟩
      split at h
      · next hreplica =>
        obtain ⟨rfl, rfl⟩ := Prod.mk.inj (Except.ok.inj h)
        exact .inl ⟨hreplica, rfl, rfl⟩
      · next hreplica =>
        refine .inr ⟨by simpa using hreplica, ?_⟩
        cases hdebit : s.registry.debit node (bookable record.size) with
        | error why => rw [hdebit] at h; cases h
        | ok answer =>
          rw [hdebit] at h
          obtain ⟨rfl, rfl⟩ := Prod.mk.inj (Except.ok.inj h)
          exact ⟨rfl, answer.1, answer.2, rfl, rfl⟩

/-- The report of a node in service that the chunk expects is accepted unless the node is short of
space. -/
theorem report_cases (hr : s.chunk? chunk = some record) (hexpected : record.expected.contains node)
    (hlive : s.registry.isLive node) : (∃ answer, s.report chunk node = .ok answer) ∨
      ∃ free size, s.report chunk node = .error (.insufficientCapacity node free size) := by
  unfold chunk? at hr
  unfold report
  rw [hr]
  dsimp only
  rw [hexpected]
  split
  · next h => cases h
  split
  · exact .inl ⟨_, rfl⟩
  rcases Registry.debit_cases hlive (bookable record.size) with ⟨answer, hdebit⟩ | ⟨free, hdebit⟩
  · rw [hdebit]
    exact .inl ⟨_, rfl⟩
  · rw [hdebit]
    exact .inr ⟨free, _, rfl⟩

/-- Afterwards the node is one of the replicas. -/
theorem contains_replicas_report {outcome : ReportOutcome}
    (h : s.report chunk node = .ok (outcome, s')) (hr : s'.chunk? chunk = some record) :
    record.replicas.contains node := by
  obtain ⟨r, hstored, -, ⟨hreplica, rfl, -⟩ | ⟨-, -, free, registry, -, rfl⟩⟩ := report_ok h
  · rwa [← Option.some.inj (hstored.symm.trans hr)]
  · have hconfirmed : some (r.confirming node) = some record :=
      (Table.get?_insert_self _ _ _).symm.trans hr
    rw [← Option.some.inj hconfirmed]
    exact Table.contains_add.2 (.inl rfl)

/-- A report leaves the same nodes in service. -/
theorem standing_report {outcome : ReportOutcome} (h : s.report chunk node = .ok (outcome, s')) :
    Registry.Agree Registry.standing s.registry s'.registry := by
  obtain ⟨record, -, -, ⟨-, rfl, -⟩ | ⟨-, -, free, registry, hdebit, rfl⟩⟩ := report_ok h
  · exact .refl _
  · obtain ⟨old, hold, rfl, -⟩ := Registry.debit_ok hdebit
    exact Registry.agree_set hold (Registry.live?_eq_some.1 hold).2 rfl

/-- A chunk stays as it is, or gets one more replica. -/
theorem exists_chunk?_report {outcome : ReportOutcome} (h : s.report chunk node = .ok (outcome, s'))
    {id : ChunkId} (hr : s.chunk? id = some record) :
    ∃ r', s'.chunk? id = some r' ∧ (r' = record ∨ r' = record.confirming node) := by
  obtain ⟨r, hstored, -, ⟨-, rfl, -⟩ | ⟨-, -, free, registry, -, rfl⟩⟩ := report_ok h
  · exact ⟨record, hr, .inl rfl⟩
  by_cases hid : id = chunk
  · rw [hid, hstored] at hr
    obtain rfl := Option.some.inj hr
    exact ⟨r.confirming node, hid ▸ Table.get?_insert_self _ _ _, .inr rfl⟩
  · exact ⟨record, (Table.get?_insert_of_ne _ _ hid).trans hr, .inl rfl⟩

/-! ## Nodes -/

theorem retireNode_ok {force : Bool} {references : Nat}
    (h : s.retireNode node force = .ok (references, s')) :
    references = s.catalog.references node ∧ s'.catalog = s.catalog.strip node ∧
      s.registry.remove node force references = .ok s'.registry := by
  unfold retireNode at h
  cases hremove : s.registry.remove node force (s.catalog.references node) with
  | error why => simp [hremove, Except.map] at h
  | ok registry =>
    simp only [hremove, Except.map, Except.ok.injEq, Prod.mk.injEq] at h
    obtain ⟨rfl, rfl⟩ := h
    exact ⟨rfl, rfl, hremove⟩

theorem get?_strip (c : Catalog) (id : ChunkId) :
    (c.strip node).chunks.get? id = (c.chunks.get? id).map (ChunkRecord.without · node) :=
  Table.get?_map _ _ _

theorem chunk?_retireNode {force : Bool} {references : Nat}
    (h : s.retireNode node force = .ok (references, s')) (id : ChunkId) :
    s'.chunk? id = (s.chunk? id).map (ChunkRecord.without · node) := by
  rw [chunk?, (retireNode_ok h).2.1]
  exact get?_strip s.catalog id

/-! ## New files -/

theorem map_id_provisionalChunks (file : FileRecord) :
    ∀ (index : UInt64) (l : List (ChunkId × UInt64 × List NodeId)),
      (provisionalChunks file index l).map ChunkRecord.id = l.map Prod.fst
  | _, [] => rfl
  | index, (id, size, targets) :: rest => by
    simp [provisionalChunks, map_id_provisionalChunks file (index + 1) rest]

theorem mem_provisionalChunks {file : FileRecord} :
    ∀ {index : UInt64} {l : List (ChunkId × UInt64 × List NodeId)},
      record ∈ provisionalChunks file index l → record.file = file.id ∧
        record.desired = file.replication ∧ record.replicas = .empty ∧
          ∃ e ∈ l, record.expected = .ofKeys e.2.2
  | _, [], h => by cases h
  | _, e :: rest, h => by
    rcases List.mem_cons.1 h with rfl | h
    · exact ⟨rfl, rfl, rfl, e, List.mem_cons_self, rfl⟩
    · obtain ⟨hfile, hdesired, hreplicas, e', he', hexpected⟩ := mem_provisionalChunks h
      exact ⟨hfile, hdesired, hreplicas, e', List.mem_cons_of_mem _ he', hexpected⟩

theorem map_index_provisionalChunks (file : FileRecord) :
    ∀ (i : Nat) (l : List (ChunkId × UInt64 × List NodeId)),
      (provisionalChunks file (.ofNat i) l).map ChunkRecord.index =
        (List.range' i l.length).map UInt64.ofNat
  | _, [] => rfl
  | i, _ :: rest => by
    have hnext : UInt64.ofNat i + 1 = .ofNat (i + 1) := (UInt64.ofNat_add i 1).symm
    rw [provisionalChunks, List.map_cons, hnext, map_index_provisionalChunks file (i + 1) rest]
    rfl

theorem map_size_provisionalChunks (file : FileRecord) :
    ∀ (index : UInt64) (l : List (ChunkId × UInt64 × List NodeId)),
      (provisionalChunks file index l).map ChunkRecord.size = l.map fun e => e.2.1
  | _, [] => rfl
  | index, _ :: rest => by
    rw [provisionalChunks, List.map_cons, map_size_provisionalChunks file (index + 1) rest]
    rfl

/-- A file is cut into all its chunks. -/
theorem complete_provisionalChunks {file : FileRecord} (hsize : file.chunkSize ≠ 0)
    (htotal : file.totalChunks = chunkCount file.size file.chunkSize)
    {l : List (ChunkId × UInt64 × List NodeId)}
    (hlengths : (l.map fun e => e.2.1) = chunkLengths file.size file.chunkSize) :
    file.Complete (provisionalChunks file 0 l) := by
  have hcount : l.length = file.totalChunks.toNat := by
    rw [htotal, ← length_chunkLengths, ← hlengths, List.length_map]
  refine .of_lengths hsize htotal ?_ ?_ (fun r hr => (mem_provisionalChunks hr).1)
    fun r hr => (mem_provisionalChunks hr).2.1
  · rw [← hcount, List.range_eq_range']
    exact map_index_provisionalChunks file 0 l
  · exact (map_size_provisionalChunks file 0 l).trans hlengths

/-- A store has come by a file with all its chunks, which have no replica yet. -/
structure Created (s : Store) (ids : IdSupply) (file : FileRecord) (chunks : List ChunkRecord)
    (s' : Store) (ids' : IdSupply) : Prop where
  store : s' = { s with catalog := s.catalog.addFile file chunks }
  nth : ids'.nth = ids.nth
  drawn : ids'.drawn = ids.drawn + 1 + chunks.length
  file_id : file.id = ids.nth (ids.drawn + 1)
  chunk_ids : chunks.map ChunkRecord.id =
    (List.range' (ids.drawn + 2) chunks.length).map ids.nth
  complete : file.Complete chunks
  no_replica : ∀ r ∈ chunks, r.replicas = .empty
  expected_live : s.registry.Named → ∀ r ∈ chunks, ∀ n, r.expected.contains n → s.registry.isLive n

theorem createFile_ok {ids ids' : IdSupply} {new : NewFile} {now : UInt64} {file : FileRecord}
    {chunks : List ChunkRecord}
    (h : s.createFile ids new now = .ok ((file, chunks), s', ids')) :
    Created s ids file chunks s' ids' := by
  unfold createFile at h
  split at h
  · cases h
  next hsize =>
  split at h
  · cases h
  dsimp only at h
  generalize hsizes : chunkLengths new.size new.chunkSize = sizes at h
  generalize hplan : Placement.planUpload s.registry.healthyNodes sizes new.replication.toNat = plan
    at h
  have hlength : plan.length = sizes.length := by rw [← hplan, Placement.length_planUpload]
  split at h
  · cases h
  simp only [Except.ok.injEq, Prod.mk.injEq] at h
  obtain ⟨⟨rfl, rfl⟩, rfl, rfl⟩ := h
  generalize hnew : (⟨_, new.name, new.size, new.chunkSize, _, new.replication, now⟩ : FileRecord) =
    file
  have hids : file.id = ids.nth (ids.drawn + 1) := by
    rw [← hnew]
    rfl
  have hzip : ∀ ids : List ChunkId, ids.length = sizes.length →
      (ids.zip (sizes.zip plan)).map Prod.fst = ids := fun ids hl =>
    List.map_fst_zip (by simp [hl, hlength])
  have hchunks : (provisionalChunks file 0
      (((ids.draw 1).2.draw sizes.length).1.zip (sizes.zip plan))).map ChunkRecord.id =
        (List.range' (ids.drawn + 2) sizes.length).map ids.nth := by
    rw [map_id_provisionalChunks, hzip _ (IdSupply.length_draw _ _)]
    rfl
  have hcount := congrArg List.length hchunks
  simp only [List.length_map, List.length_range'] at hcount
  constructor
  case store => rfl
  case nth => rfl
  case drawn => rw [hcount]; rfl
  case file_id => exact hids
  case chunk_ids => rw [hcount, hchunks]
  case complete =>
    refine complete_provisionalChunks (hnew ▸ hsize) (by rw [← hnew]) ?_
    have hcut : chunkLengths file.size file.chunkSize = sizes := by rw [← hnew, ← hsizes]
    rw [hcut]
    calc (((ids.draw 1).2.draw sizes.length).1.zip (sizes.zip plan)).map (fun e => e.2.1)
      _ = ((((ids.draw 1).2.draw sizes.length).1.zip (sizes.zip plan)).map Prod.snd).map Prod.fst :=
          List.map_map.symm
      _ = (sizes.zip plan).map Prod.fst := by
          rw [List.map_snd_zip (by simp [hlength, IdSupply.length_draw])]
      _ = sizes := List.map_fst_zip (Nat.le_of_eq hlength.symm)
  case no_replica => exact fun r hr => (mem_provisionalChunks hr).2.2.1
  case expected_live =>
    intro hnamed r hr n hn
    obtain ⟨-, -, -, e, he, hexpected⟩ := mem_provisionalChunks hr
    rw [hexpected, Table.contains_ofKeys] at hn
    have hplanned : e.2.2 ∈ plan := (List.of_mem_zip (List.of_mem_zip he).2).2
    rw [← hplan] at hplanned
    obtain ⟨m, hm, -, rfl⟩ := Placement.mem_planUpload hplanned hn
    exact hnamed.isLive_of_mem hm

theorem tryCreateFile_ok {ids ids' : IdSupply} {new : NewFile} {now : UInt64} {file : FileRecord}
    {chunks : List ChunkRecord}
    (h : s.tryCreateFile ids new now = .ok ((file, chunks), s', ids')) :
    Created s ids file chunks s' ids' := by
  unfold tryCreateFile at h
  dsimp only at h
  split at h
  · cases h
  split at h
  · cases h
  next hcreate =>
  split at h
  · cases h
  · obtain rfl := Except.ok.inj h
    exact createFile_ok hcreate

end Store

end ChunkCoordinator
