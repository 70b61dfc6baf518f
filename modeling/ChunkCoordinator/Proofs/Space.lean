import ChunkCoordinator.Proofs.Store

/-!
# Space taken by copies

A confirmed copy takes the bookable part of the chunk's size on its node
(`ChunkRecord.bookedOn`, `Catalog.booked`). A store is `Store.Conserved` if every node in service
has its capacity either free or booked. Registering a node, planning a file, confirming a copy and
retiring a node all keep it so. For a deletion see `Store.Deleted`.
-/

set_option linter.unusedSectionVars false

namespace ChunkCoordinator

/-- The space that a confirmed copy of the chunk takes on a node. -/
def ChunkRecord.bookedOn (node : NodeId) (r : ChunkRecord) : Nat :=
  if r.replicas.contains node then (bookable r.size).toNat else 0

/-- The space that the confirmed copies of all chunks take on a node. -/
def Catalog.booked (c : Catalog) (node : NodeId) : Nat := c.chunks.sum (ChunkRecord.bookedOn node)

/-- What a node in service can hold is either free or booked. -/
def Store.Conserved (s : Store) : Prop := ∀ id node, s.registry.live? id = some node →
  node.capacity.toNat = node.free.toNat + s.catalog.booked id

namespace Catalog

variable {c : Catalog} {chunk : ChunkId} {node n : NodeId} {record : ChunkRecord}

/-! ## Booked space -/

/-- Nothing is booked on a node without copies. -/
theorem booked_eq_zero (h : ∀ id r, c.chunks.get? id = some r → r.replicas.contains n = false) :
    c.booked n = 0 := by
  refine Table.sum_eq_zero fun id r hr => ?_
  rw [ChunkRecord.bookedOn, h id r hr]
  rfl

/-- One more copy of a chunk is booked on its node. -/
theorem booked_add (hrecord : c.chunks.get? chunk = some record)
    (hnew : record.replicas.contains node = false) :
    ({ c with chunks := c.chunks.insert chunk (record.confirming node) } : Catalog).booked n =
      c.booked n + if n = node then (bookable record.size).toNat else 0 := by
  rw [booked, Table.sum_insert, booked, Table.sum_of_get? hrecord]
  have hone : (record.confirming node).bookedOn n =
      record.bookedOn n + if n = node then (bookable record.size).toNat else 0 := by
    unfold ChunkRecord.bookedOn ChunkRecord.confirming
    simp only [Table.contains_add]
    by_cases hn : n = node
    · simp [hn, hnew]
    · simp [hn]
  rw [hone]
  exact Nat.add_right_comm _ _ _

/-- Taking a node out of every chunk leaves what is booked on the others. -/
theorem booked_strip (h : n ≠ node) : (c.strip node).booked n = c.booked n := by
  have hchunks : (c.strip node).chunks = c.chunks.map (ChunkRecord.without · node) := rfl
  rw [booked, hchunks, Table.sum_map]
  refine Table.sum_congr fun id r _ => ?_
  have hout : (r.replicas.erase node).contains n = r.replicas.contains n := by
    rw [Bool.eq_iff_iff, Table.contains_erase]
    exact and_iff_right h
  simp only [Function.comp_apply, ChunkRecord.bookedOn, ChunkRecord.without, hout]

/-- Nothing is booked for the chunks of a new file. -/
theorem booked_addFile {file : FileRecord} {chunks : List ChunkRecord}
    (hids : (chunks.map ChunkRecord.id).Nodup) (hnew : ∀ r ∈ chunks, c.chunks.get? r.id = none)
    (hempty : ∀ r ∈ chunks, r.replicas = .empty) : (c.addFile file chunks).booked n = c.booked n := by
  have hkeys : ((chunks.map fun r => (r.id, r)).map Prod.fst).Nodup := by
    rwa [List.map_map]
  have hfresh : ∀ e ∈ chunks.map fun r => (r.id, r), c.chunks.get? e.1 = none := by
    intro e he
    obtain ⟨r, hr, rfl⟩ := List.mem_map.1 he
    exact hnew r hr
  have hzero : ((chunks.map fun r => (r.id, r)).map fun e => e.2.bookedOn n) =
      List.replicate chunks.length 0 := by
    rw [List.map_map]
    refine List.map_eq_replicate_iff.2 fun r hr => ?_
    simp [ChunkRecord.bookedOn, hempty r hr, Table.contains_empty]
  rw [booked, addFile, Table.sum_insertAll hkeys hfresh, hzero, List.sum_replicate_nat,
    Nat.mul_zero, Nat.zero_add, booked]

end Catalog

namespace Store.Conserved

variable {s s' : Store} {id : NodeId} {node : Node}

/-! ## Operations -/

theorem of_agree (h : s.Conserved) (hroom : Registry.Agree Registry.room s.registry s'.registry)
    (hbooked : ∀ n, s'.catalog.booked n = s.catalog.booked n) : s'.Conserved := by
  intro id node hnode
  obtain ⟨old, hold, hview⟩ := hroom.exists_live? hnode
  obtain ⟨-, hcapacity, hfree⟩ : node.id = old.id ∧ node.capacity = old.capacity ∧
      node.free = old.free := by
    simpa [Registry.room] using hview
  rw [hcapacity, hfree, hbooked]
  exact h id old hold

/-- A new node has all its space free, as no chunk names it. -/
theorem register (h : s.Conserved) (hfree : node.free = node.capacity)
    (hzero : s.catalog.booked id = 0) :
    ({ s with registry := s.registry.set id node } : Store).Conserved := by
  intro id' node' hnode
  by_cases heq : id' = id
  · subst heq
    obtain rfl : node = node' := by
      simpa [Registry.get?, Registry.set] using (Registry.live?_eq_some.1 hnode).1
    rw [hfree, hzero, Nat.add_zero]
  · rw [Registry.live?_set_of_ne heq] at hnode
    exact h id' node' hnode

theorem createFile {ids ids' : IdSupply} {file : FileRecord} {chunks : List ChunkRecord}
    (h : s.Conserved) (hcreated : Created s ids file chunks s' ids')
    (hids : (chunks.map ChunkRecord.id).Nodup) (hnew : ∀ r ∈ chunks, s.chunk? r.id = none) :
    s'.Conserved := by
  rw [hcreated.store]
  exact h.of_agree (Registry.Agree.refl _) fun n =>
    Catalog.booked_addFile hids hnew hcreated.no_replica

theorem report {chunk : ChunkId} {outcome : ReportOutcome} {node : NodeId} (h : s.Conserved)
    (hreport : s.report chunk node = .ok (outcome, s')) : s'.Conserved := by
  obtain ⟨record, hrecord, -, ⟨-, rfl, -⟩ | ⟨hnew, -, free, registry, hdebit, rfl⟩⟩ :=
    report_ok hreport
  · exact h
  obtain ⟨old, hold, rfl, htaken⟩ := Registry.debit_ok hdebit
  intro id node' hnode'
  dsimp only at hnode' ⊢
  rw [Catalog.booked_add hrecord hnew]
  by_cases heq : id = node
  · subst heq
    have hcapacity := h id old hold
    have htaken := htaken (UInt64.le_iff_toNat_le.2 (by omega))
    have hlive : ({ old with free } : Node).isLive := (Registry.live?_eq_some.1 hold).2
    rw [Registry.live?_set_self hlive] at hnode'
    rw [← Option.some.inj hnode', if_pos rfl]
    dsimp only
    omega
  · rw [Registry.live?_set_of_ne heq] at hnode'
    rw [if_neg heq, Nat.add_zero]
    exact h id node' hnode'

theorem retireNode {force : Bool} {references : Nat} {node : NodeId} (h : s.Conserved)
    (hretire : s.retireNode node force = .ok (references, s')) : s'.Conserved := by
  obtain ⟨-, hcatalog, hremove⟩ := retireNode_ok hretire
  obtain ⟨old, hold, -, hregistry⟩ := Registry.remove_ok hremove
  intro id node' hnode'
  rw [hregistry] at hnode'
  have hne : id ≠ node := ((Registry.isLive_set_removed rfl id).1 (Registry.isLive_of_live? hnode')).1
  rw [Registry.live?_set_of_ne hne] at hnode'
  rw [hcatalog, Catalog.booked_strip hne]
  exact h id node' hnode'

end Store.Conserved

end ChunkCoordinator
