import ChunkCoordinator.Proofs.Deletion
import ChunkCoordinator.Proofs.Recording

/-!
# Sound records

In a sound store (`Store.Sound`) chunks are stored under their own identifiers, they have copies
only on nodes that they expect, they expect only nodes in service, and the list of a file's chunks
names stored chunks of that file, each of them once. Every operation keeps a store sound, a deletion
even if it stops halfway (`Store.Sound.deleted`). A new file must come with new identifiers.
-/

set_option linter.unusedSectionVars false

namespace ChunkCoordinator

/-- The record may stand at an identifier, next to a registry. -/
structure ChunkRecord.Fits (registry : Registry) (id : ChunkId) (r : ChunkRecord) : Prop where
  id_eq : r.id = id
  live : ∀ n, r.expected.contains n → registry.isLive n
  confirmed : ∀ n, r.replicas.contains n → r.expected.contains n

namespace ChunkRecord.Fits

variable {registry registry' : Registry} {id : ChunkId} {r : ChunkRecord}

theorem replica_live (h : r.Fits registry id) {n : NodeId} (hn : r.replicas.contains n) :
    registry.isLive n :=
  h.live n (h.confirmed n hn)

theorem of_isLive (h : r.Fits registry id) (hlive : ∀ n, registry.isLive n → registry'.isLive n) :
    r.Fits registry' id :=
  ⟨h.id_eq, fun n hn => hlive n (h.live n hn), h.confirmed⟩

theorem expecting (h : r.Fits registry id) {nodes : List NodeId}
    (hnodes : ∀ n ∈ nodes, registry.isLive n) : (r.expecting nodes).Fits registry id := by
  refine ⟨h.id_eq, fun n hn => ?_, fun n hn => contains_expecting.2 (.inr (h.confirmed n hn))⟩
  rcases contains_expecting.1 hn with hn | hn
  · exact hnodes n hn
  · exact h.live n hn

theorem confirming (h : r.Fits registry id) {node : NodeId} (hnode : r.expected.contains node) :
    (r.confirming node).Fits registry id := by
  refine ⟨h.id_eq, h.live, fun n hn => ?_⟩
  rcases Table.contains_add.1 hn with rfl | hn
  · exact hnode
  · exact h.confirmed n hn

/-- A record without a node fits when the node is no longer in service. -/
theorem without (h : r.Fits registry id) {node : NodeId}
    (hlive : ∀ n, n ≠ node → registry.isLive n → registry'.isLive n) :
    (r.without node).Fits registry' id := by
  refine ⟨h.id_eq, fun n hn => ?_, fun n hn => ?_⟩
  · obtain ⟨hne, hn⟩ := Table.contains_erase.1 hn
    exact hlive n hne (h.live n hn)
  · obtain ⟨hne, hn⟩ := Table.contains_erase.1 hn
    exact Table.contains_erase.2 ⟨hne, h.confirmed n hn⟩

end ChunkRecord.Fits

namespace Store

variable {s s' : Store}

/-- The records agree with each other. -/
structure Sound (s : Store) : Prop where
  named : s.registry.Named
  fits : ∀ id r, s.chunk? id = some r → r.Fits s.registry id
  listed_once : ∀ file, (s.catalog.idsOf file).Nodup
  listed : ∀ file, ∀ id ∈ s.catalog.idsOf file, ∃ r, s.chunk? id = some r ∧ r.file = file
  filed : ∀ file, s.catalog.idsOf file ≠ [] → s.catalog.files.contains file

/-! ## New files -/

namespace Created

variable {ids ids' : IdSupply} {file : FileRecord} {chunks : List ChunkRecord}

theorem chunk?_iff (h : Created s ids file chunks s' ids') (hids : (chunks.map ChunkRecord.id).Nodup)
    (hnew : ∀ r ∈ chunks, s.chunk? r.id = none) {id : ChunkId} {r : ChunkRecord} :
    s'.chunk? id = some r ↔ (r ∈ chunks ∧ r.id = id) ∨ s.chunk? id = some r := by
  have hkeys : ((chunks.map fun r => (r.id, r)).map Prod.fst) = chunks.map ChunkRecord.id := by
    rw [List.map_map]
    rfl
  have hpair : (id, r) ∈ chunks.map (fun r => (r.id, r)) ↔ r ∈ chunks ∧ r.id = id := by
    simp only [List.mem_map, Prod.mk.injEq]
    constructor
    · rintro ⟨r', hr', rfl, rfl⟩
      exact ⟨hr', rfl⟩
    · rintro ⟨hr, rfl⟩
      exact ⟨r, hr, rfl, rfl⟩
  rw [h.store]
  refine (Table.get?_insertAll s.catalog.chunks (hkeys ▸ hids)).trans ?_
  rw [hkeys, hpair]
  refine or_congr_right (and_iff_right_of_imp fun hr hmem => ?_)
  obtain ⟨r', hr', rfl⟩ := List.mem_map.1 hmem
  have hnone := hnew r' hr'
  unfold chunk? at hnone
  rw [hnone] at hr
  cases hr

/-- Whatever the identifiers of its chunks, nothing else is stored. -/
theorem chunk?_cases (h : Created s ids file chunks s' ids') {id : ChunkId} {r : ChunkRecord}
    (hr : s'.chunk? id = some r) : (r ∈ chunks ∧ r.id = id) ∨ s.chunk? id = some r := by
  rw [h.store] at hr
  refine (Table.mem_of_get?_insertAll hr).imp_left fun hmem => ?_
  obtain ⟨r', hr', heq⟩ := List.mem_map.1 hmem
  obtain ⟨rfl, rfl⟩ := Prod.mk.inj heq
  exact ⟨hr', rfl⟩

theorem files_eq (h : Created s ids file chunks s' ids') :
    s'.catalog.files = s.catalog.files.insert file.id file := by
  rw [h.store]
  rfl

theorem chunkIds_eq (h : Created s ids file chunks s' ids') :
    s'.catalog.chunkIds = s.catalog.chunkIds.insert file.id (chunks.map ChunkRecord.id) := by
  rw [h.store]
  rfl

theorem idsOf_eq (h : Created s ids file chunks s' ids') (f : FileId) :
    s'.catalog.idsOf f = if f = file.id then chunks.map ChunkRecord.id else s.catalog.idsOf f := by
  rw [h.store]
  unfold Catalog.idsOf Catalog.addFile
  split
  · next heq => rw [heq, Table.get?_insert_self, Option.getD_some]
  · next hne => rw [Table.get?_insert_of_ne _ _ hne]

end Created

namespace Sound

/-! ## Nodes -/

/-- Without files and chunks there is little to agree on. -/
theorem of_catalog_empty (hnamed : s.registry.Named) (h : s.catalog = .empty) : s.Sound := by
  obtain ⟨registry, catalog⟩ := s
  obtain rfl := h
  refine ⟨hnamed, fun id r h => ?_, fun file => .nil, fun file id h => ?_, fun file h => absurd rfl h⟩
  · cases h
  · cases h

theorem empty : Store.empty.Sound := of_catalog_empty (fun id node h => by cases h) rfl

/-- The registry may change as long as no node leaves. -/
theorem of_isLive (h : s.Sound) (hnamed : s'.registry.Named)
    (hlive : ∀ n, s.registry.isLive n → s'.registry.isLive n) (hcatalog : s'.catalog = s.catalog) :
    s'.Sound := by
  have hchunk : s'.chunk? = s.chunk? := by
    funext id
    rw [chunk?, hcatalog, chunk?]
  refine ⟨hnamed, fun id r hr => ?_, ?_, ?_, ?_⟩
  · rw [hchunk] at hr
    exact (h.fits id r hr).of_isLive hlive
  · rw [hcatalog]
    exact h.listed_once
  · rw [hcatalog, hchunk]
    exact h.listed
  · rw [hcatalog]
    exact h.filed

theorem of_agree (h : s.Sound)
    (hstanding : Registry.Agree Registry.standing s.registry s'.registry)
    (hcatalog : s'.catalog = s.catalog) : s'.Sound :=
  h.of_isLive (h.named.of_agree hstanding) (fun n hn => hstanding.isLive n ▸ hn) hcatalog

theorem register (h : s.Sound) {id : NodeId} {node : Node} (hnode : node.isLive)
    (hid : node.id = id) : ({ s with registry := s.registry.set id node } : Store).Sound :=
  h.of_isLive (h.named.set fun _ => hid)
    (fun n hn => (Registry.isLive_set hnode n).2 (.inr hn)) rfl

theorem retireNode (h : s.Sound) {node : NodeId} {force : Bool} {references : Nat}
    (hretire : s.retireNode node force = .ok (references, s')) : s'.Sound := by
  obtain ⟨-, hcatalog, hremove⟩ := retireNode_ok hretire
  obtain ⟨old, -, -, hregistry⟩ := Registry.remove_ok hremove
  have hremoved : ({ old with health := .removed } : Node).isLive = false := rfl
  have hchunk : ∀ id, s'.chunk? id = (s.chunk? id).map (ChunkRecord.without · node) := by
    intro id
    rw [chunk?, hcatalog]
    exact get?_strip s.catalog id
  have hids : s'.catalog.idsOf = s.catalog.idsOf := by
    rw [hcatalog]
    rfl
  refine ⟨?_, fun id r hr => ?_, ?_, fun file id hid => ?_, ?_⟩
  · rw [hregistry]
    exact h.named.set fun hlive => absurd hlive (by rw [hremoved]; exact Bool.false_ne_true)
  · rw [hchunk] at hr
    obtain ⟨r', hr', rfl⟩ := Option.map_eq_some_iff.1 hr
    refine (h.fits id r' hr').without fun n hne hn => ?_
    rw [hregistry]
    exact (Registry.isLive_set_removed hremoved n).2 ⟨hne, hn⟩
  · rw [hids]
    exact h.listed_once
  · rw [hids] at hid
    obtain ⟨r, hr, hfile⟩ := h.listed file id hid
    exact ⟨r.without node, by rw [hchunk, hr]; rfl, hfile⟩
  · rw [hids, hcatalog]
    exact h.filed

/-! ## Files and copies -/

theorem expecting (h : s.Sound) (hexpecting : Expecting s s') : s'.Sound := by
  have hids : s'.catalog.idsOf = s.catalog.idsOf := by
    funext file
    rw [Catalog.idsOf, hexpecting.chunkIds, Catalog.idsOf]
  refine ⟨hexpecting.registry ▸ h.named, fun id r hr => ?_, hids ▸ h.listed_once,
    fun file id hid => ?_, ?_⟩
  · obtain ⟨old, nodes, hold, hlive, rfl⟩ := hexpecting.exists_old hr
    rw [hexpecting.registry]
    exact (h.fits id old hold).expecting hlive
  · obtain ⟨r, hr, hfile⟩ := h.listed file id (hids ▸ hid)
    obtain ⟨nodes, -, hr'⟩ := hexpecting.exists_chunk? hr
    exact ⟨r.expecting nodes, hr', hfile⟩
  · rw [hids, hexpecting.files]
    exact h.filed

theorem report (h : s.Sound) {chunk : ChunkId} {node : NodeId} {outcome : ReportOutcome}
    (hreport : s.report chunk node = .ok (outcome, s')) : s'.Sound := by
  obtain ⟨record, hrecord, hexpected, ⟨-, rfl, -⟩ | ⟨-, -, free, registry, hdebit, rfl⟩⟩ :=
    report_ok hreport
  · exact h
  obtain ⟨old, hold, rfl, -⟩ := Registry.debit_ok hdebit
  have hstanding : Registry.Agree Registry.standing s.registry
      (s.registry.set node { old with free }) :=
    Registry.agree_set hold (Registry.live?_eq_some.1 hold).2 rfl
  have hlive : ∀ n, s.registry.isLive n → (s.registry.set node { old with free }).isLive n :=
    fun n hn => hstanding.isLive n ▸ hn
  refine ⟨h.named.of_agree hstanding, fun id r hr => ?_, h.listed_once, fun file id hid => ?_,
    h.filed⟩
  · rcases Table.get?_insert_eq_some.1 hr with ⟨rfl, rfl⟩ | ⟨-, hr⟩
    · exact ((h.fits _ record hrecord).confirming hexpected).of_isLive hlive
    · exact (h.fits id r hr).of_isLive hlive
  · obtain ⟨r, hr, hfile⟩ := h.listed file id hid
    by_cases heq : id = chunk
    · subst heq
      rw [hrecord] at hr
      obtain rfl := Option.some.inj hr
      exact ⟨record.confirming node, Table.get?_insert_self _ _ _, hfile⟩
    · exact ⟨r, (Table.get?_insert_of_ne _ _ heq).trans hr, hfile⟩

theorem createFile (h : s.Sound) {ids ids' : IdSupply} {file : FileRecord}
    {chunks : List ChunkRecord} (hcreated : Created s ids file chunks s' ids')
    (hids : (chunks.map ChunkRecord.id).Nodup) (hnew : ∀ r ∈ chunks, s.chunk? r.id = none) :
    s'.Sound := by
  have hregistry : s'.registry = s.registry := by rw [hcreated.store]
  have hfiles := hcreated.files_eq
  refine ⟨hregistry ▸ h.named, fun id r hr => ?_, fun f => ?_, fun f id hid => ?_, fun f hne => ?_⟩
  · rw [hregistry]
    rcases (hcreated.chunk?_iff hids hnew).1 hr with ⟨hr, hid⟩ | hr
    · refine ⟨hid, hcreated.expected_live h.named r hr, fun n hn => ?_⟩
      rw [hcreated.no_replica r hr, Table.contains_empty] at hn
      cases hn
    · exact h.fits id r hr
  · rw [hcreated.idsOf_eq]
    split
    · exact hids
    · exact h.listed_once f
  · rw [hcreated.idsOf_eq] at hid
    split at hid
    · next heq =>
      obtain ⟨r, hr, rfl⟩ := List.mem_map.1 hid
      exact ⟨r, (hcreated.chunk?_iff hids hnew).2 (.inl ⟨hr, rfl⟩),
        (hcreated.complete.in_file r hr).trans heq.symm⟩
    · obtain ⟨r, hr, hfile⟩ := h.listed f id hid
      exact ⟨r, (hcreated.chunk?_iff hids hnew).2 (.inr hr), hfile⟩
  · rw [hcreated.idsOf_eq] at hne
    rw [hfiles, Table.contains_insert]
    by_cases heq : f = file.id
    · exact .inl heq
    · rw [if_neg heq] at hne
      exact .inr (h.filed f hne)

/-! ## Deletion -/

/-- The records of a file's chunks are those of stored chunks of the file. -/
theorem of_mem_recordsOf (h : s.Sound) {file : FileId} {r : ChunkRecord}
    (hr : r ∈ s.catalog.recordsOf file) :
    r.id ∈ s.catalog.idsOf file ∧ s.chunk? r.id = some r ∧ r.file = file := by
  obtain ⟨id, hid, hr⟩ := mem_recordsOf.1 hr
  obtain ⟨r', hr', hfile⟩ := h.listed file id hid
  obtain rfl : r = r' := Option.some.inj (hr.symm.trans hr')
  have hid' : r.id = id := (h.fits id r hr).id_eq
  rw [hid']
  exact ⟨hid, hr, hfile⟩

theorem map_id_recordsOf (h : s.Sound) (file : FileId) :
    (s.catalog.recordsOf file).map ChunkRecord.id = s.catalog.idsOf file :=
  map_id_filterMap fun id hid => by
    obtain ⟨r, hr, -⟩ := h.listed file id hid
    exact ⟨r, hr, (h.fits id r hr).id_eq⟩

/-- The chunks have different identifiers. -/
theorem nodup_allChunks (h : s.Sound) : (s.catalog.allChunks.map ChunkRecord.id).Nodup :=
  Table.nodup_map_values fun id r hr => (h.fits id r hr).id_eq

/-- A file with a chunk that its deletion comes to is stored. -/
theorem stored_of_meets (h : s.Sound) {file : FileId} {P : Nat → ChunkRecord → Prop} {sum : Nat}
    (hmeets : Deletion.Meets P sum (s.catalog.recordsOf file)) :
    ∃ record, s.catalog.files.get? file = some record := by
  obtain ⟨r, hr, -⟩ := hmeets.exists_mem
  exact Table.contains_iff.1 (h.filed file (List.ne_nil_of_mem (h.of_mem_recordsOf hr).1))

/-- What the deletion of a stored file needs to know. -/
theorem deleteFile_eq (h : s.Sound) {id : FileId} {file : FileRecord}
    (hfile : s.catalog.files.get? id = some file) :
    ∃ s', Deleted (s.forgetting id) 0 (s.catalog.recordsOf id) s' ∧
      s.deleteFile id = (match asWord? (copiedBytes (s.catalog.recordsOf id)) with
        | none => .error .overflow
        | some released => .ok ⟨file, s.catalog.idsOf id, released⟩, s') := by
  refine Store.deleteFile_eq hfile (h.listed_once id) fun chunk hchunk => ?_
  obtain ⟨r, hr, -⟩ := h.listed id chunk hchunk
  exact ⟨r, hr, (h.fits chunk r hr).id_eq, fun n hn => (h.fits chunk r hr).replica_live hn⟩

theorem deleted (h : s.Sound) {file : FileId}
    (hdeleted : Deleted (s.forgetting file) 0 (s.catalog.recordsOf file) s') : s'.Sound := by
  have hids : ∀ f, s'.catalog.idsOf f = if f = file then [] else s.catalog.idsOf f := by
    intro f
    rw [Catalog.idsOf, hdeleted.chunkIds]
    split
    · next heq =>
      rw [heq]
      exact congrArg (Option.getD · []) (Table.get?_erase_self _ _)
    · next hne => exact congrArg (Option.getD · []) (Table.get?_erase_of_ne _ hne)
  refine ⟨h.named.of_agree hdeleted.standing, fun id r hr => ?_, fun f => ?_, fun f id hid => ?_,
    fun f hne => ?_⟩
  · refine (h.fits id r ((hdeleted.chunk?_iff id r).1 hr).1).of_isLive fun n hn => ?_
    rw [hdeleted.standing.isLive]
    exact hn
  · rw [hids]
    split
    · exact .nil
    · exact h.listed_once f
  · rw [hids] at hid
    split at hid
    · cases hid
    · next hne =>
      obtain ⟨r, hr, hfile⟩ := h.listed f id hid
      refine ⟨r, (hdeleted.chunk?_iff id r).2 ⟨hr, ?_⟩, hfile⟩
      -- only chunks of the deleted file are dropped
      intro hmeets
      obtain ⟨d, hmem, -, rfl⟩ := hmeets.exists_mem
      obtain ⟨-, hd, hdfile⟩ := h.of_mem_recordsOf hmem
      obtain rfl : r = d := Option.some.inj (hr.symm.trans hd)
      exact hne (hfile.symm.trans hdfile)
  · rw [hids] at hne
    split at hne
    · exact absurd rfl hne
    · next hfile =>
      rw [hdeleted.files, Table.contains]
      refine (congrArg Option.isSome (Table.get?_erase_of_ne _ hfile)).trans ?_
      exact h.filed f hne

end Sound

end Store

end ChunkCoordinator
