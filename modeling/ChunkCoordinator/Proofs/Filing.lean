import ChunkCoordinator.Proofs.Soundness
import Mathlib.Data.List.Basic
import Mathlib.Logic.ExistsUnique

/-!
# Files and their chunks

Files, chunks and the lists of the chunks of each file are three tables, which every operation
changes on its own. In a well filed catalog (`Catalog.WellFiled`) every file has its list, which
names all its chunks in their order, and a chunk whose file is stored is on the list of that file.

Operations on nodes and copies leave a catalog alike (`Catalog.Alike`) : only the nodes that chunks
name may change. So catalogs stay well filed, also when a file is created
(`Catalog.WellFiled.createFile`) and when one is deleted, even if the deletion stops halfway
(`Catalog.WellFiled.deleted`). It may then leave chunks without a file
(`Catalog.not_noStrays_of_deleted`).
-/

set_option linter.unusedSectionVars false

namespace ChunkCoordinator

/-- Chunks that differ only in the nodes that they name are as complete. -/
theorem FileRecord.Complete.of_bare {file : FileRecord} {rs rs' : List ChunkRecord}
    (h : file.Complete rs) (hbare : rs'.map ChunkRecord.bare = rs.map ChunkRecord.bare) :
    file.Complete rs' := by
  have hview : ∀ {α : Type} (view : ChunkRecord → α), (∀ r, view r.bare = view r) →
      rs'.map view = rs.map view := by
    intro α view hv
    have := congrArg (List.map view) hbare
    simpa only [List.map_map, Function.comp_def, hv] using this
  have hold : ∀ r ∈ rs', ∃ old ∈ rs, old.bare = r.bare := by
    intro r hr
    refine List.mem_map.1 ?_
    rw [← hbare]
    exact List.mem_map_of_mem hr
  constructor
  case indices => exact (hview _ fun _ => rfl).trans h.indices
  case in_file =>
    intro r hr
    obtain ⟨old, hmem, heq⟩ := hold r hr
    exact (ChunkRecord.eq_of_bare heq fun _ => rfl).symm.trans (h.in_file old hmem)
  case desired =>
    intro r hr
    obtain ⟨old, hmem, heq⟩ := hold r hr
    exact (ChunkRecord.eq_of_bare heq fun _ => rfl).symm.trans (h.desired old hmem)
  case size =>
    intro r hr
    obtain ⟨old, hmem, heq⟩ := hold r hr
    have hsize : old.size = r.size := ChunkRecord.eq_of_bare heq fun _ => rfl
    have hindex : old.index = r.index := ChunkRecord.eq_of_bare heq fun _ => rfl
    rw [← hsize, ← hindex]
    exact h.size old hmem
  case total => rw [hview (fun r => r.size.toNat) fun _ => rfl, h.total]

namespace Catalog

variable {c c' c'' : Catalog}

/-! ## Catalogs that are alike -/

/-- The same files list the same chunks, whose records differ at most in the nodes that they
name. -/
structure Alike (c c' : Catalog) : Prop where
  files : c'.files = c.files
  chunkIds : c'.chunkIds = c.chunkIds
  bare : ∀ id, (c'.chunks.get? id).map ChunkRecord.bare = (c.chunks.get? id).map ChunkRecord.bare

namespace Alike

theorem refl (c : Catalog) : Alike c c := ⟨rfl, rfl, fun _ => rfl⟩

theorem of_eq (h : c' = c) : Alike c c' := h ▸ .refl c

theorem trans (h : Alike c c') (h' : Alike c' c'') : Alike c c'' :=
  ⟨h'.files.trans h.files, h'.chunkIds.trans h.chunkIds, fun id => (h'.bare id).trans (h.bare id)⟩

theorem exists_old (h : Alike c c') {id : ChunkId} {r : ChunkRecord}
    (hr : c'.chunks.get? id = some r) : ∃ old, c.chunks.get? id = some old ∧ old.bare = r.bare := by
  have hbare := h.bare id
  rw [hr, Option.map_some] at hbare
  exact Option.map_eq_some_iff.1 hbare.symm

theorem idsOf (h : Alike c c') (file : FileId) : c'.idsOf file = c.idsOf file := by
  rw [Catalog.idsOf, h.chunkIds, Catalog.idsOf]

theorem map_bare_recordsOf (h : Alike c c') (file : FileId) :
    (c'.recordsOf file).map ChunkRecord.bare = (c.recordsOf file).map ChunkRecord.bare := by
  rw [recordsOf, recordsOf, List.map_filterMap, List.map_filterMap, h.idsOf]
  exact List.filterMap_congr fun id _ => h.bare id

end Alike

/-! ## Well filed catalogs -/

/-- Every file has a list of all its chunks, and every chunk of the file is on it. -/
structure WellFiled (c : Catalog) : Prop where
  named : ∀ id file, c.files.get? id = some file → file.id = id
  has_list : ∀ id, c.chunkIds.contains id = c.files.contains id
  complete : ∀ id file, c.files.get? id = some file → file.Complete (c.recordsOf id)
  on_list : ∀ id r, c.chunks.get? id = some r → c.files.contains r.file → id ∈ c.idsOf r.file

/-- Every chunk is on the list of exactly one file. -/
def NoStrays (c : Catalog) : Prop := ∀ id r, c.chunks.get? id = some r →
  ∃! file, c.files.contains file ∧ id ∈ c.idsOf file

namespace WellFiled

theorem empty : Catalog.empty.WellFiled where
  named := fun id file h => by cases h
  has_list := fun id => rfl
  complete := fun id file h => by cases h
  on_list := fun id r h => by cases h

theorem alike (h : c.WellFiled) (halike : Alike c c') : c'.WellFiled where
  named := halike.files ▸ h.named
  has_list := halike.files ▸ halike.chunkIds ▸ h.has_list
  complete := fun id file hfile =>
    (h.complete id file (halike.files ▸ hfile)).of_bare (halike.map_bare_recordsOf id)
  on_list := by
    intro id r hr hfile
    obtain ⟨old, hold, hbare⟩ := halike.exists_old hr
    have heq : old.file = r.file := ChunkRecord.eq_of_bare hbare fun _ => rfl
    rw [halike.files, ← heq] at hfile
    rw [halike.idsOf, ← heq]
    exact h.on_list id old hold hfile

/-- The chunks of a file are listed in the order of their indices. -/
theorem file_eq (h : c.WellFiled) {id : FileId} {file : FileRecord}
    (hfile : c.files.get? id = some file) : c.file id = .ok (file, c.recordsOf id) := by
  rw [Catalog.file, hfile]
  exact congrArg (fun rs => Except.ok (file, rs))
    (sortedBy_eq_self (h.complete id file hfile).sorted)

end WellFiled

namespace NoStrays

theorem empty : Catalog.empty.NoStrays := fun id r h => by cases h

theorem alike (h : c.NoStrays) (halike : Alike c c') : c'.NoStrays := by
  intro id r hr
  obtain ⟨old, hold, -⟩ := halike.exists_old hr
  simp only [halike.files, halike.idsOf]
  exact h id old hold

end NoStrays

end Catalog

/-! ## What leaves a catalog alike -/

namespace Store

open Catalog

variable {s s' : Store} {node : NodeId}

theorem Expecting.alike (h : Expecting s s') : Alike s.catalog s'.catalog := by
  refine ⟨h.files, h.chunkIds, fun id => ?_⟩
  obtain ⟨nodes, -, heq⟩ := h.chunk?_eq id
  refine (congrArg (Option.map ChunkRecord.bare) heq).trans ?_
  rw [Option.map_map]
  rfl

theorem alike_report {chunk : ChunkId} {outcome : ReportOutcome}
    (h : s.report chunk node = .ok (outcome, s')) : Alike s.catalog s'.catalog := by
  obtain ⟨record, hrecord, -, ⟨-, rfl, -⟩ | ⟨-, -, free, registry, -, rfl⟩⟩ := report_ok h
  · exact .refl _
  refine ⟨rfl, rfl, fun id => ?_⟩
  by_cases hid : id = chunk
  · unfold chunk? at hrecord
    rw [hid, Table.get?_insert_self, hrecord]
    rfl
  · rw [Table.get?_insert_of_ne _ _ hid]

theorem alike_retireNode {force : Bool} {references : Nat}
    (h : s.retireNode node force = .ok (references, s')) : Alike s.catalog s'.catalog := by
  obtain ⟨-, hcatalog, -⟩ := retireNode_ok h
  rw [hcatalog]
  refine ⟨rfl, rfl, fun id => ?_⟩
  rw [get?_strip, Option.map_map]
  rfl

/-- A file has the same records as long as it keeps its list and its chunks stay stored. -/
theorem Sound.recordsOf_eq (h : s.Sound) {id : FileId}
    (hlist : s'.catalog.idsOf id = s.catalog.idsOf id)
    (hstays : ∀ chunk r, s.chunk? chunk = some r → r.file = id → s'.chunk? chunk = some r) :
    s'.catalog.recordsOf id = s.catalog.recordsOf id := by
  rw [Catalog.recordsOf, hlist, Catalog.recordsOf]
  refine List.filterMap_congr fun chunk hlisted => ?_
  obtain ⟨r, hr, hfile⟩ := h.listed id chunk hlisted
  exact (hstays chunk r hr hfile).trans hr.symm

theorem Created.recordsOf_eq {ids ids' : IdSupply} {file : FileRecord} {chunks : List ChunkRecord}
    (h : Created s ids file chunks s' ids') (hids : (chunks.map ChunkRecord.id).Nodup)
    (hnew : ∀ r ∈ chunks, s.chunk? r.id = none) : s'.catalog.recordsOf file.id = chunks := by
  rw [Catalog.recordsOf, h.idsOf_eq, if_pos rfl, List.filterMap_map]
  refine (List.filterMap_congr fun r hr => ?_).trans List.filterMap_some
  exact (h.chunk?_iff hids hnew).2 (.inl ⟨hr, rfl⟩)

/-- The chunks of other files outlive a deletion, whether it stops halfway or not. -/
theorem Sound.chunk?_deleted (h : s.Sound) {file : FileId}
    (hdeleted : Deleted (s.forgetting file) 0 (s.catalog.recordsOf file) s') {id : ChunkId}
    {r : ChunkRecord} (hr : s.chunk? id = some r) (hfile : r.file ≠ file) :
    s'.chunk? id = some r := by
  refine (hdeleted.chunk?_iff id r).2 ⟨hr, fun hmeets => ?_⟩
  obtain ⟨d, hmem, -, rfl⟩ := hmeets.exists_mem
  obtain ⟨-, hd, hdfile⟩ := h.of_mem_recordsOf hmem
  obtain rfl : r = d := Option.some.inj (hr.symm.trans hd)
  exact hfile hdfile

end Store

/-! ## New files and deleted ones -/

namespace Catalog

open Store

variable {s s' : Store}

/-- On the list of a stored file there are only chunks of that file. -/
theorem noStrays_iff (hsound : s.Sound) (h : s.catalog.WellFiled) :
    s.catalog.NoStrays ↔ ∀ id r, s.chunk? id = some r → s.catalog.files.contains r.file := by
  constructor
  · intro hstrays id r hr
    obtain ⟨file, ⟨hfile, hid⟩, -⟩ := hstrays id r hr
    obtain ⟨r', hr', rfl⟩ := hsound.listed file id hid
    rwa [Option.some.inj (hr.symm.trans hr')]
  · intro hfiles id r hr
    refine ⟨r.file, ⟨hfiles id r hr, h.on_list id r hr (hfiles id r hr)⟩, ?_⟩
    rintro file ⟨-, hid⟩
    obtain ⟨r', hr', rfl⟩ := hsound.listed file id hid
    rw [Option.some.inj (hr.symm.trans hr')]

theorem WellFiled.createFile (h : s.catalog.WellFiled) (hsound : s.Sound) {ids ids' : IdSupply}
    {file : FileRecord} {chunks : List ChunkRecord} (hcreated : Created s ids file chunks s' ids')
    (hids : (chunks.map ChunkRecord.id).Nodup) (hnew : ∀ r ∈ chunks, s.chunk? r.id = none)
    (hfresh : ∀ id r, s.chunk? id = some r → r.file ≠ file.id) : s'.catalog.WellFiled := by
  have hchunk : ∀ id r, s'.catalog.chunks.get? id = some r ↔
      (r ∈ chunks ∧ r.id = id) ∨ s.catalog.chunks.get? id = some r := fun id r =>
    hcreated.chunk?_iff hids hnew
  have hidsOf := hcreated.idsOf_eq
  have hfiles := hcreated.files_eq
  constructor
  case named =>
    intro id f hf
    rw [hfiles] at hf
    rcases Table.get?_insert_eq_some.1 hf with ⟨rfl, rfl⟩ | ⟨-, hf⟩
    · rfl
    · exact h.named id f hf
  case has_list =>
    intro id
    rw [hfiles, hcreated.chunkIds_eq, Bool.eq_iff_iff, Table.contains_insert,
      Table.contains_insert, h.has_list]
  case complete =>
    intro id f hf
    rw [hfiles] at hf
    rcases Table.get?_insert_eq_some.1 hf with ⟨rfl, rfl⟩ | ⟨hne, hf⟩
    · rw [hcreated.recordsOf_eq hids hnew]
      exact hcreated.complete
    · have hlist : s'.catalog.idsOf id = s.catalog.idsOf id := (hidsOf id).trans (if_neg hne)
      rw [hsound.recordsOf_eq hlist fun chunk r hr _ => (hchunk chunk r).2 (.inr hr)]
      exact h.complete id f hf
  case on_list =>
    intro id r hr hfile
    rw [hidsOf]
    rcases (hchunk id r).1 hr with ⟨hmem, rfl⟩ | hr
    · rw [if_pos (hcreated.complete.in_file r hmem)]
      exact List.mem_map_of_mem hmem
    · have hne := hfresh id r hr
      rw [hfiles, Table.contains_insert, or_iff_right hne] at hfile
      rw [if_neg hne]
      exact h.on_list id r hr hfile

theorem NoStrays.createFile (h : s.catalog.NoStrays) (hfiled : s.catalog.WellFiled)
    (hsound : s.Sound) {ids ids' : IdSupply} {file : FileRecord} {chunks : List ChunkRecord}
    (hcreated : Created s ids file chunks s' ids') (hids : (chunks.map ChunkRecord.id).Nodup)
    (hnew : ∀ r ∈ chunks, s.chunk? r.id = none)
    (hfresh : ∀ id r, s.chunk? id = some r → r.file ≠ file.id) : s'.catalog.NoStrays := by
  rw [noStrays_iff (hsound.createFile hcreated hids hnew)
    (hfiled.createFile hsound hcreated hids hnew hfresh)]
  intro id r hr
  rw [hcreated.files_eq, Table.contains_insert]
  rcases (hcreated.chunk?_iff hids hnew).1 hr with ⟨hr, -⟩ | hr
  · exact .inl (hcreated.complete.in_file r hr)
  · exact .inr ((noStrays_iff hsound hfiled).1 h id r hr)

section

variable {file : FileId}

theorem WellFiled.deleted (h : s.catalog.WellFiled) (hsound : s.Sound)
    (hdeleted : Deleted (s.forgetting file) 0 (s.catalog.recordsOf file) s') :
    s'.catalog.WellFiled := by
  have hidsOf : ∀ id, id ≠ file → s'.catalog.idsOf id = s.catalog.idsOf id := by
    intro id hne
    rw [Catalog.idsOf, hdeleted.chunkIds]
    exact congrArg (Option.getD · []) (Table.get?_erase_of_ne _ hne)
  have hfiles : ∀ id f, s'.catalog.files.get? id = some f ↔
      id ≠ file ∧ s.catalog.files.get? id = some f := by
    intro id f
    rw [hdeleted.files]
    exact Table.get?_erase_eq_some
  constructor
  case named => exact fun id f hf => h.named id f ((hfiles id f).1 hf).2
  case has_list =>
    intro id
    rw [hdeleted.files, hdeleted.chunkIds, Bool.eq_iff_iff]
    refine Table.contains_erase.trans (Iff.trans ?_ Table.contains_erase.symm)
    rw [h.has_list]
  case complete =>
    intro id f hf
    obtain ⟨hne, hf⟩ := (hfiles id f).1 hf
    have hstays : ∀ chunk r, s.chunk? chunk = some r → r.file = id → s'.chunk? chunk = some r :=
      fun chunk r hr hrfile => hsound.chunk?_deleted hdeleted hr (hrfile ▸ hne)
    rw [hsound.recordsOf_eq (hidsOf id hne) hstays]
    exact h.complete id f hf
  case on_list =>
    intro id r hr hfile
    obtain ⟨f, hf⟩ := Table.contains_iff.1 hfile
    obtain ⟨hne, hf⟩ := (hfiles r.file f).1 hf
    rw [hidsOf r.file hne]
    exact h.on_list id r ((hdeleted.chunk?_iff id r).1 hr).1 (Table.contains_of_get? hf)

/-- If a deletion comes to all chunks of a file, none of them is left. -/
theorem NoStrays.deleted (h : s.catalog.NoStrays) (hfiled : s.catalog.WellFiled) (hsound : s.Sound)
    (hdeleted : Deleted (s.forgetting file) 0 (s.catalog.recordsOf file) s')
    (hall : ∀ r ∈ s.catalog.recordsOf file,
      Deletion.Meets (fun _ d => d.id = r.id) 0 (s.catalog.recordsOf file)) :
    s'.catalog.NoStrays := by
  rw [noStrays_iff (hsound.deleted hdeleted) (hfiled.deleted hsound hdeleted)]
  intro id r hr
  obtain ⟨hr, hkept⟩ := (hdeleted.chunk?_iff id r).1 hr
  have hr : s.chunk? id = some r := hr
  have hstored := (noStrays_iff hsound hfiled).1 h id r hr
  have hne : r.file ≠ file := by
    rintro rfl
    refine hkept ?_
    rw [← (hsound.fits id r hr).id_eq]
    exact hall r (mem_recordsOf.2 ⟨id, hfiled.on_list id r hr hstored, hr⟩)
  rw [hdeleted.files]
  exact Table.contains_erase.2 ⟨hne, hstored⟩

/-- A chunk that a deletion does not come to is left without its file. -/
theorem not_noStrays_of_deleted (hfiled : s.catalog.WellFiled) (hsound : s.Sound)
    (hdeleted : Deleted (s.forgetting file) 0 (s.catalog.recordsOf file) s') {r : ChunkRecord}
    (hmem : r ∈ s.catalog.recordsOf file)
    (hkept : ¬Deletion.Meets (fun _ d => d.id = r.id) 0 (s.catalog.recordsOf file)) :
    ¬s'.catalog.NoStrays := by
  obtain ⟨-, hr, hfile⟩ := hsound.of_mem_recordsOf hmem
  rw [noStrays_iff (hsound.deleted hdeleted) (hfiled.deleted hsound hdeleted)]
  intro h
  have hstored := h r.id r ((hdeleted.chunk?_iff r.id r).2 ⟨hr, hkept⟩)
  rw [hfile, hdeleted.files] at hstored
  exact (Table.contains_erase.1 hstored).1 rfl

end

end Catalog

end ChunkCoordinator
