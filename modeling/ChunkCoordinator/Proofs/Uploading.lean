import ChunkCoordinator.Proofs.Planning
import ChunkCoordinator.Proofs.Ranking
import ChunkCoordinator.Proofs.Release

/-!
# An upload is planned wholly or not at all

The chunks of a file are placed one after the other. For each of them there are the healthy nodes
that have the room for it beside what is planned for them already (`Placement.roomFor`), and as many
of these are chosen as are asked for, if there are so many (`Placement.planUpload_spec`). The first
chunk that has too few of them is the reason why nothing is planned (`Store.Refuses`).

Otherwise the file is stored with all its chunks, and nothing else changes (`Cluster.Planned`). A
file with more chunks than a list can have entries is given up (`Store.Exceeds`), and nothing changes
either. `Lifetime.uploads_all_or_nothing` says so of every state of a life that draws no identifier
twice.
-/

set_option linter.unusedSectionVars false

namespace ChunkCoordinator

namespace Placement

variable {nodes : List Node} {count replication : Nat} {size : UInt64} {plan : List (List NodeId)}
  {sizes : List UInt64}

/-! ## Room for a chunk -/

/-- The healthy nodes that have the room for a chunk beside what is planned for them. -/
def roomFor (nodes : List Node) (plan : List (List NodeId)) (sizes : List UInt64) (size : UInt64) :
    List NodeId :=
  (nodes.filter fun n =>
    n.isHealthy && decide (planned n.id plan sizes + size.toNat ≤ n.free.toNat)).map Node.id

/-- If nothing is planned, these are the nodes that a chunk may be placed on. -/
theorem roomFor_nil (nodes : List Node) (size : UInt64) :
    roomFor nodes [] [] size = (nodes.filter (eligible .empty size)).map Node.id := by
  refine congrArg _ (List.filter_congr fun n _ => ?_)
  have hplanned : planned n.id [] [] = 0 := rfl
  rw [hplanned, Nat.zero_add, eligible, Table.contains_empty, Bool.not_false, Bool.and_true,
    decide_eq_decide.2 UInt64.le_iff_toNat_le]

/-- What is left if one more chunk is placed first. -/
theorem roomFor_debit {targets : List NodeId} {first : UInt64}
    (hroom : ∀ n ∈ nodes, n.id ∈ targets → first ≤ n.free) (plan : List (List NodeId))
    (sizes : List UInt64) (size : UInt64) :
    roomFor (debit nodes targets first) plan sizes size =
      roomFor nodes (targets :: plan) (first :: sizes) size := by
  have hid : ∀ n : Node,
      (if n.id ∈ targets then { n with free := n.free.satSub first } else n).id = n.id := by
    intro n
    split <;> rfl
  unfold roomFor debit
  rw [List.filter_map, List.map_map, List.filter_congr (q := fun n => n.isHealthy &&
    decide (planned n.id (targets :: plan) (first :: sizes) + size.toNat ≤ n.free.toNat))]
  · exact List.map_congr_left fun n _ => hid n
  intro n hn
  rw [Function.comp_apply, hid, planned]
  by_cases hmem : n.id ∈ targets
  · have hle := UInt64.le_iff_toNat_le.1 (hroom n hn hmem)
    simp only [if_pos hmem, UInt64.toNat_satSub]
    refine congrArg (n.isHealthy && ·) (decide_eq_decide.2 ?_)
    omega
  · simp only [if_neg hmem, Nat.zero_add]

/-- As many nodes are chosen as are asked for, or all that may be. -/
theorem length_chooseTargets (hnodes : (nodes.map Node.id).Nodup) :
    (chooseTargets nodes count .empty size).length =
      min count (roomFor nodes [] [] size).length := by
  have hranking := isRanking_eligible nodes .empty size
  rw [hranking.chooseTargets_eq count, List.length_take, roomFor_nil]
  have hnodup : ((nodes.filter (eligible .empty size)).map Node.id).Nodup :=
    hnodes.sublist (List.filter_sublist.map Node.id)
  have hperm := (List.perm_ext_iff_of_nodup hranking.nodup hnodup).2 fun id => by
    rw [hranking.mem_iff, List.mem_map]
    simp only [List.mem_filter, and_assoc]
  rw [hperm.length_eq]

/-- The targets of a chunk are nodes with the room for it beside the chunks before, as many as are
asked for or all that there are. -/
theorem planUpload_spec (hnodes : (nodes.map Node.id).Nodup) {k : Nat}
    (hsize : sizes[k]? = some size) (hplan : planUpload nodes sizes replication = plan) :
    ∃ targets, plan[k]? = some targets ∧ targets.Nodup ∧
      targets ⊆ roomFor nodes (plan.take k) (sizes.take k) size ∧
      targets.length =
        min replication (roomFor nodes (plan.take k) (sizes.take k) size).length := by
  induction sizes generalizing nodes plan k with
  | nil => cases hsize
  | cons first sizes ih =>
    subst hplan
    rw [planUpload]
    cases k with
    | zero =>
      obtain rfl := Option.some.inj hsize
      refine ⟨_, rfl, nodup_chooseTargets, fun id hid => ?_, length_chooseTargets hnodes⟩
      obtain ⟨n, hn, helig, rfl⟩ := mem_chooseTargets hid
      rw [List.take_zero, List.take_zero, roomFor_nil]
      exact List.mem_map_of_mem (List.mem_filter.2 ⟨hn, helig⟩)
    | succ k =>
      have hroom : ∀ n ∈ nodes, n.id ∈ chooseTargets nodes replication .empty first →
          first ≤ n.free := fun n hn => le_free_of_mem_chooseTargets hnodes hn
      have hdebited : ((debit nodes (chooseTargets nodes replication .empty first) first).map
          Node.id).Nodup := by rwa [map_id_debit]
      have hrest := ih hdebited hsize rfl
      rw [roomFor_debit hroom] at hrest
      exact hrest

end Placement

/-- The record of a new file. -/
def NewFile.record (new : NewFile) (id : FileId) (now : UInt64) : FileRecord :=
  { id, name := new.name, size := new.size, chunkSize := new.chunkSize,
    totalChunks := chunkCount new.size new.chunkSize, replication := new.replication,
    createdAt := now }

namespace Store

variable {s : Store} {new : NewFile} {k : Nat}

/-! ## Chunks without room -/

/-- Why a chunk is not placed that has fewer nodes to go to than are asked for. -/
def shortfall (replication index : UInt64) (available : Nat) : ServiceError :=
  if available = 0 then .noCapacity index else .insufficientReplicas index replication available

/-- The first chunk of a plan that has too few targets is found, if there is one. -/
theorem shortage?_cases {replication : UInt64} (hreplication : replication ≠ 0) :
    ∀ (i : Nat) (plan : List (List NodeId)),
      (shortage? replication (.ofNat i) plan = none ∧
        ∀ targets ∈ plan, replication.toNat ≤ targets.length) ∨
      ∃ k targets, plan[k]? = some targets ∧
        shortage? replication (.ofNat i) plan =
          some (shortfall replication (.ofNat (i + k)) targets.length) ∧
        targets.length < replication.toNat ∧
        ∀ j < k, ∀ earlier, plan[j]? = some earlier → replication.toNat ≤ earlier.length
  | _, [] => .inl ⟨rfl, by simp⟩
  | i, targets :: rest => by
    have hpos : 0 < replication.toNat := UInt64.toNat_pos hreplication
    have hnext : UInt64.ofNat i + 1 = .ofNat (i + 1) := (UInt64.ofNat_add i 1).symm
    by_cases hfew : targets.length < replication.toNat
    · refine .inr ⟨0, targets, rfl, ?_, hfew, fun j hj => absurd hj (Nat.not_lt_zero j)⟩
      rw [shortage?, shortfall, if_pos hfew, Nat.add_zero]
      simp only [List.isEmpty_iff, List.length_eq_zero_iff]
      split <;> rfl
    have hnonempty : ¬targets.isEmpty := by
      rw [List.isEmpty_iff]
      rintro rfl
      exact hfew hpos
    rw [shortage?, if_neg hnonempty, if_neg hfew, hnext]
    rcases shortage?_cases hreplication (i + 1) rest with ⟨hnone, hall⟩ |
      ⟨k, short, hshort, hsome, hlt, hbefore⟩
    · exact .inl ⟨hnone, List.forall_mem_cons.2 ⟨Nat.not_lt.1 hfew, hall⟩⟩
    · refine .inr ⟨k + 1, short, hshort, ?_, hlt, fun j hj earlier hearlier => ?_⟩
      · rw [hsome, Nat.add_assoc, Nat.add_comm 1 k]
      · cases j with
        | zero =>
          obtain rfl := Option.some.inj hearlier
          exact Nat.not_lt.1 hfew
        | succ j => exact hbefore j (Nat.lt_of_succ_lt_succ hj) earlier hearlier

/-- The targets of the chunks of a new file. -/
def planFor (s : Store) (new : NewFile) : List (List NodeId) :=
  Placement.planUpload s.registry.healthyNodes (chunkLengths new.size new.chunkSize)
    new.replication.toNat

/-- The healthy nodes that have the room for a chunk of a new file beside those chunks that come
before it. -/
def openTo (s : Store) (new : NewFile) (k : Nat) : List NodeId :=
  Placement.roomFor s.registry.healthyNodes ((s.planFor new).take k)
    ((chunkLengths new.size new.chunkSize).take k) (chunkLength new.size new.chunkSize (.ofNat k))

/-- The chunk is the first one of a new file that cannot be placed. -/
structure FirstShort (s : Store) (new : NewFile) (k : Nat) : Prop where
  chunkSize : new.chunkSize ≠ 0
  lt : k < (chunkCount new.size new.chunkSize).toNat
  before : ∀ j < k, new.replication.toNat ≤ (s.openTo new j).length
  few : (s.openTo new k).length < new.replication.toNat

/-- Why a new file is not stored. -/
inductive Refuses (s : Store) (new : NewFile) : ServiceError → Prop where
  | chunkSize (h : new.chunkSize = 0) :
      Refuses s new (.invalidRequest "chunk size must be greater than zero")
  | replication (hsize : new.chunkSize ≠ 0) (h : new.replication = 0) :
      Refuses s new (.invalidRequest "replication factor must be at least one")
  | noCapacity (k : Nat) (h : s.FirstShort new k) (hnone : s.openTo new k = []) :
      Refuses s new (.noCapacity (.ofNat k))
  | insufficientReplicas (k : Nat) (h : s.FirstShort new k) (hsome : s.openTo new k ≠ []) :
      Refuses s new (.insufficientReplicas (.ofNat k) new.replication (s.openTo new k).length)

/-- All chunks of a new file can be placed. -/
structure Fits (s : Store) (new : NewFile) : Prop where
  chunkSize : new.chunkSize ≠ 0
  replication : new.replication ≠ 0
  open_to : ∀ k < (chunkCount new.size new.chunkSize).toNat,
    new.replication.toNat ≤ (s.openTo new k).length

theorem Refuses.not_fits {why : ServiceError} (h : s.Refuses new why) : ¬s.Fits new := by
  intro hfits
  cases h with
  | chunkSize h => exact hfits.chunkSize h
  | replication _ h => exact hfits.replication h
  | noCapacity k h _ | insufficientReplicas k h _ =>
    have hopen := hfits.open_to k h.lt
    have hfew := h.few
    omega

/-- A new file has more chunks than there can be entries in a list of their targets, or else, all of
them being placed, in a list of their records. -/
inductive Exceeds (s : Store) (new : NewFile) : Prop where
  | targets (hsize : new.chunkSize ≠ 0) (hreplication : new.replication ≠ 0)
      (h : listLimit ≤ targetsWidth * (chunkCount new.size new.chunkSize).toNat)
  | records (hfits : s.Fits new)
      (h : listLimit ≤ recordWidth * (chunkCount new.size new.chunkSize).toNat)

/-- No list of a small file is too long. -/
theorem not_exceeds_of_lt (h : recordWidth * (chunkCount new.size new.chunkSize).toNat < listLimit) :
    ¬s.Exceeds new := by
  unfold recordWidth at h
  rintro (⟨-, -, hmany⟩ | ⟨-, hmany⟩)
  · unfold targetsWidth at hmany
    omega
  · unfold recordWidth at hmany
    omega

theorem planFor_spec (hkeyed : s.registry.Keyed)
    (hk : k < (chunkCount new.size new.chunkSize).toNat) :
    ∃ targets, (s.planFor new)[k]? = some targets ∧ targets.Nodup ∧ targets ⊆ s.openTo new k ∧
      targets.length = min new.replication.toNat (s.openTo new k).length := by
  have hsize : (chunkLengths new.size new.chunkSize)[k]? =
      some (chunkLength new.size new.chunkSize (.ofNat k)) := by
    rw [chunkLengths, List.getElem?_map, List.getElem?_range hk]
    rfl
  have hnodes : (s.registry.healthyNodes.map Node.id).Nodup :=
    hkeyed.nodup_all.sublist (List.filter_sublist.map Node.id)
  exact Placement.planUpload_spec hnodes hsize rfl

/-- A new file is refused for the first chunk that cannot be placed, or all chunks can be. -/
theorem shortage?_planFor (hkeyed : s.registry.Keyed) (hsize : new.chunkSize ≠ 0)
    (hreplication : new.replication ≠ 0) :
    (shortage? new.replication 0 (s.planFor new) = none ∧
      ∀ k < (chunkCount new.size new.chunkSize).toNat,
        new.replication.toNat ≤ (s.openTo new k).length) ∨
    ∃ why, shortage? new.replication 0 (s.planFor new) = some why ∧ s.Refuses new why := by
  have hlength : (s.planFor new).length = (chunkCount new.size new.chunkSize).toNat := by
    rw [planFor, Placement.length_planUpload, length_chunkLengths]
  rcases shortage?_cases hreplication 0 (s.planFor new) with ⟨hnone, hall⟩ |
    ⟨k, short, hshort, hsome, hlt, hbefore⟩
  · refine .inl ⟨hnone, fun k hk => ?_⟩
    obtain ⟨targets, htargets, -, -, hcount⟩ := planFor_spec hkeyed hk
    have hfull := hall targets (List.mem_of_getElem? htargets)
    omega
  · have hk : k < (chunkCount new.size new.chunkSize).toNat :=
      hlength ▸ (List.getElem?_eq_some_iff.1 hshort).1
    obtain ⟨targets, htargets, -, -, hcount⟩ := planFor_spec hkeyed hk
    obtain rfl := Option.some.inj (htargets.symm.trans hshort)
    have hfew : targets.length = (s.openTo new k).length := by omega
    have hbefore' : ∀ j < k, new.replication.toNat ≤ (s.openTo new j).length := by
      intro j hj
      obtain ⟨earlier, hearlier, -, -, hcount'⟩ := planFor_spec hkeyed (hj.trans hk)
      have hfull := hbefore j hj earlier hearlier
      omega
    have hfirst : s.FirstShort new k := ⟨hsize, hk, hbefore', hfew ▸ hlt⟩
    refine .inr ⟨_, hsome, ?_⟩
    rw [Nat.zero_add, hfew, shortfall]
    split
    · next hzero => exact .noCapacity k hfirst (List.length_eq_zero_iff.1 hzero)
    · next hpos => exact .insufficientReplicas k hfirst fun hnone => hpos (hnone ▸ rfl)

/-! ## A new file -/

theorem getElem?_provisionalChunks (file : FileRecord) :
    ∀ (i : Nat) (l : List (ChunkId × UInt64 × List NodeId)) (k : Nat),
      (provisionalChunks file (.ofNat i) l)[k]? = l[k]?.map fun e =>
        { id := e.1, file := file.id, index := .ofNat (i + k), size := e.2.1,
          desired := file.replication, replicas := .empty, expected := .ofKeys e.2.2,
          createdAt := file.createdAt }
  | _, [], _ => rfl
  | _, _ :: _, 0 => rfl
  | i, (id, size, targets) :: rest, k + 1 => by
    have hnext : UInt64.ofNat i + 1 = .ofNat (i + 1) := (UInt64.ofNat_add i 1).symm
    rw [provisionalChunks, List.getElem?_cons_succ, hnext, getElem?_provisionalChunks file (i + 1),
      List.getElem?_cons_succ, Nat.add_assoc, Nat.add_comm 1 k]

/-- A node with the room for a chunk beside those before it has the room for that chunk. -/
theorem exists_of_mem_openTo (hkeyed : s.registry.Keyed) {n : NodeId} (h : n ∈ s.openTo new k) :
    ∃ node, s.registry.get? n = some node ∧ node.isHealthy ∧
      chunkLength new.size new.chunkSize (.ofNat k) ≤ node.free := by
  obtain ⟨node, hnode, rfl⟩ := List.mem_map.1 h
  obtain ⟨hmem, hroom⟩ := List.mem_filter.1 hnode
  obtain ⟨hall, hhealthy⟩ := List.mem_filter.1 hmem
  obtain ⟨id, hid⟩ := Table.mem_values.1 hall
  obtain rfl := hkeyed id node hid
  rw [Bool.and_eq_true, decide_eq_true_eq] at hroom
  exact ⟨node, hid, hhealthy, UInt64.le_iff_toNat_le.2 (by omega)⟩

/-- A new chunk of a file that can be placed. It has no copy yet, and it expects as many different
nodes as are asked for, which are healthy and have the room for it beside the chunks before. -/
structure Provisional (s : Store) (new : NewFile) (now : UInt64) (r : ChunkRecord) : Prop where
  no_copies : r.replicas = .empty
  createdAt : r.createdAt = now
  count : r.expected.size = new.replication.toNat
  open_to : ∀ n, r.expected.contains n → n ∈ s.openTo new r.index.toNat
  healthy : ∀ n, r.expected.contains n → ∃ node, s.registry.get? n = some node ∧
    node.isHealthy ∧ r.size ≤ node.free

theorem provisional_of_mem (hkeyed : s.registry.Keyed)
    (hopen : ∀ k < (chunkCount new.size new.chunkSize).toNat,
      new.replication.toNat ≤ (s.openTo new k).length) {id : FileId} {now : UInt64}
    {chunkIds : List ChunkId} {r : ChunkRecord}
    (hr : r ∈ provisionalChunks (new.record id now) 0
      (chunkIds.zip ((chunkLengths new.size new.chunkSize).zip (s.planFor new)))) :
    s.Provisional new now r := by
  obtain ⟨k, hk⟩ := List.mem_iff_getElem?.1 hr
  have hget := getElem?_provisionalChunks (new.record id now) 0
    (chunkIds.zip ((chunkLengths new.size new.chunkSize).zip (s.planFor new))) k
  obtain ⟨⟨chunk, size, targets⟩, he, rfl⟩ := Option.map_eq_some_iff.1 (hget.symm.trans hk)
  obtain ⟨-, he⟩ := List.getElem?_zip_eq_some.1 he
  obtain ⟨hsize, htargets⟩ := List.getElem?_zip_eq_some.1 he
  have hlt : k < (chunkCount new.size new.chunkSize).toNat := by
    rw [← length_chunkLengths]
    exact (List.getElem?_eq_some_iff.1 hsize).1
  have hlength : size = chunkLength new.size new.chunkSize (.ofNat k) := by
    rw [chunkLengths, List.getElem?_map, List.getElem?_range hlt] at hsize
    exact (Option.some.inj hsize).symm
  have hindex : (UInt64.ofNat (0 + k)).toNat = k := by
    rw [Nat.zero_add]
    exact UInt64.toNat_ofNat_of_lt' (hlt.trans (chunkCount new.size new.chunkSize).toNat_lt)
  obtain ⟨targets', htargets', hnodup, hsubset, hcount⟩ := planFor_spec hkeyed hlt
  obtain rfl := Option.some.inj (htargets'.symm.trans htargets)
  have hopen_to : ∀ n, Table.contains (.ofKeys targets' : KeySet NodeId) n → n ∈ s.openTo new k :=
    fun n hn => hsubset (Table.contains_ofKeys.1 hn)
  constructor
  case no_copies => rfl
  case createdAt => rfl
  case count =>
    have hplaced := hopen k hlt
    have hsize : (Table.ofKeys targets' : KeySet NodeId).size = targets'.length :=
      Table.size_eq_length hnodup fun n => Table.contains_ofKeys
    exact hsize.trans (by omega)
  case open_to =>
    rw [hindex]
    exact hopen_to
  case healthy =>
    intro n hn
    rw [hlength]
    exact exists_of_mem_openTo hkeyed (hopen_to n hn)

/-- A new file is created if all its chunks can be placed. -/
theorem exists_createFile (hkeyed : s.registry.Keyed) (ids : IdSupply) (now : UInt64)
    (hfits : s.Fits new) (hnone : shortage? new.replication 0 (s.planFor new) = none) :
    ∃ file chunks s' ids', s.createFile ids new now = .ok ((file, chunks), s', ids') ∧
      file = new.record file.id now ∧ ∀ r ∈ chunks, s.Provisional new now r := by
  unfold createFile
  rw [if_neg hfits.chunkSize, if_neg hfits.replication]
  unfold planFor at hnone
  dsimp only
  rw [hnone]
  exact ⟨_, _, _, _, rfl, rfl, fun r hr => provisional_of_mem hkeyed hfits.open_to hr⟩

/-- Otherwise there is a reason why not. -/
theorem createFile_cases (hkeyed : s.registry.Keyed) (ids : IdSupply) (new : NewFile)
    (now : UInt64) :
    (s.Fits new ∧
      ∃ file chunks s' ids', s.createFile ids new now = .ok ((file, chunks), s', ids') ∧
        file = new.record file.id now ∧ ∀ r ∈ chunks, s.Provisional new now r) ∨
    ∃ why, s.createFile ids new now = .error why ∧ s.Refuses new why := by
  by_cases hsize : new.chunkSize = 0
  · refine .inr ⟨_, ?_, .chunkSize hsize⟩
    rw [createFile, if_pos hsize]
  by_cases hreplication : new.replication = 0
  · refine .inr ⟨_, ?_, .replication hsize hreplication⟩
    rw [createFile, if_neg hsize, if_pos hreplication]
  rcases shortage?_planFor hkeyed hsize hreplication with ⟨hnone, hopen⟩ | ⟨why, hsome, hwhy⟩
  · have hfits : s.Fits new := ⟨hsize, hreplication, hopen⟩
    exact .inl ⟨hfits, exists_createFile hkeyed ids now hfits hnone⟩
  · refine .inr ⟨why, ?_, hwhy⟩
    unfold planFor at hsome
    unfold createFile
    rw [if_neg hsize, if_neg hreplication]
    dsimp only
    rw [hsome]

/-- A file with too many chunks is given up. -/
theorem tryCreateFile_of_exceeds (hkeyed : s.registry.Keyed) (ids : IdSupply) (now : UInt64)
    (h : s.Exceeds new) : s.tryCreateFile ids new now = .error .overflow := by
  unfold tryCreateFile
  dsimp only
  split
  · rfl
  next hfew =>
  cases h with
  | targets hsize hreplication h => exact absurd ⟨hsize, hreplication, h⟩ hfew
  | records hfits h =>
    rcases createFile_cases hkeyed ids new now with ⟨-, _, _, _, _, hcreate, -⟩ | ⟨why, -, hwhy⟩
    · rw [hcreate]
      exact if_pos h
    · exact absurd hfits hwhy.not_fits

/-- Any other file is created, or there is a reason why not. -/
theorem tryCreateFile_cases (hkeyed : s.registry.Keyed) (ids : IdSupply) (now : UInt64)
    (h : ¬s.Exceeds new) :
    (∃ file chunks s' ids', s.tryCreateFile ids new now = .ok ((file, chunks), s', ids') ∧
      file = new.record file.id now ∧ ∀ r ∈ chunks, s.Provisional new now r) ∨
    ∃ why, s.tryCreateFile ids new now = .error (.refused why) ∧ s.Refuses new why := by
  unfold tryCreateFile
  dsimp only
  rw [if_neg fun hmany => h (.targets hmany.1 hmany.2.1 hmany.2.2)]
  rcases createFile_cases hkeyed ids new now with
    ⟨hfits, file, chunks, s', ids', hcreate, hnew⟩ | ⟨why, hcreate, hwhy⟩
  · rw [hcreate]
    exact .inl ⟨file, chunks, s', ids', if_neg fun hmany => h (.records hfits hmany), hnew⟩
  · rw [hcreate]
    exact .inr ⟨why, rfl, hwhy⟩

end Store

/-- The endpoints of registered nodes are listed under the names that were asked for. -/
theorem Registry.Keyed.map_node_endpoints {registry : Registry} (h : registry.Keyed) :
    ∀ {ids : List NodeId}, (∀ id ∈ ids, ∃ node, registry.get? id = some node) →
      (registry.endpoints ids).map Endpoint.node = ids
  | [], _ => rfl
  | id :: ids, hids => by
    obtain ⟨hfirst, hrest⟩ := List.forall_mem_cons.1 hids
    obtain ⟨node, hnode⟩ := hfirst
    have hname : node.endpoint.node = id := h id node hnode
    have hstep : registry.endpoints (id :: ids) = node.endpoint :: registry.endpoints ids :=
      List.filterMap_cons_some (by rw [hnode]; rfl)
    rw [hstep, List.map_cons, hname, h.map_node_endpoints hrest]

/-! ## Uploads -/

namespace Cluster

open Store

variable {c : Cluster} {request : UploadRequest} {now : UInt64}

/-- The file that a request is about. What it leaves open is settled by the coordinator. -/
def newFile (c : Cluster) (request : UploadRequest) : NewFile where
  name := request.name
  size := request.size
  chunkSize := request.chunkSize.getD c.settings.chunkSize
  replication := request.replication.getD c.settings.replication

/-- A file has been planned, with all its chunks. -/
structure Planned (c : Cluster) (new : NewFile) (now : UInt64) (file : FileRecord)
    (chunks : List ChunkRecord) (reply : Reply UploadPlan) : Prop where
  /-- Its record says what was asked for. -/
  record : file = new.record file.id now
  /-- These are all its chunks, in the order of their indices, and as long as they should be. -/
  complete : file.Complete chunks
  /-- They have no copy yet and expect as many healthy nodes with room as are asked for. -/
  provisional : ∀ r ∈ chunks, c.store.Provisional new now r
  /-- Neither the file nor the chunks have been there before. -/
  new_file : c.store.catalog.files.get? file.id = none
  new_chunks : (chunks.map ChunkRecord.id).Nodup ∧ ∀ r ∈ chunks, c.store.chunk? r.id = none
  /-- They are stored, and nothing else changes. -/
  stored_files : ∀ id, reply.cluster.store.catalog.files.get? id =
    if id = file.id then some file else c.store.catalog.files.get? id
  stored_lists : ∀ id, reply.cluster.store.catalog.idsOf id =
    if id = file.id then chunks.map ChunkRecord.id else c.store.catalog.idsOf id
  stored_chunks : ∀ id r, reply.cluster.store.chunk? id = some r ↔
    (r ∈ chunks ∧ r.id = id) ∨ c.store.chunk? id = some r
  registry : reply.cluster.store.registry = c.store.registry
  queue : reply.cluster.queue = c.queue
  /-- The answer lists the chunks as they are stored, with the nodes that they expect. -/
  answer : reply.result = .ok ⟨file, chunks.map fun r =>
    ⟨r.id, r.index, r.size, c.store.registry.endpoints r.expected.keys⟩⟩
  targets : ∀ r ∈ chunks,
    (c.store.registry.endpoints r.expected.keys).map Endpoint.node = r.expected.keys

theorem upload_of_ok (hname : Text.blank request.name = false) {file : FileRecord}
    {chunks : List ChunkRecord} {store : Store} {ids : IdSupply}
    (h : c.store.tryCreateFile c.ids (c.newFile request) now = .ok ((file, chunks), store, ids)) :
    c.upload request now =
      ⟨.ok ⟨file, chunks.map fun r =>
          ⟨r.id, r.index, r.size, store.registry.endpoints r.expected.keys⟩⟩,
        { c with store, ids, dirty := true, metrics := c.metrics.countUploadPlan "ok" }⟩ := by
  unfold newFile at h
  unfold upload planUpload
  rw [hname]
  dsimp only
  rw [h]
  rfl

theorem upload_of_error (hname : Text.blank request.name = false) {fault : Fault}
    (h : c.store.tryCreateFile c.ids (c.newFile request) now = .error fault) :
    c.upload request now =
      ⟨.error fault, { c with metrics := countPlan c.metrics (.error fault) }⟩ := by
  unfold newFile at h
  unfold upload planUpload
  rw [hname]
  dsimp only
  rw [h]
  rfl

/-- A file that is created is planned, if its identifiers are new. -/
theorem Orderly.planned (h : c.Orderly) (hfresh : DrawsFresh c (c.after (.upload request now)))
    (hname : Text.blank request.name = false) {file : FileRecord} {chunks : List ChunkRecord}
    {store : Store} {ids : IdSupply}
    (hcreate :
      c.store.tryCreateFile c.ids (c.newFile request) now = .ok ((file, chunks), store, ids))
    (hrecord : file = (c.newFile request).record file.id now)
    (hprovisional : ∀ r ∈ chunks, c.store.Provisional (c.newFile request) now r)
    (hnew : c.store.catalog.files.get? file.id = none) :
    c.Planned (c.newFile request) now file chunks (c.upload request now) := by
  have hupload := upload_of_ok hname hcreate
  have hstore : (c.upload request now).cluster.store = store := by rw [hupload]
  have hids : (c.upload request now).cluster.ids = ids := by rw [hupload]
  have hcreated := tryCreateFile_ok hcreate
  have hregistry : store.registry = c.store.registry := by rw [hcreated.store]
  rw [← hstore, ← hids] at hcreated
  obtain ⟨hnodup, hunused⟩ := hfresh.drawsNew.chunks hcreated
  constructor
  case record => exact hrecord
  case complete => exact hcreated.complete
  case provisional => exact hprovisional
  case new_file => exact hnew
  case new_chunks => exact ⟨hnodup, hunused⟩
  case stored_files =>
    intro id
    rw [hcreated.files_eq]
    split
    · next heq => rw [heq, Table.get?_insert_self]
    · next hne => exact Table.get?_insert_of_ne _ _ hne
  case stored_lists => exact hcreated.idsOf_eq
  case stored_chunks => exact fun id r => hcreated.chunk?_iff hnodup hunused
  case registry => rw [hstore, hregistry]
  case queue => rw [hupload]
  case answer => rw [hupload, hregistry]
  case targets =>
    intro r hr
    refine h.keyed.map_node_endpoints fun id hid => ?_
    obtain ⟨node, hnode, -⟩ := (hprovisional r hr).healthy id (Table.mem_keys.1 hid)
    exact ⟨node, hnode⟩

end Cluster

namespace Lifetime

variable {settings : Settings} {ids : IdSupply} {steps : List (Cluster × Turn)} {c : Cluster}

/-- A file that is created next has none of the identifiers of stored files. -/
theorem get?_files_eq_none (h : Lifetime (.fresh settings ids) steps c) {e : Event}
    (hinj : Set.InjOn ids.nth (Set.Ioc ids.drawn (c.after e).ids.drawn)) {file : FileRecord}
    {chunks : List ChunkRecord} {store : Store}
    (hcreated : Store.Created c.store c.ids file chunks store (c.after e).ids) :
    c.store.catalog.files.get? file.id = none := by
  have hinj' := injOn_of_le (Cluster.effect_after c e).drawn.2 hinj
  have hannals := h.annals hinj'
  have hlow := hannals.drawn
  have hdrawn := hcreated.drawn
  refine Option.eq_none_iff_forall_ne_some.2 fun record hrecord => ?_
  obtain ⟨k, ⟨hfirst, hlast⟩, hid⟩ := h.file_dated hinj' c List.mem_cons_self file.id record hrecord
  rw [hcreated.file_id, hannals.nth] at hid
  have heq : k = c.ids.drawn + 1 :=
    hinj ⟨hfirst, by omega⟩ ⟨by omega, by omega⟩ hid
  omega

/-- A file that is created next is planned. -/
theorem planned (h : Lifetime (.fresh settings ids) steps c) {request : UploadRequest} {now : UInt64}
    (hinj : Set.InjOn ids.nth (Set.Ioc ids.drawn (c.after (.upload request now)).ids.drawn))
    (hname : Text.blank request.name = false) {file : FileRecord} {chunks : List ChunkRecord}
    {store : Store} {ids' : IdSupply}
    (hcreate :
      c.store.tryCreateFile c.ids (c.newFile request) now = .ok ((file, chunks), store, ids'))
    (hrecord : file = (c.newFile request).record file.id now)
    (hprovisional : ∀ r ∈ chunks, c.store.Provisional (c.newFile request) now r) :
    c.Planned (c.newFile request) now file chunks (c.upload request now) := by
  have hafter : Lifetime (.fresh settings ids) ((c, .event (.upload request now)) :: steps)
      (c.after (.upload request now)) := h.cons trivial
  have happening := hafter.happening hinj
  have hids : (c.after (.upload request now)).ids = ids' :=
    congrArg (fun reply => reply.cluster.ids) (Cluster.upload_of_ok hname hcreate)
  have hnew := h.get?_files_eq_none hinj (hids ▸ Store.tryCreateFile_ok hcreate)
  exact happening.orderly.planned happening.fresh hname hcreate hrecord hprovisional hnew

/-- Wherever a life has come to that draws no identifier twice, an upload with a name is planned
wholly, or it is refused with a reason and nothing is done but to count the refusal. Only a file with
more chunks than a list can have entries is given up without a reason, and then nothing is done at
all. -/
theorem uploads_all_or_nothing (h : Lifetime (.fresh settings ids) steps c)
    (request : UploadRequest) (now : UInt64)
    (hinj : Set.InjOn ids.nth (Set.Ioc ids.drawn (c.after (.upload request now)).ids.drawn))
    (hname : Text.blank request.name = false) :
    (¬c.store.Exceeds (c.newFile request) →
      (∃ file chunks, c.Planned (c.newFile request) now file chunks (c.upload request now)) ∨
      ∃ why, c.store.Refuses (c.newFile request) why ∧ c.upload request now =
        ⟨.error (.refused why), { c with metrics := c.metrics.countUploadPlan why.code }⟩) ∧
    (c.store.Exceeds (c.newFile request) → c.upload request now = ⟨.error .overflow, c⟩) := by
  have hafter : Lifetime (.fresh settings ids) ((c, .event (.upload request now)) :: steps)
      (c.after (.upload request now)) := h.cons trivial
  have hkeyed := (hafter.happening hinj).orderly.keyed
  constructor
  · intro hfew
    rcases Store.tryCreateFile_cases hkeyed c.ids now hfew with
      ⟨file, chunks, store, ids', hcreate, hrecord, hprovisional⟩ | ⟨why, hcreate, hwhy⟩
    · exact .inl ⟨file, chunks, h.planned hinj hname hcreate hrecord hprovisional⟩
    · exact .inr ⟨why, hwhy, Cluster.upload_of_error hname hcreate⟩
  · intro hmany
    exact Cluster.upload_of_error hname (Store.tryCreateFile_of_exceeds hkeyed c.ids now hmany)

/-- Two nodes of different size. -/
def twoNodes : List (Cluster → Turn) :=
  [fun _ => .event (.register ⟨"a", "host", 1, 30⟩ 0),
   fun _ => .event (.register ⟨"b", "host", 2, 20⟩ 0)]

/-- Two chunks on both nodes fill the smaller one. With a third chunk, which finds room on one node
only, nothing is planned at all. A file with as many chunks as a word can count is given up. -/
theorem uploads_all_or_nothing_twoNodes :
    (∃ file chunks, (played twoNodes).2.Planned ⟨"name", 20, 10, 2⟩ 5 file chunks
      ((played twoNodes).2.upload ⟨"name", 20, some 10, some 2⟩ 5)) ∧
    (played twoNodes).2.store.Refuses ⟨"name", 25, 10, 2⟩ (.insufficientReplicas 2 2 1) ∧
    (played twoNodes).2.upload ⟨"name", 0xFFFFFFFFFFFFFFFF, some 1, some 1⟩ 5 =
      ⟨.error .overflow, (played twoNodes).2⟩ := by
  have hlife : Lifetime (.fresh .default .counting) (played twoNodes).1 (played twoNodes).2 :=
    of_played (by simp [twoNodes, Turn.ReadFrom, Event.ReadFrom])
  generalize (played twoNodes).1 = steps at hlife
  obtain ⟨c, hc⟩ : ∃ c, (played twoNodes).2 = c := ⟨_, rfl⟩
  rw [hc] at hlife ⊢
  have hplannedDrawn : (c.after (.upload ⟨"name", 20, some 10, some 2⟩ 5)).ids.drawn = 3 := by
    rw [← hc]
    decide +kernel
  have hrefusedDrawn : (c.after (.upload ⟨"name", 25, some 10, some 2⟩ 5)).ids.drawn = 0 := by
    rw [← hc]
    decide +kernel
  have hgivenUpDrawn :
      (c.after (.upload ⟨"name", 0xFFFFFFFFFFFFFFFF, some 1, some 1⟩ 5)).ids.drawn = 0 := by
    rw [← hc]
    decide +kernel
  refine ⟨?_, ?_, ?_⟩
  · have hplaces : ((c.upload ⟨"name", 20, some 10, some 2⟩ 5).result.toOption.map fun plan =>
        plan.chunks.map fun p => p.targets.map Endpoint.node) = some [["a", "b"], ["a", "b"]] := by
      rw [← hc]
      decide +kernel
    have hfew : ¬c.store.Exceeds ⟨"name", 20, 10, 2⟩ := Store.not_exceeds_of_lt (by decide +kernel)
    rcases (hlife.uploads_all_or_nothing ⟨"name", 20, some 10, some 2⟩ 5
        (by rw [hplannedDrawn]; exact IdSupply.injOn_counting (by decide))
        (by decide +kernel)).1 hfew with
      hplanned | ⟨why, -, hrefused⟩
    · exact hplanned
    · rw [hrefused] at hplaces
      cases hplaces
  · have hresult : (c.upload ⟨"name", 25, some 10, some 2⟩ 5).result =
        .error (.refused (.insufficientReplicas 2 2 1)) := by
      rw [← hc]
      decide +kernel
    have hfew : ¬c.store.Exceeds ⟨"name", 25, 10, 2⟩ := Store.not_exceeds_of_lt (by decide +kernel)
    rcases (hlife.uploads_all_or_nothing ⟨"name", 25, some 10, some 2⟩ 5
        (by rw [hrefusedDrawn]; exact IdSupply.injOn_counting (by decide))
        (by decide +kernel)).1 hfew with
      ⟨file, chunks, hplanned⟩ | ⟨why, hwhy, hrefused⟩
    · rw [hplanned.answer] at hresult
      cases hresult
    · rw [hrefused] at hresult
      cases hresult
      exact hwhy
  · have hmany : c.store.Exceeds ⟨"name", 0xFFFFFFFFFFFFFFFF, 1, 1⟩ :=
      .targets (by decide) (by decide) (by decide +kernel)
    exact (hlife.uploads_all_or_nothing ⟨"name", 0xFFFFFFFFFFFFFFFF, some 1, some 1⟩ 5
      (by rw [hgivenUpDrawn]; exact IdSupply.injOn_counting (by decide)) (by decide +kernel)).2 hmany

/-- A new coordinator has no node for the first chunk of a file, and should say so. If the file has
too many chunks, it gives up before it looks for one. -/
theorem exists_unanswered_upload :
    (Cluster.fresh .default .counting).store.Refuses ⟨"name", 0xFFFFFFFFFFFFFFFF, 1, 1⟩
      (.noCapacity 0) ∧
    ¬∀ (settings : Settings) (ids : IdSupply) (steps : List (Cluster × Turn)) (c : Cluster),
      Lifetime (.fresh settings ids) steps c → ∀ (request : UploadRequest) (now : UInt64),
      Set.InjOn ids.nth (Set.Ioc ids.drawn (c.after (.upload request now)).ids.drawn) →
      Text.blank request.name = false →
        (∃ file chunks, c.Planned (c.newFile request) now file chunks (c.upload request now)) ∨
        ∃ why, c.store.Refuses (c.newFile request) why ∧ c.upload request now =
          ⟨.error (.refused why), { c with metrics := c.metrics.countUploadPlan why.code }⟩ := by
  constructor
  · exact .noCapacity 0 ⟨by decide, by decide +kernel, fun j hj => absurd hj (Nat.not_lt_zero j),
      by decide +kernel⟩ rfl
  · intro h
    have hresult : ((Cluster.fresh .default .counting).upload
        ⟨"name", 0xFFFFFFFFFFFFFFFF, some 1, some 1⟩ 0).result = .error .overflow := by
      decide +kernel
    have hdrawn : ((Cluster.fresh .default .counting).after
        (.upload ⟨"name", 0xFFFFFFFFFFFFFFFF, some 1, some 1⟩ 0)).ids.drawn = 0 := by
      decide +kernel
    rcases h .default .counting [] _ .nil ⟨"name", 0xFFFFFFFFFFFFFFFF, some 1, some 1⟩ 0
        (by rw [hdrawn]; exact IdSupply.injOn_counting (by decide)) (by decide +kernel) with
      ⟨file, chunks, hplanned⟩ | ⟨why, -, hrefused⟩
    · rw [hplanned.answer] at hresult
      cases hresult
    · rw [hrefused] at hresult
      cases hresult

end Lifetime

end ChunkCoordinator
