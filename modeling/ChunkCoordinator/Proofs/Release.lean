import ChunkCoordinator.Proofs.Totals

/-!
# What a deletion gives back

Every copy of a chunk of the deleted file is given back to its node as it was booked, one after the
other, and each credit stops at the capacity of the node. Credits add up all the same : what a node
has free in the end is what the sum of them would make of it (`Registry.Raised`,
`Store.Sound.raised_deleteFile`).

If the bytes of all copies are a word, the deletion comes to its end, and nothing but the file is
gone (`Cluster.Cleared`). Neither the file nor one of its chunks ever comes back, since identifiers
are not drawn twice (`Lifetime.deletion_exact`).
-/

set_option linter.unusedSectionVars false

namespace ChunkCoordinator

/-! ## Credits to all nodes -/

/-- The record of a node that has been given some bytes back. A removed node is not given any. -/
def Node.raised (amount : Nat) (n : Node) : Node :=
  if n.isLive then { n with free := .ofNat (min n.capacity.toNat (n.free.toNat + amount)) } else n

namespace Node

variable {n : Node}

theorem raised_of_isLive (h : n.isLive) (amount : Nat) : n.raised amount =
    { n with free := .ofNat (min n.capacity.toNat (n.free.toNat + amount)) } :=
  if_pos h

theorem toNat_free_raised (h : n.isLive) (amount : Nat) :
    (n.raised amount).free.toNat = min n.capacity.toNat (n.free.toNat + amount) := by
  have hword : min n.capacity.toNat (n.free.toNat + amount) < 2 ^ 64 :=
    Nat.lt_of_le_of_lt (Nat.min_le_left _ _) n.capacity.toNat_lt
  rw [raised_of_isLive h]
  exact UInt64.toNat_ofNat_of_lt' hword

/-- A record with so much free is the one that the node comes to have. -/
theorem eq_raised {free : UInt64} {amount : Nat} (h : n.isLive)
    (hfree : free.toNat = min n.capacity.toNat (n.free.toNat + amount)) :
    { n with free } = n.raised amount := by
  obtain rfl : free = (n.raised amount).free :=
    UInt64.toNat_inj.1 (hfree.trans (toNat_free_raised h amount).symm)
  rw [raised_of_isLive h]

theorem raised_zero (h : n.free ≤ n.capacity) : n.raised 0 = n := by
  by_cases hlive : n.isLive
  · have hfree : n.free.toNat = min n.capacity.toNat (n.free.toNat + 0) := by
      rw [Nat.add_zero, Nat.min_eq_right (UInt64.le_iff_toNat_le.1 h)]
    exact (eq_raised hlive hfree).symm
  · exact if_neg hlive

/-- What is given back in two parts is given back in one. -/
theorem raised_raised (n : Node) (a b : Nat) : (n.raised a).raised b = n.raised (a + b) := by
  by_cases hlive : n.isLive
  · have hfree := toNat_free_raised hlive a
    have hsame : n.raised a = { n with free := (n.raised a).free } := by rw [raised_of_isLive hlive]
    generalize (n.raised a).free = free at hfree hsame
    have hlive' : ({ n with free } : Node).isLive := hlive
    rw [hsame, raised_of_isLive hlive']
    refine eq_raised hlive ?_
    have hrest := toNat_free_raised hlive' b
    rw [raised_of_isLive hlive'] at hrest
    dsimp only at hrest ⊢
    omega
  · have hsame : ∀ amount, n.raised amount = n := fun _ => if_neg hlive
    rw [hsame, hsame, hsame]

theorem free_raised_le (h : n.free ≤ n.capacity) (amount : Nat) :
    (n.raised amount).free ≤ (n.raised amount).capacity := by
  by_cases hlive : n.isLive
  · have hfree := toNat_free_raised hlive amount
    have hcapacity : (n.raised amount).capacity = n.capacity := by rw [raised_of_isLive hlive]
    rw [UInt64.le_iff_toNat_le, hfree, hcapacity]
    exact Nat.min_le_left _ _
  · rwa [raised, if_neg hlive]

end Node

namespace Registry

variable {r r' r'' : Registry} {id : NodeId} {node : Node}

/-- Every node has been given some bytes back. -/
def Raised (amount : NodeId → Nat) (r r' : Registry) : Prop :=
  ∀ id, r'.get? id = (r.get? id).map (Node.raised (amount id))

namespace Raised

variable {amount amount' : NodeId → Nat}

theorem refl (h : r.Bounded) : Raised (fun _ => 0) r r := by
  intro id
  cases hnode : r.get? id with
  | none => rfl
  | some node => rw [Option.map_some, Node.raised_zero (h id node hnode)]

theorem trans (h : Raised amount r r') (h' : Raised amount' r' r'') :
    Raised (fun id => amount id + amount' id) r r'' := by
  intro id
  rw [h' id, h id, Option.map_map]
  exact congrArg (fun f => (r.get? id).map f) (funext fun n => n.raised_raised _ _)

theorem bounded (h : Raised amount r r') (hbounded : r.Bounded) : r'.Bounded := by
  intro id node hnode
  rw [h id] at hnode
  obtain ⟨old, hold, rfl⟩ := Option.map_eq_some_iff.1 hnode
  exact Node.free_raised_le (hbounded id old hold) _

theorem congr (h : Raised amount r r') (heq : ∀ id, amount' id = amount id) : Raised amount' r r' :=
  fun id => heq id ▸ h id

end Raised

/-- A credit that does not fit into the capacity is given up to it. -/
theorem crediting_eq (h : node.isLive) (amount : UInt64) :
    crediting node amount = node.raised amount.toNat := by
  have hmin := toNat_credited_eq_min node amount
  exact Node.eq_raised h (by omega)

/-- The other nodes are given nothing. -/
theorem raised_set (hbounded : r.Bounded) (hnode : r.live? id = some node) (amount : UInt64) :
    Raised (fun id' => if id' = id then amount.toNat else 0) r
      (r.set id (crediting node amount)) := by
  obtain ⟨hget, hlive⟩ := live?_eq_some.1 hnode
  intro id'
  dsimp only
  split
  · next heq =>
    rw [heq, hget, Option.map_some, ← crediting_eq hlive]
    exact Table.get?_insert_self _ _ _
  · next hne => exact (Table.get?_insert_of_ne _ _ hne).trans (Raised.refl hbounded id')

end Registry

/-! ## The copies of a file -/

/-- The bytes that the confirmed copies of a file's chunks take up on a node. -/
def Catalog.bookedFor (c : Catalog) (file : FileId) (node : NodeId) : Nat :=
  ((c.recordsOf file).map (ChunkRecord.bookedOn node)).sum

namespace Store

open Deletion

variable {s : Store}

/-- Each node of the list is given the amount once. -/
theorem raised_foldl_releaseReplica (size : UInt64) :
    ∀ (nodes : List NodeId) (s : Store) (sum : Nat),
    sum + size.toNat * nodes.length < 2 ^ 64 → nodes.Nodup →
    (∀ n ∈ nodes, s.registry.isLive n) → s.registry.Bounded →
    Registry.Raised (fun n => if n ∈ nodes then (bookable size).toNat else 0) s.registry
      (nodes.foldl (releaseReplica size) ⟨s, asWord? sum⟩).store.registry
  | [], s, sum, _, _, _, hbounded => (Registry.Raised.refl hbounded).congr fun id => by simp
  | n :: nodes, s, sum, hsum, hnodup, hlive, hbounded => by
    obtain ⟨hnew, hnodup⟩ := List.nodup_cons.1 hnodup
    obtain ⟨hn, hlive⟩ := List.forall_mem_cons.1 hlive
    obtain ⟨node, hnode⟩ := Registry.isLive_iff.1 hn
    rw [List.length_cons, Nat.mul_succ] at hsum
    have hfirst := Registry.raised_set hbounded hnode (bookable size)
    have hcredited : (Registry.crediting node (bookable size)).isLive :=
      (Registry.live?_eq_some.1 hnode).2
    rw [List.foldl_cons, releaseReplica_eq (by omega) hnode]
    have hrest := raised_foldl_releaseReplica size nodes
      { s with registry := s.registry.set n (Registry.crediting node (bookable size)) }
      (sum + size.toNat) (by omega) hnodup
      (fun m hm => (Registry.isLive_set hcredited m).2 (.inr (hlive m hm)))
      (hfirst.bounded hbounded)
    refine (hfirst.trans hrest).congr fun id => ?_
    by_cases heq : id = n
    · simp [heq, hnew]
    · simp [heq]

/-- A chunk gives back what is booked for it. -/
theorem raised_dropChunk {id : ChunkId} {r : ChunkRecord} {sum : Nat}
    (hsum : sum + r.copiedBytes < 2 ^ 64) (hr : s.chunk? id = some r)
    (hlive : ∀ n, r.replicas.contains n → s.registry.isLive n) (hbounded : s.registry.Bounded) :
    Registry.Raised r.bookedOn s.registry (dropChunk ⟨s, asWord? sum⟩ id).store.registry := by
  have hdrop : dropChunk ⟨s, asWord? sum⟩ id =
      r.replicas.keys.foldl (releaseReplica r.size)
        ⟨{ s with catalog := { s.catalog with chunks := s.catalog.chunks.erase id } },
          asWord? sum⟩ := by
    unfold chunk? at hr
    rw [asWord?_of_lt (by omega)]
    simp only [dropChunk, hr]
  rw [hdrop]
  have hkeys := raised_foldl_releaseReplica r.size r.replicas.keys
    { s with catalog := { s.catalog with chunks := s.catalog.chunks.erase id } } sum
    (by rwa [Table.length_keys]) (Table.nodup_keys _) (fun n hn => hlive n (Table.mem_keys.1 hn))
    hbounded
  exact hkeys.congr fun n => by simp only [ChunkRecord.bookedOn, Table.mem_keys]

theorem raised_foldl_dropChunk : ∀ (rs : List ChunkRecord) (s : Store) (sum : Nat),
    sum + copiedBytes rs < 2 ^ 64 → (rs.map ChunkRecord.id).Nodup →
    (∀ r ∈ rs, s.chunk? r.id = some r) →
    (∀ r ∈ rs, ∀ n, r.replicas.contains n → s.registry.isLive n) → s.registry.Bounded →
    Registry.Raised (fun n => (rs.map (ChunkRecord.bookedOn n)).sum) s.registry
      ((rs.map ChunkRecord.id).foldl dropChunk ⟨s, asWord? sum⟩).store.registry
  | [], s, sum, _, _, _, _, hbounded => .refl hbounded
  | r :: rs, s, sum, hsum, hnodup, hstored, hlive, hbounded => by
    obtain ⟨hnew, hnodup⟩ := List.nodup_cons.1 hnodup
    obtain ⟨hr, hstored⟩ := List.forall_mem_cons.1 hstored
    obtain ⟨hlive, hlive'⟩ := List.forall_mem_cons.1 hlive
    have hbytes : sum + copiedBytes (r :: rs) = sum + r.copiedBytes + copiedBytes rs := by
      simp [copiedBytes, Nat.add_assoc]
    rw [hbytes] at hsum
    have hword : sum + r.copiedBytes < 2 ^ 64 := by omega
    have hsum' : sum < 2 ^ 64 := by omega
    have hfirst := raised_dropChunk hword hr hlive hbounded
    obtain ⟨given, rest, registry, -, -, hdrop, hgiven⟩ := dropChunk_eq hsum' hr hlive
    rw [hdrop] at hfirst
    rw [List.map_cons, List.foldl_cons, hdrop]
    have hrest := raised_foldl_dropChunk rs (s.dropping r.id registry) (sum + r.copiedBytes) hsum
      hnodup
      (fun r' hr' => chunk?_dropping.2
        ⟨fun heq => hnew (heq ▸ List.mem_map_of_mem hr'), hstored r' hr'⟩)
      (fun r' hr' n hn => by
        rw [dropping, hgiven.standing.isLive]
        exact hlive' r' hr' n hn)
      (hfirst.bounded hbounded)
    exact hfirst.trans hrest

/-- The deletion of a file gives every node back what is booked there for the file. -/
theorem Sound.raised_deleteFile (h : s.Sound) (hbounded : s.registry.Bounded) {id : FileId}
    {file : FileRecord} (hfile : s.catalog.files.get? id = some file)
    (hbytes : copiedBytes (s.catalog.recordsOf id) < 2 ^ 64) :
    Registry.Raised (s.catalog.bookedFor id) s.registry (s.deleteFile id).2.registry := by
  have hstored : ∀ r ∈ s.catalog.recordsOf id, (s.forgetting id).chunk? r.id = some r :=
    fun r hr => (h.of_mem_recordsOf hr).2.1
  have hfold := raised_foldl_dropChunk (s.catalog.recordsOf id) (s.forgetting id) 0
    (by rwa [Nat.zero_add]) (by rw [h.map_id_recordsOf]; exact h.listed_once id) hstored
    (fun r hr n hn => (h.fits r.id r (hstored r hr)).replica_live hn) hbounded
  have hzero : asWord? 0 = some 0 := rfl
  rw [h.map_id_recordsOf, hzero] at hfold
  have hstore : (s.deleteFile id).2 =
      ((s.catalog.idsOf id).foldl dropChunk ⟨s.forgetting id, some 0⟩).store := by
    unfold deleteFile forgetting
    rw [hfile]
    dsimp only
    split <;> rfl
  rw [hstore]
  exact hfold

/-- If the bytes of all copies are a word, the chunks of the file are dropped and no others. -/
theorem Sound.chunk?_deleteFile_iff {s' : Store} (h : s.Sound) (hfiled : s.catalog.WellFiled)
    {file : FileId} (hstored : s.catalog.files.contains file)
    (hbytes : copiedBytes (s.catalog.recordsOf file) < 2 ^ 64)
    (hdeleted : Deleted (s.forgetting file) 0 (s.catalog.recordsOf file) s') {id : ChunkId}
    {r : ChunkRecord} : s'.chunk? id = some r ↔ s.chunk? id = some r ∧ r.file ≠ file := by
  constructor
  · intro hr
    obtain ⟨hr, hmeets⟩ := (hdeleted.chunk?_iff id r).1 hr
    refine ⟨hr, fun hfile => hmeets ?_⟩
    -- the chunk is on the list of its file, and the deletion comes to all of the list
    have hlisted : id ∈ s.catalog.idsOf file := hfile ▸ hfiled.on_list id r hr (hfile ▸ hstored)
    have hmem : r ∈ s.catalog.recordsOf file := mem_recordsOf.2 ⟨id, hlisted, hr⟩
    obtain ⟨before, after, hsplit⟩ := List.append_of_mem hmem
    refine ⟨before, r, after, hsplit, ?_, (h.fits id r hr).id_eq⟩
    rw [hsplit, copiedBytes, List.map_append, List.sum_append] at hbytes
    unfold copiedBytes
    omega
  · rintro ⟨hr, hfile⟩
    exact h.chunk?_deleted hdeleted hr hfile

end Store

/-! ## The deletion of a file -/

namespace Cluster

open Store

variable {c c' : Cluster} {file : FileId} {record : FileRecord}

/-- What is left of a coordinator when a file is deleted in full: all but the file and its chunks,
and what the copies of these have taken up is free again. -/
structure Cleared (c : Cluster) (file : FileId) (c' : Cluster) : Prop where
  /-- The chunks on the list of the file are those that belong to it. -/
  listed : ∀ id, id ∈ c.store.catalog.idsOf file ↔ ∃ r, c.store.chunk? id = some r ∧ r.file = file
  files : c'.store.catalog.files = c.store.catalog.files.erase file
  lists : c'.store.catalog.chunkIds = c.store.catalog.chunkIds.erase file
  chunks : ∀ id r, c'.store.chunk? id = some r ↔ c.store.chunk? id = some r ∧ r.file ≠ file
  /-- A node in service has its copies given back, up to its capacity; nothing else about a node
  changes. -/
  nodes : ∀ n, c'.store.registry.get? n =
    (c.store.registry.get? n).map (Node.raised (c.store.catalog.bookedFor file n))
  pending : ∀ key i, c'.queue.pending.get? key = some i ↔
    c.queue.pending.get? key = some i ∧ key.chunk ∉ c.store.catalog.idsOf file
  unrecoverable : ∀ id, c'.queue.unrecoverable.contains id ↔
    c.queue.unrecoverable.contains id ∧ id ∉ c.store.catalog.idsOf file
  sweeps : c'.queue.lastSweep = c.queue.lastSweep ∧ c'.queue.sweeping = c.queue.sweeping
  rest : c'.settings = c.settings ∧ c'.metrics = c.metrics ∧ c'.dirty = true ∧ c'.ids = c.ids

/-- The bytes of the confirmed copies of the file's chunks are reported as released. -/
theorem Orderly.deleteFile_cleared (h : c.Orderly) (hbounded : c.store.registry.Bounded)
    (hfile : c.store.catalog.files.get? file = some record)
    (hbytes : copiedBytes (c.store.catalog.recordsOf file) < 2 ^ 64) :
    (c.deleteFile file).result = .ok ⟨record, c.store.catalog.idsOf file,
        .ofNat (copiedBytes (c.store.catalog.recordsOf file))⟩ ∧
      c.Cleared file (c.deleteFile file).cluster := by
  obtain ⟨s', hdeleted, heq⟩ := h.sound.deleteFile_eq hfile
  have hraised := h.sound.raised_deleteFile hbounded hfile hbytes
  have hstored := Table.contains_of_get? hfile
  rw [asWord?_of_lt hbytes] at heq
  rw [heq] at hraised
  rw [deleteFile, heq]
  refine ⟨rfl, ?_⟩
  constructor
  case listed =>
    refine fun id => ⟨h.sound.listed file id, ?_⟩
    rintro ⟨r, hr, rfl⟩
    exact h.filed.on_list id r hr hstored
  case files => exact hdeleted.files
  case lists => exact hdeleted.chunkIds
  case chunks =>
    exact fun id r => h.sound.chunk?_deleteFile_iff h.filed hstored hbytes hdeleted
  case nodes => exact hraised
  case pending =>
    intro key i
    refine Table.get?_filter_eq_some.trans ?_
    rw [decide_eq_true_eq]
  case unrecoverable =>
    intro id
    simp only [Table.contains_iff, answer, markDirty, Queue.forgetChunks, Table.get?_filter_eq_some,
      decide_eq_true_eq, exists_and_right]
  case sweeps => exact ⟨rfl, rfl⟩
  case rest => exact ⟨rfl, rfl, rfl, rfl⟩

/-- A chunk that is not stored cannot be reported, even if a copy of it is pending. -/
theorem report_of_none {id : ChunkId} (h : c.store.chunk? id = none) (node : NodeId) :
    c.report id node = c.refuse (.unknownChunk id) := by
  have hasked : (if c.queue.isPending id node then
      ((c.store.expect id [node]).map Prod.snd).getD c.store else c.store) = c.store := by
    rw [expect_eq_none [node] h]
    split <;> rfl
  have hreport : c.store.report id node = .error (.unknownChunk id) := by
    unfold chunk? at h
    rw [Store.report, h]
  rw [report, hasked]
  dsimp only
  rw [hreport]

/-- Neither the file nor any of the chunks is stored. -/
structure Gone (file : FileId) (chunks : List ChunkId) (c : Cluster) : Prop where
  files : c.store.catalog.files.get? file = none
  chunks : ∀ id ∈ chunks, c.store.chunk? id = none

theorem getFile_of_none (h : c.store.catalog.files.get? file = none) :
    c.getFile file = c.refuse (.fileNotFound file) := by
  rw [getFile, Catalog.file, h]

end Cluster

/-! ## From then on -/

namespace Lifetime

variable {start b c : Cluster} {steps later : List (Cluster × Turn)} {settings : Settings}
  {ids : IdSupply}

/-- No state has drawn more identifiers than the last one. -/
theorem drawn_le (h : Lifetime start steps c) :
    ∀ s ∈ c :: steps.map Prod.fst, s.ids.drawn ≤ c.ids.drawn := by
  induction h with
  | nil => exact List.forall_mem_singleton.2 (Nat.le_refl _)
  | @cons steps c turn life read ih =>
    refine List.forall_mem_cons.2 ⟨Nat.le_refl _, fun s hs => ?_⟩
    exact (ih s hs).trans (drawn_afterTurn c turn).2

/-- Nor fewer than an earlier one. -/
theorem le_drawn (hbefore : Lifetime start steps b) (h : Lifetime start (later ++ steps) c) :
    ∀ s ∈ c :: later.map Prod.fst, b.ids.drawn ≤ s.ids.drawn := by
  induction later generalizing c with
  | nil =>
    rw [← hbefore.eq_of_steps h]
    exact List.forall_mem_singleton.2 (Nat.le_refl _)
  | cons step later ih =>
    cases h with
    | @cons _ s turn life read =>
    have hall := ih life
    exact List.forall_mem_cons.2
      ⟨(hall s List.mem_cons_self).trans (drawn_afterTurn s turn).2, hall⟩

/-- Every stored file has an identifier that has been drawn. -/
theorem file_dated (h : Lifetime (.fresh settings ids) steps c)
    (hinj : Set.InjOn ids.nth (Set.Ioc ids.drawn c.ids.drawn)) :
    ∀ s ∈ c :: steps.map Prod.fst, ∀ id record, s.store.catalog.files.get? id = some record →
      ∃ k ∈ Set.Ioc ids.drawn c.ids.drawn, ids.nth k = id := by
  refine h.always (P := fun s => ∀ id record, s.store.catalog.files.get? id = some record →
    ∃ k ∈ Set.Ioc ids.drawn c.ids.drawn, ids.nth k = id) hinj
    (fun id record hid => by cases hid) ?_ ?_
  · intro states s e hstep happening hs id record hid
    rcases (Cluster.effect_after s e).catalog_cases happening.orderly.sound with
      halike | ⟨file, chunks, hcreated⟩ | ⟨file, -, hdeleted⟩
    · exact hs id record (halike.files ▸ hid)
    · rw [hcreated.files_eq] at hid
      rcases Table.get?_insert_eq_some.1 hid with ⟨rfl, -⟩ | ⟨-, hid⟩
      · have hle := h.drawn_le _ (h.mem_states hstep).2
        have hdrawn := hcreated.drawn
        have hlow := happening.annals.drawn
        refine ⟨s.ids.drawn + 1, ⟨by omega, ?_⟩, ?_⟩
        · refine Nat.le_trans ?_ hle
          change _ ≤ (s.after e).ids.drawn
          omega
        · rw [hcreated.file_id, happening.annals.nth]
      · exact hs id record hid
    · rw [hdeleted.files] at hid
      exact hs id record (Table.get?_erase_eq_some.1 hid).2
  · intro s saved settings' time now horderly hsaved id record hid
    obtain ⟨-, -, hcatalog | ⟨hcatalog, -⟩⟩ :=
      Cluster.restart_spec s settings' time now horderly.sound horderly.filed rfl
    · exact hsaved id record (hcatalog ▸ hid)
    · rw [hcatalog] at hid
      cases hid

/-- No event brings them back. -/
theorem Happening.gone {states : List Cluster} {s : Cluster} {e : Event} {file : FileId}
    {chunks : List ChunkId} (h : Happening ids states s e) {k : Nat}
    (hk : k ∈ Set.Ioc ids.drawn s.ids.drawn) (hfile : ids.nth k = file) (hb : b ∈ states)
    (hused : ∀ id ∈ chunks, b.Uses id) (hs : s.Gone file chunks) :
    (s.after e).Gone file chunks := by
  have heffect := Cluster.effect_after s e
  have hsound := h.orderly.sound
  constructor
  case files =>
    rcases heffect.catalog_cases hsound with halike | ⟨new, rs, hcreated⟩ | ⟨other, -, hdeleted⟩
    · rw [halike.files]
      exact hs.files
    · have hdrawn := hcreated.drawn
      have hnew : s.ids.drawn + 1 ∈ Set.Ioc ids.drawn (s.after e).ids.drawn := by
        have hlow := h.annals.drawn
        exact ⟨by omega, by omega⟩
      have hne : file ≠ new.id := by
        intro heq
        rw [hcreated.file_id, h.annals.nth, ← hfile] at heq
        have hlast := h.distinct ⟨hk.1, hk.2.trans heffect.drawn.2⟩ hnew heq
        have hle := hk.2
        omega
      rw [hcreated.files_eq, Table.get?_insert_of_ne _ _ hne]
      exact hs.files
    · rw [hdeleted.files, Option.eq_none_iff_forall_ne_some]
      intro record hrecord
      have hold := (Table.get?_erase_eq_some.1 hrecord).2
      rw [hs.files] at hold
      cases hold
  case chunks =>
    intro id hid
    rw [Option.eq_none_iff_forall_ne_some]
    intro r hr
    rcases heffect.chunk?_cases hsound hr with ⟨old, hold, -⟩ | ⟨j, hj, rfl⟩
    · rw [hs.chunks id hid] at hold
      cases hold
    · exact h.unused hj hb (hused _ hid)

/-- Nor does a restart from a state without them. -/
theorem gone_restart {s saved : Cluster} {file : FileId} {chunks : List ChunkId} (h : saved.Orderly)
    (hs : saved.Gone file chunks) (settings : Settings) (time now : UInt64) :
    (s.restart settings (saved.exportSnapshot time) now).cluster.Gone file chunks := by
  constructor
  case files =>
    obtain ⟨-, -, hcatalog | ⟨hcatalog, -⟩⟩ :=
      Cluster.restart_spec s settings time now h.sound h.filed rfl
    · rw [hcatalog]
      exact hs.files
    · rw [hcatalog]
      rfl
  case chunks =>
    intro id hid
    rw [Option.eq_none_iff_forall_ne_some]
    intro r hr
    have hold := h.chunk?_of_restart hr
    rw [hs.chunks id hid] at hold
    cases hold

/-- In a life that draws no identifier twice, a stored file the bytes of whose copies are a word is
deleted with all its chunks, everything about them is forgotten and their copies are given back, and
nothing else changes. Ever after, restarts from states saved since then included, its chunks are
unknown and the file is not found. -/
theorem deletion_exact {file : FileId} {record : FileRecord} {c' : Cluster}
    (h : Lifetime (.fresh settings ids) (later ++ (c, .event (.deleteFile file)) :: steps) c')
    (hinj : Set.InjOn ids.nth (Set.Ioc ids.drawn c'.ids.drawn))
    (hfile : c.store.catalog.files.get? file = some record)
    (hbytes : copiedBytes (c.store.catalog.recordsOf file) < 2 ^ 64) (hsaved : SavedSince later) :
    (∃ released, (c.deleteFile file).result =
        .ok ⟨record, c.store.catalog.idsOf file, released⟩ ∧
      released.toNat =
        ((c.store.catalog.recordsOf file).map fun r => r.size.toNat * r.replicas.size).sum) ∧
    c.Cleared file (c.deleteFile file).cluster ∧
    ∀ b ∈ c' :: later.map Prod.fst,
      (∀ id ∈ c.store.catalog.idsOf file, ∀ node,
        (b.report id node).result = .error (.refused (.unknownChunk id))) ∧
      (b.getFile file).result = .error (.refused (.fileNotFound file)) := by
  obtain ⟨d, hd, hle⟩ := h.of_append
  have hinj' := injOn_of_le hle hinj
  have happening := hd.happening hinj'
  have horderly := happening.orderly
  cases hd with
  | cons life read =>
  have hbounded := life.bounded (injOn_before hinj') c List.mem_cons_self
  obtain ⟨hresult, hcleared⟩ := horderly.deleteFile_cleared hbounded hfile hbytes
  refine ⟨⟨_, hresult, ?_⟩, hcleared, ?_⟩
  · exact (UInt64.toNat_ofNat' ..).trans (Nat.mod_eq_of_lt hbytes)
  have hgone : (c.deleteFile file).cluster.Gone file (c.store.catalog.idsOf file) := by
    refine ⟨?_, fun id hid => ?_⟩
    · rw [hcleared.files, Table.get?_erase_self]
    · obtain ⟨r, hr, hrfile⟩ := (hcleared.listed id).1 hid
      rw [Option.eq_none_iff_forall_ne_some]
      intro r' hr'
      obtain ⟨hr', hne⟩ := (hcleared.chunks id r').1 hr'
      rw [hr] at hr'
      exact hne (Option.some.inj hr' ▸ hrfile)
  obtain ⟨k, hk, hdated⟩ :=
    life.file_dated (injOn_before hinj') c List.mem_cons_self file record hfile
  have hlater := le_drawn (life.cons read) h
  have hall := (life.cons read).since (P := fun b => b.Gone file (c.store.catalog.idsOf file))
    hgone h hinj hsaved ?_ ?_
  · intro b hb
    obtain ⟨hfiles, hchunks⟩ := hall b hb
    refine ⟨fun id hid node => ?_, ?_⟩
    · rw [Cluster.report_of_none (hchunks id hid)]
      rfl
    · rw [Cluster.getFile_of_none hfiles]
      rfl
  · intro states s e hstep happening hstates hs
    have hc : c ∈ states := hstates (by simp)
    have hdrawn : c.ids.drawn ≤ s.ids.drawn := (drawn_afterTurn c _).2.trans
      (hlater s (List.mem_cons_of_mem _ (List.mem_map_of_mem hstep)))
    refine happening.gone ⟨hk.1, hk.2.trans hdrawn⟩ hdated hc (fun id hid => ?_) hs
    obtain ⟨r, hr, -⟩ := (hcleared.listed id).1 hid
    exact .inl ⟨r, hr⟩
  · exact fun s saved settings' time now _ _ hsaved hs => gone_restart hsaved hs settings' time now

/-- Two files share the nodes, one of which then claims more free space than its copies leave. -/
def sharedNodes : List (Cluster → Turn) :=
  [fun _ => .event (.register ⟨"a", "host", 1, 1000⟩ 0),
   fun _ => .event (.register ⟨"b", "host", 1, 1000⟩ 0),
   fun _ => .event (.upload ⟨"name", 10, some 5, some 2⟩ 0),
   fun _ => .event (.upload ⟨"other", 20, none, some 2⟩ 0),
   fun _ => .event (.report ⟨2⟩ "a"),
   fun _ => .event (.report ⟨3⟩ "a"),
   fun _ => .event (.report ⟨3⟩ "b"),
   fun _ => .event (.report ⟨5⟩ "b"),
   fun _ => .event (.heartbeat "a" 998 0)]

/-- A file of the same name is planned, and the coordinator is started anew. -/
def afresh : List (Cluster → Turn) :=
  [fun _ => .event (.upload ⟨"name", 10, some 5, some 2⟩ 0),
   fun s => .restart .default (s.exportSnapshot 0) 0]

/-- One node is full again, the other one goes on holding the copy of the second file. -/
theorem deletion_exact_sharedNodes :
    ∃ later steps c c' record,
      Lifetime (.fresh .default .counting) (later ++ (c, .event (.deleteFile ⟨1⟩)) :: steps) c' ∧
      Set.InjOn IdSupply.counting.nth (Set.Ioc 0 c'.ids.drawn) ∧
      c.store.catalog.files.get? ⟨1⟩ = some record ∧
      copiedBytes (c.store.catalog.recordsOf ⟨1⟩) = 15 ∧ SavedSince later ∧
      c.store.registry.all.map Node.free = [998, 975] ∧
      (c.deleteFile ⟨1⟩).cluster.store.registry.all.map Node.free = [1000, 980] ∧
      c.Cleared ⟨1⟩ (c.deleteFile ⟨1⟩).cluster ∧ c'.store.catalog.files.size = 2 ∧
      (c'.getFile ⟨1⟩).result = .error (.refused (.fileNotFound ⟨1⟩)) := by
  have hread : ∀ choose ∈ sharedNodes, ∀ s, (choose s).ReadFrom [s] := by
    simp [sharedNodes, Turn.ReadFrom, Event.ReadFrom]
  have hread' : ∀ choose ∈ afresh, ∀ s, (choose s).ReadFrom [s] := by
    simp [afresh, Turn.ReadFrom, Event.ReadFrom]
  obtain ⟨c, hc⟩ : ∃ c, (played sharedNodes).2 = c := ⟨_, rfl⟩
  obtain ⟨b, hb⟩ : ∃ b, c.after (.deleteFile ⟨1⟩) = b := ⟨_, rfl⟩
  have hfirst : Lifetime (.fresh .default .counting)
      ((c, .event (.deleteFile ⟨1⟩)) :: (played sharedNodes).1) b :=
    hb ▸ hc ▸ (of_played hread).cons trivial
  have hlife := hfirst.append (of_play afresh .nil hread')
  have hdrawn : (play [] b afresh).2.ids.drawn = 8 := by
    rw [← hb, ← hc]
    decide +kernel
  have hinj : Set.InjOn IdSupply.counting.nth (Set.Ioc 0 (play [] b afresh).2.ids.drawn) := by
    rw [hdrawn]
    exact IdSupply.injOn_counting (by decide)
  have hfile : c.store.catalog.files.get? ⟨1⟩ = some ⟨⟨1⟩, "name", 10, 5, 2, 2, 0⟩ := by
    rw [← hc]
    decide +kernel
  have hbytes : copiedBytes (c.store.catalog.recordsOf ⟨1⟩) = 15 := by
    rw [← hc]
    decide +kernel
  have hsaved : SavedSince (play [] b afresh).1 := ⟨⟨_, List.mem_cons_self, 0, rfl⟩, trivial⟩
  obtain ⟨-, hcleared, hlater⟩ := deletion_exact hlife hinj hfile (by omega) hsaved
  refine ⟨_, _, _, _, _, hlife, hinj, hfile, hbytes, hsaved, ?_, ?_, hcleared, ?_,
    (hlater _ List.mem_cons_self).2⟩
  · rw [← hc]
    decide +kernel
  · rw [← hc]
    decide +kernel
  · rw [← hb, ← hc]
    decide +kernel

end Lifetime

end ChunkCoordinator
