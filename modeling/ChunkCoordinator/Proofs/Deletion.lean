import ChunkCoordinator.Proofs.Space

/-!
# What a deletion comes to

A deletion goes through the chunks of a file, drops each one and gives the space of its copies
back. It adds up the bytes given back and stops where their sum is no word any more. What it comes
to before that is told by the sums of `ChunkRecord.copiedBytes` along the chunks
(`Deletion.Meets`) : these are the chunks that it drops, and all space is given back unless it stops
before the last copy of one of them. `Store.Deleted` sums this up, and `Store.deleteFile_eq` says
that a deletion comes to that.

Here every copy is on a node in service, so that no credit is refused.
-/

set_option linter.unusedSectionVars false

namespace ChunkCoordinator

/-! ## Bytes to give back -/

/-- The bytes of all confirmed copies of the chunk. -/
def ChunkRecord.copiedBytes (r : ChunkRecord) : Nat := r.size.toNat * r.replicas.size

/-- The bytes of all confirmed copies of some chunks. -/
def copiedBytes (rs : List ChunkRecord) : Nat := (rs.map ChunkRecord.copiedBytes).sum

/-- The records of a file's chunks, as they were stored. -/
def Catalog.recordsOf (c : Catalog) (file : FileId) : List ChunkRecord :=
  (c.idsOf file).filterMap c.chunks.get?

/-- A number as a word, if it is one. -/
def asWord? (n : Nat) : Option UInt64 := if n < 2 ^ 64 then some (.ofNat n) else none

theorem asWord?_of_lt {n : Nat} (h : n < 2 ^ 64) : asWord? n = some (.ofNat n) := if_pos h

theorem asWord?_of_le {n : Nat} (h : 2 ^ 64 ≤ n) : asWord? n = none := if_neg (Nat.not_lt.2 h)

theorem isSome_asWord? {n : Nat} : (asWord? n).isSome ↔ n < 2 ^ 64 := by
  rw [asWord?]
  split
  · next h => exact iff_of_true rfl h
  · next h => exact iff_of_false Bool.false_ne_true h

theorem asWord?_eq_none {n : Nat} : asWord? n = none ↔ 2 ^ 64 ≤ n := by
  rw [← Option.not_isSome_iff_eq_none, isSome_asWord?, Nat.not_lt]

theorem add?_ofNat {n : Nat} (h : n < 2 ^ 64) (size : UInt64) :
    (UInt64.ofNat n).add? size = asWord? (n + size.toNat) := by
  have hn : (UInt64.ofNat n).toNat = n := UInt64.toNat_ofNat_of_lt' h
  have hsize : UInt64.size = 2 ^ 64 := rfl
  rw [UInt64.add?, hn, hsize, asWord?, UInt64.ofNat_add, UInt64.ofNat_toNat]

/-- A deletion that has given back `sum` bytes goes on through some chunks and comes to one that has
a property, together with the sum by then, while the sum is still a word. -/
def Store.Deletion.Meets (P : Nat → ChunkRecord → Prop) (sum : Nat) (rs : List ChunkRecord) : Prop :=
  ∃ before r after, rs = before ++ r :: after ∧ sum + copiedBytes before < 2 ^ 64 ∧
    P (sum + copiedBytes before) r

namespace Store.Deletion

variable {P : Nat → ChunkRecord → Prop} {sum : Nat} {r : ChunkRecord} {rs : List ChunkRecord}

theorem not_meets_nil : ¬Meets P sum [] := by
  rintro ⟨before, r, after, hsplit, -⟩
  cases before <;> cases hsplit

theorem Meets.exists_mem (h : Meets P sum rs) : ∃ r ∈ rs, ∃ sum', P sum' r := by
  obtain ⟨before, r, after, rfl, -, hP⟩ := h
  exact ⟨r, by simp, _, hP⟩

theorem not_meets_of_le (h : 2 ^ 64 ≤ sum) : ¬Meets P sum rs := by
  rintro ⟨before, r, after, -, hlt, -⟩
  omega

theorem meets_cons (hsum : sum < 2 ^ 64) :
    Meets P sum (r :: rs) ↔ P sum r ∨ Meets P (sum + r.copiedBytes) rs := by
  constructor
  · rintro ⟨before, r', after, hsplit, hlt, hP⟩
    cases before with
    | nil =>
      obtain ⟨rfl, -⟩ := List.cons.inj hsplit
      exact .inl hP
    | cons first before =>
      obtain ⟨rfl, rfl⟩ := List.cons.inj hsplit
      have hbytes : sum + copiedBytes (r :: before) = sum + r.copiedBytes + copiedBytes before := by
        simp [copiedBytes, Nat.add_assoc]
      rw [hbytes] at hlt hP
      exact .inr ⟨before, r', after, rfl, hlt, hP⟩
  · rintro (hP | ⟨before, r', after, rfl, hlt, hP⟩)
    · exact ⟨[], r, rs, rfl, hsum, hP⟩
    · have hbytes : sum + copiedBytes (r :: before) = sum + r.copiedBytes + copiedBytes before := by
        simp [copiedBytes, Nat.add_assoc]
      exact ⟨r :: before, r', after, rfl, hbytes ▸ hlt, hbytes ▸ hP⟩

end Store.Deletion

/-! ## The copies of one chunk -/

/-- The amount has been given back once to each of some nodes in service. -/
def Registry.Credited (amount : UInt64) (given : List NodeId) (r r' : Registry) : Prop :=
  ∀ id, r'.live? id = (r.live? id).map fun n =>
    if id ∈ given then crediting n amount else n

namespace Registry.Credited

variable {amount : UInt64} {given : List NodeId} {r r' : Registry}

theorem nil (amount : UInt64) (r : Registry) : Credited amount [] r r := fun id => by
  simp

theorem standing (h : Credited amount given r r') : Agree standing r r' := fun id => by
  rw [h id, Option.map_map]
  congr 1
  funext n
  simp only [Function.comp_apply]
  split <;> rfl

/-- One more node is given the amount first. -/
theorem cons {id : NodeId} {node : Node} (hnode : r.live? id = some node) (hnew : id ∉ given)
    (h : Credited amount given (r.set id (crediting node amount)) r') :
    Credited amount (id :: given) r r' := by
  intro id'
  rw [h id']
  by_cases heq : id' = id
  · subst heq
    have hlive : (crediting node amount).isLive := (live?_eq_some.1 hnode).2
    rw [live?_set_self hlive, hnode]
    simp [hnew]
  · simp only [live?_set_of_ne heq, List.mem_cons, heq, false_or]

/-- A node that was given the amount has that much more free, if it had room for it. -/
theorem exists_live? (h : Credited amount given r r') {id : NodeId} {node : Node}
    (hnode : r.live? id = some node)
    (hroom : id ∈ given → node.free.toNat + amount.toNat ≤ node.capacity.toNat) :
    ∃ node', r'.live? id = some node' ∧ node'.capacity = node.capacity ∧
      node'.free.toNat = node.free.toNat + if id ∈ given then amount.toNat else 0 := by
  have hnode' := h id
  rw [hnode, Option.map_some] at hnode'
  refine ⟨_, hnode', ?_⟩
  split
  · next hid => exact ⟨rfl, toNat_credited (hroom hid)⟩
  · exact ⟨rfl, rfl⟩

end Registry.Credited

namespace Store.Deletion

variable {s : Store}

theorem foldl_releaseReplica_none (nodes : List NodeId) (s : Store) (size : UInt64) :
    nodes.foldl (releaseReplica size) ⟨s, none⟩ = ⟨s, none⟩ := by
  induction nodes with
  | nil => rfl
  | cons n nodes ih => exact ih

theorem releaseReplica_eq {size : UInt64} {n : NodeId} {node : Node} {sum : Nat}
    (hsum : sum < 2 ^ 64) (hnode : s.registry.live? n = some node) :
    releaseReplica size ⟨s, asWord? sum⟩ n =
      ⟨{ s with registry := s.registry.set n (Registry.crediting node (bookable size)) },
        asWord? (sum + size.toNat)⟩ := by
  rw [asWord?_of_lt hsum, ← add?_ofNat hsum size]
  simp only [releaseReplica, Registry.credit_eq_ok hnode]

/-- The copies of a chunk are given back one after the other, up to the one at which the sum stops
being a word. That is the last one only if the sum was a word before it. -/
theorem foldl_releaseReplica (size : UInt64) : ∀ (nodes : List NodeId) (s : Store) (sum : Nat),
    sum < 2 ^ 64 → nodes.Nodup → (∀ n ∈ nodes, s.registry.isLive n) →
    ∃ given rest registry, nodes = given ++ rest ∧
      (rest = [] ↔ sum + size.toNat * (nodes.length - 1) < 2 ^ 64) ∧
      nodes.foldl (releaseReplica size) ⟨s, asWord? sum⟩ =
        ⟨{ s with registry }, asWord? (sum + size.toNat * nodes.length)⟩ ∧
      Registry.Credited (bookable size) given s.registry registry
  | [], s, sum, hsum, _, _ =>
    ⟨[], [], s.registry, rfl, by simpa using hsum, by simp, .nil _ _⟩
  | n :: nodes, s, sum, hsum, hnodup, hlive => by
    obtain ⟨hnew, hnodup⟩ := List.nodup_cons.1 hnodup
    obtain ⟨node, hnode⟩ := Registry.isLive_iff.1 (hlive n List.mem_cons_self)
    have hcredited : (Registry.crediting node (bookable size)).isLive :=
      (Registry.live?_eq_some.1 hnode).2
    have hbytes : sum + size.toNat + size.toNat * nodes.length =
        sum + size.toNat * (n :: nodes).length := by
      rw [List.length_cons, Nat.mul_succ]
      omega
    rw [List.foldl_cons, releaseReplica_eq hsum hnode]
    by_cases hword : sum + size.toNat < 2 ^ 64
    · have hlive' : ∀ m ∈ nodes,
          (s.registry.set n (Registry.crediting node (bookable size))).isLive m := by
        intro m hm
        rw [Registry.isLive_set hcredited]
        exact .inr (hlive m (List.mem_cons_of_mem _ hm))
      obtain ⟨given, rest, registry, hsplit, hrest, hfold, hgiven⟩ := foldl_releaseReplica size nodes
        { s with registry := s.registry.set n (Registry.crediting node (bookable size)) } _ hword
        hnodup hlive'
      refine ⟨n :: given, rest, registry, by rw [hsplit, List.cons_append], hrest.trans ?_,
        hbytes ▸ hfold, .cons hnode (fun h => hnew (hsplit ▸ List.mem_append_left _ h)) hgiven⟩
      cases nodes with
      | nil => exact iff_of_true hword hsum
      | cons m nodes => simp only [List.length_cons, Nat.add_sub_cancel, Nat.mul_succ]; omega
    · refine ⟨[n], nodes, _, rfl, ?_, ?_, .cons hnode List.not_mem_nil (.nil _ _)⟩
      · cases nodes with
        | nil =>
          rw [List.length_singleton, Nat.sub_self, Nat.mul_zero, Nat.add_zero]
          exact iff_of_true rfl hsum
        | cons m nodes =>
          simp only [List.length_cons, Nat.add_sub_cancel, Nat.mul_succ, reduceCtorEq, false_iff]
          omega
      · rw [asWord?_of_le (by omega), asWord?_of_le (by omega), foldl_releaseReplica_none]

/-! ## One chunk -/

/-- Dropping a chunk gives back the space of its copies, up to the one at which the sum stops being
a word. -/
theorem dropChunk_eq {sum : Nat} {id : ChunkId} {r : ChunkRecord} (hsum : sum < 2 ^ 64)
    (hr : s.chunk? id = some r) (hlive : ∀ n, r.replicas.contains n → s.registry.isLive n) :
    ∃ given rest registry, r.replicas.keys = given ++ rest ∧
      (rest = [] ↔ sum + r.size.toNat * (r.replicas.size - 1) < 2 ^ 64) ∧
      dropChunk ⟨s, asWord? sum⟩ id =
        ⟨{ registry, catalog := { s.catalog with chunks := s.catalog.chunks.erase id } },
          asWord? (sum + r.copiedBytes)⟩ ∧
      Registry.Credited (bookable r.size) given s.registry registry := by
  have hlive' : ∀ n ∈ r.replicas.keys, s.registry.isLive n := fun n hn => hlive n (Table.mem_keys.1 hn)
  obtain ⟨given, rest, registry, hsplit, hrest, hfold, hgiven⟩ := foldl_releaseReplica r.size
    r.replicas.keys { s with catalog := { s.catalog with chunks := s.catalog.chunks.erase id } } sum
    hsum (Table.nodup_keys _) hlive'
  rw [Table.length_keys] at hrest hfold
  refine ⟨given, rest, registry, hsplit, hrest, Eq.trans ?_ hfold, hgiven⟩
  rw [asWord?_of_lt hsum]
  unfold Store.chunk? at hr
  simp only [dropChunk, hr]

theorem foldl_dropChunk_none (ids : List ChunkId) (s : Store) :
    ids.foldl dropChunk ⟨s, none⟩ = ⟨s, none⟩ := by
  induction ids with
  | nil => rfl
  | cons id ids ih => exact ih

end Store.Deletion

namespace Store

open Deletion

variable {s s' : Store} {id : ChunkId} {r : ChunkRecord} {rs : List ChunkRecord} {sum : Nat}

/-- The store without one chunk, and with another registry. -/
def dropping (s : Store) (id : ChunkId) (registry : Registry) : Store :=
  { registry, catalog := { s.catalog with chunks := s.catalog.chunks.erase id } }

theorem chunk?_dropping {registry : Registry} {id' : ChunkId} {r' : ChunkRecord} :
    (s.dropping id registry).chunk? id' = some r' ↔ id' ≠ id ∧ s.chunk? id' = some r' :=
  Table.get?_erase_eq_some

/-- What was booked for the chunk is not booked any more. -/
theorem booked_dropping {registry : Registry} (hr : s.chunk? id = some r) (n : NodeId) :
    s.catalog.booked n = r.bookedOn n + (s.dropping id registry).catalog.booked n :=
  Table.sum_of_get? hr _

theorem toNat_bookable (size : UInt64) : (bookable size).toNat = min size.toNat (2 ^ 63 - 1) :=
  UInt64.toNat_min _ _

/-- Space is kept only if every copy of a chunk that takes any has been given back. -/
theorem Conserved.dropping {given rest : List NodeId} {registry : Registry} (h : s.Conserved)
    (hr : s.chunk? id = some r) (hlive : ∀ n, r.replicas.contains n → s.registry.isLive n)
    (hsplit : r.replicas.keys = given ++ rest)
    (hgiven : Registry.Credited (bookable r.size) given s.registry registry) :
    (s.dropping id registry).Conserved ↔ rest = [] ∨ r.size.toNat = 0 := by
  have hbooked : ∀ n, s.catalog.booked n =
      r.bookedOn n + (s.dropping id registry).catalog.booked n := booked_dropping hr
  have hmem : ∀ n, r.replicas.contains n ↔ n ∈ given ∨ n ∈ rest := fun n => by
    rw [← Table.mem_keys, hsplit, List.mem_append]
  have hdisjoint : ∀ n ∈ given, n ∉ rest := fun n hn hn' =>
    (List.nodup_append.1 (hsplit ▸ Table.nodup_keys r.replicas)).2.2 n hn n hn' rfl
  have hone : ∀ n, r.bookedOn n =
      if n ∈ given ∨ n ∈ rest then (bookable r.size).toNat else 0 := fun n => by
    simp only [ChunkRecord.bookedOn, hmem]
  have hnodes : ∀ n node, s.registry.live? n = some node → ∃ node', registry.live? n = some node' ∧
      node'.capacity = node.capacity ∧
      node'.free.toNat = node.free.toNat + if n ∈ given then (bookable r.size).toNat else 0 := by
    intro n node hnode
    refine hgiven.exists_live? hnode fun hn => ?_
    have hbefore := h n node hnode
    rw [hbooked n, hone n, if_pos (.inl hn)] at hbefore
    omega
  constructor
  · intro hconserved
    refine or_iff_not_imp_left.2 fun hrest => ?_
    -- a node that was not given the amount has lost it
    obtain ⟨n, hn⟩ := List.exists_mem_of_ne_nil _ hrest
    obtain ⟨node, hnode⟩ := Registry.isLive_iff.1 (hlive n ((hmem n).2 (.inr hn)))
    obtain ⟨node', hnode', hcapacity, hfree⟩ := hnodes n node hnode
    have hbefore := h n node hnode
    have hafter := hconserved n node' hnode'
    rw [hbooked n, hone n, if_pos (.inr hn), toNat_bookable] at hbefore
    rw [hcapacity, hfree, if_neg fun h => hdisjoint n h hn] at hafter
    omega
  · intro hall n node' hnode'
    obtain ⟨node, hnode, -⟩ := hgiven.standing.exists_live? hnode'
    obtain ⟨node'', hnode'', hcapacity, hfree⟩ := hnodes n node hnode
    obtain rfl : node' = node'' := Option.some.inj (hnode'.symm.trans hnode'')
    have hgave : r.bookedOn n = if n ∈ given then (bookable r.size).toNat else 0 := by
      rw [hone n]
      rcases hall with hrest | hsize
      · simp [hrest]
      · have hzero : (bookable r.size).toNat = 0 := by
          rw [toNat_bookable, hsize, Nat.zero_min]
        rw [hzero, ite_self, ite_self]
    have hbefore := h n node hnode
    rw [hbooked n, hgave] at hbefore
    rw [hcapacity, hfree]
    omega

/-! ## All chunks -/

/-- The sum is no word any more before the last copy of the chunk has been given back. -/
def Deletion.StopsWithin (sum : Nat) (r : ChunkRecord) : Prop :=
  2 ^ 64 ≤ sum + r.size.toNat * (r.replicas.size - 1)

/-- What a deletion of some chunks, with `sum` bytes given back before, makes of a store : it drops
the chunks that it comes to, and space is lost if it stops within one. -/
structure Deleted (s : Store) (sum : Nat) (rs : List ChunkRecord) (s' : Store) : Prop where
  files : s'.catalog.files = s.catalog.files
  chunkIds : s'.catalog.chunkIds = s.catalog.chunkIds
  standing : Registry.Agree Registry.standing s.registry s'.registry
  chunk?_iff : ∀ id r, s'.chunk? id = some r ↔
    s.chunk? id = some r ∧ ¬Meets (fun _ d => d.id = id) sum rs
  conserved : s.Conserved → (s'.Conserved ↔ ¬Meets StopsWithin sum rs)

namespace Deleted

/-- Nothing happens where no chunk is come to. -/
theorem refl (h : ∀ P, ¬Meets P sum rs) : Deleted s sum rs s where
  files := rfl
  chunkIds := rfl
  standing := .refl _
  chunk?_iff := fun _ _ => (and_iff_left (h _)).symm
  conserved := fun hs => iff_of_true hs (h _)

/-- One more chunk is dropped first. -/
theorem cons {registry : Registry} (hsum : sum < 2 ^ 64)
    (hstanding : Registry.Agree Registry.standing s.registry registry)
    (hfirst : s.Conserved → ((s.dropping r.id registry).Conserved ↔ ¬StopsWithin sum r))
    (hstop : 2 ^ 64 ≤ sum + r.copiedBytes → s' = s.dropping r.id registry)
    (h : Deleted (s.dropping r.id registry) (sum + r.copiedBytes) rs s') :
    Deleted s sum (r :: rs) s' := by
  refine ⟨h.files, h.chunkIds, hstanding.trans h.standing, fun id r' => ?_, fun hs => ?_⟩
  · rw [h.chunk?_iff, chunk?_dropping, meets_cons hsum, not_or]
    constructor
    · rintro ⟨⟨hne, hr'⟩, hmeets⟩
      exact ⟨hr', fun heq => hne heq.symm, hmeets⟩
    · rintro ⟨hr', hne, hmeets⟩
      exact ⟨⟨fun heq => hne heq.symm, hr'⟩, hmeets⟩
  rw [meets_cons hsum, not_or]
  by_cases hstops : StopsWithin sum r
  · have hoverflow : 2 ^ 64 ≤ sum + r.copiedBytes := by
      have hle : r.size.toNat * (r.replicas.size - 1) ≤ r.copiedBytes :=
        Nat.mul_le_mul_left _ (Nat.sub_le _ _)
      unfold StopsWithin at hstops
      omega
    rw [hstop hoverflow, hfirst hs]
    exact (and_iff_left (not_meets_of_le hoverflow)).symm
  · rw [h.conserved ((hfirst hs).2 hstops)]
    exact (and_iff_right hstops).symm

end Deleted

/-- The deletion goes through the chunks as told by the sums of their bytes. -/
theorem foldl_dropChunk : ∀ (rs : List ChunkRecord) (s : Store) (sum : Nat), sum < 2 ^ 64 →
    (rs.map ChunkRecord.id).Nodup → (∀ r ∈ rs, s.chunk? r.id = some r) →
    (∀ r ∈ rs, ∀ n, r.replicas.contains n → s.registry.isLive n) →
    ∃ s', (rs.map ChunkRecord.id).foldl dropChunk ⟨s, asWord? sum⟩ =
        ⟨s', asWord? (sum + copiedBytes rs)⟩ ∧ Deleted s sum rs s'
  | [], s, sum, _, _, _, _ => ⟨s, rfl, .refl fun _ => not_meets_nil⟩
  | r :: rs, s, sum, hsum, hnodup, hstored, hlive => by
    obtain ⟨hnew, hnodup⟩ := List.nodup_cons.1 hnodup
    obtain ⟨hr, hstored⟩ := List.forall_mem_cons.1 hstored
    obtain ⟨hlive, hlive'⟩ := List.forall_mem_cons.1 hlive
    obtain ⟨given, rest, registry, hsplit, hrest, hdrop, hgiven⟩ := dropChunk_eq hsum hr hlive
    have hbytes : sum + copiedBytes (r :: rs) = sum + r.copiedBytes + copiedBytes rs := by
      simp [copiedBytes, Nat.add_assoc]
    have hfirst : s.Conserved → ((s.dropping r.id registry).Conserved ↔ ¬StopsWithin sum r) := by
      intro h
      rw [h.dropping hr hlive hsplit hgiven, StopsWithin, Nat.not_le, hrest]
      refine or_iff_left_of_imp fun hzero => ?_
      rw [hzero, Nat.zero_mul]
      exact hsum
    rw [List.map_cons, List.foldl_cons, hdrop, hbytes]
    by_cases hword : sum + r.copiedBytes < 2 ^ 64
    · have hstored' : ∀ r' ∈ rs, (s.dropping r.id registry).chunk? r'.id = some r' := by
        intro r' hr'
        exact chunk?_dropping.2 ⟨fun heq => hnew (heq ▸ List.mem_map_of_mem hr'), hstored r' hr'⟩
      have hlive'' : ∀ r' ∈ rs, ∀ n, r'.replicas.contains n →
          (s.dropping r.id registry).registry.isLive n := by
        intro r' hr' n hn
        rw [dropping, hgiven.standing.isLive]
        exact hlive' r' hr' n hn
      obtain ⟨s', hfold, hdeleted⟩ := foldl_dropChunk rs (s.dropping r.id registry) _ hword hnodup
        hstored' hlive''
      exact ⟨s', hfold, hdeleted.cons hsum hgiven.standing hfirst fun h => absurd hword (by omega)⟩
    · have hover : 2 ^ 64 ≤ sum + r.copiedBytes := Nat.not_lt.1 hword
      have hstopped : Deleted (s.dropping r.id registry) (sum + r.copiedBytes) rs
          (s.dropping r.id registry) := .refl fun _ => not_meets_of_le hover
      refine ⟨s.dropping r.id registry, ?_, hstopped.cons hsum hgiven.standing hfirst fun _ => rfl⟩
      rw [asWord?_of_le hover, asWord?_of_le (Nat.le_add_right_of_le hover), foldl_dropChunk_none]
      rfl

/-- The store without a file, its chunks being still there. -/
def forgetting (s : Store) (file : FileId) : Store :=
  { s with catalog := { s.catalog with
      files := s.catalog.files.erase file, chunkIds := s.catalog.chunkIds.erase file } }

theorem mem_recordsOf {file : FileId} :
    r ∈ s.catalog.recordsOf file ↔ ∃ id ∈ s.catalog.idsOf file, s.chunk? id = some r :=
  List.mem_filterMap

/-- Records that are stored under their own identifiers are found by these. -/
theorem map_id_filterMap : ∀ {ids : List ChunkId},
    (∀ id ∈ ids, ∃ r, s.chunk? id = some r ∧ r.id = id) →
    (ids.filterMap s.catalog.chunks.get?).map ChunkRecord.id = ids
  | [], _ => rfl
  | id :: ids, h => by
    obtain ⟨⟨r, hr, hid⟩, h⟩ := List.forall_mem_cons.1 h
    unfold chunk? at hr
    rw [List.filterMap_cons_some hr, List.map_cons, hid, map_id_filterMap h]

/-- The deletion of a stored file forgets the file, then drops the chunks. -/
theorem deleteFile_eq {id : FileId} {file : FileRecord} (hfile : s.catalog.files.get? id = some file)
    (hnodup : (s.catalog.idsOf id).Nodup)
    (hstored : ∀ chunk ∈ s.catalog.idsOf id, ∃ r, s.chunk? chunk = some r ∧ r.id = chunk ∧
      ∀ n, r.replicas.contains n → s.registry.isLive n) :
    ∃ s', Deleted (s.forgetting id) 0 (s.catalog.recordsOf id) s' ∧
      s.deleteFile id = (match asWord? (copiedBytes (s.catalog.recordsOf id)) with
        | none => .error .overflow
        | some released => .ok ⟨file, s.catalog.idsOf id, released⟩, s') := by
  have hids : (s.catalog.recordsOf id).map ChunkRecord.id = s.catalog.idsOf id :=
    map_id_filterMap fun chunk hchunk => by
      obtain ⟨r, hr, hid, -⟩ := hstored chunk hchunk
      exact ⟨r, hr, hid⟩
  have hrecord : ∀ r ∈ s.catalog.recordsOf id, s.chunk? r.id = some r ∧
      ∀ n, r.replicas.contains n → s.registry.isLive n := by
    intro r hr
    obtain ⟨chunk, hchunk, hr⟩ := mem_recordsOf.1 hr
    obtain ⟨r', hr', hid, hlive⟩ := hstored chunk hchunk
    rw [hr] at hr'
    obtain rfl := Option.some.inj hr'
    exact ⟨hid ▸ hr, hlive⟩
  obtain ⟨s', hfold, hdeleted⟩ := foldl_dropChunk (s.catalog.recordsOf id) (s.forgetting id) 0
    (by omega) (hids ▸ hnodup) (fun r hr => (hrecord r hr).1) fun r hr => (hrecord r hr).2
  refine ⟨s', hdeleted, ?_⟩
  have hzero : asWord? 0 = some 0 := rfl
  rw [hids, Nat.zero_add, hzero, forgetting] at hfold
  unfold deleteFile
  rw [hfile]
  dsimp only
  rw [hfold]
  cases asWord? (copiedBytes (s.catalog.recordsOf id)) <;> rfl

end Store

end ChunkCoordinator
