import ChunkCoordinator.Proofs.Queue
import Mathlib.Data.List.Nodup

/-!
# What a sweep owes to each chunk

The missing copies of a chunk are counted from the records alone : `Repair.holders` are the
healthy nodes with a copy, `Repair.inFlight` the healthy nodes that a copy is under way to, and
`Repair.missing` what is left of the desired number. `Repair.Served` says how a sweep may fill the
gap. `Repair.sweep_serves` is the main statement : every sweep over records with different
identifiers serves every chunk, counts those it found too few nodes for, and lists those without a
healthy copy, but for fresh uploads that have no copy at all
(`Repair.exists_lost_not_listed` : such an upload is not listed).
-/

set_option linter.unusedSectionVars false

namespace ChunkCoordinator

namespace Repair

/-! ## Counting from the records -/

/-- Something that happened at `time` is not yet past its life. -/
def isFresh (now ttl time : UInt64) : Bool := now.toNat - time.toNat < ttl.toNat

/-- The healthy nodes that hold a copy of the chunk. -/
def holders (nodes : List Node) (c : ChunkRecord) : List Node :=
  nodes.filter fun n => n.isHealthy && c.replicas.contains n.id

/-- The healthy nodes without a copy that one is under way to : a fresh instruction is queued, or
the chunk is freshly uploaded there. -/
def inFlight (pending : Table CopyKey Instruction) (nodes : List Node) (now ttl : UInt64)
    (c : ChunkRecord) : List NodeId :=
  ((nodes.filter Node.isHealthy).map Node.id).filter fun t => !c.replicas.contains t &&
    ((pending.get? ⟨c.id, t⟩).any (fun i => isFresh now ttl i.issuedAt) ||
      (isFresh now ttl c.createdAt && c.expected.contains t))

/-- How many copies are neither on healthy nodes nor under way. -/
def missing (pending : Table CopyKey Instruction) (nodes : List Node) (now ttl : UInt64)
    (c : ChunkRecord) : Nat :=
  c.desired.toNat - (holders nodes c).length - (inFlight pending nodes now ttl c).length

/-- The targets of the new instructions for a chunk. -/
def emittedFor (report : SweepReport) (c : ChunkRecord) : List NodeId :=
  (report.emitted.filter fun i => i.chunk = c.id).map Instruction.target

/-- The node has more free space than the other, or as much and no greater name. -/
def Roomier (n m : Node) : Prop :=
  m.free < n.free ∨ (m.free = n.free ∧ (compare n.id m.id).isLE)

/-- The name belongs to the roomiest of the nodes. -/
def IsRoomiest (nodes : List Node) (id : NodeId) : Prop :=
  ∃ n ∈ nodes, n.id = id ∧ ∀ m ∈ nodes, Roomier n m

/-- Too few healthy nodes hold a copy, in fact none, and the chunk is not a fresh upload that has
no copy at all. -/
def IsLost (nodes : List Node) (now ttl : UInt64) (c : ChunkRecord) : Prop :=
  (holders nodes c).length < c.desired.toNat ∧ holders nodes c = [] ∧
    ¬(isFresh now ttl c.createdAt ∧ c.replicas.isEmpty)

/-- What a sweep does for one chunk. -/
structure Served (pending : Table CopyKey Instruction) (nodes : List Node) (now ttl : UInt64)
    (report : SweepReport) (c : ChunkRecord) : Prop where
  /-- Enough copies are enough. -/
  satisfied : c.desired.toNat ≤ (holders nodes c).length → emittedFor report c = []
  nodup : (emittedFor report c).Nodup
  outside : ∀ t ∈ emittedFor report c,
    c.replicas.contains t = false ∧ t ∉ inFlight pending nodes now ttl c
  healthy : ∀ t ∈ emittedFor report c, ∃ n ∈ nodes, n.isHealthy ∧ n.id = t
  bounded : (emittedFor report c).length ≤ missing pending nodes now ttl c
  source : ∀ i ∈ report.emitted, i.chunk = c.id →
    (∀ id, i.source = some id → IsRoomiest (holders nodes c) id) ∧
      (i.source = none ↔ holders nodes c = [])

theorem mem_holders {nodes : List Node} {c : ChunkRecord} {n : Node} :
    n ∈ holders nodes c ↔ n ∈ nodes ∧ n.isHealthy ∧ c.replicas.contains n.id := by
  rw [holders, List.mem_filter, Bool.and_eq_true]

/-! ## The source of a copy -/

theorem Roomier.refl (n : Node) : Roomier n n :=
  .inr ⟨rfl, by rw [Std.ReflOrd.compare_self]; rfl⟩

theorem Roomier.trans {a b c : Node} (hab : Roomier a b) (hbc : Roomier b c) : Roomier a c := by
  rcases hab with hab | ⟨hab, hid⟩ <;> rcases hbc with hbc | ⟨hbc, hid'⟩
  · exact .inl (UInt64.lt_trans hbc hab)
  · exact .inl (hbc ▸ hab)
  · exact .inl (hab ▸ hbc)
  · exact .inr ⟨hbc.trans hab, Std.TransCmp.isLE_trans hid hid'⟩

/-- The better of two nodes is one of them and is roomier than both. -/
theorem roomier_spec (a b : Node) : (Survey.roomier a b = a ∨ Survey.roomier a b = b) ∧
    Roomier (Survey.roomier a b) a ∧ Roomier (Survey.roomier a b) b := by
  unfold Survey.roomier
  split
  · next h =>
    refine ⟨.inr rfl, ?_, Roomier.refl b⟩
    rcases h with h | ⟨h, hid⟩
    · exact .inl h
    · exact .inr ⟨h, by rw [hid]; rfl⟩
  · next h =>
    refine ⟨.inl rfl, Roomier.refl a, ?_⟩
    obtain ⟨hle, hid⟩ := not_or.1 h
    by_cases heq : a.free = b.free
    · refine .inr ⟨heq.symm, ?_⟩
      have hid : compare b.id a.id ≠ .lt := fun h => hid ⟨heq, h⟩
      rw [show compare a.id b.id = (compare b.id a.id).swap from Std.OrientedCmp.eq_swap]
      cases hcmp : compare b.id a.id
      · exact absurd hcmp hid
      · rfl
      · rfl
    · refine .inl (UInt64.lt_of_le_of_ne (UInt64.not_lt.1 hle) fun h => heq h.symm)

theorem foldl_roomier : ∀ (ns : List Node) (n : Node),
    (ns.foldl Survey.roomier n = n ∨ ns.foldl Survey.roomier n ∈ ns) ∧
      Roomier (ns.foldl Survey.roomier n) n ∧ ∀ m ∈ ns, Roomier (ns.foldl Survey.roomier n) m
  | [], n => ⟨.inl rfl, Roomier.refl n, by simp⟩
  | m :: ns, n => by
    obtain ⟨hmem, hfirst, hrest⟩ := foldl_roomier ns (Survey.roomier n m)
    obtain ⟨heq, hn, hm⟩ := roomier_spec n m
    rw [List.foldl_cons]
    refine ⟨?_, hfirst.trans hn, List.forall_mem_cons.2 ⟨hfirst.trans hm, hrest⟩⟩
    rcases hmem with hmem | hmem
    · rw [hmem]
      exact heq.imp_right fun h : Survey.roomier n m = m => by rw [h]; exact List.mem_cons_self
    · exact .inr (List.mem_cons_of_mem _ hmem)

theorem isRoomiest_source? {nodes : List Node} {id : NodeId} (h : Survey.source? nodes = some id) :
    IsRoomiest nodes id := by
  cases nodes with
  | nil => cases h
  | cons n ns =>
    obtain ⟨hmem, hfirst, hrest⟩ := foldl_roomier ns n
    refine ⟨_, ?_, Option.some.inj h, List.forall_mem_cons.2 ⟨hfirst, hrest⟩⟩
    rcases hmem with hmem | hmem
    · rw [hmem]
      exact List.mem_cons_self
    · exact List.mem_cons_of_mem _ hmem

theorem IsRoomiest.of_perm {nodes nodes' : List Node} {id : NodeId} (h : nodes.Perm nodes')
    (hid : IsRoomiest nodes id) : IsRoomiest nodes' id := by
  obtain ⟨n, hn, hid, hroomier⟩ := hid
  exact ⟨n, h.subset hn, hid, fun m hm => hroomier m (h.symm.subset hm)⟩

end Repair

/-! ## The survey of given records -/

namespace Survey

open Repair

variable {chunks : List ChunkRecord} {nodes : List Node} {pending : Table CopyKey Instruction}
  {now ttl : UInt64} {c : ChunkRecord}

theorem recent_ofRecords (time : UInt64) :
    (ofRecords chunks nodes pending now ttl).recent time = isFresh now ttl time := by
  simp [recent, ofRecords, isFresh, UInt64.lt_iff_toNat_lt, UInt64.toNat_satSub]

theorem get?_chunksById (hc : (chunks.map ChunkRecord.id).Nodup) {id : ChunkId} :
    (ofRecords chunks nodes pending now ttl).chunksById.get? id = some c ↔ c ∈ chunks ∧ c.id = id := by
  have hnodup : ((chunks.map fun c => (c.id, c)).map Prod.fst).Nodup := by
    rwa [List.map_map]
  rw [ofRecords, Table.get?_ofList hnodup, List.mem_map]
  constructor
  · rintro ⟨c', hc', heq⟩
    obtain ⟨rfl, rfl⟩ := Prod.mk.inj heq
    exact ⟨hc', rfl⟩
  · rintro ⟨hmem, rfl⟩
    exact ⟨c, hmem, rfl⟩

theorem get?_healthy (hn : (nodes.map Node.id).Nodup) {id : NodeId} {n : Node} :
    (ofRecords chunks nodes pending now ttl).healthy.get? id = some n ↔
      n ∈ nodes ∧ n.isHealthy ∧ n.id = id := by
  have hnodup : (((nodes.filter Node.isHealthy).map fun n => (n.id, n)).map Prod.fst).Nodup := by
    rw [List.map_map]
    exact hn.sublist (List.filter_sublist.map _)
  rw [ofRecords, Table.get?_ofList hnodup, List.mem_map]
  constructor
  · rintro ⟨n', hn', heq⟩
    obtain ⟨rfl, rfl⟩ := Prod.mk.inj heq
    obtain ⟨hmem, hhealthy⟩ := List.mem_filter.1 hn'
    exact ⟨hmem, hhealthy, rfl⟩
  · rintro ⟨hmem, hhealthy, rfl⟩
    exact ⟨n, List.mem_filter.2 ⟨hmem, hhealthy⟩, rfl⟩

theorem contains_healthy (hn : (nodes.map Node.id).Nodup) {id : NodeId} :
    (ofRecords chunks nodes pending now ttl).healthy.contains id ↔
      id ∈ (nodes.filter Node.isHealthy).map Node.id := by
  simp only [Table.contains_iff, get?_healthy hn, List.mem_map, List.mem_filter, and_assoc]

/-- The survey finds the holders of a chunk. -/
theorem perm_holders (hn : (nodes.map Node.id).Nodup) (c : ChunkRecord) :
    ((ofRecords chunks nodes pending now ttl).holders c).Perm (Repair.holders nodes c) := by
  refine (List.perm_ext_iff_of_nodup ?_ (hn.of_map.filter _)).2 fun n => ?_
  · refine (Table.nodup_keys _).filterMap fun k k' n hk hk' => ?_
    rw [Option.mem_def, get?_healthy hn] at hk hk'
    exact hk.2.2.symm.trans hk'.2.2
  · simp only [Survey.holders, List.mem_filterMap, List.mem_filter,
      get?_healthy hn, Table.mem_keys, Bool.and_eq_true]
    constructor
    · rintro ⟨id, hid, hmem, hhealthy, rfl⟩
      exact ⟨hmem, hhealthy, hid⟩
    · rintro ⟨hmem, hhealthy, hid⟩
      exact ⟨n.id, hid, hmem, hhealthy, rfl⟩

/-- An instruction is in flight if it is fresh and its target is healthy and still without a copy. -/
theorem verdict_ofRecords (hc : (chunks.map ChunkRecord.id).Nodup) (hn : (nodes.map Node.id).Nodup)
    (hmem : c ∈ chunks) {t : NodeId} {i : Instruction} :
    (ofRecords chunks nodes pending now ttl).verdict ⟨c.id, t⟩ i = .inFlight ↔
      c.replicas.contains t = false ∧ isFresh now ttl i.issuedAt ∧
        t ∈ (nodes.filter Node.isHealthy).map Node.id := by
  have hfound : (ofRecords chunks nodes pending now ttl).chunksById.get? c.id = some c :=
    (get?_chunksById hc).2 ⟨hmem, rfl⟩
  have hlisted : (ofRecords chunks nodes pending now ttl).healthy.contains t ↔
      t ∈ (nodes.filter Node.isHealthy).map Node.id := contains_healthy hn
  rw [verdict, hfound]
  dsimp only
  rw [recent_ofRecords, ← hlisted]
  cases c.replicas.contains t <;> simp

theorem mem_inFlight {t : NodeId} : t ∈ inFlight pending nodes now ttl c ↔
    c.replicas.contains t = false ∧ t ∈ (nodes.filter Node.isHealthy).map Node.id ∧
      ((∃ i, pending.get? ⟨c.id, t⟩ = some i ∧ isFresh now ttl i.issuedAt) ∨
        (isFresh now ttl c.createdAt ∧ c.expected.contains t)) := by
  simp only [inFlight, List.mem_filter, Bool.and_eq_true, Bool.or_eq_true, Bool.not_eq_true',
    Option.any_eq_true, and_left_comm]

/-- The survey finds the nodes that a copy of a chunk is under way to. -/
theorem contains_underWay_ofRecords (hc : (chunks.map ChunkRecord.id).Nodup)
    (hn : (nodes.map Node.id).Nodup) (hmem : c ∈ chunks) {t : NodeId} :
    ((ofRecords chunks nodes pending now ttl).underWay c).contains t ↔
      t ∈ inFlight pending nodes now ttl c := by
  have hupload : t ∈ (ofRecords chunks nodes pending now ttl).uploadTargets c ↔
      isFresh now ttl c.createdAt ∧ c.expected.contains t ∧ c.replicas.contains t = false ∧
        t ∈ (nodes.filter Node.isHealthy).map Node.id := by
    have hlisted : (ofRecords chunks nodes pending now ttl).healthy.contains t ↔
        t ∈ (nodes.filter Node.isHealthy).map Node.id := contains_healthy hn
    rw [uploadTargets, uploading, recent_ofRecords, ← hlisted]
    by_cases hfresh : isFresh now ttl c.createdAt
    · simp [hfresh, Table.mem_keys]
    · simp [hfresh]
  have hpending : (ofRecords chunks nodes pending now ttl).pending = pending := rfl
  rw [contains_underWay, mem_withVerdict, hupload, hpending, mem_inFlight]
  simp only [verdict_ofRecords hc hn hmem]
  constructor
  · rintro (⟨i, hi, hout, hfresh, hhealthy⟩ | ⟨hfresh, hexpected, hout, hhealthy⟩)
    · exact ⟨hout, hhealthy, .inl ⟨i, hi, hfresh⟩⟩
    · exact ⟨hout, hhealthy, .inr ⟨hfresh, hexpected⟩⟩
  · rintro ⟨hout, hhealthy, ⟨i, hi, hfresh⟩ | ⟨hfresh, hexpected⟩⟩
    · exact .inl ⟨i, hi, hout, hfresh, hhealthy⟩
    · exact .inr ⟨hfresh, hexpected, hout, hhealthy⟩

theorem nodup_inFlight (hn : (nodes.map Node.id).Nodup) (c : ChunkRecord) :
    (inFlight pending nodes now ttl c).Nodup :=
  (hn.sublist (List.filter_sublist.map _)).filter _

theorem needed_ofRecords (hc : (chunks.map ChunkRecord.id).Nodup) (hn : (nodes.map Node.id).Nodup)
    (hmem : c ∈ chunks) :
    (ofRecords chunks nodes pending now ttl).needed c = missing pending nodes now ttl c := by
  rw [needed, (perm_holders hn c).length_eq,
    Table.size_eq_length (nodup_inFlight hn c) fun t => contains_underWay_ofRecords hc hn hmem]
  rfl

theorem lost_ofRecords (hn : (nodes.map Node.id).Nodup) :
    (ofRecords chunks nodes pending now ttl).lost c ↔ IsLost nodes now ttl c := by
  have hperm : ((ofRecords chunks nodes pending now ttl).holders c).Perm (Repair.holders nodes c) :=
    perm_holders hn c
  have hempty : ((ofRecords chunks nodes pending now ttl).holders c).isEmpty ↔
      Repair.holders nodes c = [] := by
    rw [List.isEmpty_iff, ← List.length_eq_zero_iff, hperm.length_eq, List.length_eq_zero_iff]
  simp only [lost, IsLost, uploading, ChunkRecord.isProvisional, recent_ofRecords, hperm.length_eq,
    Bool.and_eq_true, decide_eq_true_eq, hempty, Bool.not_eq_true', ← Bool.not_eq_true, and_assoc]

/-- The survey finds the chunks that are beyond help. -/
theorem mem_unrecoverable_findings (hc : (chunks.map ChunkRecord.id).Nodup)
    (hn : (nodes.map Node.id).Nodup) {id : ChunkId} :
    id ∈ (ofRecords chunks nodes pending now ttl).findings.unrecoverable ↔
      ∃ c ∈ chunks, c.id = id ∧ IsLost nodes now ttl c := by
  have hids : ((ofRecords chunks nodes pending now ttl).chunks.map ChunkRecord.id).Nodup := hc
  rw [(findings_eq hids).2.1, List.mem_map]
  constructor
  · rintro ⟨c, hmem, rfl⟩
    obtain ⟨hscanned, hlost⟩ := List.mem_filter.1 hmem
    exact ⟨c, (perm_scanned _).subset hscanned, rfl, (lost_ofRecords hn).1 hlost⟩
  · rintro ⟨c, hmem, rfl, hlost⟩
    have hscanned := (perm_scanned (ofRecords chunks nodes pending now ttl)).symm.subset hmem
    exact ⟨c, List.mem_filter.2 ⟨hscanned, (lost_ofRecords hn).2 hlost⟩, rfl⟩

/-- Of the new instructions those for one chunk go to the nodes chosen for it. -/
theorem filter_orders (s : Survey) {ts : List NodeId} :
    ∀ {room : List Node} {cs : List ChunkRecord}, (cs.map ChunkRecord.id).Nodup →
      (c, ts) ∈ s.orders room cs →
      ((s.orders room cs).flatMap fun o => o.2.map (s.order o.1)).filter (fun i => i.chunk = c.id) =
        ts.map (s.order c)
  | _, [], _, h => by cases h
  | room, c' :: cs, hnodup, h => by
    obtain ⟨hnew, hnodup⟩ := List.nodup_cons.1 hnodup
    rw [orders, List.flatMap_cons, List.filter_append]
    rcases List.mem_cons.1 h with heq | h
    · obtain ⟨rfl, rfl⟩ := Prod.mk.inj heq
      rw [List.filter_eq_self.2, List.filter_eq_nil_iff.2, List.append_nil]
      · intro i hi hchunk
        have hkey := Queue.mem_map_key_orders (List.mem_map_of_mem (f := Instruction.key) hi)
        exact hnew (of_decide_eq_true hchunk ▸ hkey)
      · intro i hi
        obtain ⟨t, -, rfl⟩ := List.mem_map.1 hi
        exact decide_eq_true rfl
    · have hne : c'.id ≠ c.id := by
        intro heq
        have hc : c ∈ cs := by
          rw [← s.map_fst_orders (Placement.debit room (s.targets room c') c'.size) cs]
          exact List.mem_map_of_mem h
        exact hnew (heq ▸ List.mem_map_of_mem hc)
      rw [filter_orders s hnodup h, List.filter_eq_nil_iff.2, List.nil_append]
      intro i hi
      obtain ⟨t, -, rfl⟩ := List.mem_map.1 hi
      exact fun heq => hne (of_decide_eq_true heq)

end Survey

/-! ## A whole sweep -/

namespace Repair

variable {q : Queue} {chunks : List ChunkRecord} {nodes : List Node} {now ttl : UInt64}

/-- A sweep of a queue that no other sweep works on merges what its survey finds. -/
theorem sweep_eq (hq : q.sweeping = false) : q.sweep chunks nodes now ttl =
    .ok ((({ q with sweeping := true } : Queue).merge now
        (Survey.ofRecords chunks nodes q.pending now ttl).findings).1,
      (({ q with sweeping := true } : Queue).merge now
        (Survey.ofRecords chunks nodes q.pending now ttl).findings).2.finish) := by
  simp [Queue.sweep, Queue.begin, hq, Except.map]

/-- What a chunk is given in the scan is what the report lists for it. -/
theorem mem_emittedFor {report : SweepReport} {c : ChunkRecord} {t : NodeId} :
    t ∈ emittedFor report c ↔ ∃ i ∈ report.emitted, i.key = ⟨c.id, t⟩ := by
  simp only [emittedFor, List.mem_map, List.mem_filter, decide_eq_true_eq, and_assoc,
    Instruction.key, CopyKey.mk.injEq]

theorem emittedFor_eq_nil {report : SweepReport} {c : ChunkRecord} :
    emittedFor report c = [] ↔ ∀ i ∈ report.emitted, i.chunk ≠ c.id := by
  simp [emittedFor, List.filter_eq_nil_iff]

theorem emittedFor_eq {s : Survey} (hs : (s.chunks.map ChunkRecord.id).Nodup) {report : SweepReport}
    (hreport : report.emitted = s.findings.emitted) {c : ChunkRecord} {ts : List NodeId}
    (h : (c, ts) ∈ s.orders s.healthy.values s.scanned) : emittedFor report c = ts := by
  rw [emittedFor, hreport, (Survey.findings_eq hs).1,
    s.filter_orders ((s.perm_scanned.map _).nodup_iff.2 hs) h, List.map_map]
  exact (List.map_congr_left fun _ _ => rfl).trans (List.map_id ts)

/-- Every chunk has its place in the scan. -/
theorem mem_orders_emittedFor {s : Survey} (hs : (s.chunks.map ChunkRecord.id).Nodup)
    {report : SweepReport} (hreport : report.emitted = s.findings.emitted) {c : ChunkRecord}
    (hc : c ∈ s.chunks) : (c, emittedFor report c) ∈ s.orders s.healthy.values s.scanned := by
  have hscanned : c ∈ (s.orders s.healthy.values s.scanned).map Prod.fst := by
    rw [s.map_fst_orders]
    exact s.perm_scanned.symm.subset hc
  obtain ⟨⟨c, ts⟩, ho, rfl⟩ := List.mem_map.1 hscanned
  rwa [emittedFor_eq hs hreport ho]

/-- The count of chunks with too few nodes, off the list of chunks. -/
theorem countP_orders {s : Survey} (hs : (s.chunks.map ChunkRecord.id).Nodup) {report : SweepReport}
    (hreport : report.emitted = s.findings.emitted) :
    (s.orders s.healthy.values s.scanned).countP (fun o => o.2.length < s.needed o.1) =
      s.chunks.countP fun c => (emittedFor report c).length < s.needed c := by
  calc (s.orders s.healthy.values s.scanned).countP (fun o => o.2.length < s.needed o.1)
    _ = (s.orders s.healthy.values s.scanned).countP
          ((fun c => decide ((emittedFor report c).length < s.needed c)) ∘ Prod.fst) :=
        List.countP_congr fun o ho => by
          rw [Function.comp_apply, emittedFor_eq hs hreport ho]
    _ = s.scanned.countP fun c => (emittedFor report c).length < s.needed c := by
        rw [← List.countP_map, s.map_fst_orders]
    _ = _ := s.perm_scanned.countP_eq _

section

variable {pending : Table CopyKey Instruction} {report : SweepReport} {c : ChunkRecord}

/-- Every instruction is for one of the chunks, to a node that the report lists for it. -/
theorem exists_emittedFor
    (hreport : report.emitted = (Survey.ofRecords chunks nodes pending now ttl).findings.emitted)
    {i : Instruction} (hi : i ∈ report.emitted) :
    ∃ c ∈ chunks, i.chunk = c.id ∧ i.issuedAt = now ∧ i.target ∈ emittedFor report c := by
  obtain ⟨c, hmem, heq⟩ := Survey.mem_emitted_findings (hreport ▸ hi)
  have hchunk : i.chunk = c.id := by rw [heq]; rfl
  have hissued : i.issuedAt = now := by rw [heq]; rfl
  exact ⟨c, hmem, hchunk, hissued,
    mem_emittedFor.2 ⟨i, hi, congrArg (CopyKey.mk · i.target) hchunk⟩⟩

/-- The instructions for a chunk take their copies from the roomiest holder. -/
theorem source_emitted (hc : (chunks.map ChunkRecord.id).Nodup) (hn : (nodes.map Node.id).Nodup)
    (hmem : c ∈ chunks) {i : Instruction}
    (hi : i ∈ (Survey.ofRecords chunks nodes pending now ttl).findings.emitted)
    (hchunk : i.chunk = c.id) :
    (∀ id, i.source = some id → IsRoomiest (holders nodes c) id) ∧
      (i.source = none ↔ holders nodes c = []) := by
  obtain ⟨c', hmem', heq⟩ := Survey.mem_emitted_findings hi
  have hid : c'.id = c.id := by rw [← hchunk, heq]; rfl
  obtain rfl : c' = c := List.inj_on_of_nodup_map hc hmem' hmem hid
  have hsource : i.source = Survey.source?
      ((Survey.ofRecords chunks nodes pending now ttl).holders c') := by
    rw [heq]
    rfl
  have hperm : ((Survey.ofRecords chunks nodes pending now ttl).holders c').Perm (holders nodes c') :=
    Survey.perm_holders hn c'
  rw [hsource]
  refine ⟨fun id h => (isRoomiest_source? h).of_perm hperm, ?_⟩
  rw [Survey.source?_eq_none, ← List.length_eq_zero_iff, hperm.length_eq, List.length_eq_zero_iff]

/-- A report of the findings serves every chunk. -/
theorem served (hc : (chunks.map ChunkRecord.id).Nodup) (hn : (nodes.map Node.id).Nodup)
    (hreport : report.emitted = (Survey.ofRecords chunks nodes pending now ttl).findings.emitted)
    (hmem : c ∈ chunks) : Served pending nodes now ttl report c := by
  obtain ⟨left, hts, hleft⟩ := Survey.mem_orders _ (mem_orders_emittedFor hc hreport hmem)
  have hbounded : (emittedFor report c).length ≤ missing pending nodes now ttl c := by
    rw [hts, ← Survey.needed_ofRecords hc hn hmem]
    exact Placement.length_chooseTargets_le
  refine ⟨fun henough => ?_, ?_, fun t ht => ?_, fun t ht => ?_, hbounded, fun i hi hchunk => ?_⟩
  · refine List.length_eq_zero_iff.1 ?_
    unfold missing at hbounded
    omega
  · rw [hts]
    exact Placement.nodup_chooseTargets
  · rw [hts] at ht
    obtain ⟨-, hout, hunderWay⟩ := Survey.mem_targets ht
    refine ⟨hout, fun hin => ?_⟩
    rw [(Survey.contains_underWay_ofRecords hc hn hmem).2 hin] at hunderWay
    cases hunderWay
  · rw [hts] at ht
    obtain ⟨⟨n, hn', hhealthy, -, rfl⟩, -⟩ := Survey.mem_targets ht
    obtain ⟨m, hm, free, rfl⟩ := hleft n hn'
    obtain ⟨id, hid⟩ := Table.mem_values.1 hm
    exact ⟨m, ((Survey.get?_healthy hn).1 hid).1, hhealthy, rfl⟩
  · exact source_emitted hc hn hmem (hreport ▸ hi) hchunk

end

/-- Every sweep over records with different identifiers serves every chunk. -/
theorem sweep_serves (q : Queue) (chunks : List ChunkRecord) (nodes : List Node) (now ttl : UInt64)
    (hq : q.sweeping = false) (hc : (chunks.map ChunkRecord.id).Nodup)
    (hn : (nodes.map Node.id).Nodup) :
    ∃ report q', q.sweep chunks nodes now ttl = .ok (report, q') ∧
      (∀ c ∈ chunks, Served q.pending nodes now ttl report c) ∧
      (∀ i ∈ report.emitted, ∃ c ∈ chunks, i.chunk = c.id) ∧
      report.shortOfTargets = chunks.countP (fun c =>
        (emittedFor report c).length < missing q.pending nodes now ttl c) ∧
      (∀ id, id ∈ report.unrecoverable ↔ ∃ c ∈ chunks, c.id = id ∧ IsLost nodes now ttl c) ∧
      ∀ id, q'.unrecoverable.contains id ↔ ∃ c ∈ chunks, c.id = id ∧ IsLost nodes now ttl c := by
  generalize hs : Survey.ofRecords chunks nodes q.pending now ttl = s
  have hchunks : s.chunks = chunks := by rw [← hs]; rfl
  have hids : (s.chunks.map ChunkRecord.id).Nodup := by rwa [hchunks]
  obtain ⟨hemitted, -⟩ := Queue.merge_findings (q := { q with sweeping := true }) (s := s)
    (by rw [← hs]; rfl) hids now
  obtain ⟨-, hunrecoverable, hshort⟩ := Survey.findings_eq hids
  generalize hmerge : ({ q with sweeping := true } : Queue).merge now s.findings = merged at hemitted
  have hlist : merged.1.unrecoverable = s.findings.unrecoverable := by rw [← hmerge]; rfl
  have hstored : merged.2.unrecoverable = .ofKeys s.findings.unrecoverable := by rw [← hmerge]; rfl
  have hlost : ∀ id, id ∈ s.findings.unrecoverable ↔
      ∃ c ∈ chunks, c.id = id ∧ IsLost nodes now ttl c := by
    intro id
    have hl : ∀ c, s.lost c ↔ IsLost nodes now ttl c := by
      rw [← hs]
      exact fun c => Survey.lost_ofRecords hn
    rw [hunrecoverable, List.mem_map]
    simp only [List.mem_filter, s.perm_scanned.mem_iff, hchunks, hl, and_assoc]
    exact exists_congr fun c => and_congr_right fun _ => and_comm
  refine ⟨merged.1, merged.2.finish, ?_, ?_, ?_, ?_, fun id => hlist ▸ hlost id, fun id => ?_⟩
  · rw [sweep_eq hq, hs, hmerge]
  · exact fun c hmem => served hc hn (by rw [hemitted, hs]) hmem
  · intro i hi
    obtain ⟨c, hc, heq⟩ := Survey.mem_emitted_findings (hemitted ▸ hi)
    exact ⟨c, hchunks ▸ hc, heq ▸ rfl⟩
  · have hcount : merged.1.shortOfTargets = s.findings.shortOfTargets := by rw [← hmerge]; rfl
    rw [hcount, hshort, countP_orders hids hemitted, hchunks]
    refine List.countP_congr fun c hmem => ?_
    rw [← hs, Survey.needed_ofRecords hc hn hmem]
  · rw [← hlost id, Queue.finish, hstored, Table.contains_ofKeys]

/-- A chunk that was planned a second ago for one node, which has not confirmed it yet. -/
def freshUpload : ChunkRecord where
  id := ⟨1⟩
  file := ⟨2⟩
  index := 0
  size := 10
  desired := 1
  replicas := .empty
  expected := .ofKeys ["a"]
  createdAt := 99

/-- A chunk that lacks two of four copies. -/
def wornChunk : ChunkRecord where
  id := ⟨3⟩
  file := ⟨4⟩
  index := 0
  size := 10
  desired := 4
  replicas := .ofKeys ["a", "b"]
  expected := .ofKeys ["a", "b", "c"]
  createdAt := 10

/-- A chunk whose only copy is on a node that does not fare well. -/
def strandedChunk : ChunkRecord where
  id := ⟨5⟩
  file := ⟨4⟩
  index := 1
  size := 10
  desired := 1
  replicas := .ofKeys ["e"]
  expected := .ofKeys ["e"]
  createdAt := 10

/-- Four nodes with different room that fare well, and one that does not. -/
def unevenNodes : List Node :=
  [⟨"a", "host", 1, 100, 40, .healthy, 95, 0⟩, ⟨"b", "host", 1, 100, 70, .healthy, 95, 0⟩,
   ⟨"c", "host", 1, 100, 60, .healthy, 95, 0⟩, ⟨"d", "host", 1, 100, 50, .healthy, 95, 0⟩,
   ⟨"e", "host", 1, 100, 90, .unhealthy, 50, 0⟩]

/-- A copy of the chunk with two copies is under way to a third node. -/
def copyUnderWay : Queue where
  pending := .ofList [(⟨⟨3⟩, "c"⟩, ⟨⟨3⟩, ⟨4⟩, 0, 10, some "b", "c", 90⟩)]
  unrecoverable := .empty
  lastSweep := some 90
  sweeping := false

/-- The last missing copy of the one chunk is ordered from the holder with more room. Neither the
chunk whose copy cannot be reached nor the fresh upload has a healthy copy, but only the former is
listed. -/
theorem sweep_serves_freshUpload :
    ∃ report q', copyUnderWay.sweep [wornChunk, strandedChunk, freshUpload] unevenNodes 100 30 =
        .ok (report, q') ∧
      report.emitted = [⟨⟨3⟩, ⟨4⟩, 0, 10, some "b", "d", 100⟩, ⟨⟨5⟩, ⟨4⟩, 1, 10, none, "b", 100⟩] ∧
      (holders unevenNodes wornChunk).map Node.id = ["a", "b"] ∧
      inFlight copyUnderWay.pending unevenNodes 100 30 wornChunk = ["c"] ∧
      Served copyUnderWay.pending unevenNodes 100 30 report wornChunk ∧
      holders unevenNodes strandedChunk = [] ∧ strandedChunk.id ∈ report.unrecoverable ∧
      holders unevenNodes freshUpload = [] ∧ freshUpload.id ∉ report.unrecoverable := by
  obtain ⟨report, q', hsweep, hserved, -, -, hlisted, -⟩ := sweep_serves copyUnderWay
    [wornChunk, strandedChunk, freshUpload] unevenNodes 100 30 rfl (by decide) (by decide)
  have hemitted : (copyUnderWay.sweep [wornChunk, strandedChunk, freshUpload] unevenNodes 100 30).map
      (fun r => r.1.emitted) =
        .ok [⟨⟨3⟩, ⟨4⟩, 0, 10, some "b", "d", 100⟩, ⟨⟨5⟩, ⟨4⟩, 1, 10, none, "b", 100⟩] := by
    decide +kernel
  rw [hsweep] at hemitted
  have hlost : IsLost unevenNodes 100 30 strandedChunk := ⟨by decide, by decide, by decide⟩
  refine ⟨report, q', hsweep, Except.ok.inj hemitted, by decide, by decide, hserved _ (by simp),
    by decide, (hlisted _).2 ⟨strandedChunk, by simp, rfl, hlost⟩, by decide, fun hfresh => ?_⟩
  obtain ⟨c, hc, hid, hlost⟩ := (hlisted _).1 hfresh
  rw [List.mem_cons, List.mem_cons, List.mem_singleton] at hc
  rcases hc with rfl | rfl | rfl
  · exact absurd hid (by decide)
  · exact absurd hid (by decide)
  · exact hlost.2.2 ⟨by decide, by decide⟩

/-- Not every chunk that lacks copies and has none on a healthy node is listed. -/
theorem exists_lost_not_listed :
    ¬∀ (q : Queue) (chunks : List ChunkRecord) (nodes : List Node) (now ttl : UInt64),
      q.sweeping = false → (chunks.map ChunkRecord.id).Nodup → (nodes.map Node.id).Nodup →
      ∀ report q', q.sweep chunks nodes now ttl = .ok (report, q') →
        ∀ id, id ∈ report.unrecoverable ↔ ∃ c ∈ chunks, c.id = id ∧
          (holders nodes c).length < c.desired.toNat ∧ holders nodes c = [] := by
  intro h
  have hlisted := (h .empty [freshUpload] [] 100 30 rfl (by decide) (by decide) _ _
    (sweep_eq rfl) freshUpload.id).2 ⟨freshUpload, List.mem_cons_self, rfl, by decide, rfl⟩
  exact absurd hlisted (by decide)

end Repair

end ChunkCoordinator
