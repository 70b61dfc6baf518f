import ChunkCoordinator.Proofs.Planning
import ChunkCoordinator.Proofs.Ranking
import ChunkCoordinator.Proofs.Repair
import Mathlib.Algebra.Order.BigOperators.Group.List

/-!
# A sweep does not overcommit its targets

A sweep chooses nodes for one chunk after the other, and the space that it has given away is gone
for the chunks that follow. What it has ordered to a node (`Repair.orderedBytes`) is what its choice
has planned for the node, so it is bounded like an upload plan : only nodes with the room are
chosen, hence no debit saturates (`Survey.planned_orders_le`). A choice that comes out too short has
taken every eligible node (`Placement.mem_chooseTargets_of_short`), and eligible is who has the room
that the chunks before it have left (`Survey.orders_append`).

`Repair.Rationed` puts this in terms of the report and the node records that the sweep was given.
`Repair.sweep_rations` is the main statement. If the queue changes while the sweep is at work, fewer
instructions may be issued, and the bound still holds.
-/

set_option linter.unusedSectionVars false

namespace ChunkCoordinator

/-! ## A choice that comes out too short -/

namespace Placement

variable {nodes : List Node} {count : Nat} {exclude : KeySet NodeId} {size : UInt64}

/-- If there are fewer nodes than asked for, all eligible ones are chosen. -/
theorem mem_chooseTargets_of_short (h : (chooseTargets nodes count exclude size).length < count)
    {n : Node} (hn : n ∈ nodes) (helig : eligible exclude size n) :
    n.id ∈ chooseTargets nodes count exclude size := by
  have hranking := isRanking_eligible nodes exclude size
  rw [hranking.chooseTargets_eq, List.length_take] at h
  rw [hranking.chooseTargets_eq, List.take_of_length_le (by omega)]
  exact (hranking.mem_iff n.id).2 ⟨n, hn, helig, rfl⟩

end Placement

/-! ## What a sweep orders -/

namespace Repair

/-- The bytes that instructions order to a node. -/
def orderedBytes (orders : List Instruction) (t : NodeId) : Nat :=
  ((orders.filter fun i => i.target = t).map fun i => i.size.toNat).sum

/-- The bytes that a sweep has ordered to a node when the given chunks have had their turn. -/
def assigned (report : SweepReport) (earlier : List ChunkRecord) (t : NodeId) : Nat :=
  orderedBytes (report.emitted.filter fun i => i.chunk ∈ earlier.map ChunkRecord.id) t

theorem orderedBytes_append (orders orders' : List Instruction) (t : NodeId) :
    orderedBytes (orders ++ orders') t = orderedBytes orders t + orderedBytes orders' t := by
  simp [orderedBytes]

theorem orderedBytes_le_of_sublist {orders orders' : List Instruction} (h : orders.Sublist orders')
    (t : NodeId) : orderedBytes orders t ≤ orderedBytes orders' t :=
  ((h.filter _).map _).sum_le_sum fun _ _ => Nat.zero_le _

/-- Copies of one chunk cost a target its size. -/
theorem orderedBytes_order (s : Survey) (c : ChunkRecord) {targets : List NodeId}
    (h : targets.Nodup) (t : NodeId) :
    orderedBytes (targets.map (s.order c)) t = if t ∈ targets then c.size.toNat else 0 := by
  induction targets with
  | nil => rfl
  | cons t' targets ih =>
    obtain ⟨hnew, h⟩ := List.nodup_cons.1 h
    have hcons : orderedBytes ((t' :: targets).map (s.order c)) t =
        (if t' = t then c.size.toNat else 0) + orderedBytes (targets.map (s.order c)) t := by
      rw [List.map_cons, orderedBytes, List.filter_cons]
      by_cases ht : t' = t <;> simp [orderedBytes, Survey.order, ht]
    rw [hcons, ih h]
    by_cases ht : t' = t
    · subst ht
      rw [if_pos rfl, if_neg hnew, if_pos List.mem_cons_self, Nat.add_zero]
    · rw [if_neg ht, Nat.zero_add]
      simp [Ne.symm ht]

end Repair

namespace Survey

open Repair Placement

variable (s : Survey)

/-- The instructions for chunks in the order of their turns. -/
def ordered (room : List Node) (cs : List ChunkRecord) : List Instruction :=
  (s.orders room cs).flatMap fun o => o.2.map (s.order o.1)

/-- The nodes with what is left to them when the chunks have had their turn. -/
def roomAfter (room : List Node) (cs : List ChunkRecord) : List Node :=
  roomLeft room ((s.orders room cs).map Prod.snd) (cs.map ChunkRecord.size)

theorem le_free_of_mem_targets {room : List Node} (hroom : (room.map Node.id).Nodup)
    {c : ChunkRecord} {n : Node} (hn : n ∈ room) (h : n.id ∈ s.targets room c) : c.size ≤ n.free :=
  le_free_of_mem_chooseTargets hroom hn h

/-- The chunks that follow are handled with the room that is left. -/
theorem orders_append : ∀ {room : List Node} (cs cs' : List ChunkRecord),
    (room.map Node.id).Nodup →
    s.orders room (cs ++ cs') = s.orders room cs ++ s.orders (s.roomAfter room cs) cs'
  | room, [], cs', _ => by
    have hsame : s.roomAfter room [] = room := roomLeft_nil room []
    rw [hsame]
    rfl
  | room, c :: cs, cs', hroom => by
    have hdebit : ((debit room (s.targets room c) c.size).map Node.id).Nodup := by
      rwa [map_id_debit]
    have hafter : s.roomAfter (debit room (s.targets room c) c.size) cs =
        s.roomAfter room (c :: cs) :=
      roomLeft_debit (fun n hn => s.le_free_of_mem_targets hroom hn) _ _
    rw [List.cons_append, orders, orders, orders_append cs cs' hdebit, hafter, List.cons_append]

/-- Nothing is planned that does not fit. -/
theorem planned_orders_le : ∀ {room : List Node} (cs : List ChunkRecord), (room.map Node.id).Nodup →
    ∀ n ∈ room, planned n.id ((s.orders room cs).map Prod.snd) (cs.map ChunkRecord.size) ≤
      n.free.toNat
  | _, [], _ => fun _ _ => Nat.zero_le _
  | room, c :: cs, hroom => by
    refine planned_cons_le (fun n hn => s.le_free_of_mem_targets hroom hn) ?_
    exact planned_orders_le cs (by rwa [map_id_debit])

/-- What is ordered to a node is what is planned for it. -/
theorem orderedBytes_ordered (t : NodeId) : ∀ (room : List Node) (cs : List ChunkRecord),
    orderedBytes (s.ordered room cs) t =
      planned t ((s.orders room cs).map Prod.snd) (cs.map ChunkRecord.size)
  | _, [] => rfl
  | room, c :: cs => by
    have htargets : (s.targets room c).Nodup := nodup_chooseTargets
    have hcons : s.ordered room (c :: cs) = (s.targets room c).map (s.order c) ++
        s.ordered (debit room (s.targets room c) c.size) cs := rfl
    rw [hcons, orderedBytes_append, orderedBytes_order s c htargets, orderedBytes_ordered t _ cs]
    rfl

theorem nodup_roomAfter {room : List Node} (cs : List ChunkRecord)
    (hroom : (room.map Node.id).Nodup) : ((s.roomAfter room cs).map Node.id).Nodup := by
  rw [roomAfter, roomLeft, List.map_map]
  exact hroom

theorem ordered_append {room : List Node} (cs cs' : List ChunkRecord)
    (hroom : (room.map Node.id).Nodup) :
    s.ordered room (cs ++ cs') = s.ordered room cs ++ s.ordered (s.roomAfter room cs) cs' := by
  rw [ordered, s.orders_append cs cs' hroom, List.flatMap_append]
  rfl

theorem mem_map_chunk_ordered {room : List Node} {cs : List ChunkRecord} {i : Instruction}
    (hi : i ∈ s.ordered room cs) : i.chunk ∈ cs.map ChunkRecord.id :=
  Queue.mem_map_key_orders (List.mem_map_of_mem (f := Instruction.key) hi)

/-- Of instructions for some chunks and others those for the first ones come first. -/
theorem filter_ordered {room room' : List Node} {cs cs' : List ChunkRecord}
    (hids : ((cs ++ cs').map ChunkRecord.id).Nodup) :
    (s.ordered room cs ++ s.ordered room' cs').filter (fun i => i.chunk ∈ cs.map ChunkRecord.id) =
        s.ordered room cs ∧
      (s.ordered room cs ++ s.ordered room' cs').filter
        (fun i => i.chunk ∈ cs'.map ChunkRecord.id) = s.ordered room' cs' := by
  rw [List.map_append, List.nodup_append] at hids
  obtain ⟨-, -, hdisjoint⟩ := hids
  rw [List.filter_append, List.filter_append]
  constructor
  · rw [List.filter_eq_self.2, List.filter_eq_nil_iff.2, List.append_nil]
    · intro i hi hfirst
      exact hdisjoint _ (of_decide_eq_true hfirst) _ (s.mem_map_chunk_ordered hi) rfl
    · exact fun i hi => decide_eq_true (s.mem_map_chunk_ordered hi)
  · rw [List.filter_eq_nil_iff.2, List.filter_eq_self.2, List.nil_append]
    · exact fun i hi => decide_eq_true (s.mem_map_chunk_ordered hi)
    · intro i hi hlast
      exact hdisjoint _ (s.mem_map_chunk_ordered hi) _ (of_decide_eq_true hlast) rfl

end Survey

/-! ## A whole sweep -/

namespace Repair

/-- A healthy node that could take one more copy of a chunk : it has none, none is under way or
newly ordered to it, and what was ordered to it for the chunks before leaves the room. -/
structure CouldTake (pending : Table CopyKey Instruction) (nodes : List Node) (now ttl : UInt64)
    (report : SweepReport) (earlier : List ChunkRecord) (c : ChunkRecord) (n : Node) : Prop where
  listed : n ∈ nodes
  healthy : n.isHealthy
  without : c.replicas.contains n.id = false
  notInFlight : n.id ∉ inFlight pending nodes now ttl c
  notChosen : n.id ∉ emittedFor report c
  room : c.size.toNat ≤ n.free.toNat - assigned report earlier n.id

/-- The chunk is ordered fewer copies than it lacks. -/
def IsShort (pending : Table CopyKey Instruction) (nodes : List Node) (now ttl : UInt64)
    (report : SweepReport) (c : ChunkRecord) : Prop :=
  (emittedFor report c).length < missing pending nodes now ttl c

instance (pending : Table CopyKey Instruction) (nodes : List Node) (now ttl : UInt64)
    (report : SweepReport) (c : ChunkRecord) : Decidable (IsShort pending nodes now ttl report c) :=
  inferInstanceAs (Decidable (_ < _))

/-- How a sweep hands out the space of the nodes, chunk by chunk in the order of their age. -/
structure Rationed (pending : Table CopyKey Instruction) (chunks : List ChunkRecord)
    (nodes : List Node) (now ttl : UInt64) (report : SweepReport) : Prop where
  /-- No node is sent more than it has free. -/
  fits : ∀ n ∈ nodes, orderedBytes report.emitted n.id ≤ n.free.toNat
  /-- The instructions come in the order of the turns. -/
  inTurn : ∀ earlier later, sortedBy ChunkRecord.leByAge chunks = earlier ++ later →
    report.emitted = (report.emitted.filter fun i => i.chunk ∈ earlier.map ChunkRecord.id) ++
      report.emitted.filter fun i => i.chunk ∈ later.map ChunkRecord.id
  /-- A chosen node has the room besides what was ordered to it before. -/
  room : ∀ earlier c later, sortedBy ChunkRecord.leByAge chunks = earlier ++ c :: later →
    ∀ n ∈ nodes, n.id ∈ emittedFor report c →
      assigned report earlier n.id + c.size.toNat ≤ n.free.toNat
  /-- A chunk is short only if no node could take one more copy at its turn. -/
  exhausted : ∀ earlier c later, sortedBy ChunkRecord.leByAge chunks = earlier ++ c :: later →
    IsShort pending nodes now ttl report c →
      ∀ n, ¬CouldTake pending nodes now ttl report earlier c n
  /-- These are the chunks that the report counts. -/
  counted : report.shortOfTargets = chunks.countP fun c => IsShort pending nodes now ttl report c

variable {q : Queue} {pending : Table CopyKey Instruction} {chunks : List ChunkRecord}
  {nodes : List Node} {now ttl : UInt64} {report : SweepReport}

/-- The healthy nodes of a survey have different names. -/
theorem nodup_room (hn : (nodes.map Node.id).Nodup) :
    (((Survey.ofRecords chunks nodes pending now ttl).healthy.values).map Node.id).Nodup :=
  Table.nodup_map_values fun _ _ h => ((Survey.get?_healthy hn).1 h).2.2

theorem mem_room (hn : (nodes.map Node.id).Nodup) {n : Node} :
    n ∈ (Survey.ofRecords chunks nodes pending now ttl).healthy.values ↔
      n ∈ nodes ∧ n.isHealthy := by
  simp only [Table.mem_values, Survey.get?_healthy hn, exists_and_left, exists_eq', and_true]

section

variable {s : Survey} (hids : (s.chunks.map ChunkRecord.id).Nodup)
  (hreport : report.emitted = s.findings.emitted)

include hids hreport

/-- What is listed are the instructions for the chunks in the order of their turns. -/
theorem emitted_eq_ordered : report.emitted = s.ordered s.healthy.values s.scanned :=
  hreport.trans (Survey.findings_eq hids).1

variable (hroom : (s.healthy.values.map Node.id).Nodup) {earlier later : List ChunkRecord}

include hroom

/-- The instructions for the chunks that had their turn come first. -/
theorem filter_emitted (hscanned : s.scanned = earlier ++ later) :
    report.emitted.filter (fun i => i.chunk ∈ earlier.map ChunkRecord.id) =
        s.ordered s.healthy.values earlier ∧
      report.emitted.filter (fun i => i.chunk ∈ later.map ChunkRecord.id) =
        s.ordered (s.roomAfter s.healthy.values earlier) later := by
  have hnodup : ((earlier ++ later).map ChunkRecord.id).Nodup := by
    rw [← hscanned]
    exact (s.perm_scanned.map _).nodup_iff.2 hids
  rw [emitted_eq_ordered hids hreport, hscanned, s.ordered_append _ _ hroom]
  exact s.filter_ordered hnodup

/-- By then a node has free what was not ordered to it. -/
theorem exists_roomAfter (hscanned : s.scanned = earlier ++ later) {n : Node}
    (hn : n ∈ s.healthy.values) : ∃ left ∈ s.roomAfter s.healthy.values earlier,
      left.id = n.id ∧ left.isHealthy = n.isHealthy ∧
        left.free.toNat + assigned report earlier n.id = n.free.toNat := by
  have hassigned : assigned report earlier n.id = Placement.planned n.id
      ((s.orders s.healthy.values earlier).map Prod.snd) (earlier.map ChunkRecord.size) := by
    rw [assigned, (filter_emitted hids hreport hroom hscanned).1, s.orderedBytes_ordered]
  have hlength : ((s.orders s.healthy.values earlier).map Prod.snd).length = earlier.length := by
    rw [List.length_map, ← List.length_map Prod.fst, s.map_fst_orders]
  have hdiff := Placement.toNat_sub_planned (s.planned_orders_le earlier hroom n hn) earlier.length
  rw [List.take_of_length_le hlength.le, List.take_of_length_le (by simp)] at hdiff
  exact ⟨_, List.mem_map_of_mem hn, rfl, rfl, by rw [hassigned]; exact hdiff⟩

/-- The nodes for a chunk are chosen from those with the room that is left at its turn. -/
theorem emittedFor_eq_targets {c : ChunkRecord} (hscanned : s.scanned = earlier ++ c :: later) :
    emittedFor report c = s.targets (s.roomAfter s.healthy.values earlier) c := by
  refine emittedFor_eq hids hreport ?_
  rw [hscanned, s.orders_append _ _ hroom, List.mem_append, Survey.orders]
  exact .inr List.mem_cons_self

end

section

variable (hc : (chunks.map ChunkRecord.id).Nodup) (hn : (nodes.map Node.id).Nodup)
  (hreport : report.emitted = (Survey.ofRecords chunks nodes pending now ttl).findings.emitted)

include hc hn hreport

/-- Who is sent something is healthy. -/
theorem isHealthy_of_mem_emittedFor {c : ChunkRecord} {n : Node} (hcmem : c ∈ chunks)
    (hnmem : n ∈ nodes) (hchosen : n.id ∈ emittedFor report c) : n.isHealthy := by
  obtain ⟨m, hm, hhealthy, hid⟩ := (served hc hn hreport hcmem).healthy _ hchosen
  rwa [List.inj_on_of_nodup_map hn hm hnmem hid] at hhealthy

/-- No node is sent more than it has free. -/
theorem orderedBytes_emitted_le {n : Node} (hnmem : n ∈ nodes) :
    orderedBytes report.emitted n.id ≤ n.free.toNat := by
  by_cases hnhealthy : n.isHealthy
  · rw [emitted_eq_ordered hc hreport, Survey.orderedBytes_ordered]
    exact Survey.planned_orders_le _ _ (nodup_room hn) n ((mem_room hn).2 ⟨hnmem, hnhealthy⟩)
  · have hnone : report.emitted.filter (fun i => i.target = n.id) = [] := by
      refine List.filter_eq_nil_iff.2 fun i hi htarget => hnhealthy ?_
      obtain ⟨c, hcmem, -, -, hchosen⟩ := exists_emittedFor hreport hi
      rw [of_decide_eq_true htarget] at hchosen
      exact isHealthy_of_mem_emittedFor hc hn hreport hcmem hnmem hchosen
    rw [orderedBytes, hnone]
    exact Nat.zero_le _

/-- The chunks that come out short are counted. -/
theorem shortOfTargets_findings :
    (Survey.ofRecords chunks nodes pending now ttl).findings.shortOfTargets =
      chunks.countP fun c => IsShort pending nodes now ttl report c := by
  have hids : ((Survey.ofRecords chunks nodes pending now ttl).chunks.map
    ChunkRecord.id).Nodup := hc
  rw [(Survey.findings_eq hids).2.2, countP_orders hids hreport]
  refine List.countP_congr fun c hmem => ?_
  rw [Survey.needed_ofRecords hc hn hmem]
  rfl

variable {earlier later : List ChunkRecord} {c : ChunkRecord}
  (hsplit : sortedBy ChunkRecord.leByAge chunks = earlier ++ c :: later)

include hsplit

/-- A chosen node has the room besides what was ordered to it before. -/
theorem assigned_add_le {n : Node} (hnmem : n ∈ nodes) (hchosen : n.id ∈ emittedFor report c) :
    assigned report earlier n.id + c.size.toNat ≤ n.free.toNat := by
  have hcmem : c ∈ chunks :=
    (perm_sortedBy _ chunks).subset (hsplit ▸ List.mem_append_right _ List.mem_cons_self)
  have hhealthy := isHealthy_of_mem_emittedFor hc hn hreport hcmem hnmem hchosen
  obtain ⟨left, hleft, hid, -, hfree⟩ := exists_roomAfter hc hreport (nodup_room hn)
    (show Survey.scanned _ = _ from hsplit) ((mem_room hn).2 ⟨hnmem, hhealthy⟩)
  rw [emittedFor_eq_targets hc hreport (nodup_room hn) hsplit, ← hid] at hchosen
  have hle := UInt64.le_iff_toNat_le.1
    (Survey.le_free_of_mem_targets _ (Survey.nodup_roomAfter _ _ (nodup_room hn)) hleft hchosen)
  omega

/-- If a chunk is short, no node could take one more copy at its turn. -/
theorem not_couldTake_of_isShort (hshort : IsShort pending nodes now ttl report c) (n : Node) :
    ¬CouldTake pending nodes now ttl report earlier c n := by
  intro htake
  have hcmem : c ∈ chunks :=
    (perm_sortedBy _ chunks).subset (hsplit ▸ List.mem_append_right _ List.mem_cons_self)
  obtain ⟨left, hleft, hid, hhealthy, hfree⟩ := exists_roomAfter hc hreport (nodup_room hn)
    (show Survey.scanned _ = _ from hsplit) ((mem_room hn).2 ⟨htake.listed, htake.healthy⟩)
  have htargets := emittedFor_eq_targets hc hreport (nodup_room hn) hsplit
  have hout : (c.replicas.addAll
      ((Survey.ofRecords chunks nodes pending now ttl).underWay c).keys).contains n.id = false := by
    rw [Bool.eq_false_iff, ne_eq, Table.contains_addAll, Table.mem_keys,
      Survey.contains_underWay_ofRecords hc hn hcmem, not_or]
    exact ⟨htake.notInFlight, by simp [htake.without]⟩
  have hroom : c.size ≤ left.free := by
    have hle := htake.room
    rw [UInt64.le_iff_toNat_le]
    omega
  -- so the node was eligible, and a choice that is too short leaves out none that is
  rw [IsShort, ← Survey.needed_ofRecords hc hn hcmem, htargets] at hshort
  refine htake.notChosen ?_
  rw [htargets, ← hid]
  refine Placement.mem_chooseTargets_of_short hshort hleft ?_
  simp [Placement.eligible, hhealthy, htake.healthy, hid, hout, hroom]

end

/-- Every sweep over records with different identifiers hands out no more space than there is, and
counts as short only chunks that nobody could take. If the queue changes between the survey and the
merge, some of the instructions may be left out, and the rest is as before. -/
theorem sweep_rations (q : Queue) (chunks : List ChunkRecord) (nodes : List Node) (now ttl : UInt64)
    (hq : q.sweeping = false) (hc : (chunks.map ChunkRecord.id).Nodup)
    (hn : (nodes.map Node.id).Nodup) :
    ∃ report q', q.sweep chunks nodes now ttl = .ok (report, q') ∧
      Rationed q.pending chunks nodes now ttl report ∧
      ∃ survey begun, q.begin chunks nodes now ttl = .ok (survey, begun) ∧
        ∀ meanwhile : Queue,
          (meanwhile.merge now survey.findings).1.emitted.Sublist report.emitted ∧
          (meanwhile.merge now survey.findings).1.shortOfTargets = report.shortOfTargets ∧
          ∀ n ∈ nodes, orderedBytes (meanwhile.merge now survey.findings).1.emitted n.id ≤
            n.free.toNat := by
  have hbegin : q.begin chunks nodes now ttl = .ok (.ofRecords chunks nodes q.pending now ttl,
      { q with sweeping := true }) := by
    rw [Queue.begin, hq]
    rfl
  have hemitted := (Queue.merge_findings (q := { q with sweeping := true })
    (s := .ofRecords chunks nodes q.pending now ttl) rfl hc now).1
  have hfits := fun n => orderedBytes_emitted_le hc hn hemitted (n := n)
  refine ⟨_, _, sweep_eq hq, ⟨fun n => hfits n, fun earlier later hsplit => ?_,
    fun earlier c later hsplit n => assigned_add_le hc hn hemitted hsplit,
    fun earlier c later hsplit hshort => not_couldTake_of_isShort hc hn hemitted hsplit hshort,
    shortOfTargets_findings hc hn hemitted⟩, _, _, hbegin, fun meanwhile => ?_⟩
  · have hfilter := filter_emitted hc hemitted (nodup_room hn) hsplit
    rw [hfilter.1, hfilter.2, emitted_eq_ordered hc hemitted,
      ← Survey.ordered_append _ _ _ (nodup_room hn)]
    exact congrArg _ hsplit
  · have hsub := hemitted ▸ meanwhile.emitted_merge_sublist now
      (Survey.ofRecords chunks nodes q.pending now ttl).findings
    exact ⟨hsub, rfl, fun n hnmem => (orderedBytes_le_of_sublist hsub n.id).trans (hfits n hnmem)⟩

/-- A chunk with one of two copies. -/
def halfCopied (id : Nat) : ChunkRecord where
  id := ⟨id⟩
  file := ⟨9⟩
  index := .ofNat id
  size := 10
  desired := 2
  replicas := .ofKeys ["a"]
  expected := .ofKeys ["a", "b"]
  createdAt := 0

/-- The holder, a node with room for one chunk, and one with room for none. -/
def scarceNodes : List Node :=
  [⟨"a", "host", 1, 100, 50, .healthy, 0, 0⟩, ⟨"b", "host", 1, 100, 15, .healthy, 0, 0⟩,
   ⟨"c", "host", 1, 100, 4, .healthy, 0, 0⟩]

/-- Of two chunks only the first finds a target, and at the turn of the second nobody has room. -/
theorem sweep_rations_scarceNodes :
    ∃ report q', Queue.empty.sweep [halfCopied 1, halfCopied 2] scarceNodes 100 30 =
        .ok (report, q') ∧
      report.shortOfTargets = 1 ∧ emittedFor report (halfCopied 1) = ["b"] ∧
      orderedBytes report.emitted "b" = 10 ∧ orderedBytes report.emitted "b" ≤ 15 ∧
      ∀ n, ¬CouldTake .empty scarceNodes 100 30 report [halfCopied 1] (halfCopied 2) n := by
  obtain ⟨report, q', hsweep, h, -⟩ := sweep_rations .empty [halfCopied 1, halfCopied 2] scarceNodes
    100 30 rfl (by decide) (by decide)
  have hread : (Queue.empty.sweep [halfCopied 1, halfCopied 2] scarceNodes 100 30).map
      (fun r => (r.1.shortOfTargets, emittedFor r.1 (halfCopied 1), orderedBytes r.1.emitted "b",
        decide (IsShort .empty scarceNodes 100 30 r.1 (halfCopied 2)))) =
      .ok (1, ["b"], 10, true) := by
    decide +kernel
  rw [hsweep] at hread
  obtain ⟨hshort, hfirst, hbytes, hsecond⟩ :
      report.shortOfTargets = 1 ∧ emittedFor report (halfCopied 1) = ["b"] ∧
        orderedBytes report.emitted "b" = 10 ∧
        decide (IsShort .empty scarceNodes 100 30 report (halfCopied 2)) = true := by
    simpa [Except.map] using hread
  exact ⟨report, q', hsweep, hshort, hfirst, hbytes,
    h.fits ⟨"b", "host", 1, 100, 15, .healthy, 0, 0⟩ (by decide),
    h.exhausted [halfCopied 1] (halfCopied 2) [] (by decide +kernel) (of_decide_eq_true hsecond)⟩

end Repair

end ChunkCoordinator
