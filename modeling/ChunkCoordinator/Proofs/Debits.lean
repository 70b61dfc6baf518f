import ChunkCoordinator.Proofs.Replicas
import ChunkCoordinator.Proofs.Totals

/-!
# What a first report takes from its node

The first report of a copy takes the space of the chunk from what its node has free, and a node
that is short of it is refused (`Store.report_eq`). The space is booked as a signed word, so it is
the size of the chunk only up to `2 ^ 63 - 1` bytes. All along a life no more and no less than that
is taken, and nothing else in the registry changes (`Lifetime.debits_bookable`). A longer chunk
takes up less than it is long, and a node that has not got the room for it may hold it
(`Lifetime.exists_short_debit`).
-/

set_option linter.unusedSectionVars false

namespace ChunkCoordinator

namespace Registry

variable {r : Registry} {id : NodeId} {node : Node}

theorem get?_set (r : Registry) (id id' : NodeId) (node : Node) :
    (r.set id node).get? id' = if id' = id then some node else r.get? id' := by
  split
  · next heq => rw [heq]; exact Table.get?_insert_self _ _ _
  · next hne => exact Table.get?_insert_of_ne _ _ hne

end Registry

namespace Store

variable {s : Store} {chunk : ChunkId} {node : NodeId} {record : ChunkRecord} {old : Node}

/-- The store after the first report of a copy by a node with a given record. -/
def confirmed (s : Store) (chunk : ChunkId) (record : ChunkRecord) (node : NodeId) (old : Node) :
    Store where
  registry := s.registry.set node { old with free := old.free - bookable record.size }
  catalog := { s.catalog with chunks := s.catalog.chunks.insert chunk (record.confirming node) }

/-- The first report of a copy is a matter of space. -/
theorem report_eq (hbounded : s.registry.Bounded) (hr : s.chunk? chunk = some record)
    (hexpected : record.expected.contains node) (hnew : record.replicas.contains node = false)
    (hnode : s.registry.live? node = some old) :
    s.report chunk node =
      if old.free < bookable record.size then
        .error (.insufficientCapacity node old.free (bookable record.size))
      else .ok (⟨true, (record.replicas.add node).size⟩, s.confirmed chunk record node old) := by
  have hle := hbounded node old (Registry.live?_eq_some.1 hnode).1
  unfold chunk? at hr
  unfold report
  simp only [hr, hexpected, hnew, Registry.debit_eq hnode hle, Bool.not_true, Bool.false_eq_true,
    if_false]
  split
  · next hdebit =>
    split at hdebit
    · next hshort => rw [if_pos hshort, Except.error.inj hdebit]
    · cases hdebit
  · next hdebit =>
    split at hdebit
    · cases hdebit
    · next hroom =>
      obtain ⟨-, rfl⟩ := Prod.mk.inj (Except.ok.inj hdebit)
      rw [if_neg hroom]
      rfl

end Store

namespace Cluster

open Store

variable {c : Cluster}

/-- What is booked for a report: the bytes of the chunk, as far as they are a signed word. -/
structure DebitsBookable (c : Cluster) : Prop where
  /-- A report that adds a copy takes the bookable part of the chunk's size from the free space of
  its node, which is all of it just for chunks shorter than `2 ^ 63` bytes, and no other field of
  that node and no other node changes. -/
  taken : ∀ chunk node count, (c.report chunk node).result = .ok ⟨true, count⟩ →
    ∃ r old free, c.store.chunk? chunk = some r ∧ c.store.registry.live? node = some old ∧
      free.toNat + min r.size.toNat (2 ^ 63 - 1) = old.free.toNat ∧
      (free.toNat + r.size.toNat = old.free.toNat ↔ r.size.toNat < 2 ^ 63) ∧
      ∀ id, (c.report chunk node).cluster.store.registry.get? id =
        if id = node then some { old with free } else c.store.registry.get? id
  /-- The first report of an expected node in service is refused if and only if the node has less
  than that free. -/
  refused : ∀ chunk node r old, c.store.chunk? chunk = some r → r.expected.contains node →
    r.replicas.contains node = false → c.store.registry.live? node = some old →
    ((c.report chunk node).result =
        .error (.refused (.insufficientCapacity node old.free (bookable r.size))) ↔
      old.free.toNat < min r.size.toNat (2 ^ 63 - 1))
  /-- Then nothing changes. -/
  unchanged : ∀ chunk node why, (c.report chunk node).result = .error why →
    (c.report chunk node).cluster = c

theorem report_eq_refuse (h : c.Orderly) {chunk : ChunkId} {node : NodeId} {why : ServiceError}
    (hreport : c.store.report chunk node = .error why) : c.report chunk node = c.refuse why := by
  rw [report, h.asked_eq]
  dsimp only
  rw [hreport]

/-- In good order it is so, if no node has more free than it can hold. -/
theorem Orderly.debitsBookable (h : c.Orderly) (hbounded : c.store.registry.Bounded) :
    c.DebitsBookable where
  taken := by
    intro chunk node count hresult
    cases hreport : c.store.report chunk node with
    | error why =>
      rw [report_eq_refuse h hreport] at hresult
      cases hresult
    | ok answer =>
      obtain ⟨⟨added, count'⟩, store⟩ := answer
      obtain ⟨hresult', hstore⟩ := report_of_ok h hreport
      rw [hresult] at hresult'
      obtain ⟨r, hr, -, ⟨-, -, hadded⟩ | ⟨-, -, free, registry, hdebit, rfl⟩⟩ := report_ok hreport
      · rw [hadded] at hresult'
        cases hresult'
      · obtain ⟨old, hold, rfl, htaken⟩ := Registry.debit_ok hdebit
        have htaken := htaken (hbounded node old (Registry.live?_eq_some.1 hold).1)
        rw [toNat_bookable] at htaken
        refine ⟨r, old, free, hr, hold, htaken, by omega, fun id => ?_⟩
        rw [hstore]
        exact Registry.get?_set _ _ _ _
  refused := by
    intro chunk node r old hr hexpected hnew hnode
    have hshort : old.free < bookable r.size ↔ old.free.toNat < min r.size.toNat (2 ^ 63 - 1) := by
      rw [UInt64.lt_iff_toNat_lt, toNat_bookable]
    rw [← hshort]
    have hreport := report_eq hbounded hr hexpected hnew hnode
    split at hreport
    · next h' => exact iff_of_true (by rw [report_eq_refuse h hreport]; rfl) h'
    · next h' =>
      refine iff_of_false (fun hrefused => ?_) h'
      rw [(report_of_ok h hreport).1] at hrefused
      cases hrefused
  unchanged := by
    intro chunk node why hresult
    cases hreport : c.store.report chunk node with
    | error why => rw [report_eq_refuse h hreport]; rfl
    | ok answer =>
      rw [(report_of_ok h hreport).1] at hresult
      cases hresult

end Cluster

namespace Lifetime

/-- Wherever a life has come to that draws no identifier twice, a report that adds a copy takes the
bookable part of the chunk's size from the free space of its node and changes no other node, and
a first report is refused, with nothing changed, if and only if the node has less than that free. -/
theorem debits_bookable {settings : Settings} {ids : IdSupply} {steps : List (Cluster × Turn)}
    {c : Cluster} (h : Lifetime (.fresh settings ids) steps c)
    (hinj : Set.InjOn ids.nth (Set.Ioc ids.drawn c.ids.drawn)) : c.DebitsBookable :=
  ((h.annals hinj).orderly c List.mem_cons_self).debitsBookable
    (h.bounded hinj c List.mem_cons_self)

/-- A chunk of `2 ^ 63` bytes is to be stored on a node that has one byte less free. -/
def longChunk : List (Cluster → Turn) :=
  [fun _ => .event (.register ⟨"a", "host", 1, 0x8000000000000000⟩ 0),
   fun _ => .event (.upload ⟨"name", 0x8000000000000000, some 0x8000000000000000, some 1⟩ 0),
   fun _ => .event (.heartbeat "a" 0x7FFFFFFFFFFFFFFF 0)]

theorem of_longChunk :
    Lifetime (.fresh .default .counting) (played longChunk).1 (played longChunk).2 ∧
      Set.InjOn IdSupply.counting.nth (Set.Ioc 0 (played longChunk).2.ids.drawn) := by
  have hdrawn : (played longChunk).2.ids.drawn = 2 := by decide +kernel
  refine ⟨of_played (by simp [longChunk, Turn.ReadFrom, Event.ReadFrom]), ?_⟩
  rw [hdrawn]
  exact IdSupply.injOn_counting (by decide)

/-- The node pays with all that it has, and then has nothing free. -/
theorem debits_bookable_longChunk :
    (played longChunk).2.DebitsBookable ∧
      ((played longChunk).2.report ⟨2⟩ "a").result = .ok ⟨true, 1⟩ ∧
      ((played longChunk).2.report ⟨2⟩ "a").cluster.store.registry.all.map Node.free = [0] := by
  obtain ⟨hlife, hinj⟩ := of_longChunk
  exact ⟨debits_bookable hlife hinj, by decide +kernel, by decide +kernel⟩

/-- So a report may take less than the size of the chunk, and be granted to a node without the room
for it. -/
theorem exists_short_debit :
    (¬∀ (settings : Settings) (ids : IdSupply) (steps : List (Cluster × Turn)) (c : Cluster),
      Lifetime (.fresh settings ids) steps c → Set.InjOn ids.nth (Set.Ioc ids.drawn c.ids.drawn) →
      ∀ chunk node count r old new, (c.report chunk node).result = .ok ⟨true, count⟩ →
        c.store.chunk? chunk = some r → c.store.registry.live? node = some old →
        (c.report chunk node).cluster.store.registry.live? node = some new →
        new.free.toNat + r.size.toNat = old.free.toNat) ∧
    ¬∀ (settings : Settings) (ids : IdSupply) (steps : List (Cluster × Turn)) (c : Cluster),
      Lifetime (.fresh settings ids) steps c → Set.InjOn ids.nth (Set.Ioc ids.drawn c.ids.drawn) →
      ∀ chunk node r old, c.store.chunk? chunk = some r → r.expected.contains node →
        r.replicas.contains node = false → c.store.registry.live? node = some old →
        old.free.toNat < r.size.toNat →
        ∃ free size, (c.report chunk node).result =
          .error (.refused (.insufficientCapacity node free size)) := by
  obtain ⟨hlife, hinj⟩ := of_longChunk
  have hchunk : (played longChunk).2.store.chunk? ⟨2⟩ = some
      ⟨⟨2⟩, ⟨1⟩, 0, 0x8000000000000000, 1, .empty, .ofKeys ["a"], 0⟩ := by decide +kernel
  have hnode : (played longChunk).2.store.registry.live? "a" = some
      ⟨"a", "host", 1, 0x8000000000000000, 0x7FFFFFFFFFFFFFFF, .healthy, 0, 0⟩ := by decide +kernel
  have hresult : ((played longChunk).2.report ⟨2⟩ "a").result = .ok ⟨true, 1⟩ := by decide +kernel
  have hafter : ((played longChunk).2.report ⟨2⟩ "a").cluster.store.registry.live? "a" = some
      ⟨"a", "host", 1, 0x8000000000000000, 0, .healthy, 0, 0⟩ := by decide +kernel
  refine ⟨fun h => ?_, fun h => ?_⟩
  · have hexact := h _ _ _ _ hlife hinj _ _ _ _ _ _ hresult hchunk hnode hafter
    exact absurd hexact (by decide)
  · obtain ⟨free, size, hrefused⟩ :=
      h _ _ _ _ hlife hinj _ _ _ _ hchunk (by decide +kernel) (by decide) hnode (by decide)
    rw [hresult] at hrefused
    cases hrefused

end Lifetime

end ChunkCoordinator
