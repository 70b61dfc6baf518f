import ChunkCoordinator.Proofs.Integrity

/-!
# Saving and starting anew

What a coordinator saves, a fresh one can take over : the catalog is the same, the nodes have the
same records but for the deadlines of the healthy ones, and no instruction is pending
(`Cluster.TakesOver`). Two things can stand in the way. A chunk without its file is refused, and
the restore ends with the status of the cluster, which is given up if the nodes in service have more
space than a word can tell (`Registry.TotalsFit`). `Lifetime.round_trip` says that nothing else can.
-/

set_option linter.unusedSectionVars false

namespace ChunkCoordinator

/-! ## Totals -/

namespace Registry

/-- The capacities of the nodes in service add up to a word, and so does their free space. -/
def TotalsFit (r : Registry) : Prop :=
  ((r.all.filter Node.isLive).map fun n => n.capacity.toNat).sum < 2 ^ 64 ∧
    ((r.all.filter Node.isLive).map fun n => n.free.toNat).sum < 2 ^ 64

instance (r : Registry) : Decidable r.TotalsFit := inferInstanceAs (Decidable (_ ∧ _))

theorem foldlM_add? (size : Node → UInt64) : ∀ (nodes : List Node) {n : Nat}, n < 2 ^ 64 →
    nodes.foldlM (fun sum node => sum.add? (size node)) (UInt64.ofNat n) =
      asWord? (n + (nodes.map fun node => (size node).toNat).sum)
  | [], n, h => (asWord?_of_lt h).symm
  | node :: nodes, n, h => by
    rw [List.foldlM_cons, add?_ofNat h, List.map_cons, List.sum_cons, ← Nat.add_assoc]
    by_cases hword : n + (size node).toNat < 2 ^ 64
    · rw [asWord?_of_lt hword]
      exact foldlM_add? size nodes hword
    · rw [asWord?_of_le (Nat.not_lt.1 hword), asWord?_of_le (by omega)]
      rfl

theorem total?_eq (size : Node → UInt64) (nodes : List Node) :
    total? size nodes = asWord? (nodes.map fun node => (size node).toNat).sum := by
  have hzero : (0 : Nat) < 2 ^ 64 := by decide
  rw [← Nat.zero_add (List.sum _)]
  exact foldlM_add? size nodes hzero

/-- There is a summary if and only if both totals are words. -/
theorem isSome_summary? {r : Registry} : r.summary?.isSome ↔ r.TotalsFit := by
  rw [TotalsFit, ← isSome_asWord?, ← isSome_asWord?, ← total?_eq Node.capacity,
    ← total?_eq Node.free, summary?]
  cases total? Node.capacity (r.all.filter Node.isLive) <;>
    cases total? Node.free (r.all.filter Node.isLive) <;> simp

/-- A restart changes neither total. -/
theorem totalsFit_restore_all {r : Registry} (h : r.Keyed) (now : UInt64) :
    (restore r.all now).TotalsFit ↔ r.TotalsFit := by
  have hall : (restore r.all now).all = r.all.map (restarted now) := by
    rw [restore_all h]
    simp [all, Table.values, Table.map, Function.comp_def]
  have hlive : Node.isLive ∘ restarted now = Node.isLive := funext fun n => by
    rw [Function.comp_apply, Node.isLive, health_restarted, Node.isLive]
  have hsum : ∀ {size : Node → Nat}, (∀ n, size (restarted now n) = size n) →
      (((restore r.all now).all.filter Node.isLive).map size).sum =
        ((r.all.filter Node.isLive).map size).sum := by
    intro size hsize
    rw [hall, List.filter_map, hlive, List.map_map]
    exact congrArg List.sum (List.map_congr_left fun n _ => hsize n)
  have hroom := room_restarted now
  rw [TotalsFit, hsum fun n => congrArg (fun v => v.2.1.toNat) (hroom n),
    hsum fun n => congrArg (fun v => v.2.2.toNat) (hroom n), TotalsFit]

end Registry

/-! ## What a fresh coordinator takes over -/

namespace Cluster

variable {s c : Cluster}

/-- A coordinator has the records of a saved one. Healthy nodes have been given a new deadline, and
nothing is pending. -/
structure TakesOver (s c : Cluster) (now : UInt64) : Prop where
  catalog : c.store.catalog = s.store.catalog
  nodes : c.store.registry.nodes = s.store.registry.nodes.map (Registry.restarted now)
  queue : c.queue = .empty
  again : ∀ time time', (c.exportSnapshot time').files = (s.exportSnapshot time).files ∧
    (c.exportSnapshot time').chunks = (s.exportSnapshot time).chunks

/-- A restore that is not refused succeeds if there is a summary of the nodes, and is given up if
there is none. -/
theorem result_restoreSnapshot_of_ok {c : Cluster} {snapshot : Snapshot} {now : UInt64}
    {catalog : Catalog} (h : Catalog.restore (.restore snapshot.nodes now) snapshot.files
      snapshot.chunks = .ok catalog) :
    (c.restoreSnapshot snapshot now).result =
      if (Registry.restore snapshot.nodes now).TotalsFit then .ok () else .error .overflow := by
  simp only [← Registry.isSome_summary?]
  unfold restoreSnapshot
  dsimp only [withRegistry]
  rw [h]
  dsimp only [status, currentStatus?]
  cases (Registry.restore snapshot.nodes now).summary? <;> rfl

/-- A restore succeeds if and only if it is not refused and there is a summary of the nodes. -/
theorem result_restoreSnapshot (c : Cluster) (snapshot : Snapshot) (now : UInt64) :
    (c.restoreSnapshot snapshot now).result = .ok () ↔
      (∃ catalog, Catalog.restore (.restore snapshot.nodes now) snapshot.files snapshot.chunks =
        .ok catalog) ∧ (Registry.restore snapshot.nodes now).TotalsFit := by
  cases hrestore : Catalog.restore (.restore snapshot.nodes now) snapshot.files snapshot.chunks with
  | error what => simp [restoreSnapshot_of_error hrestore, refuse]
  | ok catalog => simp [result_restoreSnapshot_of_ok hrestore]

/-- It is given up if and only if it is not refused and there is none. -/
theorem restoreSnapshot_overflow_iff (c : Cluster) (snapshot : Snapshot) (now : UInt64) :
    (c.restoreSnapshot snapshot now).result = .error .overflow ↔
      (∃ catalog, Catalog.restore (.restore snapshot.nodes now) snapshot.files snapshot.chunks =
        .ok catalog) ∧ ¬(Registry.restore snapshot.nodes now).TotalsFit := by
  cases hrestore : Catalog.restore (.restore snapshot.nodes now) snapshot.files snapshot.chunks with
  | error what => simp [restoreSnapshot_of_error hrestore, refuse]
  | ok catalog => simp [result_restoreSnapshot_of_ok hrestore]

namespace Orderly

/-- A chunk without its file is refused, and nothing else of what a coordinator in good order has
saved. -/
theorem restore_exported_iff (h : s.Orderly) (now : UInt64) :
    (∃ catalog, Catalog.restore (.restore s.store.registry.all now) s.store.catalog.exported.1
      s.store.catalog.exported.2 = .ok catalog) ↔ s.store.catalog.NoStrays := by
  constructor
  · rintro ⟨catalog, hrestore⟩
    have hrestored := Catalog.restored_of_restore hrestore
    obtain rfl := Catalog.eq_of_restore_exported h.sound h.filed hrestore
    refine (Catalog.noStrays_iff h.sound h.filed).2 fun id r hr => ?_
    exact hrestored.in_file r (Catalog.mem_exported.2 ⟨id, hr⟩)
  · intro hstrays
    have hagree := Registry.agree_restore_all h.keyed now
    exact ⟨_, Catalog.restore_exported h.sound h.filed hstrays fun n hn => hagree.isLive n ▸ hn⟩

/-- When a fresh coordinator can be started from a saved state. -/
theorem result_restore (h : s.Orderly) (settings : Settings) (ids : IdSupply) (time now : UInt64) :
    ((Cluster.fresh settings ids).restoreSnapshot (s.exportSnapshot time) now).result = .ok () ↔
      s.store.catalog.NoStrays ∧ s.store.registry.TotalsFit :=
  (result_restoreSnapshot _ _ now).trans
    (and_congr (h.restore_exported_iff now) (Registry.totalsFit_restore_all h.keyed now))

/-- What it has then. -/
theorem takesOver (h : s.Orderly) (hstrays : s.store.catalog.NoStrays) (settings : Settings)
    (ids : IdSupply) (time now : UInt64) :
    s.TakesOver
      ((Cluster.fresh settings ids).restoreSnapshot (s.exportSnapshot time) now).cluster now := by
  obtain ⟨hqueue, hregistry, -⟩ :=
    restart_spec (Cluster.fresh settings ids) settings time now h.sound h.filed rfl
  have hcatalog :=
    catalog_restart (Cluster.fresh settings ids) settings time now h.sound h.keyed h.filed hstrays
  refine ⟨hcatalog, ?_, hqueue, fun time' time'' => ?_⟩
  · exact (congrArg Registry.nodes hregistry).trans
      (congrArg Registry.nodes (Registry.restore_all h.keyed now))
  · have hexported := congrArg Catalog.exported hcatalog
    exact ⟨congrArg Prod.fst hexported, congrArg Prod.snd hexported⟩

end Orderly

end Cluster

/-! ## All along a life -/

namespace Lifetime

/-- Whatever state of a life has been saved, and when, a fresh coordinator is started from it if and
only if no chunk is without its file and the totals of the nodes are words. Unless a chunk is without
its file it takes over all records, and no chunk is if the deletions come to all chunks of their
files. -/
theorem round_trip {settings : Settings} {ids : IdSupply} {steps : List (Cluster × Turn)}
    {c : Cluster} (h : Lifetime (.fresh settings ids) steps c)
    (hinj : Set.InjOn ids.nth (Set.Ioc ids.drawn c.ids.drawn)) :
    (∀ s ∈ c :: steps.map Prod.fst, ∀ (settings' : Settings) (ids' : IdSupply) (time now : UInt64)
        (reply : Reply Unit),
      (Cluster.fresh settings' ids').restoreSnapshot (s.exportSnapshot time) now = reply →
      (reply.result = .ok () ↔ s.store.catalog.NoStrays ∧ s.store.registry.TotalsFit) ∧
        (s.store.catalog.NoStrays → s.TakesOver reply.cluster now)) ∧
      ((∀ s e, (s, .event e) ∈ steps → ¬s.Abandons e) →
        ∀ s ∈ c :: steps.map Prod.fst, s.store.catalog.NoStrays) := by
  refine ⟨fun s hs settings' ids' time now reply hreply => ?_, h.noStrays hinj⟩
  have horderly := (h.annals hinj).orderly s hs
  rw [← hreply]
  exact ⟨horderly.result_restore settings' ids' time now,
    fun hstrays => horderly.takesOver hstrays settings' ids' time now⟩

/-- Of three nodes one fails and one leaves for good, with copies of a file on each. -/
def mixedHealth : List (Cluster → Turn) :=
  [fun _ => .event (.register ⟨"a", "host", 1, 1000⟩ 0),
   fun _ => .event (.register ⟨"b", "host", 1, 1000⟩ 0),
   fun _ => .event (.register ⟨"c", "host", 1, 1000⟩ 0),
   fun _ => .event (.upload ⟨"name", 25, some 10, some 3⟩ 1),
   fun _ => .event (.report ⟨3⟩ "b"),
   fun _ => .event (.report ⟨2⟩ "a"),
   fun _ => .event (.report ⟨2⟩ "c"),
   fun _ => .event (.failNode "b"),
   fun _ => .event (.removeNode "c" true),
   fun s => .event (s.sweepNow 1000)]

/-- Only the node in good health gets a new deadline. -/
theorem round_trip_mixedHealth :
    ((Cluster.fresh .default .counting).restoreSnapshot
        ((played mixedHealth).2.exportSnapshot 2000) 3000).result = .ok () ∧
      (played mixedHealth).2.TakesOver ((Cluster.fresh .default .counting).restoreSnapshot
        ((played mixedHealth).2.exportSnapshot 2000) 3000).cluster 3000 ∧
      (((played mixedHealth).2.store.registry.nodes.map (Registry.restarted 3000)).values.map
        fun n => (n.health, n.lastHeartbeat)) =
        [(.healthy, 3000), (.unhealthy, 0), (.removed, 0)] := by
  have hlife : Lifetime (.fresh .default .counting) (played mixedHealth).1
      (played mixedHealth).2 := by
    refine of_played fun choose hchoose s => ?_
    simp only [mixedHealth, List.mem_cons, List.not_mem_nil, or_false] at hchoose
    rcases hchoose with rfl | rfl | rfl | rfl | rfl | rfl | rfl | rfl | rfl | rfl
    case inr.inr.inr.inr.inr.inr.inr.inr.inr =>
      exact ⟨⟨s, List.mem_singleton_self s, .refl _⟩, s, List.mem_singleton_self s, .refl _⟩
    all_goals trivial
  have hdrawn : (played mixedHealth).2.ids.drawn = 4 := by decide +kernel
  have hinj : Set.InjOn IdSupply.counting.nth (Set.Ioc 0 (played mixedHealth).2.ids.drawn) := by
    rw [hdrawn]
    exact IdSupply.injOn_counting (by decide)
  have hwhole : ∀ s e, (s, .event e) ∈ (played mixedHealth).1 → ¬s.Abandons e :=
    forall_play (by simp [mixedHealth, Cluster.sweepNow, Cluster.Abandons])
  obtain ⟨hrestored, hstrays⟩ := round_trip hlife hinj
  have hwhole := hstrays hwhole _ List.mem_cons_self
  obtain ⟨hresult, htakes⟩ := hrestored _ List.mem_cons_self .default .counting 2000 3000 _ rfl
  exact ⟨hresult.2 ⟨hwhole, by decide +kernel⟩, htakes hwhole, by decide +kernel⟩

/-- Two nodes of `2 ^ 63` bytes each. -/
def hugeNodes : List (Cluster → Turn) :=
  [fun _ => .event (.register ⟨"a", "host", 1, 0x8000000000000000⟩ 0),
   fun _ => .event (.register ⟨"b", "host", 1, 0x8000000000000000⟩ 0)]

/-- Their total is no word, and no coordinator can be started from their records. -/
theorem exists_not_restored :
    ¬∀ (settings : Settings) (ids : IdSupply) (steps : List (Cluster × Turn)) (c : Cluster),
      Lifetime (.fresh settings ids) steps c → Set.InjOn ids.nth (Set.Ioc ids.drawn c.ids.drawn) →
      ∀ s ∈ c :: steps.map Prod.fst, ∀ (settings' : Settings) (ids' : IdSupply) (time now : UInt64),
        ((Cluster.fresh settings' ids').restoreSnapshot (s.exportSnapshot time) now).result =
          .ok () := by
  intro h
  have hlife : Lifetime (.fresh .default .counting) (played hugeNodes).1 (played hugeNodes).2 :=
    of_played (by simp [hugeNodes, Turn.ReadFrom, Event.ReadFrom])
  have hdrawn : (played hugeNodes).2.ids.drawn = 0 := by decide +kernel
  have hok := h _ _ _ _ hlife (by rw [hdrawn]; exact IdSupply.injOn_counting (by decide)) _
    List.mem_cons_self .default .counting 0 0
  have hgiven : ((Cluster.fresh .default .counting).restoreSnapshot
      ((played hugeNodes).2.exportSnapshot 0) 0).result = .error .overflow := by
    decide +kernel
  rw [hgiven] at hok
  cases hok

end Lifetime

end ChunkCoordinator
