import ChunkCoordinator.Proofs.Loading

/-!
# Snapshots read in two steps

A coordinator is saved while it serves requests : its files and chunks are read first and its nodes
afterwards, and whatever is asked in between is done in between (`Cluster.exportAcross`). The chunks
are then those of one state and the nodes those of a later one.

Such a snapshot is loaded as well as one that is read at once, unless a node that held a copy at the
first reading is out of service at the second (`Cluster.Orderly.admissible_across_iff`). Only the
removal of the node brings that about. Every other request may come between the readings, in any
number and order (`Lifetime.torn_load_iff`).
-/

set_option linter.unusedSectionVars false

namespace ChunkCoordinator

namespace Cluster

open Store

variable {b c : Cluster}

/-- The snapshot of files and chunks that are read in one state and of nodes that are read in
another. -/
def exportAcross (b c : Cluster) (time : UInt64) : Snapshot :=
  { b.exportSnapshot time with nodes := c.store.registry.all }

/-- A chunk has a copy on the node. -/
def CopyOn (c : Cluster) (n : NodeId) : Prop :=
  ∃ id r, c.store.chunk? id = some r ∧ r.replicas.contains n

theorem serves_exportAcross (hc : c.store.registry.Keyed) (time : UInt64) (n : NodeId) :
    (b.exportAcross c time).serves n = c.store.registry.isLive n := by
  rw [← (b.exportAcross c time).isLive_restore 0]
  exact (Registry.agree_restore_all hc 0).isLive n

namespace Orderly

theorem file?_exportAcross (hb : b.Orderly) (c : Cluster) (time : UInt64) (id : FileId) :
    (b.exportAcross c time).file? id = b.store.catalog.files.get? id := by
  rw [← Snapshot.get?_ofFiles]
  exact congrArg (fun files => Table.get? files id)
    ((Table.ofList_values hb.filed.named fun file => file).trans (Table.map_id _))

/-- Only two things are wrong with such a snapshot, if any. A chunk may be without its file, and a
copy may be on a node that has since gone out of service. -/
theorem admissible_across_iff (hb : b.Orderly) (hc : c.store.registry.Keyed) (time : UInt64) :
    (b.exportAcross c time).Admissible ↔
      b.store.catalog.NoStrays ∧ ∀ n, b.CopyOn n → c.store.registry.isLive n := by
  rw [Catalog.noStrays_iff hb.sound hb.filed]
  constructor
  · intro h
    have hadmits : ∀ id r, b.store.chunk? id = some r → (b.exportAcross c time).Admits r :=
      fun id r hr => h.admits r (Catalog.mem_exported.2 ⟨id, hr⟩)
    refine ⟨fun id r hr => ?_, fun n ⟨id, r, hr, hn⟩ => ?_⟩
    · obtain ⟨file, hfile, -⟩ := (hadmits id r hr).placed
      rw [hb.file?_exportAcross] at hfile
      exact Table.contains_of_get? hfile
    · rw [← serves_exportAcross hc time]
      exact (hadmits id r hr).copies n hn
  · rintro ⟨hstored, hlive⟩
    refine ⟨fun r hr => ?_, Catalog.nodup_exported hb.sound⟩
    obtain ⟨id, hid⟩ := Catalog.mem_exported.1 hr
    obtain ⟨file, hfile, hindex⟩ := hb.filed.placed hid (hstored id r hid)
    refine ⟨⟨file, ?_, hindex⟩, fun n hn => ?_⟩
    · rw [hb.file?_exportAcross, hfile]
    · rw [serves_exportAcross hc]
      exact hlive n ⟨id, r, hid, hn⟩

/-- A node with a copy is in service. -/
theorem isLive_of_copyOn (hb : b.Orderly) {n : NodeId} (h : b.CopyOn n) :
    b.store.registry.isLive n := by
  obtain ⟨id, r, hr, hn⟩ := h
  exact (hb.sound.fits id r hr).replica_live hn

end Orderly

end Cluster

namespace Lifetime

variable {settings : Settings} {ids : IdSupply} {steps : List (Cluster × Turn)}
  {later : List (Cluster × Event)} {b c : Cluster}

theorem savedSince_turns : ∀ later : List (Cluster × Event), SavedSince (Run.turns later)
  | [] => trivial
  | _ :: later => savedSince_turns later

/-- A node stays in service unless it is removed. -/
theorem isLive_since (hb : Lifetime (.fresh settings ids) steps b)
    (h : Lifetime (.fresh settings ids) (Run.turns later ++ steps) c)
    (hinj : Set.InjOn ids.nth (Set.Ioc ids.drawn c.ids.drawn)) {n : NodeId}
    (hlive : b.store.registry.isLive n) (hno : ∀ s e, (s, e) ∈ later → ¬s.Removes n e) :
    c.store.registry.isLive n := by
  refine hb.since (P := fun s => s.store.registry.isLive n) hlive h hinj (savedSince_turns later)
    ?_ ?_ c List.mem_cons_self
  · intro states s e hstep happening _ hs
    refine ((Cluster.effect_after s e).isLive happening.orderly.sound hs).resolve_right ?_
    exact hno s e (Run.mem_turns.1 hstep)
  · intro s saved settings' time now hstep
    obtain ⟨_, _, heq⟩ := List.mem_map.1 hstep
    cases (Prod.mk.inj heq).2

/-- The files and chunks of one state and the nodes of a later one are loaded if and only if no
chunk is without its file, the totals of the nodes are words, and all nodes that had a copy are
still in service. They are unless one of them has been removed in the meantime. -/
theorem torn_load_iff (hb : Lifetime (.fresh settings ids) steps b)
    (h : Lifetime (.fresh settings ids) (Run.turns later ++ steps) c)
    (hinj : Set.InjOn ids.nth (Set.Ioc ids.drawn c.ids.drawn)) :
    (∀ (settings' : Settings) (ids' : IdSupply) (time now : UInt64),
      ((Cluster.fresh settings' ids').restoreSnapshot (b.exportAcross c time) now).result = .ok () ↔
        b.store.catalog.NoStrays ∧ c.store.registry.TotalsFit ∧
          ∀ n, b.CopyOn n → c.store.registry.isLive n) ∧
      ∀ n, b.CopyOn n → (∀ s e, (s, e) ∈ later → ¬s.Removes n e) → c.store.registry.isLive n := by
  have hannals := h.annals hinj
  obtain ⟨b', hb', hle⟩ := h.of_append
  obtain rfl := hb.eq_of_steps hb'
  have hbannals := hb.annals (injOn_of_le hle hinj)
  have horderly := hbannals.orderly b hbannals.last
  have hkeyed := (hannals.orderly c hannals.last).keyed
  refine ⟨fun settings' ids' time now => ?_, fun n hn hno => ?_⟩
  · rw [Cluster.result_load_iff, horderly.admissible_across_iff hkeyed, and_assoc,
      and_comm (b := Registry.TotalsFit _)]
    exact and_congr_right fun _ => and_congr_left fun _ => Registry.totalsFit_restore_all hkeyed now
  · exact isLive_since hb h hinj (horderly.isLive_of_copyOn hn) hno

/-- Two nodes have copies of a file when it is read. -/
def firstReading : List (Cluster → Turn) :=
  [fun _ => .event (.register ⟨"a", "host", 1, 1000⟩ 0),
   fun _ => .event (.register ⟨"b", "host", 1, 1000⟩ 0),
   fun _ => .event (.upload ⟨"name", 20, some 10, some 2⟩ 1),
   fun _ => .event (.report ⟨2⟩ "a"),
   fun _ => .event (.report ⟨3⟩ "b")]

theorem life_firstReading :
    Lifetime (.fresh .default .counting) (played firstReading).1 (played firstReading).2 :=
  of_played (by simp [firstReading, Turn.ReadFrom, Event.ReadFrom])

/-- A third node comes, one of the two fails, and a sweep has its copies made elsewhere. In the end
the file is deleted and the third node removed. -/
def betweenReadings : List (Cluster → Event) :=
  [fun _ => .register ⟨"c", "host", 1, 1000⟩ 2,
   fun _ => .failNode "b",
   fun s => s.sweepNow 1000,
   fun _ => .report ⟨3⟩ "c",
   fun _ => .deleteFile ⟨1⟩,
   fun _ => .removeNode "c" false]

/-- What is read is loaded. -/
theorem torn_load_betweenReadings :
    ((Cluster.fresh .default .counting).restoreSnapshot ((played firstReading).2.exportAcross
      (Run.play [] (played firstReading).2 betweenReadings).2 2000) 3000).result = .ok () := by
  have hb := life_firstReading
  have hlater : Run (played firstReading).2 (Run.play [] (played firstReading).2 betweenReadings).1
      (Run.play [] (played firstReading).2 betweenReadings).2 :=
    Run.of_play betweenReadings .nil
      (by simp [betweenReadings, Event.ReadFrom, Cluster.sweepNow])
  have hdrawn : (played firstReading).2.ids.drawn = 3 ∧
      (Run.play [] (played firstReading).2 betweenReadings).2.ids.drawn = 3 := by decide +kernel
  have hinj : Set.InjOn IdSupply.counting.nth (Set.Ioc 0 3) := IdSupply.injOn_counting (by decide)
  have hwhole : ∀ s e, (s, .event e) ∈ (played firstReading).1 → ¬s.Abandons e :=
    forall_play (by simp [firstReading, Cluster.Abandons])
  obtain ⟨hloaded, hserved⟩ := torn_load_iff hb (hb.append hlater.lifetime) (hdrawn.2.symm ▸ hinj)
  refine (hloaded .default .counting 2000 3000).2 ⟨?_, by decide +kernel, fun n hn => ?_⟩
  · exact hb.noStrays (hdrawn.1.symm ▸ hinj) hwhole _ List.mem_cons_self
  · -- the only node that is removed had no copy at the first reading
    refine hserved n hn ?_
    rintro s e hstep ⟨⟨force, heq⟩, -⟩
    have hannals := hb.annals (hdrawn.1.symm ▸ hinj)
    have hlive := (hannals.orderly _ hannals.last).isLive_of_copyOn hn
    obtain ⟨choose, hchoose, rfl⟩ :=
      (Run.mem_play betweenReadings [] _ hstep).resolve_left List.not_mem_nil
    have hn : n = "c" := by
      simp only [betweenReadings, List.mem_cons, List.not_mem_nil, or_false] at hchoose
      rcases hchoose with rfl | rfl | rfl | rfl | rfl | rfl <;> cases heq
      rfl
    have hnew : (played firstReading).2.store.registry.isLive "c" = false := by decide +kernel
    rw [hn, hnew] at hlive
    cases hlive

/-- If a node with a copy is removed between the readings, what is read is refused. -/
theorem exists_torn_refused :
    ¬∀ (settings : Settings) (ids : IdSupply) (steps : List (Cluster × Turn))
        (later : List (Cluster × Event)) (b c : Cluster),
      Lifetime (.fresh settings ids) steps b →
      Lifetime (.fresh settings ids) (Run.turns later ++ steps) c →
      Set.InjOn ids.nth (Set.Ioc ids.drawn c.ids.drawn) →
      ∀ (settings' : Settings) (ids' : IdSupply) (time now : UInt64),
        ((Cluster.fresh settings' ids').restoreSnapshot (b.exportAcross c time) now).result =
          .ok () := by
  intro h
  have hb := life_firstReading
  have hlater : Run (played firstReading).2
      [((played firstReading).2, .removeNode "a" true)] _ := .cons .nil trivial
  have hdrawn : ((played firstReading).2.after (.removeNode "a" true)).ids.drawn = 3 := by
    decide +kernel
  have hok := h _ _ _ _ _ _ hb (hb.append hlater.lifetime)
    (by rw [hdrawn]; exact IdSupply.injOn_counting (by decide)) .default .counting 2000 3000
  have hrefused : ((Cluster.fresh .default .counting).restoreSnapshot
      ((played firstReading).2.exportAcross
        ((played firstReading).2.after (.removeNode "a" true)) 2000) 3000).refusal?.isSome := by
    decide +kernel
  rw [Reply.refusal?, hok] at hrefused
  cases hrefused

end Lifetime

end ChunkCoordinator
