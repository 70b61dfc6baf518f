import ChunkCoordinator.Proofs.Lifetime
import ChunkCoordinator.Proofs.Ranking

/-!
# The order of records does not matter to a sweep

The records that a sweep works on come in any order. It visits the chunks by their age and place, in
which no two of them tie (`sortedBy_isLE_of_perm`), and looks up chunks and nodes by name
(`Survey.ofRecords_of_perm`). The choice of targets breaks every tie of loads by name, so two passes
whose healthy nodes have the same room left, but are listed in different order
(`Progress.Rearranged`), stay so at every chunk and come to the same findings
(`Survey.findingsFrom_of_perm`).

All this needs records that can be told apart (`Repair.ToldApart`). Those of a coordinator can:
a new file has a new identifier, and its chunks are numbered (`Store.Placed`).
`Queue.sweep_unordered` is the main statement.
-/

set_option linter.unusedSectionVars false

namespace ChunkCoordinator

/-! ## Tables and sorted lists -/

/-- The entries of a table may be put in in any order if their keys differ. -/
theorem Table.ofList_of_perm {κ ν : Type} [Ord κ] [Std.TransOrd κ] [Std.LawfulEqOrd κ]
    {l l' : List (κ × ν)} (hl : (l.map Prod.fst).Nodup) (h : l'.Perm l) : ofList l' = ofList l := by
  have hl' : (l'.map Prod.fst).Nodup := (h.map Prod.fst).nodup_iff.2 hl
  refine ext_get? fun k => Option.ext fun v => ?_
  rw [get?_ofList hl', get?_ofList hl, h.mem_iff]

/-- A list without ties is sorted in one way only. -/
theorem sortedBy_isLE_of_perm {α : Type} {cmp : α → α → Ordering} [Std.TransCmp cmp]
    {l l' : List α} (hl : ∀ a ∈ l, ∀ b ∈ l, cmp a b = .eq → a = b) (h : l'.Perm l) :
    sortedBy (fun a b => (cmp a b).isLE) l' = sortedBy (fun a b => (cmp a b).isLE) l := by
  have hmem : ∀ {a}, a ∈ sortedBy (fun a b => (cmp a b).isLE) l → a ∈ l :=
    fun ha => (perm_sortedBy _ l).subset ha
  have hmem' : ∀ {a}, a ∈ sortedBy (fun a b => (cmp a b).isLE) l' → a ∈ l :=
    fun ha => h.subset ((perm_sortedBy _ l').subset ha)
  refine List.Perm.eq_of_pairwise (fun a b ha hb hab hba => ?_) (pairwise_sortedBy_isLE cmp l')
    (pairwise_sortedBy_isLE cmp l) ((perm_sortedBy _ l').trans (h.trans (perm_sortedBy _ l).symm))
  exact hl a (hmem' ha) b (hmem hb) (Std.OrientedCmp.isLE_antisymm hab hba)

/-- When a chunk was created, in which file, and where in the file it is. -/
def ChunkRecord.turn (c : ChunkRecord) : UInt64 × FileId × UInt64 := (c.createdAt, c.file, c.index)

/-- By age only chunks with the same turn tie. -/
theorem ChunkRecord.sortedBy_leByAge_of_perm {l l' : List ChunkRecord}
    (hl : (l.map ChunkRecord.turn).Nodup) (h : l'.Perm l) :
    sortedBy leByAge l' = sortedBy leByAge l := by
  have hle : leByAge = fun a b => (compareLex (compareOn createdAt)
      (compareLex (compareOn file) (compareOn index)) a b).isLE := rfl
  rw [hle]
  refine sortedBy_isLE_of_perm (fun a ha b hb htie => ?_) h
  obtain ⟨hcreated, hplace⟩ := compareLex_eq_eq.1 htie
  obtain ⟨hfile, hindex⟩ := compareLex_eq_eq.1 hplace
  refine List.inj_on_of_nodup_map hl ha hb ?_
  rw [turn, turn, Std.LawfulEqOrd.eq_of_compare hcreated, Std.LawfulEqOrd.eq_of_compare hfile,
    Std.LawfulEqOrd.eq_of_compare hindex]

/-! ## One pass over the chunks -/

namespace Progress

/-- The second pass has the same nodes with the same room, listed in another order, and agrees with
the first in all else. -/
def Rearranged (p p' : Progress) : Prop := ∃ room, room.Perm p.room ∧ p' = { p with room }

end Progress

namespace Survey

variable (s : Survey)

/-- What a sweep finds out if it lists the healthy nodes in the given order. -/
def findingsFrom (room : List Node) : Findings :=
  let p := s.scanned.foldl s.visit { s.start with room }
  { completed := s.withVerdict .completed
    expired := s.withVerdict .expired
    emitted := p.emitted
    unrecoverable := p.unrecoverable
    shortOfTargets := p.shortOfTargets }

theorem findings_eq_findingsFrom : s.findings = s.findingsFrom s.healthy.values := rfl

variable {s} {p p' : Progress}

/-- Both passes choose the same nodes for a chunk. -/
theorem rearranged_visit (h : p.Rearranged p') (c : ChunkRecord) :
    (s.visit p c).Rearranged (s.visit p' c) := by
  obtain ⟨room, hroom, rfl⟩ := h
  have htargets : ∀ count exclude, Placement.chooseTargets room count exclude c.size =
      Placement.chooseTargets p.room count exclude c.size :=
    fun count exclude => Placement.chooseTargets_of_perm hroom count exclude c.size
  unfold visit
  dsimp only
  split
  · exact ⟨room, hroom, rfl⟩
  split
  · exact ⟨room, hroom, rfl⟩
  · rw [htargets]
    exact ⟨_, hroom.map _, rfl⟩

theorem rearranged_foldl (cs : List ChunkRecord) (h : p.Rearranged p') :
    (cs.foldl s.visit p).Rearranged (cs.foldl s.visit p') := by
  induction cs generalizing p p' with
  | nil => exact h
  | cons c cs ih => exact ih (rearranged_visit h c)

/-- The healthy nodes may be listed in any order. -/
theorem findingsFrom_of_perm {room room' : List Node} (h : room'.Perm room) :
    s.findingsFrom room' = s.findingsFrom room := by
  have hstart : Progress.Rearranged { s.start with room } { s.start with room := room' } :=
    ⟨room', h, rfl⟩
  obtain ⟨left, -, heq⟩ := rearranged_foldl s.scanned hstart
  unfold findingsFrom
  rw [heq]

end Survey

/-! ## Any order of records -/

namespace Repair

/-- No two chunks have the same identifier or the same turn, and no two nodes the same name. -/
structure ToldApart (chunks : List ChunkRecord) (nodes : List Node) : Prop where
  ids : (chunks.map ChunkRecord.id).Nodup
  turns : (chunks.map ChunkRecord.turn).Nodup
  names : (nodes.map Node.id).Nodup

end Repair

open Repair

variable {chunks chunks' : List ChunkRecord} {nodes nodes' : List Node} {now ttl : UInt64}

/-- Look-ups in a survey do not depend on the order of the records. -/
theorem Survey.ofRecords_of_perm (h : ToldApart chunks nodes) (hchunks : chunks'.Perm chunks)
    (hnodes : nodes'.Perm nodes) (pending : Table CopyKey Instruction) (now ttl : UInt64) :
    ofRecords chunks' nodes' pending now ttl =
      { ofRecords chunks nodes pending now ttl with chunks := chunks' } := by
  have hids : ((chunks.map fun c => (c.id, c)).map Prod.fst).Nodup := by
    simpa [Function.comp_def] using h.ids
  have hnames : (((nodes.filter Node.isHealthy).map fun n => (n.id, n)).map Prod.fst).Nodup := by
    simpa [Function.comp_def] using h.names.sublist (List.filter_sublist.map Node.id)
  unfold ofRecords
  rw [Table.ofList_of_perm hids (hchunks.map _),
    Table.ofList_of_perm hnames ((hnodes.filter _).map _)]

/-- So it finds the same. -/
theorem Survey.findings_of_perm (h : ToldApart chunks nodes) (hchunks : chunks'.Perm chunks)
    (hnodes : nodes'.Perm nodes) (pending : Table CopyKey Instruction) (now ttl : UInt64) :
    (ofRecords chunks' nodes' pending now ttl).findings =
      (ofRecords chunks nodes pending now ttl).findings := by
  have hscanned : sortedBy ChunkRecord.leByAge chunks' = sortedBy ChunkRecord.leByAge chunks :=
    ChunkRecord.sortedBy_leByAge_of_perm h.turns hchunks
  rw [ofRecords_of_perm h hchunks hnodes]
  -- the list of chunks is read only to be sorted
  have hread : ∀ s : Survey, ({ s with chunks := chunks' } : Survey).findings =
      let p := (sortedBy ChunkRecord.leByAge chunks').foldl s.visit s.start
      ⟨s.withVerdict .completed, s.withVerdict .expired, p.emitted, p.unrecoverable,
        p.shortOfTargets⟩ := fun _ => rfl
  rw [hread, hscanned]
  rfl

/-- A sweep of the queue gives the same report and leaves the same queue. -/
theorem Queue.sweep_of_perm (q : Queue) (h : ToldApart chunks nodes) (hchunks : chunks'.Perm chunks)
    (hnodes : nodes'.Perm nodes) (now ttl : UInt64) :
    q.sweep chunks' nodes' now ttl = q.sweep chunks nodes now ttl := by
  have hfindings := Survey.findings_of_perm h hchunks hnodes q.pending now ttl
  unfold sweep begin
  split
  · rfl
  · simp only [Except.map, hfindings]

/-- A sweep of the coordinator gives the same answer and leaves the same state. -/
theorem Cluster.sweepOver_of_perm (c : Cluster) (h : ToldApart chunks nodes)
    (hchunks : chunks'.Perm chunks) (hnodes : nodes'.Perm nodes) (now : UInt64) :
    c.sweepOver chunks' nodes' now = c.sweepOver chunks nodes now := by
  have hfindings :=
    Survey.findings_of_perm h hchunks hnodes c.queue.pending now c.settings.instructionTtl
  unfold sweepOver beginSweep Queue.begin
  cases c.queue.sweeping with
  | true => rfl
  | false => simp [answer, hfindings]

/-! ## The records of a coordinator -/

/-- No two chunks have the same place in the same file. -/
def Store.Placed (s : Store) : Prop := ∀ id r id' r', s.chunk? id = some r → s.chunk? id' = some r' →
  r.file = r'.file → r.index = r'.index → id = id'

namespace Store.Placed

variable {s s' : Store}

theorem of_alike (h : s.Placed) (halike : Catalog.Alike s.catalog s'.catalog) : s'.Placed := by
  intro id r id' r' hr hr' hfile hindex
  obtain ⟨old, hold, hbare⟩ := halike.exists_old hr
  obtain ⟨old', hold', hbare'⟩ := halike.exists_old hr'
  have hplace : ∀ {a b : ChunkRecord}, a.bare = b.bare → a.file = b.file ∧ a.index = b.index :=
    fun heq => ⟨ChunkRecord.eq_of_bare heq fun _ => rfl, ChunkRecord.eq_of_bare heq fun _ => rfl⟩
  obtain ⟨hfile₁, hindex₁⟩ := hplace hbare
  obtain ⟨hfile₂, hindex₂⟩ := hplace hbare'
  exact h id old id' old' hold hold' (hfile₁.trans (hfile.trans hfile₂.symm))
    (hindex₁.trans (hindex.trans hindex₂.symm))

/-- The chunks of a new file are numbered, and the file is a new one. -/
theorem createFile (h : s.Placed) {ids ids' : IdSupply} {file : FileRecord}
    {chunks : List ChunkRecord} (hcreated : Created s ids file chunks s' ids')
    (hnew : ∀ id r, s.chunk? id = some r → r.file ≠ file.id) : s'.Placed := by
  have hindices : (chunks.map fun r => r.index.toNat).Nodup := by
    rw [hcreated.complete.indices]
    exact List.nodup_range
  intro id r id' r' hr hr' hfile hindex
  rcases hcreated.chunk?_cases hr with ⟨hmem, rfl⟩ | hold <;>
    rcases hcreated.chunk?_cases hr' with ⟨hmem', rfl⟩ | hold'
  · rw [List.inj_on_of_nodup_map hindices hmem hmem' (congrArg UInt64.toNat hindex)]
  · exact absurd (hfile.symm.trans (hcreated.complete.in_file r hmem)) (hnew id' r' hold')
  · exact absurd (hfile.trans (hcreated.complete.in_file r' hmem')) (hnew id r hold)
  · exact h id r id' r' hold hold' hfile hindex

theorem of_chunk? (h : s.Placed) (hkept : ∀ id r, s'.chunk? id = some r → s.chunk? id = some r) :
    s'.Placed :=
  fun id r id' r' hr hr' => h id r id' r' (hkept id r hr) (hkept id' r' hr')

end Store.Placed

/-- All along a life chunks have places of their own. -/
theorem Lifetime.placed {settings : Settings} {ids : IdSupply} {steps : List (Cluster × Turn)}
    {c : Cluster} (h : Lifetime (.fresh settings ids) steps c)
    (hinj : Set.InjOn ids.nth (Set.Ioc ids.drawn c.ids.drawn)) :
    ∀ s ∈ c :: steps.map Prod.fst, s.store.Placed := by
  refine h.always hinj ?_ ?_ ?_
  · intro id r id' r' hr
    cases hr
  · intro states s e _ happening hplaced
    have hsound := happening.orderly.sound
    rcases (Cluster.effect_after s e).catalog_cases hsound with halike |
      ⟨file, chunks, hcreated⟩ | ⟨file, -, hdeleted⟩
    · exact hplaced.of_alike halike
    · exact hplaced.createFile hcreated fun id r => happening.fresh.file_ne hcreated
    · exact hplaced.of_chunk? fun id r hr => ((hdeleted.chunk?_iff id r).1 hr).1
  · intro s saved settings time now horderly hplaced
    exact hplaced.of_chunk? fun id r => horderly.chunk?_of_restart

/-- Records that are read from a coordinator in good order can be told apart. -/
theorem Cluster.Orderly.toldApart {c : Cluster} (h : c.Orderly) (hplaced : c.store.Placed) :
    ToldApart c.store.catalog.allChunks c.store.registry.all where
  ids := h.sound.nodup_allChunks
  turns := by
    refine (List.nodup_map_iff_inj_on (h.sound.nodup_allChunks.of_map _)).2 fun r hr r' hr' heq => ?_
    obtain ⟨id, hid⟩ := Store.mem_allChunks.1 hr
    obtain ⟨id', hid'⟩ := Store.mem_allChunks.1 hr'
    obtain ⟨-, hplace⟩ := Prod.mk.inj heq
    obtain ⟨hfile, hindex⟩ := Prod.mk.inj hplace
    rw [hplaced id r id' r' hid hid' hfile hindex] at hid
    exact Option.some.inj (hid.symm.trans hid')
  names := h.keyed.nodup_all

/-- Whatever the queue, a sweep over records that can be told apart gives the same report and leaves
the same queue in whatever order chunks and nodes come, and whatever the order in which it lists the
healthy nodes. All along a life that draws no identifier twice, the records of the coordinator can be
told apart, so that its sweeps do not depend on how they are read. -/
theorem Queue.sweep_unordered :
    (∀ (q : Queue) (chunks chunks' : List ChunkRecord) (nodes nodes' : List Node) (now ttl : UInt64),
      ToldApart chunks nodes → chunks'.Perm chunks → nodes'.Perm nodes →
      q.sweep chunks' nodes' now ttl = q.sweep chunks nodes now ttl ∧
        ∀ room, room.Perm (Survey.ofRecords chunks nodes q.pending now ttl).healthy.values →
          (Survey.ofRecords chunks nodes q.pending now ttl).findingsFrom room =
            (Survey.ofRecords chunks nodes q.pending now ttl).findings) ∧
      ∀ (settings : Settings) (ids : IdSupply) (steps : List (Cluster × Turn)) (c : Cluster),
        Lifetime (.fresh settings ids) steps c →
        Set.InjOn ids.nth (Set.Ioc ids.drawn c.ids.drawn) → ∀ s ∈ c :: steps.map Prod.fst,
        ToldApart s.store.catalog.allChunks s.store.registry.all ∧
          ∀ chunks' nodes' now, chunks'.Perm s.store.catalog.allChunks →
            nodes'.Perm s.store.registry.all → s.sweepOver chunks' nodes' now = s.sweep now := by
  constructor
  · intro q chunks chunks' nodes nodes' now ttl htold hchunks hnodes
    refine ⟨q.sweep_of_perm htold hchunks hnodes now ttl, fun room hroom => ?_⟩
    rw [Survey.findings_eq_findingsFrom, Survey.findingsFrom_of_perm hroom]
  · intro settings ids steps c hlife hinj s hs
    have htold := ((hlife.annals hinj).orderly s hs).toldApart (hlife.placed hinj s hs)
    exact ⟨htold, fun chunks' nodes' now hchunks hnodes =>
      s.sweepOver_of_perm htold hchunks hnodes now⟩

/-- A chunk of a file, of which one node holds the first of two copies. -/
def uncopied (n : Nat) : ChunkRecord where
  id := ⟨n⟩
  file := ⟨9⟩
  index := .ofNat n
  size := 10
  desired := 2
  replicas := .ofKeys ["a"]
  expected := .ofKeys ["a"]
  createdAt := 0

/-- The holder and two nodes with the same load. -/
def equalLoads : List Node :=
  [⟨"a", "host", 1, 100, 80, .healthy, 0, 0⟩, ⟨"b", "host", 1, 100, 50, .healthy, 0, 0⟩,
   ⟨"c", "host", 1, 100, 50, .healthy, 0, 0⟩]

/-- Three nodes and a file of two chunks. -/
def twoChunks : List (Cluster → Turn) :=
  [fun _ => .event (.register ⟨"a", "host", 1, 100⟩ 0),
   fun _ => .event (.register ⟨"b", "host", 1, 100⟩ 0),
   fun _ => .event (.register ⟨"c", "host", 1, 100⟩ 0),
   fun _ => .event (.upload ⟨"name", 20, some 10, some 2⟩ 0)]

/-- Chunks of the same age and nodes with the same load come in reverse, and the older chunk still
gets the first node. -/
theorem Queue.sweep_unordered_equalLoads :
    (empty.sweep [uncopied 2, uncopied 1] equalLoads.reverse 100 30 =
        empty.sweep [uncopied 1, uncopied 2] equalLoads 100 30 ∧
      (empty.sweep [uncopied 2, uncopied 1] equalLoads.reverse 100 30).toOption.map
        (fun r => r.1.emitted.map Instruction.key) = some [⟨⟨1⟩, "b"⟩, ⟨⟨2⟩, "c"⟩] ∧
      (Survey.ofRecords [uncopied 1, uncopied 2] equalLoads .empty 100 30).findingsFrom
          equalLoads.reverse =
        (Survey.ofRecords [uncopied 1, uncopied 2] equalLoads .empty 100 30).findings) ∧
      (Lifetime.played twoChunks).2.store.catalog.allChunks.map ChunkRecord.turn =
        [(0, ⟨1⟩, 0), (0, ⟨1⟩, 1)] ∧
      (Lifetime.played twoChunks).2.sweepOver
          (Lifetime.played twoChunks).2.store.catalog.allChunks.reverse
          (Lifetime.played twoChunks).2.store.registry.all.reverse 1000 =
        (Lifetime.played twoChunks).2.sweep 1000 := by
  have htold : ToldApart [uncopied 1, uncopied 2] equalLoads :=
    ⟨by decide, by decide, by decide⟩
  have hlife : Lifetime (.fresh .default .counting) (Lifetime.played twoChunks).1
      (Lifetime.played twoChunks).2 :=
    Lifetime.of_played (by simp [twoChunks, Turn.ReadFrom, Event.ReadFrom])
  have hdrawn : (Lifetime.played twoChunks).2.ids.drawn = 3 := by decide +kernel
  have hinj : Set.InjOn IdSupply.counting.nth
      (Set.Ioc 0 (Lifetime.played twoChunks).2.ids.drawn) := by
    rw [hdrawn]
    exact IdSupply.injOn_counting (by decide)
  obtain ⟨hqueue, hcluster⟩ := sweep_unordered
  obtain ⟨hsweep, hroom⟩ := hqueue .empty _ _ _ _ 100 30 htold (.swap _ _ []) (List.reverse_perm _)
  have hhealthy : (Survey.ofRecords [uncopied 1, uncopied 2] equalLoads .empty 100 30).healthy.values
      = equalLoads := by decide +kernel
  have hfindings := hroom equalLoads.reverse (hhealthy ▸ List.reverse_perm _)
  refine ⟨⟨hsweep, by decide +kernel, hfindings⟩, by decide +kernel, ?_⟩
  exact (hcluster _ _ _ _ hlife hinj _ List.mem_cons_self).2 _ _ 1000 (List.reverse_perm _)
    (List.reverse_perm _)

end ChunkCoordinator
