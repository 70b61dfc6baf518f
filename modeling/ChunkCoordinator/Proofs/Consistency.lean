import ChunkCoordinator.Proofs.Run

/-!
# Chunks, nodes and the queue stay consistent

In every state of a run the nodes that a chunk names are in service, and a node with a copy is one
that the chunk expects. A pending instruction is founded (`Store.Founds`) if it copies a stored
chunk, as it is recorded, to a node in service that the chunk expects. Every event leaves the
instructions founded (`Cluster.PendingFounded.step`), sweeps over outdated records included, but for
a deletion that stops halfway after it has dropped a chunk with a pending instruction
(`Cluster.Orphans`). `Run.consistent` says that they are founded all along a run if and only if
there is no such deletion.
-/

set_option linter.unusedSectionVars false

namespace ChunkCoordinator

/-! ## Consistent states -/

theorem Instruction.Names.of_bare {i : Instruction} {r r' : ChunkRecord} (h : i.Names r)
    (hbare : r.bare = r'.bare) : i.Names r' := by
  simp only [ChunkRecord.bare, ChunkRecord.mk.injEq] at hbare
  obtain ⟨hid, hfile, hindex, hsize, -⟩ := hbare
  rwa [Instruction.Names, hid, hfile, hindex, hsize] at h

/-- The instruction copies a stored chunk to a node in service that the chunk expects. -/
def Store.Founds (s : Store) (key : CopyKey) (i : Instruction) : Prop :=
  i.key = key ∧ s.registry.isLive key.target ∧
    ∃ r, s.chunk? key.chunk = some r ∧ i.Names r ∧ r.expected.contains key.target

namespace Cluster

/-- The nodes that a stored chunk names are in service. -/
def NodesInService (c : Cluster) : Prop := ∀ id r, c.store.chunk? id = some r →
  ∀ n, r.replicas.contains n ∨ r.expected.contains n → c.store.registry.isLive n

/-- A node with a copy of a chunk is one that the chunk expects. -/
def CopiesExpected (c : Cluster) : Prop := ∀ id r, c.store.chunk? id = some r →
  ∀ n, r.replicas.contains n → r.expected.contains n

/-- Every pending instruction is founded. -/
def PendingFounded (c : Cluster) : Prop :=
  ∀ key i, c.queue.pending.get? key = some i → c.store.Founds key i

/-- The event is a deletion that stops halfway, and it drops a chunk with a pending instruction. -/
def Orphans (c : Cluster) : Event → Prop
  | .deleteFile file =>
    2 ^ 64 ≤ copiedBytes (c.store.catalog.recordsOf file) ∧
      Store.Deletion.Meets (fun _ r => ∃ target, c.queue.pending.contains ⟨r.id, target⟩) 0
        (c.store.catalog.recordsOf file)
  | _ => False

theorem nodesInService_of_sound {c : Cluster} (h : c.store.Sound) : c.NodesInService := by
  rintro id r hr n (hn | hn)
  · exact (h.fits id r hr).replica_live hn
  · exact (h.fits id r hr).live n hn

theorem copiesExpected_of_sound {c : Cluster} (h : c.store.Sound) : c.CopiesExpected :=
  fun id r hr => (h.fits id r hr).confirmed

end Cluster

/-! ## Founded instructions stay founded -/

namespace Store.Founds

variable {s s' : Store} {key : CopyKey} {i : Instruction}

/-- An instruction stays founded while its target is in service and its chunk stored and expecting
it. -/
theorem mono (h : s.Founds key i)
    (hlive : s.registry.isLive key.target → s'.registry.isLive key.target)
    (hchunk : ∀ r, s.chunk? key.chunk = some r → r.expected.contains key.target →
      ∃ r', s'.chunk? key.chunk = some r' ∧ r.bare = r'.bare ∧
        r'.expected.contains key.target) : s'.Founds key i := by
  obtain ⟨hkey, htarget, r, hr, hnames, hexpected⟩ := h
  obtain ⟨r', hr', hbare, hexpected'⟩ := hchunk r hr hexpected
  exact ⟨hkey, hlive htarget, r', hr', hnames.of_bare hbare, hexpected'⟩

theorem of_isLive (h : s.Founds key i)
    (hlive : s.registry.isLive key.target → s'.registry.isLive key.target)
    (hcatalog : s'.catalog = s.catalog) : s'.Founds key i := by
  refine h.mono hlive fun r hr hexpected => ⟨r, ?_, rfl, hexpected⟩
  rw [chunk?, hcatalog]
  exact hr

theorem expecting (h : s.Founds key i) (hexpecting : Expecting s s') : s'.Founds key i := by
  refine h.mono (fun hlive => hexpecting.registry ▸ hlive) fun r hr hexpected => ?_
  obtain ⟨nodes, -, hr'⟩ := hexpecting.exists_chunk? hr
  exact ⟨r.expecting nodes, hr', (r.bare_expecting nodes).symm,
    ChunkRecord.contains_expecting.2 (.inr hexpected)⟩

theorem report (h : s.Founds key i) {chunk : ChunkId} {node : NodeId} {outcome : ReportOutcome}
    (hreport : s.report chunk node = .ok (outcome, s')) : s'.Founds key i := by
  obtain ⟨record, hrecord, -, ⟨-, rfl, -⟩ | ⟨-, -, free, registry, hdebit, rfl⟩⟩ := report_ok hreport
  · exact h
  obtain ⟨old, hold, rfl, -⟩ := Registry.debit_ok hdebit
  refine h.mono (fun hlive => ?_) fun r hr hexpected => ?_
  · have hold' : ({ old with free } : Node).isLive := (Registry.live?_eq_some.1 hold).2
    exact (Registry.isLive_set hold' _).2 (.inr hlive)
  · by_cases heq : key.chunk = chunk
    · rw [heq, hrecord] at hr
      obtain rfl := Option.some.inj hr
      exact ⟨record.confirming node, heq ▸ Table.get?_insert_self _ _ _,
        (record.bare_confirming node).symm, hexpected⟩
    · exact ⟨r, (Table.get?_insert_of_ne _ _ heq).trans hr, rfl, hexpected⟩

/-- An instruction for another node outlives a node. -/
theorem retireNode (h : s.Founds key i) {node : NodeId} {force : Bool} {references : Nat}
    (hretire : s.retireNode node force = .ok (references, s')) (hne : key.target ≠ node) :
    s'.Founds key i := by
  obtain ⟨-, hcatalog, hremove⟩ := retireNode_ok hretire
  obtain ⟨old, -, -, hregistry⟩ := Registry.remove_ok hremove
  refine h.mono (fun hlive => ?_) fun r hr hexpected => ?_
  · rw [hregistry]
    exact (Registry.isLive_set_removed rfl _).2 ⟨hne, hlive⟩
  · refine ⟨r.without node, ?_, (r.bare_without node).symm,
      Table.contains_erase.2 ⟨hne, hexpected⟩⟩
    have hstrip : s'.chunk? key.chunk = (s.chunk? key.chunk).map (ChunkRecord.without · node) := by
      rw [chunk?, hcatalog]
      exact get?_strip s.catalog key.chunk
    rw [hstrip, hr, Option.map_some]

/-- An instruction for a chunk that a deletion does not come to outlives the deletion. -/
theorem deleted (h : s.Founds key i) {file : FileId}
    (hdeleted : Deleted (s.forgetting file) 0 (s.catalog.recordsOf file) s')
    (hkept : ¬Deletion.Meets (fun _ d => d.id = key.chunk) 0 (s.catalog.recordsOf file)) :
    s'.Founds key i := by
  refine h.mono (fun hlive => ?_) fun r hr hexpected => ⟨r, ?_, rfl, hexpected⟩
  · rw [hdeleted.standing.isLive]
    exact hlive
  · exact (hdeleted.chunk?_iff _ _).2 ⟨hr, hkept⟩

end Store.Founds

/-! ## One event -/

namespace Cluster

open Store

variable {c c' : Cluster} {e : Event} {ids : IdSupply} {states : List Cluster}

/-- What a sweep orders is founded : if the chunk is still stored, then as it was looked at. -/
theorem founds_swept (h : History ids states c) {chunks : List ChunkRecord} {nodes : List Node}
    {now : UInt64} (hread : (Event.sweep chunks nodes now).ReadFrom states)
    (hfounded : c.PendingFounded) : (c.after (.sweep chunks nodes now)).PendingFounded := by
  obtain ⟨hexpecting, -, hpending⟩ := sweepOver_spec c chunks nodes now
  obtain ⟨⟨s, hs, hperm⟩, -⟩ := hread
  intro key i hi
  rcases hpending key i hi with hold | ⟨hkey, ⟨seen, hseen, hnames⟩, hlive, r, hr, hexpected⟩
  · exact (hfounded key i hold).expecting hexpecting
  refine ⟨hkey, hexpecting.registry ▸ hlive, r, hr, hnames.of_bare ?_, hexpected⟩
  obtain ⟨old, nodes', hold, -, rfl⟩ := hexpecting.exists_old hr
  obtain ⟨id, hid⟩ := mem_allChunks.1 (hperm.subset hseen)
  have hchunk : id = key.chunk := by
    rw [← ((h.sound s hs).fits id seen hid).id_eq, ← hnames.1, ← hkey]
    rfl
  exact h.kept s hs key.chunk seen old (hchunk ▸ hid) hold

/-- A deletion leaves the instructions founded, unless it stops halfway and drops a chunk that has
some. -/
theorem founds_deleted (hsound : c.store.Sound) {file : FileId} {record : FileRecord}
    (hfile : c.store.catalog.files.get? file = some record) (hfounded : c.PendingFounded)
    (hno : ¬c.Orphans (.deleteFile file)) : (c.after (.deleteFile file)).PendingFounded := by
  obtain ⟨hdeleted, hpending⟩ := after_deleteFile hsound hfile
  intro key i hi
  obtain ⟨hold, hdropped⟩ := (hpending key i).1 hi
  refine (hfounded key i hold).deleted hdeleted ?_
  intro hmeets
  by_cases hbytes : copiedBytes (c.store.catalog.recordsOf file) < 2 ^ 64
  · obtain ⟨d, hmem, -, hd⟩ := hmeets.exists_mem
    exact hdropped hbytes (hd ▸ (hsound.of_mem_recordsOf hmem).1)
  · obtain ⟨before, d, after, hsplit, hword, hd⟩ := hmeets
    refine hno ⟨Nat.not_lt.1 hbytes, before, d, after, hsplit, hword, key.target, ?_⟩
    rw [hd]
    exact Table.contains_of_get? hold

/-- Such a deletion leaves an instruction without its chunk. -/
theorem not_pendingFounded_of_orphans (hsound : c.store.Sound) (h : c.Orphans e) :
    ¬(c.after e).PendingFounded := by
  cases e with
  | deleteFile file =>
    obtain ⟨record, hfile⟩ := hsound.stored_of_meets h.2
    obtain ⟨hbytes, before, d, after, hsplit, hword, target, hpending⟩ := h
    obtain ⟨hdeleted, hqueue⟩ := after_deleteFile hsound hfile
    obtain ⟨i, hi⟩ := Table.contains_iff.1 hpending
    intro hfounded
    obtain ⟨-, -, r, hr, -⟩ := hfounded ⟨d.id, target⟩ i
      ((hqueue _ _).2 ⟨hi, fun hlt => absurd hlt (Nat.not_lt.2 hbytes)⟩)
    exact ((hdeleted.chunk?_iff _ _).1 hr).2 ⟨before, d, after, hsplit, hword, rfl⟩
  | _ => cases h

/-- Every other event leaves the instructions founded. -/
theorem PendingFounded.step (hfounded : c.PendingFounded) (h : History ids states c)
    (hread : e.ReadFrom states) (hnew : DrawsNew c (c.after e)) (hno : ¬c.Orphans e) :
    (c.after e).PendingFounded := by
  have hsound := h.sound c h.last
  have heffect := effect_after c e
  generalize hc' : c.after e = c' at heffect hnew ⊢
  cases heffect with
  | health standing room catalog queue ids =>
    intro key i hi
    exact (hfounded key i (queue ▸ hi)).of_isLive (fun hlive => standing.isLive _ ▸ hlive) catalog
  | registered new live named free store queue ids =>
    intro key i hi
    refine (hfounded key i (queue ▸ hi)).of_isLive (fun hlive => ?_) (by rw [store])
    rw [store]
    exact (Registry.isLive_set live _).2 (.inr hlive)
  | created created queue =>
    intro key i hi
    obtain ⟨hids, hunused⟩ := hnew.chunks created
    refine (hfounded key i (queue ▸ hi)).mono (fun hlive => ?_) fun r hr hexpected =>
      ⟨r, (created.chunk?_iff hids hunused).2 (.inr hr), rfl, hexpected⟩
    rw [created.store]
    exact hlive
  | reported expecting report pending ids =>
    intro key i hi
    have hasked := (hfounded key i (pending key i hi)).expecting expecting
    rcases report with report | ⟨chunk, node, outcome, report⟩
    · exact report ▸ hasked
    · exact hasked.report report
  | deleted stored => exact founds_deleted hsound stored hfounded hno
  | retired retire pending ids =>
    intro key i hi
    obtain ⟨hold, hne⟩ := pending key i hi
    exact (hfounded key i hold).retireNode retire hne
  | swept chunks nodes now => exact founds_swept h hread hfounded

end Cluster

/-! ## A whole run -/

/-- All along a run that draws no identifier twice, chunks name nodes in service and have copies
only where they are expected. The pending instructions are founded all along if and only if no
deletion that stops halfway drops a chunk that has some. -/
theorem Run.consistent {settings : Settings} {ids : IdSupply} {steps : List (Cluster × Event)}
    {c : Cluster} (h : Run (.fresh settings ids) steps c)
    (hinj : Set.InjOn ids.nth (Set.Ioc ids.drawn c.ids.drawn)) :
    (∀ s ∈ c :: steps.map Prod.fst, s.NodesInService ∧ s.CopiesExpected) ∧
      ((∀ s ∈ c :: steps.map Prod.fst, s.PendingFounded) ↔ ∀ s e, (s, e) ∈ steps → ¬s.Orphans e) := by
  have hhistory := h.history hinj
  refine ⟨fun s hs => ⟨Cluster.nodesInService_of_sound (hhistory.sound s hs),
    Cluster.copiesExpected_of_sound (hhistory.sound s hs)⟩, fun hall s e hstep horphans => ?_, ?_⟩
  · obtain ⟨hbefore, hafter⟩ := h.mem_states hstep
    exact Cluster.not_pendingFounded_of_orphans (hhistory.sound s hbefore) horphans
      (hall _ hafter)
  clear hhistory
  induction h with
  | nil => exact fun _ => List.forall_mem_singleton.2 fun key i hi => by cases hi
  | @cons steps c e run read ih =>
    intro hno
    have hinj' := Run.injOn_before hinj
    have hfounded := ih hinj' fun s e hstep => hno s e (List.mem_cons_of_mem _ hstep)
    have hhistory := run.history hinj'
    refine List.forall_mem_cons.2 ⟨?_, hfounded⟩
    exact (hfounded c List.mem_cons_self).step hhistory read
      (hhistory.drawsNew (Cluster.effect_after c e).drawn.2 hinj) (hno c e List.mem_cons_self)

/-- Nothing is deleted here. -/
def quietLife : List (Cluster → Event) :=
  [fun _ => .register ⟨"a", "host", 1, 1000⟩ 0,
   fun _ => .register ⟨"b", "host", 1, 1000⟩ 0,
   fun _ => .upload ⟨"name", 10, none, some 2⟩ 0,
   fun _ => .report ⟨2⟩ "a",
   Cluster.sweepNow 1000]

/-- After that the copy on the second node is still to be made. -/
theorem Run.consistent_quietLife :
    Run (.fresh .default .counting) (played quietLife).1 (played quietLife).2 ∧
      Set.InjOn IdSupply.counting.nth (Set.Ioc 0 (played quietLife).2.ids.drawn) ∧
      (played quietLife).2.queue.pending.contains ⟨⟨2⟩, "b"⟩ ∧
      ∀ s ∈ (played quietLife).2 :: (played quietLife).1.map Prod.fst,
        (s.NodesInService ∧ s.CopiesExpected) ∧ s.PendingFounded := by
  have hrun : Run (.fresh .default .counting) (played quietLife).1 (played quietLife).2 :=
    of_played (by simp [quietLife, Event.ReadFrom, Cluster.sweepNow])
  have hdrawn : (played quietLife).2.ids.drawn = 2 := by decide +kernel
  have hinj : Set.InjOn IdSupply.counting.nth (Set.Ioc 0 (played quietLife).2.ids.drawn) := by
    rw [hdrawn]
    exact IdSupply.injOn_counting (by decide)
  obtain ⟨hnodes, hfounded⟩ := Run.consistent hrun hinj
  refine ⟨hrun, hinj, by decide +kernel, fun s hs => ⟨hnodes s hs, hfounded.2 ?_ s hs⟩⟩
  intro s e hstep horphans
  obtain ⟨choose, hchoose, rfl⟩ := mem_played hstep
  simp only [quietLife, List.mem_cons, List.not_mem_nil, or_false] at hchoose
  rcases hchoose with rfl | rfl | rfl | rfl | rfl <;> exact horphans

/-- Two chunks of `2 ^ 62` bytes each come to have a copy on two nodes each, and one of them is on
its way to a third node, when their file is deleted. -/
def halfwayDeletion : List (Cluster → Event) :=
  [fun _ => .register ⟨"a", "host", 1, 0x4000000000000000⟩ 0,
   fun _ => .register ⟨"b", "host", 1, 0x4000000000000000⟩ 0,
   fun _ => .register ⟨"c", "host", 1, 0x4000000000000000⟩ 0,
   fun _ => .upload ⟨"name", 0x8000000000000000, some 0x4000000000000000, some 1⟩ 0,
   fun _ => .report ⟨2⟩ "a",
   fun _ => .report ⟨3⟩ "b",
   fun _ => .failNode "a",
   fun _ => .heartbeat "b" 0x4000000000000000 0,
   Cluster.sweepNow 1000,
   fun _ => .report ⟨2⟩ "b",
   fun _ => .heartbeat "a" 0x4000000000000000 1000,
   fun _ => .failNode "b",
   Cluster.sweepNow 1000,
   fun _ => .report ⟨3⟩ "a",
   fun _ => .failNode "a",
   Cluster.sweepNow 1000,
   fun _ => .deleteFile ⟨1⟩]

/-- The deletion drops the chunk and leaves its instruction behind. -/
theorem Run.exists_not_pendingFounded :
    ¬∀ (settings : Settings) (ids : IdSupply) (steps : List (Cluster × Event)) (c : Cluster),
      Run (.fresh settings ids) steps c → Set.InjOn ids.nth (Set.Ioc ids.drawn c.ids.drawn) →
      ∀ s ∈ c :: steps.map Prod.fst, s.PendingFounded := by
  intro h
  have hrun : Run (.fresh .default .counting) (played halfwayDeletion).1
      (played halfwayDeletion).2 :=
    of_played (by simp [halfwayDeletion, Event.ReadFrom, Cluster.sweepNow])
  have hdrawn : (played halfwayDeletion).2.ids.drawn = 3 := by decide +kernel
  have hpending : (played halfwayDeletion).2.queue.pending.contains ⟨⟨2⟩, "c"⟩ := by
    decide +kernel
  have hgone : (played halfwayDeletion).2.store.chunk? ⟨2⟩ = none := by decide +kernel
  obtain ⟨i, hi⟩ := Table.contains_iff.1 hpending
  obtain ⟨-, -, r, hr, -⟩ := h _ _ _ _ hrun
    (by rw [hdrawn]; exact IdSupply.injOn_counting (by decide)) _ List.mem_cons_self _ i hi
  rw [hgone] at hr
  cases hr

end ChunkCoordinator
