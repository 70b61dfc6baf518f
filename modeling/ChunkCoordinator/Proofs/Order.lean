import ChunkCoordinator.Proofs.Restoring
import ChunkCoordinator.Proofs.Run

/-!
# Good order

A coordinator is in good order (`Cluster.Orderly`) if its records are sound and well filed, nodes
stand under their own names, and a stored chunk expects the targets of its pending instructions.
Every event keeps the order (`Cluster.Effect.orderly`), sweeps over any records and deletions that
stop halfway included, and so does a restart from a saved state (`Cluster.Orderly.restart`). New
identifiers must not be in use (`Cluster.DrawsFresh`).

An event does not take a chunk away unless it deletes its file, nor a node from those that a chunk
names unless it removes the node (`Cluster.Effect.keeps`).

What an event makes of the registry comes from operations that the registry accepts, one after the
other (`Cluster.steps_after`), so what each of these keeps is kept by every event.
-/

set_option linter.unusedSectionVars false

namespace ChunkCoordinator

/-- One record says the same as another, and names a node where that one does. -/
structure ChunkRecord.Keeps (t : NodeId) (r r' : ChunkRecord) : Prop where
  bare : r.bare = r'.bare
  expected : r.expected.contains t → r'.expected.contains t
  replicas : r.replicas.contains t → r'.replicas.contains t

namespace ChunkRecord.Keeps

variable {t : NodeId} {r r' r'' : ChunkRecord}

theorem refl (t : NodeId) (r : ChunkRecord) : Keeps t r r := ⟨rfl, fun h => h, fun h => h⟩

theorem trans (h : Keeps t r r') (h' : Keeps t r' r'') : Keeps t r r'' :=
  ⟨h.bare.trans h'.bare, fun hr => h'.expected (h.expected hr),
    fun hr => h'.replicas (h.replicas hr)⟩

theorem of_eq {o : Option ChunkRecord} (hr : o = some r) (hr' : o = some r') : Keeps t r r' := by
  rw [Option.some.inj (hr.symm.trans hr')]
  exact refl t r'

theorem expecting (t : NodeId) (r : ChunkRecord) (nodes : List NodeId) :
    Keeps t r (r.expecting nodes) :=
  ⟨rfl, fun hr => contains_expecting.2 (.inr hr), fun hr => hr⟩

theorem confirming (t : NodeId) (r : ChunkRecord) (node : NodeId) :
    Keeps t r (r.confirming node) :=
  ⟨rfl, fun hr => hr, fun hr => Table.contains_add.2 (.inr hr)⟩

theorem without {node : NodeId} (hne : t ≠ node) (r : ChunkRecord) : Keeps t r (r.without node) :=
  ⟨rfl, fun hr => Table.contains_erase.2 ⟨hne, hr⟩, fun hr => Table.contains_erase.2 ⟨hne, hr⟩⟩

end ChunkRecord.Keeps

namespace Cluster

open Store

variable {c c' : Cluster} {e : Event} {key : CopyKey}

/-! ## Refusals -/

/-- Why an event is refused, if it is. -/
def refusal? (c : Cluster) : Event → Option ServiceError
  | .register request now => (c.register request now).refusal?
  | .heartbeat node free now => (c.heartbeat node free now).refusal?
  | .upload request now => (c.upload request now).refusal?
  | .report chunk node => (c.report chunk node).refusal?
  | .deleteFile file => (c.deleteFile file).refusal?
  | .failNode node => (c.failNode node).refusal?
  | .restoreNode node now => (c.restoreNode node now).refusal?
  | .removeNode node force => (c.removeNode node force).refusal?
  | .sweepTimeouts _ => none
  | .sweep chunks nodes now => (c.sweepOver chunks nodes now).refusal?

/-- The event deletes the file, be it only in part. -/
def Deletes (c : Cluster) (file : FileId) (e : Event) : Prop :=
  e = .deleteFile file ∧ c.refusal? e = none

/-- The event takes the node out of service. -/
def Removes (c : Cluster) (node : NodeId) (e : Event) : Prop :=
  (∃ force, e = .removeNode node force) ∧ c.refusal? e = none

theorem deletes_of_stored (hsound : c.store.Sound) {file : FileId} {record : FileRecord}
    (hfile : c.store.catalog.files.get? file = some record) :
    c.Deletes file (.deleteFile file) := by
  refine ⟨rfl, ?_⟩
  obtain ⟨s', -, heq⟩ := hsound.deleteFile_eq hfile
  rw [refusal?, deleteFile, heq]
  cases asWord? (copiedBytes (c.store.catalog.recordsOf file)) <;> rfl

theorem removes_of_retireNode {node : NodeId} {force : Bool} {answer : Nat × Store}
    (h : c.store.retireNode node force = .ok answer) : c.Removes node (.removeNode node force) := by
  refine ⟨⟨force, rfl⟩, ?_⟩
  rw [refusal?, removeNode, h]
  rfl

/-- The event deletes the file of the chunk or removes the node. -/
def Withdraws (c : Cluster) (key : CopyKey) (e : Event) : Prop :=
  (∃ r, c.store.chunk? key.chunk = some r ∧ c.Deletes r.file e) ∨ c.Removes key.target e

/-- No other requests do. -/
theorem not_withdraws (hdelete : ∀ file, e ≠ .deleteFile file)
    (hremove : ∀ force, e ≠ .removeNode key.target force) : ¬c.Withdraws key e := by
  rintro (⟨r, -, h, -⟩ | ⟨⟨force, h⟩, -⟩)
  · exact hdelete r.file h
  · exact hremove force h

/-! ## What an event keeps -/

/-- No instruction for a node outlives it. -/
theorem target_ne_of_removes {t : NodeId} (h : c.Removes t e) {key : CopyKey} {i : Instruction}
    (hi : (c.after e).queue.pending.get? key = some i) : key.target ≠ t := by
  obtain ⟨⟨force, rfl⟩, hgranted⟩ := h
  rw [after, removeNode] at hi
  rw [refusal?, removeNode] at hgranted
  split at hgranted
  · cases hgranted
  · next hretire =>
    rw [hretire] at hi
    exact of_decide_eq_true (Table.get?_filter_eq_some.1 hi).2

namespace Effect

/-- A node stays in service unless it is removed. -/
theorem isLive (h : Effect c e c') (hsound : c.store.Sound) {t : NodeId}
    (hlive : c.store.registry.isLive t) : c'.store.registry.isLive t ∨ c.Removes t e := by
  cases h with
  | health standing room catalog queue ids => exact .inl (by rwa [standing.isLive])
  | registered new live named free store queue ids =>
    rw [store]
    exact .inl ((Registry.isLive_set live t).2 (.inr hlive))
  | created created queue => exact .inl (by rwa [created.store])
  | reported expecting report pending ids =>
    rw [← expecting.registry] at hlive
    rcases report with report | ⟨chunk, node, outcome, report⟩
    · exact .inl (by rwa [report])
    · exact .inl (by rwa [(standing_report report).isLive])
  | deleted stored =>
    refine .inl ?_
    rw [(after_deleteFile hsound stored).1.standing.isLive]
    exact hlive
  | @retired _ node force references retire pending ids =>
    obtain ⟨-, -, hremove⟩ := retireNode_ok retire
    obtain ⟨old, -, -, hregistry⟩ := Registry.remove_ok hremove
    rw [hregistry, Registry.isLive_set_removed rfl]
    by_cases heq : t = node
    · subst heq
      exact .inr (removes_of_retireNode retire)
    · exact .inl ⟨heq, hlive⟩
  | swept chunks nodes now =>
    have hregistry := (sweepOver_spec c chunks nodes now).1.registry
    exact .inl (hregistry ▸ hlive)

/-- A chunk stays stored unless its file is deleted. -/
theorem stays (h : Effect c e c') (hsound : c.store.Sound) (hnew : DrawsNew c c') {id : ChunkId}
    {r : ChunkRecord} (hr : c.store.chunk? id = some r) :
    (∃ r', c'.store.chunk? id = some r') ∨ c.Deletes r.file e := by
  cases h with
  | health standing room catalog queue ids => exact .inl ⟨r, by rwa [chunk?, catalog]⟩
  | registered new live named free store queue ids => exact .inl ⟨r, by rwa [store]⟩
  | created created queue =>
    obtain ⟨hids, hunused⟩ := hnew.chunks created
    exact .inl ⟨r, (created.chunk?_iff hids hunused).2 (.inr hr)⟩
  | reported expecting report pending ids =>
    obtain ⟨nodes, -, hasked⟩ := expecting.exists_chunk? hr
    rcases report with report | ⟨chunk, node, outcome, report⟩
    · exact .inl ⟨_, report ▸ hasked⟩
    · obtain ⟨r', hr', -⟩ := exists_chunk?_report report hasked
      exact .inl ⟨r', hr'⟩
  | @deleted file record stored =>
    by_cases hfile : r.file = file
    · subst hfile
      exact .inr (deletes_of_stored hsound stored)
    · exact .inl ⟨r, hsound.chunk?_deleted (after_deleteFile hsound stored).1 hr hfile⟩
  | @retired _ node force references retire pending ids =>
    exact .inl ⟨_, (chunk?_retireNode retire id).trans (congrArg _ hr)⟩
  | swept chunks nodes now =>
    obtain ⟨nodes', -, hr'⟩ := (sweepOver_spec c chunks nodes now).1.exists_chunk? hr
    exact .inl ⟨_, hr'⟩

/-- As long as a chunk is stored, it names a node where it did, unless the node is removed. -/
theorem grows (h : Effect c e c') (hsound : c.store.Sound) (hnew : DrawsNew c c') {id : ChunkId}
    {r r' : ChunkRecord} (hr : c.store.chunk? id = some r) (hr' : c'.store.chunk? id = some r')
    {t : NodeId} (hlive : c'.store.registry.isLive t) : r.Keeps t r' := by
  cases h with
  | health standing room catalog queue ids =>
    rw [chunk?, catalog] at hr'
    exact .of_eq hr hr'
  | registered new live named free store queue ids =>
    rw [store] at hr'
    exact .of_eq hr hr'
  | created created queue =>
    obtain ⟨hids, hunused⟩ := hnew.chunks created
    exact .of_eq ((created.chunk?_iff hids hunused).2 (.inr hr)) hr'
  | reported expecting report pending ids =>
    obtain ⟨nodes, -, hasked⟩ := expecting.exists_chunk? hr
    have hexpecting : r.Keeps t (r.expecting nodes) := .expecting t r nodes
    rcases report with report | ⟨chunk, node, outcome, report⟩
    · exact hexpecting.trans (.of_eq (report ▸ hasked) hr')
    · obtain ⟨r'', hr'', rfl | rfl⟩ := exists_chunk?_report report hasked
      · exact hexpecting.trans (.of_eq hr'' hr')
      · exact (hexpecting.trans (.confirming t _ node)).trans (.of_eq hr'' hr')
  | deleted stored =>
    exact .of_eq hr (((after_deleteFile hsound stored).1.chunk?_iff id r').1 hr').1
  | @retired _ node force references retire pending ids =>
    obtain ⟨-, -, hremove⟩ := retireNode_ok retire
    obtain ⟨old, -, -, hregistry⟩ := Registry.remove_ok hremove
    rw [hregistry, Registry.isLive_set_removed rfl] at hlive
    have hstripped : c'.store.chunk? id = some (r.without node) :=
      (chunk?_retireNode retire id).trans (congrArg _ hr)
    exact (ChunkRecord.Keeps.without hlive.1 r).trans (.of_eq hstripped hr')
  | swept chunks nodes now =>
    obtain ⟨nodes', -, hr''⟩ := (sweepOver_spec c chunks nodes now).1.exists_chunk? hr
    exact (ChunkRecord.Keeps.expecting t r nodes').trans (.of_eq hr'' hr')

/-- A chunk stays and goes on naming a node in service, unless its file is deleted or the node
removed. -/
theorem keeps (h : Effect c e c') (hsound : c.store.Sound) (hnew : DrawsNew c c') {id : ChunkId}
    {r : ChunkRecord} (hr : c.store.chunk? id = some r) {t : NodeId}
    (hlive : c.store.registry.isLive t) (hfile : ¬c.Deletes r.file e) (hnode : ¬c.Removes t e) :
    c'.store.registry.isLive t ∧ ∃ r', c'.store.chunk? id = some r' ∧ r.Keeps t r' := by
  have hlive' := (h.isLive hsound hlive).resolve_right hnode
  obtain ⟨r', hr'⟩ := (h.stays hsound hnew hr).resolve_right hfile
  exact ⟨hlive', r', hr', h.grows hsound hnew hr hr' hlive'⟩

/-- Only a sweep makes anything pending, and then for a stored chunk that expects the target. -/
theorem pending_cases (h : Effect c e c') (hsound : c.store.Sound) {key : CopyKey} {i : Instruction}
    (hi : c'.queue.pending.get? key = some i) : c.queue.pending.get? key = some i ∨
      (∃ chunks nodes now, e = .sweep chunks nodes now) ∧ i.key = key ∧
        ∃ r, c'.store.chunk? key.chunk = some r ∧ r.expected.contains key.target := by
  cases h with
  | health standing room catalog queue ids => exact .inl (queue ▸ hi)
  | registered new live named free store queue ids => exact .inl (queue ▸ hi)
  | created created queue => exact .inl (queue ▸ hi)
  | reported expecting report pending ids => exact .inl (pending key i hi)
  | deleted stored => exact .inl (((after_deleteFile hsound stored).2 key i).1 hi).1
  | retired retire pending ids => exact .inl (pending key i hi).1
  | swept chunks nodes now =>
    rcases (sweepOver_spec c chunks nodes now).2.2 key i hi with hi | ⟨hkey, -, -, hchunk⟩
    · exact .inl hi
    · exact .inr ⟨⟨chunks, nodes, now, rfl⟩, hkey, hchunk⟩

/-- Files, lists and chunks stay alike, or a file is created, or one is deleted. -/
theorem catalog_cases (h : Effect c e c') (hsound : c.store.Sound) :
    Catalog.Alike c.store.catalog c'.store.catalog ∨
      (∃ file chunks, Created c.store c.ids file chunks c'.store c'.ids) ∨
      ∃ file, e = .deleteFile file ∧
        Deleted (c.store.forgetting file) 0 (c.store.catalog.recordsOf file) c'.store := by
  cases h with
  | health standing room catalog queue ids => exact .inl (.of_eq catalog)
  | registered new live named free store queue ids => exact .inl (.of_eq (by rw [store]))
  | created created queue => exact .inr (.inl ⟨_, _, created⟩)
  | reported expecting report pending ids =>
    rcases report with report | ⟨chunk, node, outcome, report⟩
    · exact .inl (report ▸ expecting.alike)
    · exact .inl (expecting.alike.trans (alike_report report))
  | deleted stored => exact .inr (.inr ⟨_, rfl, (after_deleteFile hsound stored).1⟩)
  | retired retire pending ids => exact .inl (alike_retireNode retire)
  | swept chunks nodes now => exact .inl (sweepOver_spec c chunks nodes now).1.alike

end Effect

end Cluster

/-! ## What becomes of the registry -/

namespace Store

/-- What credits keep is kept by a deletion, even if it stops halfway. -/
theorem deleteFile_keeps {P : Registry → Prop}
    (hcredit : ∀ {r r' : Registry} {id : NodeId} {amount free : UInt64},
      r.credit id amount = .ok (free, r') → P r → P r')
    {s : Store} (h : P s.registry) (file : FileId) : P (s.deleteFile file).2.registry := by
  have hrelease : ∀ (size : UInt64) (d : Deletion) (n : NodeId), P d.store.registry →
      P (d.releaseReplica size n).store.registry := by
    intro size d n hd
    unfold Deletion.releaseReplica
    split
    · exact hd
    split
    · exact hd
    · next hok => exact hcredit hok hd
  have hdrop : ∀ (d : Deletion) (chunk : ChunkId), P d.store.registry →
      P (d.dropChunk chunk).store.registry := by
    intro d chunk hd
    unfold Deletion.dropChunk
    split
    · exact hd
    · exact hd
    · next record _ _ =>
      exact List.foldlRecOn (motive := fun d : Deletion => P d.store.registry) _ _ hd
        fun d hd n _ => hrelease record.size d n hd
  unfold deleteFile
  split
  · exact h
  dsimp only
  have hfold := List.foldlRecOn (motive := fun d : Deletion => P d.store.registry)
    (s.catalog.idsOf file) Deletion.dropChunk (b := ⟨s.forgetting file, some 0⟩) h
    fun d hd chunk _ => hdrop d chunk hd
  unfold forgetting at hfold
  split
  · exact hfold
  · exact hfold

/-- A deletion gives credits. -/
theorem steps_deleteFile (s : Store) (file : FileId) :
    Registry.Steps s.registry (s.deleteFile file).2.registry :=
  deleteFile_keeps (fun hcredit hsteps => hsteps.tail (.credit hcredit)) .refl file

theorem steps_report {s s' : Store} {chunk : ChunkId} {node : NodeId} {outcome : ReportOutcome}
    (h : s.report chunk node = .ok (outcome, s')) : Registry.Steps s.registry s'.registry := by
  obtain ⟨record, -, -, ⟨-, rfl, -⟩ | ⟨-, -, free, registry, hdebit, rfl⟩⟩ := report_ok h
  · exact .refl
  · exact .single (.debit hdebit)

end Store

namespace Cluster

open Store

variable {c c' : Cluster} {e : Event}

/-- Whatever happens, the registry has accepted some operations, one after the other. -/
theorem steps_after (c : Cluster) : ∀ e,
    Registry.Steps c.store.registry (c.after e).store.registry
  | .register request now => by
    rw [after, register]
    split
    · exact .refl
    split
    · exact .refl
    split
    · exact .refl
    · next hregister => exact .single (.register hregister)
  | .heartbeat node free now => by
    rw [after, heartbeat]
    split
    · exact .refl
    · next recovered registry hheartbeat =>
      cases recovered <;> exact .single (.recordHeartbeat hheartbeat)
  | .upload request now => by
    rw [after]
    rcases c.upload_cases request now with ⟨_, _, heq⟩ | ⟨_, _, _, _, _, hcreated, heq⟩
    · rw [heq]
    · rw [heq, hcreated.store]
  | .report chunk node => by
    have hasked := (c.expecting_asked chunk node).registry
    rw [after, report]
    generalize (if c.queue.isPending chunk node then
      ((c.store.expect chunk [node]).map Prod.snd).getD c.store else c.store) = asked at hasked
    dsimp only
    rw [← hasked]
    split
    · exact .refl
    · next hreport => split <;> split <;> exact steps_report hreport
  | .deleteFile file => by
    have hdeleted := c.store.steps_deleteFile file
    rw [after, deleteFile]
    split
    · next heq => rwa [heq] at hdeleted
    · next heq => rwa [heq] at hdeleted
  | .failNode node => by
    rw [after, failNode]
    split
    · exact .refl
    · next changed registry hfail => cases changed <;> exact .single (.setHealth hfail)
  | .restoreNode node now => by
    rw [after, restoreNode]
    split
    · exact .refl
    · next changed registry hrestore =>
      cases changed <;> exact Registry.steps_reinstate hrestore
  | .removeNode node force => by
    rw [after, removeNode]
    split
    · exact .refl
    · next hretire => exact .single (.remove (retireNode_ok hretire).2.2)
  | .sweepTimeouts now => by
    have hdemoted := Registry.Step.demoteStale (r := c.store.registry) now
      c.settings.heartbeatTimeout
    rw [after, sweepTimeouts]
    dsimp only
    split <;> exact .single hdemoted
  | .sweep chunks nodes now => by
    have hregistry := (sweepOver_spec c chunks nodes now).1.registry
    exact hregistry ▸ .refl

/-! ## Good order -/

/-- A stored chunk expects the targets of its pending instructions. -/
def TargetsExpected (c : Cluster) : Prop := ∀ key i, c.queue.pending.get? key = some i →
  i.key = key ∧ ∀ r, c.store.chunk? key.chunk = some r → r.expected.contains key.target

/-- The records are sound and agree with the pending instructions. -/
structure Orderly (c : Cluster) : Prop where
  sound : c.store.Sound
  keyed : c.store.registry.Keyed
  filed : c.store.catalog.WellFiled
  expected : c.TargetsExpected

/-- The identifier is that of a chunk, of the file of a chunk, or of a chunk with a pending
instruction. -/
def Uses (c : Cluster) (id : Uuid) : Prop :=
  (∃ r, c.store.chunk? id = some r) ∨ (∃ chunk r, c.store.chunk? chunk = some r ∧ r.file = id) ∨
    ∃ key i, c.queue.pending.get? key = some i ∧ key.chunk = id

/-- The identifiers drawn from one state to another differ from each other and from those in use. -/
structure DrawsFresh (c c' : Cluster) : Prop where
  distinct : Set.InjOn c.ids.nth (Set.Ioc c.ids.drawn c'.ids.drawn)
  unused : ∀ k ∈ Set.Ioc c.ids.drawn c'.ids.drawn, ¬c.Uses (c.ids.nth k)

namespace DrawsFresh

theorem drawsNew (h : DrawsFresh c c') : DrawsNew c c' where
  distinct := h.distinct
  unused := fun k hk =>
    Option.eq_none_iff_forall_ne_some.2 fun r hr => h.unused k hk (.inl ⟨r, hr⟩)

/-- The file of a stored chunk is not a new one. -/
theorem file_ne (h : DrawsFresh c c') {file : FileRecord} {chunks : List ChunkRecord}
    (hcreated : Created c.store c.ids file chunks c'.store c'.ids) {id : ChunkId} {r : ChunkRecord}
    (hr : c.store.chunk? id = some r) : r.file ≠ file.id := by
  intro heq
  refine h.unused (c.ids.drawn + 1) ⟨by omega, ?_⟩ (.inr (.inl ⟨id, r, hr, ?_⟩))
  · rw [hcreated.drawn]
    omega
  · rw [heq, hcreated.file_id]

end DrawsFresh

/-- What is in use afterwards was so before, or has just been drawn. -/
theorem Effect.uses (h : Effect c e c') (hsound : c.store.Sound) {id : Uuid} (huses : c'.Uses id) :
    c.Uses id ∨ ∃ k ∈ Set.Ioc c.ids.drawn c'.ids.drawn, c.ids.nth k = id := by
  have hchunk : ∀ chunk r, c'.store.chunk? chunk = some r →
      c.Uses chunk ∨ ∃ k ∈ Set.Ioc c.ids.drawn c'.ids.drawn, c.ids.nth k = chunk := by
    intro chunk r hr
    exact (h.chunk?_cases hsound hr).imp_left fun ⟨old, hold, _⟩ => .inl ⟨old, hold⟩
  rcases huses with ⟨r, hr⟩ | ⟨chunk, r, hr, rfl⟩ | ⟨key, i, hi, rfl⟩
  · exact hchunk id r hr
  · have hold : ∀ old, c.store.chunk? chunk = some old → old.file = r.file → c.Uses r.file :=
      fun old hold hfile => .inr (.inl ⟨chunk, old, hold, hfile⟩)
    rcases h.catalog_cases hsound with halike | ⟨file, chunks, hcreated⟩ | ⟨file, -, hdeleted⟩
    · obtain ⟨old, hr', hbare⟩ := halike.exists_old hr
      exact .inl (hold old hr' (ChunkRecord.eq_of_bare hbare fun _ => rfl))
    · rcases hcreated.chunk?_cases hr with ⟨hmem, -⟩ | hr'
      · refine .inr ⟨c.ids.drawn + 1, ⟨by omega, ?_⟩, ?_⟩
        · rw [hcreated.drawn]
          omega
        · rw [← hcreated.file_id, hcreated.complete.in_file r hmem]
      · exact .inl (hold r hr' rfl)
    · exact .inl (hold r ((hdeleted.chunk?_iff chunk r).1 hr).1 rfl)
  · rcases h.pending_cases hsound hi with hold | ⟨-, -, r, hr, -⟩
    · exact .inl (.inr (.inr ⟨key, i, hold, rfl⟩))
    · exact hchunk key.chunk r hr

theorem not_uses_fresh (settings : Settings) (ids : IdSupply) (id : Uuid) :
    ¬(fresh settings ids).Uses id := by
  rintro (⟨r, hr⟩ | ⟨chunk, r, hr, -⟩ | ⟨key, i, hi, -⟩)
  · cases hr
  · cases hr
  · cases hi

namespace Orderly

theorem fresh (settings : Settings) (ids : IdSupply) : (Cluster.fresh settings ids).Orderly where
  sound := .empty
  keyed := .empty
  filed := .empty
  expected := fun key i hi => by cases hi

theorem after (h : c.Orderly) (hfresh : DrawsFresh c (c.after e)) : (c.after e).Orderly := by
  have heffect := effect_after c e
  have hsound := h.sound
  have hnew := hfresh.drawsNew
  constructor
  case sound => exact heffect.sound hsound hnew
  case keyed => exact h.keyed.steps (steps_after c e)
  case filed =>
    rcases heffect.catalog_cases hsound with halike | ⟨file, chunks, hcreated⟩ | ⟨file, -, hdeleted⟩
    · exact h.filed.alike halike
    · obtain ⟨hids, hunused⟩ := hnew.chunks hcreated
      exact h.filed.createFile hsound hcreated hids hunused fun id r => hfresh.file_ne hcreated
    · exact h.filed.deleted hsound hdeleted
  case expected =>
    intro key i hi
    rcases heffect.pending_cases hsound hi with hold | ⟨-, hkey, r, hr, hexpected⟩
    · obtain ⟨hkey, hexpected⟩ := h.expected key i hold
      refine ⟨hkey, fun r' hr' => ?_⟩
      rcases heffect.chunk?_cases hsound hr' with ⟨r, hr, -⟩ | ⟨k, hk, hid⟩
      · have hlive := (hsound.fits key.chunk r hr).live key.target (hexpected r hr)
        have hlive' := (heffect.isLive hsound hlive).resolve_right fun hremoves =>
          target_ne_of_removes hremoves hi rfl
        exact (heffect.grows hsound hnew hr hr' hlive').expected (hexpected r hr)
      · exact absurd (.inr (.inr ⟨key, i, hold, hid.symm⟩)) (hfresh.unused k hk)
    · refine ⟨hkey, fun r' hr' => ?_⟩
      rwa [Option.some.inj (hr'.symm.trans hr)]

/-- A restart from a state saved in good order. -/
theorem restart {s : Cluster} (h : s.Orderly) (c : Cluster) (settings : Settings)
    (time now : UInt64) : (c.restart settings (s.exportSnapshot time) now).cluster.Orderly := by
  obtain ⟨hqueue, hregistry, hcatalog⟩ :=
    restart_spec c settings time now h.sound h.filed rfl
  generalize (c.restart settings (s.exportSnapshot time) now) = reply at hqueue hregistry hcatalog ⊢
  have hkeyed : reply.cluster.store.registry.Keyed := hregistry ▸ Registry.keyed_restore _ now
  have hstanding : Registry.Agree Registry.standing s.store.registry reply.cluster.store.registry :=
    hregistry ▸ (Registry.agree_restore_all h.keyed now).standing
  constructor
  case sound =>
    rcases hcatalog with hcatalog | ⟨hcatalog, -⟩
    · exact h.sound.of_agree hstanding hcatalog
    · exact .of_catalog_empty hkeyed.named hcatalog
  case keyed => exact hkeyed
  case filed =>
    rcases hcatalog with hcatalog | ⟨hcatalog, -⟩
    · exact hcatalog ▸ h.filed
    · exact hcatalog ▸ .empty
  case expected =>
    intro key i hi
    rw [hqueue] at hi
    cases hi

section

variable {s : Cluster} {settings : Settings} {time now : UInt64}

/-- What is stored after a restart was stored when the state was saved. -/
theorem chunk?_of_restart (h : s.Orderly) {id : ChunkId} {r : ChunkRecord}
    (hr : (c.restart settings (s.exportSnapshot time) now).cluster.store.chunk? id = some r) :
    s.store.chunk? id = some r := by
  obtain ⟨-, -, hcatalog | ⟨hcatalog, -⟩⟩ := restart_spec c settings time now h.sound h.filed rfl
  · rw [chunk?, hcatalog] at hr
    exact hr
  · rw [chunk?, hcatalog] at hr
    cases hr

theorem uses_of_restart (h : s.Orderly) {id : Uuid}
    (huses : (c.restart settings (s.exportSnapshot time) now).cluster.Uses id) : s.Uses id := by
  rcases huses with ⟨r, hr⟩ | ⟨chunk, r, hr, hfile⟩ | ⟨key, i, hi, -⟩
  · exact .inl ⟨r, h.chunk?_of_restart hr⟩
  · exact .inr (.inl ⟨chunk, r, h.chunk?_of_restart hr, hfile⟩)
  · rw [(restart_spec c settings time now h.sound h.filed rfl).1] at hi
    cases hi

end

end Orderly

end Cluster

end ChunkCoordinator
