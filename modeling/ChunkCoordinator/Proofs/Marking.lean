import ChunkCoordinator.Proofs.Atomicity
import ChunkCoordinator.Proofs.Vanishing

/-!
# What is marked as unsaved

Every operation decides for itself whether it has changed anything that is to be saved, and sets the
mark of unsaved changes if it has. It may leave the mark alone if files and chunks are the same and
the nodes are too, but for what they have free and when they were last heard of (`Cluster.Lasting`).

In good order a request does one or the other (`Cluster.Orderly.noted`), a sweep over old records
included : it sets the mark if an instruction is left to be issued, and otherwise no chunk has come
to expect another node. There is one exception. A deletion that gives up, because the bytes given
back are no word, has dropped the file by then and leaves without setting the mark
(`Cluster.files_of_givesUp`).
-/

set_option linter.unusedSectionVars false

namespace ChunkCoordinator

/-! ## What is to be saved of a node -/

/-- A node but for what it has free and when it was last heard of. -/
def Node.lasting (n : Node) : Node := { n with free := 0, lastHeartbeat := 0 }

namespace Registry

variable {r r' : Registry} {id : NodeId} {node : Node}

/-- The nodes but for what they have free and when they were last heard of. -/
def lasting (r : Registry) : Table NodeId Node := r.nodes.map Node.lasting

theorem lasting_set {new : Node} (h : r.live? id = some node) (hnew : new.lasting = node.lasting) :
    (r.set id new).lasting = r.lasting := by
  refine Table.ext_get? fun id' => ?_
  rw [lasting, lasting, Table.get?_map, Table.get?_map, set]
  by_cases hid : id' = id
  · have hnode : r.nodes.get? id = some node := (live?_eq_some.1 h).1
    rw [hid, hnode, Table.get?_insert_self, Option.map_some, Option.map_some, hnew]
  · rw [Table.get?_insert_of_ne _ _ hid]

theorem lasting_setHealth {health : Health} (h : r.setHealth id health = .ok (false, r')) :
    r'.lasting = r.lasting := by
  obtain ⟨node, hnode, heq⟩ := map_live_ok h
  obtain ⟨hsame, rfl⟩ := Prod.mk.inj heq
  have hhealth : node.health = health := by simpa using hsame
  exact lasting_set hnode (by rw [← hhealth])

theorem lasting_recordHeartbeat {free now : UInt64}
    (h : r.recordHeartbeat id free now = .ok (false, r')) : r'.lasting = r.lasting := by
  obtain ⟨node, hnode, heq⟩ := map_live_ok h
  obtain ⟨hsame, rfl⟩ := Prod.mk.inj heq
  have hhealth : node.health = .healthy := by simpa [Node.isHealthy] using hsame
  exact lasting_set hnode (by rw [Node.lasting, Node.lasting, hhealth])

theorem lasting_reinstate {now : UInt64} (h : r.reinstate id now = .ok (false, r')) :
    r'.lasting = r.lasting := by
  unfold reinstate at h
  cases htouch : r.touch id now with
  | error why => rw [htouch] at h; cases h
  | ok touched =>
    rw [htouch] at h
    obtain ⟨node, hnode, rfl⟩ := map_live_ok htouch
    exact (lasting_setHealth h).trans (lasting_set hnode rfl)

theorem lasting_demoteStale {now timeout : UInt64} (h : (r.demoteStale now timeout).1.isEmpty) :
    (r.demoteStale now timeout).2.lasting = r.lasting := by
  rw [demoteStale, List.isEmpty_iff, List.map_eq_nil_iff, List.filter_eq_nil_iff] at h
  refine Table.ext_get? fun id => ?_
  rw [lasting, lasting, demoteStale, Table.get?_map, Table.get?_map, Table.get?_map]
  cases hnode : r.nodes.get? id with
  | none => rfl
  | some node =>
    have hfresh : ¬isStale now timeout node := h node (Table.mem_values.2 ⟨id, hnode⟩)
    rw [Option.map_some, Option.map_some, Option.map_some, if_neg hfresh]

end Registry

namespace Cluster

open Store

variable {c c' : Cluster} {e : Event}

/-! ## Marks -/

/-- Files and chunks are the same, and so are the nodes but for what they have free and when they
were last heard of. -/
structure Lasting (c c' : Cluster) : Prop where
  catalog : c'.store.catalog = c.store.catalog
  nodes : c'.store.registry.lasting = c.store.registry.lasting

theorem Lasting.of_store (h : c'.store = c.store) : Lasting c c' := ⟨by rw [h], by rw [h]⟩

/-- The mark is set, or it is left as it is and nothing has changed that is to be saved. -/
def Noted (c c' : Cluster) : Prop := c'.dirty = true ∨ (c'.dirty = c.dirty ∧ Lasting c c')

theorem Noted.of_store (hstore : c'.store = c.store) (hdirty : c'.dirty = c.dirty) : Noted c c' :=
  .inr ⟨hdirty, .of_store hstore⟩

theorem Noted.of_eq {mid : Cluster} (h : Noted mid c') (hstore : mid.store = c.store)
    (hdirty : mid.dirty = c.dirty) : Noted c c' :=
  h.imp_right fun ⟨hsame, hlasting⟩ =>
    ⟨hsame.trans hdirty, hstore ▸ hlasting.catalog, hstore ▸ hlasting.nodes⟩

theorem noted_register (c : Cluster) (request : RegisterRequest) (now : UInt64) :
    Noted c (c.register request now).cluster := by
  unfold register
  split
  · exact .of_store rfl rfl
  split
  · exact .of_store rfl rfl
  split
  · exact .of_store rfl rfl
  · exact .inl rfl

theorem noted_heartbeat (c : Cluster) (node : NodeId) (free now : UInt64) :
    Noted c (c.heartbeat node free now).cluster := by
  unfold heartbeat
  split
  · exact .of_store rfl rfl
  · next recovered registry hheartbeat =>
    cases recovered with
    | true => exact .inl rfl
    | false => exact .inr ⟨rfl, rfl, Registry.lasting_recordHeartbeat hheartbeat⟩

theorem noted_upload (c : Cluster) (request : UploadRequest) (now : UInt64) :
    Noted c (c.upload request now).cluster := by
  rcases c.upload_cases request now with ⟨_, _, heq⟩ | ⟨_, _, _, _, _, -, heq⟩ <;> rw [heq]
  · exact .of_store rfl rfl
  · exact .inl rfl

/-- A report that adds no copy changes nothing. -/
theorem noted_report (h : c.Orderly) (chunk : ChunkId) (node : NodeId) :
    Noted c (c.report chunk node).cluster := by
  unfold report
  rw [h.asked_eq]
  dsimp only
  split
  · exact .of_store rfl rfl
  next outcome store hreport =>
  obtain ⟨record, -, -, ⟨-, rfl, hadded⟩ | ⟨-, hadded, -⟩⟩ := report_ok hreport
  · rw [hadded]
    cases (c.queue.acknowledge chunk node).1 <;> exact .of_store rfl rfl
  · rw [hadded]
    exact .inl rfl

theorem noted_failNode (c : Cluster) (node : NodeId) : Noted c (c.failNode node).cluster := by
  unfold failNode
  split
  · exact .of_store rfl rfl
  · next changed registry hfail =>
    cases changed with
    | true => exact .inl rfl
    | false => exact .inr ⟨rfl, rfl, Registry.lasting_setHealth hfail⟩

theorem noted_restoreNode (c : Cluster) (node : NodeId) (now : UInt64) :
    Noted c (c.restoreNode node now).cluster := by
  unfold restoreNode
  split
  · exact .of_store rfl rfl
  · next changed registry hrestore =>
    cases changed with
    | true => exact .inl rfl
    | false => exact .inr ⟨rfl, rfl, Registry.lasting_reinstate hrestore⟩

theorem noted_removeNode (c : Cluster) (node : NodeId) (force : Bool) :
    Noted c (c.removeNode node force).cluster := by
  unfold removeNode
  split
  · exact .of_store rfl rfl
  · exact .inl rfl

theorem noted_sweepTimeouts (c : Cluster) (now : UInt64) : Noted c (c.sweepTimeouts now).2 := by
  unfold sweepTimeouts
  dsimp only
  split
  · next hnone => exact .inr ⟨rfl, rfl, Registry.lasting_demoteStale hnone⟩
  · exact .inl rfl

/-! ## Sweeps -/

/-- A chunk comes to expect no node if none of the targets is in service. -/
theorem store_recordTargets {acc : Store × Vanished} {chunk : ChunkId} {targets : List NodeId}
    (h : ∀ t ∈ targets, (acc.1.chunk? chunk).isSome → acc.1.registry.isLive t = false) :
    (recordTargets acc chunk targets).1 = acc.1 := by
  cases hr : acc.1.chunk? chunk with
  | none => rw [recordTargets_of_none targets hr]
  | some r =>
    have hdead : targets.filter acc.1.registry.isLive = [] := by
      refine List.filter_eq_nil_iff.2 fun t ht => ?_
      rw [h t ht (by rw [hr]; rfl)]
      exact Bool.false_ne_true
    rw [recordTargets, expect_eq_some targets hr, hdead, ChunkRecord.expecting_nil,
      Table.insert_of_get? hr]

theorem store_foldl_recordTargets : ∀ (l : List (ChunkId × List NodeId)) (acc : Store × Vanished),
    (∀ e ∈ l, ∀ t ∈ e.2, (acc.1.chunk? e.1).isSome → acc.1.registry.isLive t = false) →
    (l.foldl (fun acc e => recordTargets acc e.1 e.2) acc).1 = acc.1
  | [], _, _ => rfl
  | (chunk, targets) :: l, acc, h => by
    obtain ⟨hfirst, hrest⟩ := List.forall_mem_cons.1 h
    have hstep := store_recordTargets hfirst
    rw [List.foldl_cons, store_foldl_recordTargets l _ (by rwa [hstep]), hstep]

theorem dirty_status (c : Cluster) : c.status.cluster.dirty = c.dirty := by
  unfold status
  split <;> rfl

/-- A sweep of which no instruction stands records nothing. -/
theorem noted_recordSweep (c : Cluster) (report : SweepReport) :
    Noted c (c.recordSweep report).cluster := by
  have hcluster := cluster_recordSweep (filter_spares c report).symm
  have hdirty : (c.recordSweep report).cluster.dirty =
      (c.dirty || !(report.emitted.filter c.store.stands).isEmpty) := by
    rw [hcluster, dirty_status]
  cases hissued : (report.emitted.filter c.store.stands).isEmpty with
  | false => exact .inl (by rw [hdirty, hissued, Bool.not_false, Bool.or_true])
  | true =>
    have hnone := List.filter_eq_nil_iff.1 (List.isEmpty_iff.1 hissued)
    have hsame : (c.recording report).1 = c.store := by
      refine store_foldl_recordTargets _ _ fun ⟨chunk, targets⟩ he t ht hstored => ?_
      obtain ⟨-, rfl⟩ := get?_targetsByChunk.1 (Table.mem_toList_iff.1 he)
      obtain ⟨i, hi, rfl⟩ := List.mem_map.1 ht
      obtain ⟨hi, hchunk⟩ := List.mem_filter.1 hi
      have hfalls := hnone i hi
      rw [stands, of_decide_eq_true hchunk, hstored, Bool.true_and, Bool.not_eq_true] at hfalls
      exact hfalls
    refine .of_store ?_ (by rw [hdirty, hissued, Bool.not_true, Bool.or_false])
    rw [store_recordSweep, hsame]

theorem noted_sweepOver (c : Cluster) (chunks : List ChunkRecord) (nodes : List Node)
    (now : UInt64) : Noted c (c.sweepOver chunks nodes now).cluster := by
  have hmerged : ∀ (queue : Queue) (report : SweepReport),
      Noted c (({ c with queue } : Cluster).recordSweep report).cluster :=
    fun queue report => (noted_recordSweep { c with queue } report).of_eq rfl rfl
  cases hsweeping : c.queue.sweeping with
  | true =>
    rw [sweepOver_refused hsweeping]
    exact .of_store rfl rfl
  | false =>
    rw [sweepOver_merged hsweeping]
    exact hmerged _ _

/-! ## Deletions -/

/-- The event is a deletion that gives up because the bytes given back are no word. -/
def GivesUp (c : Cluster) : Event → Prop
  | .deleteFile file => (c.deleteFile file).result = .error .overflow
  | _ => False

theorem noted_deleteFile {file : FileId} (h : ¬c.GivesUp (.deleteFile file)) :
    Noted c (c.deleteFile file).cluster := by
  unfold deleteFile
  split
  · next fault store hdelete =>
    cases fault with
    | refused why => exact .of_store (deleteFile_refused hdelete) rfl
    | overflow => exact absurd (by rw [GivesUp, deleteFile, hdelete]) h
  · exact .inl rfl

/-- It does so if and only if the copies of a stored file have too many bytes. -/
theorem givesUp_iff (hsound : c.store.Sound) {file : FileId} : c.GivesUp (.deleteFile file) ↔
    (∃ record, c.store.catalog.files.get? file = some record) ∧
      2 ^ 64 ≤ copiedBytes (c.store.catalog.recordsOf file) := by
  rw [GivesUp, deleteFile]
  cases hfile : c.store.catalog.files.get? file with
  | none => simp [Store.deleteFile, hfile]
  | some record =>
    obtain ⟨s', -, heq⟩ := hsound.deleteFile_eq hfile
    rw [heq]
    by_cases hword : copiedBytes (c.store.catalog.recordsOf file) < 2 ^ 64
    · rw [asWord?_of_lt hword]
      exact iff_of_false (fun h => by cases h) fun h => absurd h.2 (Nat.not_le.2 hword)
    · rw [asWord?_of_le (Nat.not_lt.1 hword)]
      exact iff_of_true rfl ⟨⟨record, rfl⟩, Nat.not_lt.1 hword⟩

/-- Then the file is gone, and the mark is left as it is. -/
theorem files_of_givesUp (hsound : c.store.Sound) {file : FileId}
    (h : c.GivesUp (.deleteFile file)) :
    (c.after (.deleteFile file)).dirty = c.dirty ∧
      (c.after (.deleteFile file)).store.catalog.files = c.store.catalog.files.erase file := by
  obtain ⟨⟨record, hfile⟩, hbytes⟩ := (givesUp_iff hsound).1 h
  refine ⟨?_, (after_deleteFile hsound hfile).1.files⟩
  obtain ⟨s', -, heq⟩ := hsound.deleteFile_eq hfile
  rw [after, deleteFile, heq, asWord?_of_le hbytes]

/-- No other file comes back in its place. -/
theorem not_stored_of_givesUp (hsound : c.store.Sound) {file id : FileId}
    (h : c.GivesUp (.deleteFile file)) (hid : c.store.catalog.files.get? id = none) :
    (c.after (.deleteFile file)).store.catalog.files.get? id = none := by
  rw [(files_of_givesUp hsound h).2, Table.get?_erase, hid, ite_self]

/-! ## All requests -/

/-- In good order every request sets the mark if it changes anything that is to be saved, unless it
is a deletion that gives up. -/
theorem Orderly.noted (h : c.Orderly) : ∀ {e : Event}, ¬c.GivesUp e → Noted c (c.after e)
  | .register request now, _ => noted_register c request now
  | .heartbeat node free now, _ => noted_heartbeat c node free now
  | .upload request now, _ => noted_upload c request now
  | .report chunk node, _ => noted_report h chunk node
  | .deleteFile _, hno => noted_deleteFile hno
  | .failNode node, _ => noted_failNode c node
  | .restoreNode node now, _ => noted_restoreNode c node now
  | .removeNode node force, _ => noted_removeNode c node force
  | .sweepTimeouts now, _ => noted_sweepTimeouts c now
  | .sweep chunks nodes now, _ => noted_sweepOver c chunks nodes now

end Cluster

end ChunkCoordinator
