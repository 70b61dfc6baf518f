import ChunkCoordinator.Proofs.Soundness
import Mathlib.Data.List.Nodup
import Mathlib.Data.Set.Function
import Mathlib.Order.Interval.Set.Defs

/-!
# Runs of the coordinator

An `Event` is a request with all that it carries, the time included, and `Cluster.after` is the
state that it leaves behind, whether it was granted, refused or given up. In a `Run` a sweep works
on records that were read at any earlier point.

`Cluster.Effect` lists the few things that an event can do to the records, the pending instructions
and the supply of identifiers, and `Cluster.effect_after` says that nothing else happens. If no
identifier is drawn twice, the records are sound all along and a chunk keeps its file, its place and
its size as long as it is stored (`Run.history`). `Run.play` makes runs out of given requests, and
`Run.played` those of a new coordinator.
-/

set_option linter.unusedSectionVars false

namespace ChunkCoordinator

/-! ## Events -/

/-- A request, or a sweep over some records. -/
inductive Event where
  | register (request : RegisterRequest) (now : UInt64)
  | heartbeat (node : NodeId) (free now : UInt64)
  | upload (request : UploadRequest) (now : UInt64)
  | report (chunk : ChunkId) (node : NodeId)
  | deleteFile (file : FileId)
  | failNode (node : NodeId)
  | restoreNode (node : NodeId) (now : UInt64)
  | removeNode (node : NodeId) (force : Bool)
  | sweepTimeouts (now : UInt64)
  | sweep (chunks : List ChunkRecord) (nodes : List Node) (now : UInt64)

/-- The event is a sign of life, which tells how much space is free. -/
def Event.isHeartbeat : Event → Bool
  | .heartbeat .. => true
  | _ => false

/-- What a sweep works on was read in some of these states, in whatever order. -/
def Event.ReadFrom (states : List Cluster) : Event → Prop
  | .sweep chunks nodes _ =>
    (∃ s ∈ states, chunks.Perm s.store.catalog.allChunks) ∧
      ∃ s ∈ states, nodes.Perm s.store.registry.all
  | _ => True

/-- The state that an event leaves behind. -/
def Cluster.after (c : Cluster) : Event → Cluster
  | .register request now => (c.register request now).cluster
  | .heartbeat node free now => (c.heartbeat node free now).cluster
  | .upload request now => (c.upload request now).cluster
  | .report chunk node => (c.report chunk node).cluster
  | .deleteFile file => (c.deleteFile file).cluster
  | .failNode node => (c.failNode node).cluster
  | .restoreNode node now => (c.restoreNode node now).cluster
  | .removeNode node force => (c.removeNode node force).cluster
  | .sweepTimeouts now => (c.sweepTimeouts now).2
  | .sweep chunks nodes now => (c.sweepOver chunks nodes now).cluster

/-- The steps of a run, the newest first, each with the state before it, and the state after all. -/
inductive Run (start : Cluster) : List (Cluster × Event) → Cluster → Prop where
  | nil : Run start [] start
  | cons {steps : List (Cluster × Event)} {c : Cluster} {e : Event} (run : Run start steps c)
      (read : e.ReadFrom (c :: steps.map Prod.fst)) : Run start ((c, e) :: steps) (c.after e)

namespace Cluster

open Store

variable {c c' : Cluster} {e : Event}

/-! ## What an event does -/

/-- What an event can make of the records, the queue and the identifiers. -/
inductive Effect (c : Cluster) : Event → Cluster → Prop where
  /-- The same nodes stay in service. Only a heartbeat changes what they have free. -/
  | health {e : Event} {c' : Cluster}
      (standing : Registry.Agree Registry.standing c.store.registry c'.store.registry)
      (room : e.isHeartbeat = false →
        Registry.Agree Registry.room c.store.registry c'.store.registry)
      (catalog : c'.store.catalog = c.store.catalog) (queue : c'.queue = c.queue)
      (ids : c'.ids = c.ids) : Effect c e c'
  /-- A node comes into service. -/
  | registered {e : Event} {c' : Cluster} {id : NodeId} {node : Node}
      (new : c.store.registry.isLive id = false) (live : node.isLive) (named : node.id = id)
      (free : node.free = node.capacity)
      (store : c'.store = { c.store with registry := c.store.registry.set id node })
      (queue : c'.queue = c.queue) (ids : c'.ids = c.ids) : Effect c e c'
  /-- A file is planned. -/
  | created {e : Event} {c' : Cluster} {file : FileRecord} {chunks : List ChunkRecord}
      (created : Created c.store c.ids file chunks c'.store c'.ids) (queue : c'.queue = c.queue) :
      Effect c e c'
  /-- A chunk may come to expect the reporting node, whose copy may be confirmed. -/
  | reported {e : Event} {c' : Cluster} {asked : Store} (expecting : Expecting c.store asked)
      (report : c'.store = asked ∨
        ∃ chunk node outcome, asked.report chunk node = .ok (outcome, c'.store))
      (pending : ∀ key i, c'.queue.pending.get? key = some i → c.queue.pending.get? key = some i)
      (ids : c'.ids = c.ids) : Effect c e c'
  /-- A file is deleted, or the deletion stops halfway. -/
  | deleted {file : FileId} {record : FileRecord}
      (stored : c.store.catalog.files.get? file = some record) :
      Effect c (.deleteFile file) (c.after (.deleteFile file))
  /-- A node leaves. -/
  | retired {c' : Cluster} {node : NodeId} {force : Bool} {references : Nat}
      (retire : c.store.retireNode node force = .ok (references, c'.store))
      (pending : ∀ key i, c'.queue.pending.get? key = some i →
        c.queue.pending.get? key = some i ∧ key.target ≠ node)
      (ids : c'.ids = c.ids) : Effect c (.removeNode node force) c'
  /-- A sweep takes place. -/
  | swept (chunks : List ChunkRecord) (nodes : List Node) (now : UInt64) :
      Effect c (.sweep chunks nodes now) (c.after (.sweep chunks nodes now))

theorem Effect.unchanged (hstore : c'.store = c.store) (hqueue : c'.queue = c.queue)
    (hids : c'.ids = c.ids) : Effect c e c' :=
  .health (hstore ▸ .refl _) (fun _ => hstore ▸ .refl _) (by rw [hstore]) hqueue hids

theorem Effect.room {registry : Registry}
    (hroom : Registry.Agree Registry.room c.store.registry registry)
    (hstore : c'.store = { c.store with registry }) (hqueue : c'.queue = c.queue)
    (hids : c'.ids = c.ids) : Effect c e c' :=
  .health (by rw [hstore]; exact hroom.standing) (fun _ => by rw [hstore]; exact hroom)
    (by rw [hstore]) hqueue hids

theorem effect_register (c : Cluster) (request : RegisterRequest) (now : UInt64) :
    Effect c (.register request now) (c.register request now).cluster := by
  unfold register
  split
  · exact .unchanged rfl rfl rfl
  split
  · exact .unchanged rfl rfl rfl
  split
  · exact .unchanged rfl rfl rfl
  · next node registry hregister =>
    obtain ⟨hnew, rfl, hlive, hid, hfree⟩ := Registry.register_ok hregister
    exact .registered hnew hlive hid hfree rfl rfl rfl

theorem effect_heartbeat (c : Cluster) (node : NodeId) (free now : UInt64) :
    Effect c (.heartbeat node free now) (c.heartbeat node free now).cluster := by
  unfold heartbeat
  split
  · exact .unchanged rfl rfl rfl
  · next recovered registry hheartbeat =>
    have hstanding := Registry.recordHeartbeat_ok hheartbeat
    cases recovered
    · exact .health hstanding (fun h => by cases h) rfl rfl rfl
    · exact .health hstanding (fun h => by cases h) rfl rfl rfl

theorem effect_failNode (c : Cluster) (node : NodeId) :
    Effect c (.failNode node) (c.failNode node).cluster := by
  unfold failNode
  split
  · exact .unchanged rfl rfl rfl
  · next changed registry hfail =>
    have hroom := Registry.setHealth_ok (by decide) hfail
    cases changed
    · exact .room hroom rfl rfl rfl
    · exact .room hroom rfl rfl rfl

theorem effect_restoreNode (c : Cluster) (node : NodeId) (now : UInt64) :
    Effect c (.restoreNode node now) (c.restoreNode node now).cluster := by
  unfold restoreNode
  split
  · exact .unchanged rfl rfl rfl
  · next changed registry hrestore =>
    have hroom := Registry.reinstate_ok hrestore
    cases changed
    · exact .room hroom rfl rfl rfl
    · exact .room hroom rfl rfl rfl

theorem effect_sweepTimeouts (c : Cluster) (now : UInt64) :
    Effect c (.sweepTimeouts now) (c.sweepTimeouts now).2 := by
  have hroom := Registry.agree_demoteStale c.store.registry now c.settings.heartbeatTimeout
  unfold sweepTimeouts
  generalize c.store.registry.demoteStale now c.settings.heartbeatTimeout = answer at hroom
  obtain ⟨demoted, registry⟩ := answer
  dsimp only
  split
  · exact .room hroom rfl rfl rfl
  · exact .room hroom rfl rfl rfl

theorem effect_removeNode (c : Cluster) (node : NodeId) (force : Bool) :
    Effect c (.removeNode node force) (c.removeNode node force).cluster := by
  unfold removeNode
  split
  · exact .unchanged rfl rfl rfl
  · next references store hretire =>
    refine .retired hretire (fun key i h => ?_) rfl
    obtain ⟨hold, hne⟩ := Table.get?_filter_eq_some.1 h
    exact ⟨hold, of_decide_eq_true hne⟩

/-- An upload stores a new file with its chunks, or nothing at all. The rest of the cluster stays as
it is, but for the counts of plans and the mark that something has changed. -/
theorem upload_cases (c : Cluster) (request : UploadRequest) (now : UInt64) :
    (∃ fault uploadPlans, c.upload request now =
      ⟨.error fault, { c with metrics := { c.metrics with uploadPlans } }⟩) ∨
    ∃ file chunks store ids uploadPlans, Created c.store c.ids file chunks store ids ∧
      c.upload request now =
        ⟨.ok ⟨file, chunks.map { c with store, ids }.markDirty.placement⟩,
          { c with store, ids, dirty := true, metrics := { c.metrics with uploadPlans } }⟩ := by
  unfold upload planUpload
  split
  · exact .inl ⟨_, _, rfl⟩
  dsimp only
  split
  · next fault _ =>
    cases fault with
    | refused why => exact .inl ⟨_, _, rfl⟩
    | overflow => exact .inl ⟨_, c.metrics.uploadPlans, rfl⟩
  · next file chunks store ids hcreate =>
    exact .inr ⟨file, chunks, store, ids, _, tryCreateFile_ok hcreate, rfl⟩

theorem effect_upload (c : Cluster) (request : UploadRequest) (now : UInt64) :
    Effect c (.upload request now) (c.upload request now).cluster := by
  rcases c.upload_cases request now with ⟨_, _, heq⟩ | ⟨_, _, _, _, _, hcreated, heq⟩ <;> rw [heq]
  · exact .unchanged rfl rfl rfl
  · exact .created hcreated rfl

/-- A node with a pending instruction for a chunk comes to be expected. -/
theorem expecting_asked (c : Cluster) (chunk : ChunkId) (node : NodeId) :
    Expecting c.store (if c.queue.isPending chunk node then
      ((c.store.expect chunk [node]).map Prod.snd).getD c.store else c.store) := by
  split
  · exact expecting_getD _ _ _
  · exact .refl _

theorem effect_report (c : Cluster) (chunk : ChunkId) (node : NodeId) :
    Effect c (.report chunk node) (c.report chunk node).cluster := by
  have hexpecting := c.expecting_asked chunk node
  unfold report
  generalize (if c.queue.isPending chunk node then
    ((c.store.expect chunk [node]).map Prod.snd).getD c.store else c.store) = asked at hexpecting
  dsimp only
  split
  · exact .reported hexpecting (.inl rfl) (fun key i h => h) rfl
  · next outcome store hreport =>
    have hpending : ∀ key i, (c.queue.acknowledge chunk node).2.pending.get? key = some i →
        c.queue.pending.get? key = some i := fun key i h => (Table.get?_erase_eq_some.1 h).2
    have hreported : ∃ chunk node outcome, asked.report chunk node = .ok (outcome, store) :=
      ⟨chunk, node, outcome, hreport⟩
    split <;> split <;> exact .reported hexpecting (.inr hreported) hpending rfl

/-- The deletion of a file that is not stored changes nothing. -/
theorem cluster_deleteFile_of_none {file : FileId}
    (hfile : c.store.catalog.files.get? file = none) : (c.deleteFile file).cluster = c := by
  simp [deleteFile, Store.deleteFile, hfile]

theorem effect_deleteFile (c : Cluster) (file : FileId) :
    Effect c (.deleteFile file) (c.deleteFile file).cluster := by
  cases hfile : c.store.catalog.files.get? file with
  | none =>
    rw [cluster_deleteFile_of_none hfile]
    exact .unchanged rfl rfl rfl
  | some record => exact .deleted hfile

/-- Nothing else happens. -/
theorem effect_after (c : Cluster) : ∀ e : Event, Effect c e (c.after e)
  | .register request now => effect_register c request now
  | .heartbeat node free now => effect_heartbeat c node free now
  | .upload request now => effect_upload c request now
  | .report chunk node => effect_report c chunk node
  | .deleteFile file => effect_deleteFile c file
  | .failNode node => effect_failNode c node
  | .restoreNode node now => effect_restoreNode c node now
  | .removeNode node force => effect_removeNode c node force
  | .sweepTimeouts now => effect_sweepTimeouts c now
  | .sweep chunks nodes now => .swept chunks nodes now

/-- What the deletion of a stored file leaves behind. Nothing is taken from the queue unless the
bytes given back are a word. -/
theorem after_deleteFile (hsound : c.store.Sound) {file : FileId} {record : FileRecord}
    (hfile : c.store.catalog.files.get? file = some record) :
    Deleted (c.store.forgetting file) 0 (c.store.catalog.recordsOf file)
        (c.after (.deleteFile file)).store ∧
      ∀ key i, (c.after (.deleteFile file)).queue.pending.get? key = some i ↔
        c.queue.pending.get? key = some i ∧
          (copiedBytes (c.store.catalog.recordsOf file) < 2 ^ 64 →
            key.chunk ∉ c.store.catalog.idsOf file) := by
  obtain ⟨s', hdeleted, heq⟩ := hsound.deleteFile_eq hfile
  rw [after, deleteFile, heq]
  by_cases hword : copiedBytes (c.store.catalog.recordsOf file) < 2 ^ 64
  · rw [asWord?_of_lt hword]
    refine ⟨hdeleted, fun key i => ?_⟩
    have hkept : (c.queue.forgetChunks (c.store.catalog.idsOf file)).pending.get? key = some i ↔
        c.queue.pending.get? key = some i ∧ key.chunk ∉ c.store.catalog.idsOf file := by
      rw [Queue.forgetChunks, Table.get?_filter_eq_some, decide_eq_true_eq]
    rw [forall_prop_of_true hword]
    exact hkept
  · rw [asWord?_of_le (Nat.not_lt.1 hword)]
    exact ⟨hdeleted, fun key i => (and_iff_left fun h => absurd h hword).symm⟩

theorem ids_after_deleteFile (c : Cluster) (file : FileId) :
    (c.after (.deleteFile file)).ids = c.ids := by
  rw [after, deleteFile]
  split <;> rfl

namespace Effect

theorem drawn (h : Effect c e c') : c'.ids.nth = c.ids.nth ∧ c.ids.drawn ≤ c'.ids.drawn := by
  have hsame : ∀ {c' : Cluster}, c'.ids = c.ids →
      c'.ids.nth = c.ids.nth ∧ c.ids.drawn ≤ c'.ids.drawn := fun h => ⟨by rw [h], by rw [h]⟩
  cases h with
  | health standing room catalog queue ids => exact hsame ids
  | registered new live named free store queue ids => exact hsame ids
  | created created queue => exact ⟨created.nth, by rw [created.drawn]; omega⟩
  | reported expecting report pending ids => exact hsame ids
  | deleted stored => exact hsame (ids_after_deleteFile c _)
  | retired retire pending ids => exact hsame ids
  | swept chunks nodes now => exact hsame (sweepOver_spec c chunks nodes now).2.1

/-- A chunk that is stored afterwards was stored before, with the same record but for the nodes that
it names, or has got an identifier that has just been drawn. -/
theorem chunk?_cases (h : Effect c e c') (hsound : c.store.Sound) {id : ChunkId} {r : ChunkRecord}
    (hr : c'.store.chunk? id = some r) :
    (∃ old, c.store.chunk? id = some old ∧ old.bare = r.bare) ∨
      ∃ k ∈ Set.Ioc c.ids.drawn c'.ids.drawn, c.ids.nth k = id := by
  have hexpecting : ∀ {s : Store} {r : ChunkRecord}, Expecting c.store s → s.chunk? id = some r →
      ∃ old, c.store.chunk? id = some old ∧ old.bare = r.bare := by
    intro s r hexpecting hr
    obtain ⟨old, nodes, hold, -, rfl⟩ := hexpecting.exists_old hr
    exact ⟨old, hold, (old.bare_expecting nodes).symm⟩
  cases h with
  | health standing room catalog queue ids =>
    rw [chunk?, catalog] at hr
    exact .inl ⟨r, hr, rfl⟩
  | registered new live named free store queue ids =>
    rw [store] at hr
    exact .inl ⟨r, hr, rfl⟩
  | @created _ _ file chunks created queue =>
    rcases created.chunk?_cases hr with ⟨hmem, rfl⟩ | hr
    · have hid : r.id ∈ (List.range' (c.ids.drawn + 2) chunks.length).map c.ids.nth := by
        rw [← created.chunk_ids]
        exact List.mem_map_of_mem hmem
      obtain ⟨k, hk, hid⟩ := List.mem_map.1 hid
      obtain ⟨hlow, hhigh⟩ := List.mem_range'_1.1 hk
      refine .inr ⟨k, ⟨by omega, ?_⟩, hid⟩
      rw [created.drawn]
      omega
    · exact .inl ⟨r, hr, rfl⟩
  | @reported _ _ asked expecting report pending ids =>
    rcases report with report | ⟨chunk, node, outcome, report⟩
    · exact .inl (hexpecting (report ▸ expecting) hr)
    · obtain ⟨record, hrecord, -, ⟨-, heq, -⟩ | ⟨-, -, free, registry, -, heq⟩⟩ := report_ok report
      · exact .inl (hexpecting (heq ▸ expecting) hr)
      · rw [heq] at hr
        rcases Table.get?_insert_eq_some.1 hr with ⟨rfl, rfl⟩ | ⟨-, hr⟩
        · obtain ⟨old, hold, hbare⟩ := hexpecting expecting hrecord
          exact .inl ⟨old, hold, hbare.trans (record.bare_confirming _).symm⟩
        · exact .inl (hexpecting expecting hr)
  | deleted stored =>
    exact .inl ⟨r, (((after_deleteFile hsound stored).1.chunk?_iff id r).1 hr).1, rfl⟩
  | retired retire pending ids =>
    rw [chunk?, (retireNode_ok retire).2.1, get?_strip] at hr
    obtain ⟨old, hold, rfl⟩ := Option.map_eq_some_iff.1 hr
    exact .inl ⟨old, hold, (old.bare_without _).symm⟩
  | swept chunks nodes now => exact .inl (hexpecting (sweepOver_spec c chunks nodes now).1 hr)

end Effect

/-- The identifiers drawn from one state to another differ from each other and from those in use. -/
structure DrawsNew (c c' : Cluster) : Prop where
  distinct : Set.InjOn c.ids.nth (Set.Ioc c.ids.drawn c'.ids.drawn)
  unused : ∀ k ∈ Set.Ioc c.ids.drawn c'.ids.drawn, c.store.chunk? (c.ids.nth k) = none

/-- The chunks of a new file are new. -/
theorem DrawsNew.chunks (h : DrawsNew c c') {file : FileRecord} {chunks : List ChunkRecord}
    (hcreated : Created c.store c.ids file chunks c'.store c'.ids) :
    (chunks.map ChunkRecord.id).Nodup ∧ ∀ r ∈ chunks, c.store.chunk? r.id = none := by
  have hrange : ∀ k ∈ List.range' (c.ids.drawn + 2) chunks.length,
      k ∈ Set.Ioc c.ids.drawn c'.ids.drawn := by
    intro k hk
    obtain ⟨hlow, hhigh⟩ := List.mem_range'_1.1 hk
    refine ⟨by omega, ?_⟩
    rw [hcreated.drawn]
    omega
  constructor
  · rw [hcreated.chunk_ids]
    exact List.Nodup.map_on (fun k hk k' hk' heq => h.distinct (hrange k hk) (hrange k' hk') heq)
      List.nodup_range'
  · intro r hr
    have hid : r.id ∈ (List.range' (c.ids.drawn + 2) chunks.length).map c.ids.nth := by
      rw [← hcreated.chunk_ids]
      exact List.mem_map_of_mem hr
    obtain ⟨k, hk, hid⟩ := List.mem_map.1 hid
    rw [← hid]
    exact h.unused k (hrange k hk)

/-- Every event keeps the records sound. -/
theorem Effect.sound (h : Effect c e c') (hsound : c.store.Sound) (hnew : DrawsNew c c') :
    c'.store.Sound := by
  cases h with
  | health standing room catalog queue ids => exact hsound.of_agree standing catalog
  | registered new live named free store queue ids =>
    rw [store]
    exact hsound.register live named
  | created created queue =>
    obtain ⟨hids, hunused⟩ := hnew.chunks created
    exact hsound.createFile created hids hunused
  | reported expecting report pending ids =>
    rcases report with report | ⟨chunk, node, outcome, report⟩
    · rw [report]
      exact hsound.expecting expecting
    · exact (hsound.expecting expecting).report report
  | deleted stored => exact hsound.deleted (after_deleteFile hsound stored).1
  | retired retire pending ids => exact hsound.retireNode retire
  | swept chunks nodes now => exact hsound.expecting (sweepOver_spec c chunks nodes now).1

end Cluster

/-! ## The states of a run -/

/-- What is known of some states that lead up to a last one, `ids` being the identifiers of the
first. A chunk that two of them store is the same but for the nodes that it names. -/
structure History (ids : IdSupply) (states : List Cluster) (c : Cluster) : Prop where
  last : c ∈ states
  nth : c.ids.nth = ids.nth
  drawn : ids.drawn ≤ c.ids.drawn
  sound : ∀ s ∈ states, s.store.Sound
  dated : ∀ s ∈ states, ∀ id r, s.store.chunk? id = some r →
    ∃ k ∈ Set.Ioc ids.drawn c.ids.drawn, ids.nth k = id
  kept : ∀ s ∈ states, ∀ id r r', s.store.chunk? id = some r → c.store.chunk? id = some r' →
    r.bare = r'.bare

namespace History

variable {ids : IdSupply} {states : List Cluster} {c c' : Cluster} {e : Event}

/-- A chunk with an identifier that is drawn only later is not stored yet. -/
theorem not_stored (h : History ids states c)
    (hinj : Set.InjOn ids.nth (Set.Ioc ids.drawn c'.ids.drawn)) (hle : c.ids.drawn ≤ c'.ids.drawn)
    {k : Nat} (hk : k ∈ Set.Ioc c.ids.drawn c'.ids.drawn) {s : Cluster} (hs : s ∈ states)
    {r : ChunkRecord} : s.store.chunk? (ids.nth k) ≠ some r := by
  intro hr
  obtain ⟨j, ⟨hlow, hhigh⟩, hj⟩ := h.dated s hs _ r hr
  have hdrawn := h.drawn
  have hjk : j = k := hinj ⟨hlow, hhigh.trans hle⟩ ⟨hdrawn.trans_lt hk.1, hk.2⟩ hj
  exact absurd hk.1 (by omega)

theorem drawsNew (h : History ids states c) (hle : c.ids.drawn ≤ c'.ids.drawn)
    (hinj : Set.InjOn ids.nth (Set.Ioc ids.drawn c'.ids.drawn)) : Cluster.DrawsNew c c' := by
  have hlater : Set.Ioc c.ids.drawn c'.ids.drawn ⊆ Set.Ioc ids.drawn c'.ids.drawn :=
    fun k hk => ⟨h.drawn.trans_lt hk.1, hk.2⟩
  refine ⟨h.nth ▸ hinj.mono hlater, fun k hk => ?_⟩
  rw [Option.eq_none_iff_forall_ne_some, h.nth]
  exact fun r => h.not_stored hinj hle hk h.last

theorem step (h : History ids states c) (heffect : Cluster.Effect c e c')
    (hinj : Set.InjOn ids.nth (Set.Ioc ids.drawn c'.ids.drawn)) :
    History ids (c' :: states) c' := by
  obtain ⟨hnth, hle⟩ := heffect.drawn
  have hdrawn := h.drawn
  have hsound := h.sound c h.last
  have hnew := h.drawsNew hle hinj
  refine ⟨List.mem_cons_self, hnth.trans h.nth, hdrawn.trans hle,
    List.forall_mem_cons.2 ⟨heffect.sound hsound hnew, h.sound⟩, ?_, ?_⟩
  · refine List.forall_mem_cons.2 ⟨fun id r hr => ?_, fun s hs id r hr => ?_⟩
    · rcases heffect.chunk?_cases hsound hr with ⟨old, hold, -⟩ | ⟨k, hk, hid⟩
      · obtain ⟨k, hk, hid⟩ := h.dated c h.last id old hold
        exact ⟨k, ⟨hk.1, hk.2.trans hle⟩, hid⟩
      · exact ⟨k, ⟨hdrawn.trans_lt hk.1, hk.2⟩, h.nth ▸ hid⟩
    · obtain ⟨k, hk, hid⟩ := h.dated s hs id r hr
      exact ⟨k, ⟨hk.1, hk.2.trans hle⟩, hid⟩
  · refine List.forall_mem_cons.2 ⟨fun id r r' hr hr' => ?_, fun s hs id r r' hr hr' => ?_⟩
    · rw [hr] at hr'
      rw [Option.some.inj hr']
    · rcases heffect.chunk?_cases hsound hr' with ⟨old, hold, hbare⟩ | ⟨k, hk, hid⟩
      · exact (h.kept s hs id r old hr hold).trans hbare
      · rw [← hid, h.nth] at hr
        exact absurd hr (h.not_stored hinj hle hk hs)

end History

namespace Run

variable {start c : Cluster} {steps : List (Cluster × Event)} {settings : Settings} {ids : IdSupply}

/-- A run without its last event draws fewer identifiers. -/
theorem injOn_before {e : Event} (h : Set.InjOn ids.nth (Set.Ioc ids.drawn (c.after e).ids.drawn)) :
    Set.InjOn ids.nth (Set.Ioc ids.drawn c.ids.drawn) := by
  have hle := (Cluster.effect_after c e).drawn.2
  have hfewer : Set.Ioc ids.drawn c.ids.drawn ⊆ Set.Ioc ids.drawn (c.after e).ids.drawn :=
    fun _ hk => ⟨hk.1, hk.2.trans hle⟩
  exact h.mono hfewer

/-- The states before and after a step are among those of the run. -/
theorem mem_states (h : Run start steps c) {s : Cluster} {e : Event} (hstep : (s, e) ∈ steps) :
    s ∈ c :: steps.map Prod.fst ∧ s.after e ∈ c :: steps.map Prod.fst := by
  induction h with
  | nil => cases hstep
  | @cons steps c e' run read ih =>
    rcases List.mem_cons.1 hstep with heq | hstep
    · obtain ⟨rfl, rfl⟩ := Prod.mk.inj heq
      exact ⟨by simp, by simp⟩
    · obtain ⟨hbefore, hafter⟩ := ih hstep
      exact ⟨List.mem_cons_of_mem _ hbefore, List.mem_cons_of_mem _ hafter⟩

/-- If a run from a fresh coordinator draws no identifier twice, its states have a history. -/
theorem history (h : Run (.fresh settings ids) steps c)
    (hinj : Set.InjOn ids.nth (Set.Ioc ids.drawn c.ids.drawn)) :
    History ids (c :: steps.map Prod.fst) c := by
  induction h with
  | nil =>
    refine ⟨List.mem_cons_self, rfl, Nat.le_refl _, ?_, ?_, ?_⟩
    · exact List.forall_mem_singleton.2 .empty
    · refine List.forall_mem_singleton.2 fun id r hr => ?_
      cases hr
    · refine List.forall_mem_singleton.2 fun id r r' hr _ => ?_
      cases hr
  | @cons steps c e run read ih =>
    exact (ih (injOn_before hinj)).step (Cluster.effect_after c e) hinj

/-! ## Playing a run -/

/-- Lets one event happen after the other, each chosen in view of the state that it finds. -/
def play (steps : List (Cluster × Event)) (c : Cluster) :
    List (Cluster → Event) → List (Cluster × Event) × Cluster
  | [] => (steps, c)
  | choose :: rest => play ((c, choose c) :: steps) (c.after (choose c)) rest

/-- What has been played is a run, if every sweep works on the records that it finds. -/
theorem of_play : ∀ (choices : List (Cluster → Event)) {steps : List (Cluster × Event)} {c : Cluster},
    Run start steps c → (∀ choose ∈ choices, ∀ s, (choose s).ReadFrom [s]) →
    Run start (play steps c choices).1 (play steps c choices).2
  | [], _, _, h, _ => h
  | choose :: rest, steps, c, h, hread => by
    obtain ⟨hfirst, hrest⟩ := List.forall_mem_cons.1 hread
    refine of_play rest (h.cons ?_) hrest
    have hnow := hfirst c
    cases hchosen : choose c with
    | sweep chunks nodes now =>
      rw [hchosen] at hnow
      obtain ⟨⟨s, hs, hchunks⟩, ⟨s', hs', hnodes⟩⟩ := hnow
      rw [List.mem_singleton] at hs hs'
      exact ⟨⟨c, List.mem_cons_self, hs ▸ hchunks⟩, ⟨c, List.mem_cons_self, hs' ▸ hnodes⟩⟩
    | _ => trivial

theorem mem_play {s : Cluster} {e : Event} : ∀ (choices : List (Cluster → Event))
    (steps : List (Cluster × Event)) (c : Cluster), (s, e) ∈ (play steps c choices).1 →
    (s, e) ∈ steps ∨ ∃ choose ∈ choices, e = choose s
  | [], _, _, h => .inl h
  | choose :: rest, steps, c, h => by
    rcases mem_play rest _ _ h with h | ⟨choose', hmem, heq⟩
    · rcases List.mem_cons.1 h with heq | h
      · obtain ⟨rfl, rfl⟩ := Prod.mk.inj heq
        exact .inr ⟨choose, List.mem_cons_self, rfl⟩
      · exact .inl h
    · exact .inr ⟨choose', List.mem_cons_of_mem _ hmem, heq⟩

end Run

/-- A sweep over the records of the cluster. -/
def Cluster.sweepNow (now : UInt64) (c : Cluster) : Event :=
  .sweep c.store.catalog.allChunks c.store.registry.all now

/-- The identifiers one, two, three and so on. -/
def IdSupply.counting : IdSupply where
  nth k := ⟨.ofNat 128 k⟩
  drawn := 0

theorem IdSupply.injOn_counting {n : Nat} (h : n < 2 ^ 128) :
    Set.InjOn counting.nth (Set.Ioc counting.drawn n) := by
  intro i hi j hj heq
  have hbits := congrArg (fun u : Uuid => u.bits.toNat) heq
  simp only [counting, BitVec.toNat_ofNat] at hbits
  rwa [Nat.mod_eq_of_lt (hi.2.trans_lt h), Nat.mod_eq_of_lt (hj.2.trans_lt h)] at hbits

namespace Run

/-- What a new coordinator with the settings by default goes through if it numbers what it
creates. -/
def played (choices : List (Cluster → Event)) : List (Cluster × Event) × Cluster :=
  play [] (.fresh .default .counting) choices

theorem of_played {choices : List (Cluster → Event)}
    (hread : ∀ choose ∈ choices, ∀ s, (choose s).ReadFrom [s]) :
    Run (.fresh .default .counting) (played choices).1 (played choices).2 :=
  of_play choices .nil hread

theorem mem_played {choices : List (Cluster → Event)} {s : Cluster} {e : Event}
    (h : (s, e) ∈ (played choices).1) : ∃ choose ∈ choices, e = choose s :=
  (mem_play choices [] _ h).resolve_left List.not_mem_nil

/-- A sweep may work on the records as they were before the last event. -/
theorem cons_late (h : Run start steps c) {e : Event} (read : e.ReadFrom (c :: steps.map Prod.fst))
    (now : UInt64) : Run start ((c.after e, c.sweepNow now) :: (c, e) :: steps)
      ((c.after e).after (c.sweepNow now)) := by
  have hmem : c ∈ c.after e :: c :: steps.map Prod.fst :=
    List.mem_cons_of_mem _ List.mem_cons_self
  exact (h.cons read).cons ⟨⟨c, hmem, .refl _⟩, c, hmem, .refl _⟩

end Run

end ChunkCoordinator
