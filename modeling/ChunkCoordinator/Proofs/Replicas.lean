import ChunkCoordinator.Proofs.Atomicity

/-!
# Where confirmed copies come from and go to

Whatever happens to the coordinator, a chunk that is stored before and after has the same replicas,
but for two requests: a report that is granted adds the node that reports, and an enforced removal
takes out the node that is removed (`Cluster.Accounted`, `Cluster.Orderly.accounts_for_replicas`).
Health, expired deadlines, sweeps over old records, new files and the deletion of other files leave
replicas alone.

Without force a node is removed if and only if no chunk has a copy on it. Otherwise the refusal
tells how many chunks have one (`Cluster.Spared`, `Cluster.spared`).
-/

set_option linter.unusedSectionVars false

namespace ChunkCoordinator

/-! ## Holdings -/

namespace Store

variable {s : Store} {node : NodeId}

/-- The chunks with a confirmed copy on a node. -/
def heldBy (s : Store) (node : NodeId) : List ChunkId :=
  (s.catalog.chunks.filter fun _ r => r.replicas.contains node).keys

theorem mem_heldBy {id : ChunkId} :
    id ∈ s.heldBy node ↔ ∃ r, s.chunk? id = some r ∧ r.replicas.contains node := by
  rw [heldBy, Table.mem_keys, Table.contains_iff]
  simp only [Table.get?_filter_eq_some, chunk?]

/-- They are as many as the catalog counts. -/
theorem length_heldBy (s : Store) (node : NodeId) :
    (s.heldBy node).length = s.catalog.references node := by
  rw [heldBy, Table.length_keys, Table.size, Table.filter, Catalog.references, Catalog.allChunks,
    Table.values, List.countP_map, List.countP_eq_length_filter]
  rfl

/-- Without the node that holds no copy of it a chunk has the replicas that it had. -/
theorem replicas_without {r : ChunkRecord} (h : r.replicas.contains node = false) :
    (r.without node).replicas = r.replicas :=
  Table.erase_of_get?_eq_none (Table.get?_eq_none_iff.2 h)

end Store

namespace Cluster

open Store

variable {c : Cluster} {id : ChunkId} {r r' : ChunkRecord}

/-! ## Accounts of replicas -/

/-- Between two records of a chunk, before and after an event, replicas have come and gone for the
causes given here and for no others. -/
structure Accounted (c : Cluster) (e : Event) (id : ChunkId) (r r' : ChunkRecord) : Prop where
  /-- A node that is new among the replicas has reported the chunk. -/
  gained : ∀ node, r.replicas.contains node = false → r'.replicas.contains node →
    e = .report id node ∧ ∃ count, (c.report id node).result = .ok ⟨true, count⟩
  /-- A node that is no longer among them has been removed with force. -/
  lost : ∀ node, r.replicas.contains node → r'.replicas.contains node = false →
    e = .removeNode node true ∧ ∃ references, (c.removeNode node true).result = .ok references
  /-- An enforced removal takes out the node that is removed, and no other. -/
  taken : ∀ node references, e = .removeNode node true →
    (c.removeNode node true).result = .ok references → r'.replicas = r.replicas.erase node

/-- Nothing is to be accounted for if the replicas are the same and no node is removed. -/
theorem Accounted.of_eq {e : Event} (hsame : r'.replicas = r.replicas)
    (he : ∀ node, e ≠ .removeNode node true) : Accounted c e id r r' where
  gained node hold hnew := by
    rw [hsame, hold] at hnew
    cases hnew
  lost node hold hnew := by
    rw [hsame, hold] at hnew
    cases hnew
  taken node _ hremove := absurd hremove (he node)

/-- The events that do not touch the catalog. -/
theorem catalog_register (c : Cluster) (request : RegisterRequest) (now : UInt64) :
    (c.register request now).cluster.store.catalog = c.store.catalog := by
  unfold register
  split
  · rfl
  split
  · rfl
  split <;> rfl

theorem catalog_heartbeat (c : Cluster) (node : NodeId) (free now : UInt64) :
    (c.heartbeat node free now).cluster.store.catalog = c.store.catalog := by
  unfold heartbeat
  split
  · rfl
  · next recovered _ _ => cases recovered <;> rfl

theorem catalog_failNode (c : Cluster) (node : NodeId) :
    (c.failNode node).cluster.store.catalog = c.store.catalog := by
  unfold failNode
  split
  · rfl
  · next changed _ _ => cases changed <;> rfl

theorem catalog_restoreNode (c : Cluster) (node : NodeId) (now : UInt64) :
    (c.restoreNode node now).cluster.store.catalog = c.store.catalog := by
  unfold restoreNode
  split
  · rfl
  · next changed _ _ => cases changed <;> rfl

theorem catalog_sweepTimeouts (c : Cluster) (now : UInt64) :
    (c.sweepTimeouts now).2.store.catalog = c.store.catalog := by
  unfold sweepTimeouts
  dsimp only
  split <;> rfl

theorem Accounted.of_catalog {e : Event} (hcatalog : (c.after e).store.catalog = c.store.catalog)
    (he : ∀ node, e ≠ .removeNode node true) (hr : c.store.chunk? id = some r)
    (hr' : (c.after e).store.chunk? id = some r') : Accounted c e id r r' := by
  rw [chunk?, hcatalog] at hr'
  obtain rfl := Option.some.inj (hr.symm.trans hr')
  exact .of_eq rfl he

/-- Chunks that come to expect nodes keep their replicas. -/
theorem replicas_expecting {s s' : Store} (h : Expecting s s') (hr : s.chunk? id = some r)
    (hr' : s'.chunk? id = some r') : r'.replicas = r.replicas := by
  obtain ⟨nodes, -, heq⟩ := h.exists_chunk? hr
  rw [← Option.some.inj (heq.symm.trans hr')]
  rfl

/-- A new file does not take the place of a stored chunk. -/
theorem chunk?_upload {request : UploadRequest} {now : UInt64}
    (hnew : DrawsNew c (c.after (.upload request now))) (hr : c.store.chunk? id = some r) :
    (c.after (.upload request now)).store.chunk? id = some r := by
  rw [after] at hnew ⊢
  rcases c.upload_cases request now with ⟨_, _, heq⟩ | ⟨_, _, _, _, _, hcreated, heq⟩ <;>
    rw [heq] at hnew ⊢
  · exact hr
  · obtain ⟨hids, hunused⟩ := hnew.chunks hcreated
    exact (hcreated.chunk?_iff hids hunused).2 (.inr hr)

/-- What is left when a file is deleted is as it was. -/
theorem chunk?_deleteFile (hsound : c.store.Sound) {file : FileId}
    (hr' : (c.after (.deleteFile file)).store.chunk? id = some r') : c.store.chunk? id = some r' := by
  cases hfile : c.store.catalog.files.get? file with
  | none =>
    rwa [after, cluster_deleteFile_of_none hfile] at hr'
  | some record => exact (((after_deleteFile hsound hfile).1.chunk?_iff id r').1 hr').1

/-! ## Reports -/

theorem report_of_error (h : c.Orderly) {chunk : ChunkId} {node : NodeId} {why : ServiceError}
    (hreport : c.store.report chunk node = .error why) :
    (c.report chunk node).cluster.store = c.store := by
  rw [report, h.asked_eq]
  dsimp only
  rw [hreport]
  rfl

theorem report_of_ok (h : c.Orderly) {chunk : ChunkId} {node : NodeId} {outcome : ReportOutcome}
    {store : Store} (hreport : c.store.report chunk node = .ok (outcome, store)) :
    (c.report chunk node).result = .ok ⟨outcome.added, outcome.replicaCount⟩ ∧
      (c.report chunk node).cluster.store = store := by
  rw [report, h.asked_eq]
  dsimp only
  rw [hreport]
  refine ⟨rfl, ?_⟩
  dsimp only
  split <;> split <;> rfl

/-- The node that reports is the only one that may be new. -/
theorem accounted_report (horderly : c.Orderly) {chunk : ChunkId} {node : NodeId}
    (hr : c.store.chunk? id = some r)
    (hr' : (c.after (.report chunk node)).store.chunk? id = some r') :
    Accounted c (.report chunk node) id r r' := by
  have hsame : c.store.chunk? id = some r' → Accounted c (.report chunk node) id r r' := by
    intro hr'
    obtain rfl := Option.some.inj (hr.symm.trans hr')
    exact .of_eq rfl fun node h => by cases h
  cases hreport : c.store.report chunk node with
  | error why =>
    rw [after, report_of_error horderly hreport] at hr'
    exact hsame hr'
  | ok answer =>
    obtain ⟨⟨added, count⟩, store⟩ := answer
    obtain ⟨hresult, hstore⟩ := report_of_ok horderly hreport
    rw [after, hstore] at hr'
    obtain ⟨record, hrecord, -, ⟨-, rfl, -⟩ | ⟨-, hadded, free, registry, -, rfl⟩⟩ :=
      report_ok hreport
    · exact hsame hr'
    rcases Table.get?_insert_eq_some.1 hr' with ⟨rfl, rfl⟩ | ⟨-, hr'⟩
    · obtain rfl := Option.some.inj (hr.symm.trans hrecord)
      have hadded : added = true := hadded
      refine ⟨fun n hold hnew => ?_, fun n hold hnew => ?_, fun n references h => by cases h⟩
      · rcases Table.contains_add.1 hnew with rfl | hnew
        · exact ⟨rfl, count, by rw [hresult, hadded]⟩
        · rw [hold] at hnew
          cases hnew
      · have hkept : (r.confirming node).replicas.contains n := Table.contains_add.2 (.inr hold)
        rw [hnew] at hkept
        cases hkept
    · exact hsame hr'

/-! ## Removals -/

theorem removeNode_of_error {node : NodeId} {force : Bool} {why : ServiceError}
    (h : c.store.retireNode node force = .error why) :
    c.removeNode node force = c.refuse why := by
  rw [removeNode, h]

theorem removeNode_of_ok {node : NodeId} {force : Bool} {references : Nat} {store : Store}
    (h : c.store.retireNode node force = .ok (references, store)) :
    (c.removeNode node force).result = .ok references ∧
      (c.removeNode node force).cluster.store = store := by
  rw [removeNode, h]
  exact ⟨rfl, rfl⟩

/-- A node that may be removed without force has no copy of the chunk. -/
theorem accounted_removeNode {node : NodeId} {force : Bool} (hr : c.store.chunk? id = some r)
    (hr' : (c.after (.removeNode node force)).store.chunk? id = some r') :
    Accounted c (.removeNode node force) id r r' := by
  cases hretire : c.store.retireNode node force with
  | error why =>
    have hrefused := removeNode_of_error hretire
    rw [after, hrefused] at hr'
    obtain rfl := Option.some.inj (hr.symm.trans hr')
    refine ⟨fun n hold hnew => ?_, fun n hold hnew => ?_, fun n references h hresult => ?_⟩
    · rw [hold] at hnew
      cases hnew
    · rw [hold] at hnew
      cases hnew
    · cases h
      rw [hrefused] at hresult
      cases hresult
  | ok answer =>
    obtain ⟨references, store⟩ := answer
    obtain ⟨hresult, hstore⟩ := removeNode_of_ok hretire
    rw [after, hstore, chunk?_retireNode hretire, hr, Option.map_some, Option.some_inj] at hr'
    subst hr'
    refine ⟨fun n hold hnew => ?_, fun n hold hnew => ?_, fun n references h _ => by cases h; rfl⟩
    · rw [(Table.contains_erase.1 hnew).2] at hold
      cases hold
    · have hnode : n = node := by
        by_contra hne
        have hkept : (r.without node).replicas.contains n := Table.contains_erase.2 ⟨hne, hold⟩
        rw [hnew] at hkept
        cases hkept
      subst hnode
      obtain ⟨hreferences, -, hremove⟩ := retireNode_ok hretire
      obtain ⟨-, -, hfree, -⟩ := Registry.remove_ok hremove
      have hheld : 0 < references := by
        rw [hreferences, ← length_heldBy]
        exact List.length_pos_of_mem (mem_heldBy.2 ⟨r, hr, hold⟩)
      have hforce : force = true := hfree.resolve_left (Nat.ne_of_gt hheld)
      subst hforce
      exact ⟨rfl, references, hresult⟩

/-! ## All events -/

/-- In good order the replicas of a chunk are accounted for, provided that the identifiers of new
chunks are new. -/
theorem Orderly.accounts_for_replicas (horderly : c.Orderly) : ∀ {e : Event}, DrawsNew c (c.after e) →
    c.store.chunk? id = some r → (c.after e).store.chunk? id = some r' → Accounted c e id r r'
  | .register request now, _, hr, hr' =>
    .of_catalog (catalog_register c request now) (by simp) hr hr'
  | .heartbeat node free now, _, hr, hr' =>
    .of_catalog (catalog_heartbeat c node free now) (by simp) hr hr'
  | .upload request now, hnew, hr, hr' => by
    obtain rfl := Option.some.inj ((chunk?_upload hnew hr).symm.trans hr')
    exact .of_eq rfl (by simp)
  | .report chunk node, _, hr, hr' => accounted_report horderly hr hr'
  | .deleteFile file, _, hr, hr' => by
    obtain rfl := Option.some.inj (hr.symm.trans (chunk?_deleteFile horderly.sound hr'))
    exact .of_eq rfl (by simp)
  | .failNode node, _, hr, hr' => .of_catalog (catalog_failNode c node) (by simp) hr hr'
  | .restoreNode node now, _, hr, hr' =>
    .of_catalog (catalog_restoreNode c node now) (by simp) hr hr'
  | .removeNode node force, _, hr, hr' => accounted_removeNode hr hr'
  | .sweepTimeouts now, _, hr, hr' => .of_catalog (catalog_sweepTimeouts c now) (by simp) hr hr'
  | .sweep chunks nodes now, _, hr, hr' =>
    .of_eq (replicas_expecting (sweepOver_spec c chunks nodes now).1 hr hr') (by simp)

/-- What is done about a node in service that is to be removed without force: it is kept if chunks
have copies on it, and the refusal tells how many; otherwise it is removed, and no replicas
change. -/
structure Spared (c : Cluster) (node : NodeId) : Prop where
  refused : (c.removeNode node false).result =
      .error (.refused (.nodeInUse node (c.store.heldBy node).length)) ↔
    0 < (c.store.heldBy node).length
  kept : 0 < (c.store.heldBy node).length → (c.removeNode node false).cluster = c
  removed : c.store.heldBy node = [] → (c.removeNode node false).result = .ok 0 ∧
    (c.removeNode node false).cluster.store.registry.isLive node = false ∧
    ∀ id, ((c.removeNode node false).cluster.store.chunk? id).map ChunkRecord.replicas =
      (c.store.chunk? id).map ChunkRecord.replicas

/-- Without force a node in service is removed if and only if it holds nothing. -/
theorem spared {node : NodeId} (hlive : c.store.registry.isLive node) : c.Spared node := by
  obtain ⟨record, hrecord⟩ := Registry.isLive_iff.1 hlive
  have hremove : c.store.registry.remove node false (c.store.heldBy node).length =
      if 0 < (c.store.heldBy node).length then
        .error (.nodeInUse node (c.store.heldBy node).length)
      else .ok (c.store.registry.set node { record with health := .removed }) := by
    rw [Registry.remove, Registry.live_eq_ok hrecord]
    split <;> simp_all [bind, Except.bind, throw, throwThe, MonadExceptOf.throw, pure, Except.pure]
  have hretire : c.store.retireNode node false =
      (c.store.registry.remove node false (c.store.heldBy node).length).map fun registry =>
        ((c.store.heldBy node).length, { registry, catalog := c.store.catalog.strip node }) := by
    rw [length_heldBy, Store.retireNode]
  by_cases hheld : 0 < (c.store.heldBy node).length
  · rw [hremove, if_pos hheld] at hretire
    have hrefused := removeNode_of_error hretire
    refine ⟨iff_of_true (by rw [hrefused]; rfl) hheld, fun _ => by rw [hrefused]; rfl, fun hnone => ?_⟩
    rw [hnone] at hheld
    cases hheld
  · have hnone : c.store.heldBy node = [] := by simpa using hheld
    rw [hremove, if_neg hheld] at hretire
    obtain ⟨hresult, hstore⟩ := removeNode_of_ok hretire
    refine ⟨iff_of_false (by rw [hresult]; simp) hheld, fun h => absurd h hheld, fun _ => ⟨?_, ?_, ?_⟩⟩
    · rw [hresult, hnone]
      rfl
    · rw [hstore, ← Bool.not_eq_true, Registry.isLive_set_removed rfl]
      exact fun h => h.1 rfl
    · intro id
      rw [hstore, chunk?_retireNode hretire, Option.map_map]
      cases hr : c.store.chunk? id with
      | none => rfl
      | some r =>
        have hfree : r.replicas.contains node = false := by
          rw [← Bool.not_eq_true]
          intro hheld
          have hmem := mem_heldBy.2 ⟨r, hr, hheld⟩
          rw [hnone] at hmem
          cases hmem
        exact congrArg some (replicas_without hfree)

end Cluster

/-- Wherever a life has come to that draws no identifier twice, an event changes the replicas of a
chunk that is stored before and after it for a stated cause or not at all, and a node in service
that is to be removed without force is spared if it holds copies. -/
theorem Lifetime.replicas_accounted {settings : Settings} {ids : IdSupply}
    {steps : List (Cluster × Turn)} {c c' : Cluster} {e : Event}
    (life : Lifetime (.fresh settings ids) ((c, .event e) :: steps) c')
    (hinj : Set.InjOn ids.nth (Set.Ioc ids.drawn c'.ids.drawn)) :
    (∀ id r r', c.store.chunk? id = some r → c'.store.chunk? id = some r' →
      c.Accounted e id r r') ∧
    ∀ node, c.store.registry.isLive node → c.Spared node := by
  have happening := life.happening hinj
  cases life with
  | cons life read =>
    exact ⟨fun id r r' => happening.orderly.accounts_for_replicas happening.fresh.drawsNew,
      fun node => Cluster.spared⟩

/-- Both chunks of a file have a copy on one node, and one of them has another one elsewhere. -/
def heldChunks : List (Cluster → Event) :=
  [fun _ => .register ⟨"a", "host", 1, 1000⟩ 0,
   fun _ => .register ⟨"b", "host", 1, 1000⟩ 0,
   fun _ => .upload ⟨"name", 10, some 5, some 2⟩ 0,
   fun _ => .report ⟨2⟩ "a",
   fun _ => .report ⟨3⟩ "a",
   fun _ => .report ⟨3⟩ "b"]

/-- If the first node is removed with force, its copies go and the other one stays. Without force it
would be spared. -/
theorem Lifetime.replicas_accounted_heldChunks :
    ∃ steps c c', Lifetime (.fresh .default .counting)
        ((c, .event (.removeNode "a" true)) :: steps) c' ∧
      Set.InjOn IdSupply.counting.nth (Set.Ioc 0 c'.ids.drawn) ∧
      (c.store.heldBy "a" = [⟨2⟩, ⟨3⟩] ∧ c'.store.heldBy "a" = [] ∧ c'.store.heldBy "b" = [⟨3⟩]) ∧
      (∀ id r r', c.store.chunk? id = some r → c'.store.chunk? id = some r' →
        c.Accounted (.removeNode "a" true) id r r') ∧
      ∀ node, c.store.registry.isLive node → c.Spared node := by
  have hrun : Run (.fresh .default .counting) (Run.played heldChunks).1 (Run.played heldChunks).2 :=
    Run.of_played (by simp [heldChunks, Event.ReadFrom])
  have hlife := (hrun.cons (e := .removeNode "a" true) trivial).lifetime
  have hinj := IdSupply.injOn_counting
    (n := ((Run.played heldChunks).2.after (.removeNode "a" true)).ids.drawn) (by decide +kernel)
  refine ⟨_, _, _, hlife, hinj, ⟨?_, ?_, ?_⟩, replicas_accounted hlife hinj⟩
  all_goals decide +kernel

end ChunkCoordinator
