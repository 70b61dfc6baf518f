import ChunkCoordinator.Proofs.Debits

/-!
# What a granted report does

A report that is granted does four things : the node joins those that the chunk expects and has
copies on, the size is taken from what the node has free, the instruction for the copy leaves the
queue, and it is counted if there was one. `Cluster.granting` writes this down as a function of the
state, and as a function it commutes with itself (`Cluster.granting_comm`).

A report is granted if and only if the copy is awaited and there is room for it (`Cluster.Grants`,
`Cluster.Grants.report_eq`, `Cluster.grants_of_ok`). It depends on other reports only through the
free space of the node, and of two reports that find room one after the other either may come first
(`Cluster.Grants.swap`). None of this needs good order : a copy may be awaited because it is
pending, though its chunk does not expect it yet.
-/

set_option linter.unusedSectionVars false

namespace ChunkCoordinator

namespace Table

variable {κ : Type} [Ord κ] [Std.TransOrd κ] [Std.LawfulEqOrd κ]

theorem add_comm (s : KeySet κ) (k k' : κ) : (s.add k).add k' = (s.add k').add k := by
  refine ext_get? fun k'' => ?_
  simp only [add, get?_insert]
  split <;> split <;> rfl

end Table

/-- Different copies of one chunk are on different nodes. -/
theorem CopyKey.target_ne {key key' : CopyKey} (hne : key ≠ key')
    (hchunk : key.chunk = key'.chunk) : key.target ≠ key'.target := by
  intro htarget
  cases key
  cases key'
  exact hne (congrArg₂ mk hchunk htarget)

/-! ## Taking space from a node -/

/-- The record of a node that an amount has been taken from. A removed node gives nothing. -/
def Node.paying (amount : UInt64) (n : Node) : Node :=
  if n.isLive then { n with free := n.free - amount } else n

namespace Node

variable {n : Node}

theorem paying_of_isLive (h : n.isLive) (amount : UInt64) :
    n.paying amount = { n with free := n.free - amount } :=
  if_pos h

@[simp] theorem isLive_paying (n : Node) (amount : UInt64) :
    (n.paying amount).isLive = n.isLive := by
  unfold paying
  split <;> rfl

@[simp] theorem paying_zero (n : Node) : n.paying 0 = n := by
  simp [paying]

theorem paying_comm (n : Node) (a b : UInt64) : (n.paying a).paying b = (n.paying b).paying a := by
  by_cases hlive : n.isLive
  · have hfree : n.free - a - b = n.free - b - a := by grind
    have hpaid : ∀ amount, ({ n with free := n.free - amount } : Node).isLive := fun _ => hlive
    rw [paying_of_isLive hlive, paying_of_isLive hlive, paying_of_isLive (hpaid a),
      paying_of_isLive (hpaid b)]
    exact congrArg (fun free => { n with free }) hfree
  · have hsame : ∀ amount, n.paying amount = n := fun _ => if_neg hlive
    rw [hsame, hsame, hsame]

end Node

namespace Registry

variable {r : Registry} {id id' : NodeId} {node : Node}

theorem ext_get? {r' : Registry} (h : ∀ id, r.get? id = r'.get? id) : r = r' :=
  congrArg mk (Table.ext_get? h)

/-- An amount is taken from the free space of a node in service. -/
def taking (r : Registry) (id : NodeId) (amount : UInt64) : Registry :=
  match r.live? id with
  | none => r
  | some node => r.set id { node with free := node.free - amount }

theorem taking_eq (h : r.live? id = some node) (amount : UInt64) :
    r.taking id amount = r.set id { node with free := node.free - amount } := by
  rw [taking, h]

theorem get?_taking (r : Registry) (id id' : NodeId) (amount : UInt64) :
    (r.taking id amount).get? id' =
      (r.get? id').map fun n => if id' = id then n.paying amount else n := by
  unfold taking
  cases hnode : r.live? id with
  | none =>
    have hout : ∀ n, r.get? id = some n → n.paying amount = n := by
      intro n hget
      refine if_neg fun hlive => ?_
      rw [live?_eq_some.2 ⟨hget, hlive⟩] at hnode
      cases hnode
    cases hget : r.get? id' with
    | none => rfl
    | some n =>
      refine congrArg some ?_
      split
      · next heq => exact (hout n (heq ▸ hget)).symm
      · rfl
  | some node =>
    obtain ⟨hget, hlive⟩ := live?_eq_some.1 hnode
    dsimp only
    rw [get?_set]
    split
    · next heq => rw [heq, hget, Option.map_some, Node.paying_of_isLive hlive]
    · exact Option.map_id'.symm

theorem live?_taking (r : Registry) (id id' : NodeId) (amount : UInt64) :
    (r.taking id amount).live? id' =
      (r.live? id').map fun n => if id' = id then n.paying amount else n := by
  rw [live?, get?_taking, live?]
  cases r.get? id' with
  | none => rfl
  | some n =>
    have hlive : (if id' = id then n.paying amount else n).isLive = n.isLive := by
      split
      · exact n.isLive_paying amount
      · rfl
    cases hn : n.isLive <;> simp [Option.filter, hlive, hn]

theorem isLive_taking (r : Registry) (id id' : NodeId) (amount : UInt64) :
    (r.taking id amount).isLive id' = r.isLive id' := by
  rw [isLive, live?_taking, Option.isSome_map, isLive]

theorem taking_zero (r : Registry) (id : NodeId) : r.taking id 0 = r :=
  ext_get? fun id' => by simp [get?_taking]

theorem taking_comm (r : Registry) (id id' : NodeId) (amount amount' : UInt64) :
    (r.taking id amount).taking id' amount' = (r.taking id' amount').taking id amount := by
  refine ext_get? fun id'' => ?_
  simp only [get?_taking, Option.map_map]
  refine congrArg (fun f => (r.get? id'').map f) (funext fun n => ?_)
  simp only [Function.comp_apply]
  by_cases h : id'' = id
  · by_cases h' : id'' = id'
    · simp only [if_pos h, if_pos h']
      exact n.paying_comm amount amount'
    · simp only [if_pos h, if_neg h']
  · simp only [if_neg h]

end Registry

/-! ## What a granted report does -/

namespace ChunkRecord

/-- The record when a node has been asked for a copy and has confirmed it. -/
def granting (r : ChunkRecord) (node : NodeId) : ChunkRecord := (r.expecting [node]).confirming node

theorem contains_replicas_granting {r : ChunkRecord} {node n : NodeId} :
    (r.granting node).replicas.contains n ↔ n = node ∨ r.replicas.contains n :=
  Table.contains_add

theorem contains_expected_granting {r : ChunkRecord} {node n : NodeId} :
    (r.granting node).expected.contains n ↔ n = node ∨ r.expected.contains n :=
  Table.contains_add

theorem granting_comm (r : ChunkRecord) (node node' : NodeId) :
    (r.granting node).granting node' = (r.granting node').granting node := by
  have hexpected : (r.expected.add node).add node' = (r.expected.add node').add node :=
    Table.add_comm _ _ _
  have hreplicas : (r.replicas.add node).add node' = (r.replicas.add node').add node :=
    Table.add_comm _ _ _
  unfold granting expecting confirming
  exact congrArg₂ (fun expected replicas => { r with expected, replicas }) hexpected hreplicas

/-- That is nothing new for a node that has been asked for the copy that it holds. -/
theorem granting_eq_self {r : ChunkRecord} {node : NodeId} (hexpected : r.expected.contains node)
    (hreplica : r.replicas.contains node) : r.granting node = r := by
  have hexpected : r.expected.addAll [node] = r.expected := Table.add_of_contains hexpected
  have hreplica : r.replicas.add node = r.replicas := Table.add_of_contains hreplica
  rw [granting, expecting, confirming, hexpected, hreplica]

/-- Every node that has confirmed a copy has been asked for it. -/
def Asked (r : ChunkRecord) : Prop := ∀ n, r.replicas.contains n → r.expected.contains n

namespace Asked

variable {r : ChunkRecord}

theorem expecting (h : r.Asked) (nodes : List NodeId) : (r.expecting nodes).Asked :=
  fun n hn => contains_expecting.2 (.inr (h n hn))

theorem confirming (h : r.Asked) {node : NodeId} (hnode : r.expected.contains node) :
    (r.confirming node).Asked := by
  intro n hn
  rcases Table.contains_add.1 hn with rfl | hn
  · exact hnode
  · exact h n hn

theorem without (h : r.Asked) (node : NodeId) : (r.without node).Asked := by
  intro n hn
  obtain ⟨hne, hn⟩ := Table.contains_erase.1 hn
  exact Table.contains_erase.2 ⟨hne, h n hn⟩

end Asked

end ChunkRecord

namespace Store

variable {s : Store} {key key' : CopyKey} {id : ChunkId} {r : ChunkRecord}

theorem eq_of_parts {s' : Store} (hregistry : s.registry = s'.registry)
    (hfiles : s.catalog.files = s'.catalog.files) (hchunks : s.catalog.chunks = s'.catalog.chunks)
    (hlists : s.catalog.chunkIds = s'.catalog.chunkIds) : s = s' := by
  obtain ⟨registry, files, chunks, lists⟩ := s
  cases hregistry
  cases hfiles
  cases hchunks
  cases hlists
  rfl

/-- The copy is confirmed. -/
def confirms (s : Store) (key : CopyKey) : Bool :=
  (s.chunk? key.chunk).any fun r => r.replicas.contains key.target

/-- What is to be taken from the node when it reports the copy. -/
def due (s : Store) (key : CopyKey) : UInt64 :=
  match s.chunk? key.chunk with
  | none => 0
  | some r => if r.replicas.contains key.target then 0 else bookable r.size

/-- The store after the report of a copy of a stored chunk. -/
def granting (s : Store) (key : CopyKey) : Store where
  registry := s.registry.taking key.target (s.due key)
  catalog :=
    match s.chunk? key.chunk with
    | none => s.catalog
    | some r =>
      { s.catalog with chunks := s.catalog.chunks.insert key.chunk (r.granting key.target) }

theorem files_granting (s : Store) (key : CopyKey) :
    (s.granting key).catalog.files = s.catalog.files ∧
      (s.granting key).catalog.chunkIds = s.catalog.chunkIds := by
  unfold granting
  split <;> exact ⟨rfl, rfl⟩

theorem chunk?_granting (s : Store) (key : CopyKey) (id : ChunkId) :
    (s.granting key).chunk? id =
      (s.chunk? id).map fun r => if id = key.chunk then r.granting key.target else r := by
  unfold granting chunk?
  dsimp only
  by_cases heq : id = key.chunk
  · subst heq
    cases hr : s.catalog.chunks.get? key.chunk with
    | none => exact hr
    | some r => simp
  · simp only [if_neg heq]
    rw [Option.map_id']
    split
    · rfl
    · exact Table.get?_insert_of_ne _ _ heq

theorem confirms_iff : s.confirms key ↔
    ∃ r, s.chunk? key.chunk = some r ∧ r.replicas.contains key.target := by
  rw [confirms, Option.any_eq_true]

/-- No other copy comes to be confirmed. -/
theorem confirms_granting (hne : key ≠ key') : (s.granting key').confirms key = s.confirms key := by
  rw [confirms, chunk?_granting, confirms, Option.any_map]
  refine congrArg (fun p => Option.any p _) (funext fun r => ?_)
  split
  · next heq =>
    rw [Bool.eq_iff_iff, ChunkRecord.contains_replicas_granting]
    exact or_iff_right (CopyKey.target_ne hne heq)
  · rfl

theorem confirms_granting_self (hr : s.chunk? key.chunk = some r) :
    (s.granting key).confirms key := by
  have hreplica : (r.granting key.target).replicas.contains key.target :=
    ChunkRecord.contains_replicas_granting.2 (.inl rfl)
  refine confirms_iff.2 ⟨r.granting key.target, ?_, hreplica⟩
  rw [chunk?_granting, hr, Option.map_some, if_pos rfl]

theorem due_eq (hr : s.chunk? key.chunk = some r) :
    s.due key = if s.confirms key then 0 else bookable r.size := by
  rw [due, confirms, hr]
  rfl

theorem due_granting (hne : key ≠ key') : (s.granting key').due key = s.due key := by
  cases hr : s.chunk? key.chunk with
  | none => rw [due, chunk?_granting, due, hr]; rfl
  | some r =>
    have hr' := s.chunk?_granting key' key.chunk
    have hsize : (if key.chunk = key'.chunk then r.granting key'.target else r).size = r.size := by
      split <;> rfl
    rw [hr, Option.map_some] at hr'
    rw [due_eq hr, due_eq hr', confirms_granting hne, hsize]

/-- Reports of two copies may come in either order. -/
theorem granting_comm (hne : key ≠ key') :
    (s.granting key).granting key' = (s.granting key').granting key := by
  have hregistry : ((s.granting key).granting key').registry =
      ((s.granting key').granting key).registry := by
    have hregistry : ∀ (s : Store) key, (s.granting key).registry =
        s.registry.taking key.target (s.due key) := fun _ _ => rfl
    rw [hregistry, hregistry, hregistry, hregistry, due_granting hne, due_granting hne.symm]
    exact Registry.taking_comm _ _ _ _ _
  have hchunks : ((s.granting key).granting key').catalog.chunks =
      ((s.granting key').granting key).catalog.chunks := by
    refine Table.ext_get? fun id => ?_
    have hchunk := fun (s : Store) key => s.chunk?_granting key id
    refine (hchunk (s.granting key) key').trans (Eq.symm ((hchunk (s.granting key') key).trans ?_))
    rw [hchunk s key, hchunk s key', Option.map_map, Option.map_map]
    refine congrArg (fun f => (s.chunk? id).map f) (funext fun r => ?_)
    simp only [Function.comp_apply]
    by_cases h : id = key.chunk
    · by_cases h' : id = key'.chunk
      · simp only [if_pos h, if_pos h']
        exact r.granting_comm key'.target key.target
      · simp only [if_pos h, if_neg h']
    · simp only [if_neg h]
  have htables : ∀ key key', ((s.granting key).granting key').catalog.files = s.catalog.files ∧
      ((s.granting key).granting key').catalog.chunkIds = s.catalog.chunkIds := by
    intro key key'
    obtain ⟨hfiles, hlists⟩ := files_granting (s.granting key) key'
    obtain ⟨hfiles', hlists'⟩ := files_granting s key
    exact ⟨hfiles.trans hfiles', hlists.trans hlists'⟩
  obtain ⟨hfiles, hlists⟩ := htables key key'
  obtain ⟨hfiles', hlists'⟩ := htables key' key
  exact eq_of_parts hregistry (hfiles.trans hfiles'.symm) hchunks (hlists.trans hlists'.symm)

/-- To confirm a confirmed copy is to do nothing. -/
theorem granting_eq_self (hasked : ∀ r, s.chunk? key.chunk = some r → r.Asked)
    (h : s.confirms key) : s.granting key = s := by
  obtain ⟨r, hr, hreplica⟩ := confirms_iff.1 h
  have hsame : r.granting key.target = r :=
    ChunkRecord.granting_eq_self (hasked r hr key.target hreplica) hreplica
  have hchunks : s.catalog.chunks.insert key.chunk r = s.catalog.chunks := Table.insert_of_get? hr
  rw [granting, due_eq hr, h, if_pos rfl, Registry.taking_zero, hr]
  dsimp only
  rw [hsame, hchunks]

/-! ## Room -/

/-- There is nothing to be taken from the node, or it is in service and has that free. -/
def HasRoom (s : Store) (key : CopyKey) : Prop :=
  s.confirms key ∨ ∃ old, s.registry.live? key.target = some old ∧ s.due key ≤ old.free

theorem due_of_confirms (h : s.confirms key) : s.due key = 0 := by
  obtain ⟨r, hr, -⟩ := confirms_iff.1 h
  rw [due_eq hr, if_pos h]

theorem HasRoom.due_le (h : s.HasRoom key) {old : Node}
    (hold : s.registry.live? key.target = some old) : s.due key ≤ old.free := by
  rcases h with h | ⟨old', hold', hroom⟩
  · rw [due_of_confirms h]
    exact UInt64.zero_le
  · rwa [Option.some.inj (hold.symm.trans hold')]

theorem live?_granting (s : Store) (key : CopyKey) (id : NodeId) :
    (s.granting key).registry.live? id =
      (s.registry.live? id).map fun n => if id = key.target then n.paying (s.due key) else n :=
  Registry.live?_taking _ _ _ _

/-- A node that has been asked for a copy and has room for it confirms it. -/
theorem HasRoom.report_eq (hbounded : s.registry.Bounded) (hr : s.chunk? key.chunk = some r)
    (h : s.HasRoom key) {asked : Store}
    (hasked : asked = { s with catalog := { s.catalog with
      chunks := s.catalog.chunks.insert key.chunk (r.expecting [key.target]) } }) :
    asked.report key.chunk key.target =
      .ok (⟨!s.confirms key, (r.granting key.target).replicas.size⟩, s.granting key) := by
  have hr' : asked.chunk? key.chunk = some (r.expecting [key.target]) := by
    rw [hasked]
    exact Table.get?_insert_self _ _ _
  have hexpected : (r.expecting [key.target]).expected.contains key.target :=
    ChunkRecord.contains_expecting.2 (.inl (List.mem_singleton.2 rfl))
  have hconfirms : s.confirms key = r.replicas.contains key.target := by
    rw [confirms, hr]
    rfl
  have hgranting : s.granting key =
      { registry := s.registry.taking key.target (s.due key)
        catalog := { s.catalog with
          chunks := s.catalog.chunks.insert key.chunk (r.granting key.target) } } := by
    rw [granting, hr]
  cases hreplica : r.replicas.contains key.target with
  | true =>
    have hsame : (r.expecting [key.target]).confirming key.target = r.expecting [key.target] :=
      congrArg (fun replicas => { r.expecting [key.target] with replicas })
        (Table.add_of_contains hreplica)
    have hstore : s.granting key = asked := by
      rw [hgranting, due_of_confirms (hconfirms.trans hreplica), Registry.taking_zero,
        ChunkRecord.granting, hsame, hasked]
    have hreplica' : (r.expecting [key.target]).replicas.contains key.target := hreplica
    unfold chunk? at hr'
    rw [report, hr', hstore, hconfirms, hreplica, ChunkRecord.granting, hsame]
    simp only [hexpected, hreplica', Bool.not_true, Bool.false_eq_true, if_false, if_true]
  | false =>
    have hunconfirmed : ¬s.confirms key := by rw [hconfirms, hreplica]; exact Bool.false_ne_true
    obtain ⟨old, hold, hroom⟩ := h.resolve_left hunconfirmed
    have hdue : s.due key = bookable r.size := by
      rw [due_eq hr, hconfirms, hreplica]
      rfl
    have hstore : asked.confirmed key.chunk (r.expecting [key.target]) key.target old =
        s.granting key := by
      rw [hgranting, Registry.taking_eq hold, hdue, confirmed, hasked]
      dsimp only
      rw [Table.insert_insert]
      rfl
    have hregistry : asked.registry = s.registry := by rw [hasked]
    rw [← hregistry] at hbounded hold
    rw [Store.report_eq hbounded hr' hexpected hreplica hold, if_neg, hstore, hconfirms, hreplica]
    · rfl
    · exact UInt64.not_lt.2 (hdue ▸ hroom)

/-- Of two copies that find room one after the other, either may come first. -/
theorem HasRoom.swap (hne : key ≠ key') (h : s.HasRoom key) (h' : (s.granting key).HasRoom key') :
    s.HasRoom key' ∧ (s.granting key').HasRoom key := by
  constructor
  · rcases h' with h' | ⟨left, hleft, hroom⟩
    · exact .inl (confirms_granting hne.symm ▸ h')
    rw [live?_granting] at hleft
    obtain ⟨old, hold, rfl⟩ := Option.map_eq_some_iff.1 hleft
    rw [due_granting hne.symm] at hroom
    refine .inr ⟨old, hold, ?_⟩
    split at hroom
    · next hnode =>
      rw [hnode] at hold
      have hfirst := h.due_le hold
      rw [Node.paying_of_isLive (Registry.live?_eq_some.1 hold).2] at hroom
      rw [UInt64.le_iff_toNat_le] at hroom ⊢
      rw [UInt64.toNat_sub_of_le _ _ hfirst] at hroom
      omega
    · exact hroom
  · rcases h with h | ⟨old, hold, hroom⟩
    · exact .inl ((confirms_granting hne).trans h)
    refine .inr ⟨if key.target = key'.target then old.paying (s.due key') else old, ?_, ?_⟩
    · rw [live?_granting, hold, Option.map_some]
    rw [due_granting hne]
    split
    · next hnode =>
      -- the second copy goes to the same node and fits beside the first
      have hlive := (Registry.live?_eq_some.1 hold).2
      have hsecond : s.due key' ≤ old.free - s.due key := by
        have hleft : (s.granting key).registry.live? key'.target =
            some (old.paying (s.due key)) := by
          rw [live?_granting, ← hnode, hold, Option.map_some, if_pos rfl]
        have hle := h'.due_le hleft
        rwa [due_granting hne.symm, Node.paying_of_isLive hlive] at hle
      rw [Node.paying_of_isLive hlive]
      rw [UInt64.le_iff_toNat_le] at hroom hsecond ⊢
      rw [UInt64.toNat_sub_of_le _ _ (UInt64.le_iff_toNat_le.2 hroom)] at hsecond
      have hfits : s.due key' ≤ old.free := UInt64.le_iff_toNat_le.2 (by omega)
      dsimp only
      rw [UInt64.toNat_sub_of_le _ _ hfits]
      omega
    · exact hroom

end Store

/-! ## Granted reports -/

namespace Cluster

open Store

variable {c : Cluster} {key key' : CopyKey}

/-- The state once there is no instruction for a copy any more. -/
def settling (c : Cluster) (key : CopyKey) : Cluster :=
  { c with
    queue := (c.queue.acknowledge key.chunk key.target).2
    metrics :=
      if c.queue.isPending key.chunk key.target then c.metrics.countCompleted else c.metrics }

/-- The state after the report of a copy is granted. -/
def granting (c : Cluster) (key : CopyKey) : Cluster :=
  { c.settling key with
    store := c.store.granting key
    dirty := c.dirty || !c.store.confirms key }

theorem isPending_granting (c : Cluster) (key key' : CopyKey) :
    (c.granting key).queue.isPending key'.chunk key'.target =
      (decide (key' ≠ key) && c.queue.isPending key'.chunk key'.target) := by
  rw [Bool.eq_iff_iff, Bool.and_eq_true, decide_eq_true_eq]
  exact Table.contains_erase

/-- Two grants may come in either order. -/
theorem granting_comm (hne : key ≠ key') :
    (c.granting key).granting key' = (c.granting key').granting key := by
  have hstore : (c.store.granting key).granting key' = (c.store.granting key').granting key :=
    Store.granting_comm hne
  have hpending : (c.queue.pending.erase key).erase key' = (c.queue.pending.erase key').erase key :=
    Table.ext_get? fun k => Option.ext fun i => by
      simp only [Table.get?_erase_eq_some]
      exact and_left_comm
  have hqueue : ((c.granting key).granting key').queue = ((c.granting key').granting key).queue :=
    congrArg (fun pending => { c.queue with pending }) hpending
  have hmetrics : ((c.granting key).granting key').metrics =
      ((c.granting key').granting key).metrics := by
    have hmetrics : ∀ (c : Cluster) key, (c.granting key).metrics =
        if c.queue.isPending key.chunk key.target then c.metrics.countCompleted else c.metrics :=
      fun _ _ => rfl
    rw [hmetrics, hmetrics, hmetrics, hmetrics, isPending_granting, isPending_granting]
    simp only [ne_eq, hne, hne.symm, not_false_eq_true, decide_true, Bool.true_and]
    split <;> split <;> rfl
  have hdirty : ((c.granting key).granting key').dirty =
      ((c.granting key').granting key).dirty := by
    have hdirty : ∀ (c : Cluster) key,
        (c.granting key).dirty = (c.dirty || !c.store.confirms key) := fun _ _ => rfl
    have hconfirms : ∀ key key', key ≠ key' →
        (c.granting key').store.confirms key = c.store.confirms key := fun _ _ hne =>
      confirms_granting hne
    rw [hdirty, hdirty, hdirty, hdirty, hconfirms _ _ hne, hconfirms _ _ hne.symm]
    exact Bool.or_right_comm _ _ _
  have hparts : ∀ c' c'' : Cluster, c'.settings = c''.settings → c'.ids = c''.ids →
      c'.store = c''.store → c'.queue = c''.queue → c'.metrics = c''.metrics →
      c'.dirty = c''.dirty → c' = c'' := by
    rintro ⟨⟩ ⟨⟩ rfl rfl rfl rfl rfl rfl
    rfl
  exact hparts _ _ rfl rfl hstore hqueue hmetrics hdirty

/-- The copy is one that its chunk expects, or it is to be made on a node in service. -/
def Awaits (c : Cluster) (key : CopyKey) : Prop :=
  ∃ r, c.store.chunk? key.chunk = some r ∧ (r.expected.contains key.target ∨
    (c.queue.isPending key.chunk key.target ∧ c.store.registry.isLive key.target))

/-- The report of the copy will be granted. -/
def Grants (c : Cluster) (key : CopyKey) : Prop := c.Awaits key ∧ c.store.HasRoom key

/-- The reports of other copies have no bearing on this. -/
theorem awaits_granting (hne : key ≠ key') : (c.granting key').Awaits key ↔ c.Awaits key := by
  have hlive : (c.granting key').store.registry.isLive key.target =
      c.store.registry.isLive key.target := Registry.isLive_taking _ _ _ _
  have hpending : (c.granting key').queue.isPending key.chunk key.target =
      c.queue.isPending key.chunk key.target := by
    rw [isPending_granting, decide_eq_true hne, Bool.true_and]
  have hchunk : (c.granting key').store.chunk? key.chunk =
      (c.store.chunk? key.chunk).map fun r =>
        if key.chunk = key'.chunk then r.granting key'.target else r := chunk?_granting _ _ _
  unfold Awaits
  rw [hlive, hpending, hchunk]
  cases hr : c.store.chunk? key.chunk with
  | none => simp
  | some r =>
    have hexpected :
        (if key.chunk = key'.chunk then r.granting key'.target else r).expected.contains key.target ↔
          r.expected.contains key.target := by
      split
      · next heq =>
        rw [ChunkRecord.contains_expected_granting]
        exact or_iff_right (CopyKey.target_ne hne heq)
      · rfl
    simp only [Option.map_some, Option.some.injEq, exists_eq_left', hexpected]

/-- Of two reports that are granted one after the other, either may come first. -/
theorem Grants.swap (hne : key ≠ key') (h : c.Grants key) (h' : (c.granting key).Grants key') :
    c.Grants key' ∧ (c.granting key').Grants key := by
  obtain ⟨hawaits, hroom⟩ := h
  obtain ⟨hawaits', hroom'⟩ := h'
  obtain ⟨hfirst, hsecond⟩ := hroom.swap hne hroom'
  exact ⟨⟨(awaits_granting hne.symm).1 hawaits', hfirst⟩, (awaits_granting hne).2 hawaits, hsecond⟩

/-! ## What a report comes to -/

/-- The records that a report is checked against: the reporting node counts as asked if a copy to it
is pending. -/
def asked (c : Cluster) (key : CopyKey) : Store :=
  if c.queue.isPending key.chunk key.target then
    ((c.store.expect key.chunk [key.target]).map Prod.snd).getD c.store
  else c.store

theorem report_eq_asked (c : Cluster) (key : CopyKey) :
    c.report key.chunk key.target =
      match (c.asked key).report key.chunk key.target with
      | .error why => { c with store := c.asked key }.refuse why
      | .ok (outcome, store) =>
        let c' : Cluster := { c with store, queue := (c.queue.acknowledge key.chunk key.target).2 }
        let c' := if c.queue.isPending key.chunk key.target then
          { c' with metrics := c.metrics.countCompleted } else c'
        let c' := if outcome.added then c'.markDirty else c'
        c'.answer ⟨outcome.added, outcome.replicaCount⟩ := by
  rfl

theorem Awaits.asked_eq {r : ChunkRecord} (hr : c.store.chunk? key.chunk = some r)
    (h : r.expected.contains key.target ∨
      (c.queue.isPending key.chunk key.target ∧ c.store.registry.isLive key.target)) :
    c.asked key = { c.store with catalog := { c.store.catalog with
      chunks := c.store.catalog.chunks.insert key.chunk (r.expecting [key.target]) } } := by
  by_cases hexpected : r.expected.contains key.target
  · have hsame : r.expecting [key.target] = r := by
      rw [ChunkRecord.expecting, Table.addAll_of_contains]
      simpa using hexpected
    have hchunks : c.store.catalog.chunks.insert key.chunk r = c.store.catalog.chunks :=
      Table.insert_of_get? hr
    rw [hsame, hchunks, asked]
    split
    · refine expect_of_expected fun r' hr' t ht => ?_
      rwa [List.mem_singleton.1 ht, Option.some.inj (hr'.symm.trans hr)]
    · rfl
  · obtain ⟨hpending, hlive⟩ := h.resolve_left hexpected
    rw [asked, if_pos hpending, expect_eq_some _ hr, List.filter_cons_of_pos hlive, List.filter_nil]
    rfl

/-- The report of a copy that is awaited is granted if there is room for it. -/
theorem Grants.report_eq (hbounded : c.store.registry.Bounded) (h : c.Grants key) :
    ∃ count, c.report key.chunk key.target =
      ⟨.ok ⟨!c.store.confirms key, count⟩, c.granting key⟩ := by
  obtain ⟨⟨r, hr, hawaits⟩, hroom⟩ := h
  have hstore := hroom.report_eq hbounded hr (Awaits.asked_eq hr hawaits)
  refine ⟨(r.granting key.target).replicas.size, ?_⟩
  rw [report_eq_asked, hstore]
  unfold granting settling
  cases c.store.confirms key <;> cases c.queue.isPending key.chunk key.target <;>
    simp [markDirty, answer]

theorem awaits_of_asked {record : ChunkRecord} (hr : (c.asked key).chunk? key.chunk = some record)
    (hexpected : record.expected.contains key.target) : c.Awaits key := by
  by_cases hpending : c.queue.isPending key.chunk key.target
  · rw [asked, if_pos hpending] at hr
    cases hold : c.store.chunk? key.chunk with
    | none =>
      rw [expect_eq_none _ hold, Option.map_none, Option.getD_none, hold] at hr
      cases hr
    | some r =>
      rw [expect_eq_some _ hold, Option.map_some, Option.getD_some, chunk?,
        Table.get?_insert_self] at hr
      obtain rfl := Option.some.inj hr
      refine ⟨r, hold, ?_⟩
      rcases ChunkRecord.contains_expecting.1 hexpected with hlive | hexpected
      · exact .inr ⟨hpending, (List.mem_filter.1 hlive).2⟩
      · exact .inl hexpected
  · rw [asked, if_neg hpending] at hr
    exact ⟨record, hr, .inl hexpected⟩

/-- Otherwise it is not granted. -/
theorem grants_of_ok (hbounded : c.store.registry.Bounded) {answer : ReportResponse}
    (h : (c.report key.chunk key.target).result = .ok answer) : c.Grants key := by
  have hexpecting : Expecting c.store (c.asked key) := c.expecting_asked key.chunk key.target
  rw [report_eq_asked] at h
  cases hreport : (c.asked key).report key.chunk key.target with
  | error why =>
    rw [hreport] at h
    cases h
  | ok granted =>
    obtain ⟨record, hrecord, hexpected, hcases⟩ := report_ok hreport
    refine ⟨awaits_of_asked hrecord hexpected, ?_⟩
    obtain ⟨r, nodes, hr, -, rfl⟩ := hexpecting.exists_old hrecord
    rcases hcases with ⟨hreplica, -, -⟩ | ⟨hnew, -, free, registry, hdebit, -⟩
    · exact .inl (confirms_iff.2 ⟨r, hr, hreplica⟩)
    · rw [hexpecting.registry] at hdebit
      obtain ⟨old, hold, -, htaken⟩ := Registry.debit_ok hdebit
      have hconfirms : c.store.confirms key = false := by
        rw [confirms, hr]
        exact hnew
      have htaken := htaken (hbounded key.target old (Registry.live?_eq_some.1 hold).1)
      refine .inr ⟨old, hold, ?_⟩
      rw [due_eq hr, hconfirms, UInt64.le_iff_toNat_le]
      exact htaken ▸ Nat.le_add_left _ _

end Cluster

end ChunkCoordinator
