import ChunkCoordinator.Registry
import ChunkCoordinator.Proofs.Table
import Mathlib.Data.List.Nodup
import Mathlib.Logic.Relation

/-!
# What the registry's operations change

Every accepted operation on a node puts one record in place of the node's own. The lemmas
`…_ok` read off which one. `Registry.Agree` sums up what the rest of the coordinator sees of it :
the same nodes are in service, with the same name and capacity after a heartbeat (`standing`), and
with the same free space too after a change of health (`room`).

`Registry.register` and `Registry.remove` are the only operations after which other nodes are in
service (`isLive_set`, `isLive_set_removed`).

`Step.get?_cases` says what an operation (`Step`) can make of any record, that of a removed node
included : it is new, or it follows the one before. So the records stay under their own names
(`Keyed`) and have no more space free than they can hold (`Bounded`). A registry can be restored from
a list of its records (`restore_all`).
-/

namespace ChunkCoordinator.Registry

variable {r r' : Registry} {id : NodeId} {node : Node}

/-! ## Look-ups -/

theorem live?_eq_some : r.live? id = some node ↔ r.get? id = some node ∧ node.isLive :=
  Option.filter_eq_some_iff

theorem isLive_iff : r.isLive id ↔ ∃ node, r.live? id = some node :=
  Option.isSome_iff_exists

theorem isLive_of_live? (h : r.live? id = some node) : r.isLive id :=
  isLive_iff.2 ⟨node, h⟩

theorem live_ok (h : r.live id = .ok node) : r.live? id = some node := by
  unfold live at h
  split at h
  · next heq => rw [heq, Except.ok.inj h]
  · cases h

theorem live_eq_ok (h : r.live? id = some node) : r.live id = .ok node := by
  rw [live, h]

theorem live?_set_self (h : node.isLive) : (r.set id node).live? id = some node :=
  live?_eq_some.2 ⟨Table.get?_insert_self _ _ _, h⟩

theorem live?_set_of_ne {id' : NodeId} (h : id' ≠ id) : (r.set id node).live? id' = r.live? id' := by
  simp only [live?, get?, set, Table.get?_insert_of_ne _ _ h]

theorem isLive_set (h : node.isLive) (id' : NodeId) :
    (r.set id node).isLive id' ↔ id' = id ∨ r.isLive id' := by
  by_cases hid : id' = id
  · subst hid
    simp [isLive, live?_set_self h]
  · simp [isLive, live?_set_of_ne hid, hid]

theorem isLive_set_removed (h : node.isLive = false) (id' : NodeId) :
    (r.set id node).isLive id' ↔ id' ≠ id ∧ r.isLive id' := by
  by_cases hid : id' = id
  · subst hid
    simp [isLive, live?, get?, set, Option.filter, h]
  · simp [isLive, live?_set_of_ne hid, hid]

/-! ## The same nodes in service -/

/-- The same nodes are in service, and what `view` shows of them is the same. -/
def Agree {α : Type} (view : Node → α) (r r' : Registry) : Prop :=
  ∀ id, (r'.live? id).map view = (r.live? id).map view

/-- Which node it is and what it can hold. -/
def standing (n : Node) : NodeId × UInt64 := (n.id, n.capacity)

/-- The same, with what it has left. -/
def room (n : Node) : NodeId × UInt64 × UInt64 := (n.id, n.capacity, n.free)

namespace Agree

variable {α : Type} {view : Node → α}

theorem refl (r : Registry) : Agree view r r := fun _ => rfl

theorem trans {r'' : Registry} (h : Agree view r r') (h' : Agree view r' r'') :
    Agree view r r'' := fun id => (h' id).trans (h id)

theorem isLive (h : Agree view r r') (id : NodeId) : r'.isLive id = r.isLive id := by
  simpa [Registry.isLive] using congrArg Option.isSome (h id)

/-- A node in service before is one afterwards, and looks the same. -/
theorem exists_live? (h : Agree view r r') (hnode : r'.live? id = some node) :
    ∃ old, r.live? id = some old ∧ view node = view old := by
  have heq := h id
  rw [hnode, Option.map_some] at heq
  obtain ⟨old, hold, hview⟩ := Option.map_eq_some_iff.1 heq.symm
  exact ⟨old, hold, hview.symm⟩

theorem standing (h : Agree room r r') : Agree standing r r' := fun id => by
  have := congrArg (Option.map fun v : NodeId × UInt64 × UInt64 => (v.1, v.2.1)) (h id)
  rwa [Option.map_map, Option.map_map] at this

end Agree

/-- A node's record may be replaced by one of the same node in service. -/
theorem agree_set {α : Type} {view : Node → α} {new : Node} (h : r.live? id = some node)
    (hnew : new.isLive) (hview : view new = view node) : Agree view r (r.set id new) := fun id' => by
  by_cases hid : id' = id
  · subst hid
    rw [live?_set_self hnew, h, Option.map_some, Option.map_some, hview]
  · rw [live?_set_of_ne hid]

/-- Nodes in service are stored under their own names. -/
def Named (r : Registry) : Prop := ∀ id node, r.live? id = some node → node.id = id

theorem Named.of_agree (hr : r.Named) (h : Agree standing r r') : r'.Named := fun id node hnode => by
  obtain ⟨old, hold, hview⟩ := h.exists_live? hnode
  exact (congrArg Prod.fst hview).trans (hr id old hold)

theorem Named.set (hr : r.Named) (hid : node.isLive → node.id = id) : (r.set id node).Named := by
  intro id' node' h
  by_cases heq : id' = id
  · subst heq
    obtain ⟨hget, hlive⟩ := live?_eq_some.1 h
    obtain rfl : node = node' := by simpa [get?, Registry.set] using hget
    exact hid hlive
  · rw [live?_set_of_ne heq] at h
    exact hr id' node' h

/-- Healthy nodes are in service. -/
theorem Named.isLive_of_mem (hr : r.Named) (h : node ∈ r.healthyNodes) : r.isLive node.id := by
  obtain ⟨hmem, hhealthy⟩ := List.mem_filter.1 h
  obtain ⟨id, hid⟩ := Table.mem_values.1 hmem
  have hlive : node.isLive := by
    simp only [Node.isHealthy, decide_eq_true_eq] at hhealthy
    simp [Node.isLive, hhealthy]
  have hfound : r.live? id = some node := live?_eq_some.2 ⟨hid, hlive⟩
  rw [hr id node hfound]
  exact isLive_of_live? hfound

/-! ## Operations -/

theorem register_ok {host : String} {port : UInt16} {capacity now : UInt64}
    (h : r.register id host port capacity now = .ok (node, r')) :
    r.isLive id = false ∧ r' = r.set id node ∧ node.isLive ∧ node.id = id ∧
      node.free = node.capacity := by
  unfold register at h
  split at h
  · cases h
  · next hlive =>
    obtain ⟨rfl, rfl⟩ := Prod.mk.inj (Except.ok.inj h)
    exact ⟨by simpa using hlive, rfl, rfl, rfl, rfl⟩

theorem map_live_ok {α : Type} {f : Node → α} {a : α} (h : (r.live id).map f = .ok a) :
    ∃ node, r.live? id = some node ∧ f node = a := by
  cases hlive : r.live id with
  | error why => rw [hlive] at h; cases h
  | ok node =>
    rw [hlive] at h
    exact ⟨node, live_ok hlive, Except.ok.inj h⟩

theorem recordHeartbeat_ok {free now : UInt64} {recovered : Bool}
    (h : r.recordHeartbeat id free now = .ok (recovered, r')) : Agree standing r r' := by
  obtain ⟨node, hnode, heq⟩ := map_live_ok h
  obtain ⟨-, rfl⟩ := Prod.mk.inj heq
  exact agree_set hnode rfl rfl

theorem setHealth_ok {health : Health} {changed : Bool} (hh : health ≠ .removed)
    (h : r.setHealth id health = .ok (changed, r')) : Agree room r r' := by
  obtain ⟨node, hnode, heq⟩ := map_live_ok h
  obtain ⟨-, rfl⟩ := Prod.mk.inj heq
  exact agree_set hnode (by simpa [Node.isLive] using hh) rfl

theorem touch_ok {now : UInt64} (h : r.touch id now = .ok r') : Agree room r r' := by
  obtain ⟨node, hnode, rfl⟩ := map_live_ok h
  exact agree_set hnode (live?_eq_some.1 hnode).2 rfl

theorem reinstate_ok {now : UInt64} {changed : Bool}
    (h : r.reinstate id now = .ok (changed, r')) : Agree room r r' := by
  unfold reinstate at h
  cases htouch : r.touch id now with
  | error why => rw [htouch] at h; cases h
  | ok touched =>
    rw [htouch] at h
    exact (touch_ok htouch).trans (setHealth_ok (by decide) h)

theorem agree_demoteStale (r : Registry) (now timeout : UInt64) :
    Agree room r (r.demoteStale now timeout).2 := fun id => by
  simp only [demoteStale, live?, get?, Table.get?_map]
  cases hnode : r.nodes.get? id with
  | none => rfl
  | some node =>
    by_cases hstale : isStale now timeout node
    · have hhealthy : node.health = .healthy := by
        simp only [isStale, Node.isHealthy, Bool.and_eq_true, decide_eq_true_eq] at hstale
        exact hstale.1
      simp [Option.filter, hstale, hhealthy, Node.isLive, room]
    · simp [hstale]

theorem remove_ok {force : Bool} {references : Nat} (h : r.remove id force references = .ok r') :
    ∃ node, r.live? id = some node ∧ (references = 0 ∨ force) ∧
      r' = r.set id { node with health := .removed } := by
  unfold remove at h
  cases hlive : r.live id with
  | error why => rw [hlive] at h; cases h
  | ok node =>
    rw [hlive] at h
    by_cases hkept : 0 < references ∧ !force
    · simp [hkept, bind, Except.bind, throw, throwThe, MonadExceptOf.throw] at h
    · simp only [bind, Except.bind, hkept, if_false, pure, Except.pure, Except.ok.injEq] at h
      refine ⟨node, live_ok hlive, ?_, h.symm⟩
      simp only [Bool.not_eq_true', not_and, Bool.not_eq_false] at hkept
      by_cases hzero : references = 0
      · exact .inl hzero
      · exact .inr (hkept (by omega))

/-! ## Space -/

/-- What a credit leaves free. -/
def credited (node : Node) (amount : UInt64) : UInt64 := min (node.free.satAdd amount) node.capacity

/-- The record after a credit. -/
def crediting (node : Node) (amount : UInt64) : Node := { node with free := credited node amount }

theorem credit_eq_ok {amount : UInt64} (h : r.live? id = some node) :
    r.credit id amount = .ok (credited node amount, r.set id (crediting node amount)) := by
  rw [credit, live_eq_ok h]
  rfl

/-- A credit is given up to the capacity. -/
theorem toNat_credited_eq_min (node : Node) (amount : UInt64) : (credited node amount).toNat =
    min (node.free.toNat + amount.toNat) node.capacity.toNat := by
  have hsat : (node.free.satAdd amount).toNat =
      min (node.free.toNat + amount.toNat) (2 ^ 64 - 1) := UInt64.toNat_satAdd node.free amount
  have hcap := node.capacity.toNat_lt
  have hmin : (credited node amount).toNat =
      min (node.free.satAdd amount).toNat node.capacity.toNat := UInt64.toNat_min _ _
  omega

/-- One that fits into it is given in full. -/
theorem toNat_credited {amount : UInt64}
    (h : node.free.toNat + amount.toNat ≤ node.capacity.toNat) :
    (credited node amount).toNat = node.free.toNat + amount.toNat := by
  rw [toNat_credited_eq_min, Nat.min_eq_left h]

/-- An accepted debit takes the amount from the free space, which stays within the capacity. -/
theorem debit_ok {amount free : UInt64} (h : r.debit id amount = .ok (free, r')) :
    ∃ node, r.live? id = some node ∧ r' = r.set id { node with free := free } ∧
      (node.free ≤ node.capacity → free.toNat + amount.toNat = node.free.toNat) := by
  unfold debit at h
  split at h
  · next hzero =>
    obtain ⟨node, hnode, heq⟩ := map_live_ok h
    obtain ⟨hfree, rfl⟩ := Prod.mk.inj heq
    refine ⟨node, hnode, by rw [← hfree], fun hle => ?_⟩
    have hle := UInt64.le_iff_toNat_le.1 hle
    have hcredit : (credited node 0).toNat = node.free.toNat + (0 : UInt64).toNat :=
      toNat_credited (by simpa using hle)
    rw [← hfree, hzero]
    simpa [credited] using hcredit
  · cases hlive : r.live id with
    | error why => rw [hlive] at h; cases h
    | ok node =>
      rw [hlive] at h
      by_cases hshort : node.free < amount
      · simp [hshort, bind, Except.bind, throw, throwThe, MonadExceptOf.throw] at h
      · simp only [bind, Except.bind, hshort, if_false, pure, Except.pure, Except.ok.injEq,
          Prod.mk.injEq] at h
        obtain ⟨hfree, rfl⟩ := h
        refine ⟨node, live_ok hlive, by rw [← hfree], fun _ => ?_⟩
        have hle : amount.toNat ≤ node.free.toNat := by
          simpa [UInt64.lt_iff_toNat_lt] using hshort
        rw [← hfree, UInt64.toNat_sub_of_le _ _ (UInt64.le_iff_toNat_le.2 hle)]
        omega

/-- A node in service can be debited unless it is short of space. -/
theorem debit_cases (h : r.isLive id) (amount : UInt64) :
    (∃ answer, r.debit id amount = .ok answer) ∨
      ∃ free, r.debit id amount = .error (.insufficientCapacity id free amount) := by
  obtain ⟨node, hnode⟩ := isLive_iff.1 h
  unfold debit
  split
  · exact .inl ⟨_, credit_eq_ok hnode⟩
  · rw [live_eq_ok hnode]
    by_cases hshort : node.free < amount
    · exact .inr ⟨node.free, by
        simp [hshort, bind, Except.bind, throw, throwThe, MonadExceptOf.throw]⟩
    · exact .inl ⟨_, by simp [hshort, bind, Except.bind, pure, Except.pure]; rfl⟩

/-- A node that claims no more space than it has pays what it can, and nothing else changes. -/
theorem debit_eq (hnode : r.live? id = some node) (hle : node.free ≤ node.capacity)
    (amount : UInt64) :
    r.debit id amount =
      if node.free < amount then .error (.insufficientCapacity id node.free amount)
      else .ok (node.free - amount, r.set id { node with free := node.free - amount }) := by
  unfold debit
  split
  · next hzero =>
    -- to take nothing is to credit nothing, which leaves such a node as it is
    have hcredited : credited node 0 = node.free := by
      have hle := UInt64.le_iff_toNat_le.1 hle
      exact UInt64.toNat_inj.1 (toNat_credited (by simpa using hle))
    have hzero' : ¬node.free < amount := by simp [hzero, UInt64.lt_iff_toNat_lt]
    rw [credit_eq_ok hnode, crediting, hcredited, if_neg hzero', hzero, UInt64.sub_zero]
  · rw [live_eq_ok hnode]
    by_cases hshort : node.free < amount
    · simp [hshort, bind, Except.bind, throw, throwThe, MonadExceptOf.throw]
    · simp [hshort, bind, Except.bind, pure, Except.pure]

/-- Nothing is booked on a node that is not in service. -/
theorem adjustFree_eq_error (h : r.live? id = none) (delta : Int64) :
    r.adjustFree id delta = .error (.unknownNode id) := by
  have hlive : r.live id = .error (.unknownNode id) := by rw [live, h]
  have hcredit : ∀ amount, r.credit id amount = .error (.unknownNode id) := fun amount => by
    rw [credit, hlive]
    rfl
  unfold adjustFree
  split
  · unfold debit
    split
    · exact hcredit 0
    · rw [hlive]
      rfl
  · exact hcredit _

/-! ## Records under their own names -/

/-- Every node, removed or not, is stored under its own name. -/
def Keyed (r : Registry) : Prop := ∀ id node, r.get? id = some node → node.id = id

namespace Keyed

theorem empty : Registry.empty.Keyed := fun id node h => by cases h

theorem named (h : r.Keyed) : r.Named := fun id node hnode => h id node (live?_eq_some.1 hnode).1

/-- The nodes have different names. -/
theorem nodup_all (h : r.Keyed) : (r.all.map Node.id).Nodup := Table.nodup_map_values h

theorem isHealthy_iff (h : r.Keyed) : r.isHealthy id ↔ ∃ n ∈ r.all, n.isHealthy ∧ n.id = id := by
  rw [isHealthy, Option.any_eq_true]
  constructor
  · rintro ⟨n, hn, hhealthy⟩
    exact ⟨n, Table.mem_values.2 ⟨id, hn⟩, hhealthy, h id n hn⟩
  · rintro ⟨n, hmem, hhealthy, rfl⟩
    obtain ⟨id, hn⟩ := Table.mem_values.1 hmem
    obtain rfl := h id n hn
    exact ⟨n, hn, hhealthy⟩

/-- Only nodes of the list are named. -/
theorem mem_of_mem_endpoints (h : r.Keyed) {ids : List NodeId} {place : Endpoint}
    (hplace : place ∈ r.endpoints ids) : place.node ∈ ids := by
  obtain ⟨id, hid, hfound⟩ := List.mem_filterMap.1 hplace
  obtain ⟨node, hnode, rfl⟩ := Option.map_eq_some_iff.1 hfound
  have hname : node.endpoint.node = id := h id node hnode
  rwa [hname]

theorem set (h : r.Keyed) (hid : node.id = id) : (r.set id node).Keyed := by
  intro id' node' h'
  rcases Table.get?_insert_eq_some.1 h' with ⟨rfl, rfl⟩ | ⟨-, h'⟩
  · exact hid
  · exact h id' node' h'

theorem map (h : r.Keyed) {f : Node → Node} (hf : ∀ n, (f n).id = n.id) :
    (⟨r.nodes.map f⟩ : Registry).Keyed := by
  intro id node hnode
  rw [get?, Table.get?_map] at hnode
  obtain ⟨old, hold, rfl⟩ := Option.map_eq_some_iff.1 hnode
  exact (hf old).trans (h id old hold)

theorem demoteStale (h : r.Keyed) (now timeout : UInt64) : (r.demoteStale now timeout).2.Keyed :=
  h.map fun n => by split <;> rfl

end Keyed

/-! ## One operation after the other -/

/-- The record of a node before and after an accepted operation : it is the same node, and it has not
come to have more space free than it can hold. -/
structure Follows (old new : Node) : Prop where
  id_eq : new.id = old.id
  capacity_eq : new.capacity = old.capacity
  bounded : old.free ≤ old.capacity → new.free ≤ new.capacity

theorem Follows.refl (n : Node) : Follows n n := ⟨rfl, rfl, fun h => h⟩

/-- The registry accepts an operation. -/
inductive Step (r : Registry) : Registry → Prop where
  | register {id : NodeId} {host : String} {port : UInt16} {capacity now : UInt64} {node : Node}
      {r' : Registry} (h : r.register id host port capacity now = .ok (node, r')) : Step r r'
  | recordHeartbeat {id : NodeId} {free now : UInt64} {recovered : Bool} {r' : Registry}
      (h : r.recordHeartbeat id free now = .ok (recovered, r')) : Step r r'
  | setHealth {id : NodeId} {health : Health} {changed : Bool} {r' : Registry}
      (h : r.setHealth id health = .ok (changed, r')) : Step r r'
  | touch {id : NodeId} {now : UInt64} {r' : Registry} (h : r.touch id now = .ok r') : Step r r'
  | demoteStale (now timeout : UInt64) : Step r (r.demoteStale now timeout).2
  | remove {id : NodeId} {force : Bool} {references : Nat} {r' : Registry}
      (h : r.remove id force references = .ok r') : Step r r'
  | credit {id : NodeId} {amount free : UInt64} {r' : Registry}
      (h : r.credit id amount = .ok (free, r')) : Step r r'
  | debit {id : NodeId} {amount free : UInt64} {r' : Registry}
      (h : r.debit id amount = .ok (free, r')) : Step r r'

/-- The registry accepts one operation after the other. -/
abbrev Steps : Registry → Registry → Prop := Relation.ReflTransGen Step

theorem get?_set_cases {old new : Node} {id' : NodeId} (hold : r.live? id = some old)
    (hnode : (r.set id new).get? id' = some node) (hnew : Follows old new) :
    ∃ old, r.get? id' = some old ∧ Follows old node := by
  rcases Table.get?_insert_eq_some.1 hnode with ⟨rfl, rfl⟩ | ⟨-, hnode⟩
  · exact ⟨old, (live?_eq_some.1 hold).1, hnew⟩
  · exact ⟨node, hnode, .refl node⟩

/-- A record after an operation is a new one, with all its space free, or follows the one before. -/
theorem Step.get?_cases (h : Step r r') (hnode : r'.get? id = some node) :
    (node.id = id ∧ node.free = node.capacity) ∨ ∃ old, r.get? id = some old ∧ Follows old node := by
  cases h with
  | register h =>
    obtain ⟨-, rfl, -, hid, hfree⟩ := register_ok h
    rcases Table.get?_insert_eq_some.1 hnode with ⟨rfl, rfl⟩ | ⟨-, hnode⟩
    · exact .inl ⟨hid, hfree⟩
    · exact .inr ⟨node, hnode, .refl node⟩
  | recordHeartbeat h =>
    obtain ⟨old, hold, heq⟩ := map_live_ok h
    obtain ⟨-, rfl⟩ := Prod.mk.inj heq
    exact .inr (get?_set_cases hold hnode ⟨rfl, rfl, fun _ => Std.min_le_right⟩)
  | setHealth h =>
    obtain ⟨old, hold, heq⟩ := map_live_ok h
    obtain ⟨-, rfl⟩ := Prod.mk.inj heq
    exact .inr (get?_set_cases hold hnode ⟨rfl, rfl, fun h => h⟩)
  | touch h =>
    obtain ⟨old, hold, rfl⟩ := map_live_ok h
    exact .inr (get?_set_cases hold hnode ⟨rfl, rfl, fun h => h⟩)
  | demoteStale now timeout =>
    rw [Registry.demoteStale, get?, Table.get?_map] at hnode
    obtain ⟨old, hold, rfl⟩ := Option.map_eq_some_iff.1 hnode
    refine .inr ⟨old, hold, ?_⟩
    split
    · exact ⟨rfl, rfl, fun h => h⟩
    · exact .refl old
  | remove h =>
    obtain ⟨old, hold, -, rfl⟩ := remove_ok h
    exact .inr (get?_set_cases hold hnode ⟨rfl, rfl, fun h => h⟩)
  | credit h =>
    obtain ⟨old, hold, heq⟩ := map_live_ok h
    obtain ⟨-, rfl⟩ := Prod.mk.inj heq
    exact .inr (get?_set_cases hold hnode ⟨rfl, rfl, fun _ => Std.min_le_right⟩)
  | debit h =>
    obtain ⟨old, hold, rfl, htaken⟩ := debit_ok h
    refine .inr (get?_set_cases hold hnode ⟨rfl, rfl, fun hle => ?_⟩)
    have htaken := htaken hle
    rw [UInt64.le_iff_toNat_le] at hle ⊢
    dsimp only
    omega

theorem Keyed.step (h : r.Keyed) (hstep : Step r r') : r'.Keyed := by
  intro id node hnode
  rcases hstep.get?_cases hnode with ⟨hid, -⟩ | ⟨old, hold, hfollows⟩
  · exact hid
  · exact hfollows.id_eq.trans (h id old hold)

theorem Keyed.steps (h : r.Keyed) (hsteps : Steps r r') : r'.Keyed := by
  induction hsteps with
  | refl => exact h
  | tail _ hstep ih => exact ih.step hstep

/-- No node, removed or not, has more space free than it can hold. -/
def Bounded (r : Registry) : Prop := ∀ id node, r.get? id = some node → node.free ≤ node.capacity

theorem Bounded.empty : Registry.empty.Bounded := fun id node h => by cases h

theorem Bounded.step (h : r.Bounded) (hstep : Step r r') : r'.Bounded := by
  intro id node hnode
  rcases hstep.get?_cases hnode with ⟨-, hfree⟩ | ⟨old, hold, hfollows⟩
  · exact hfree ▸ UInt64.le_refl _
  · exact hfollows.bounded (h id old hold)

theorem Bounded.steps (h : r.Bounded) (hsteps : Steps r r') : r'.Bounded := by
  induction hsteps with
  | refl => exact h
  | tail _ hstep ih => exact ih.step hstep

/-- A reinstatement sets the time, then the health. -/
theorem steps_reinstate {now : UInt64} {changed : Bool}
    (h : r.reinstate id now = .ok (changed, r')) : Steps r r' := by
  unfold reinstate at h
  cases htouch : r.touch id now with
  | error why => rw [htouch] at h; cases h
  | ok touched =>
    rw [htouch] at h
    exact .tail (.single (.touch htouch)) (.setHealth h)

/-! ## Restarts -/

/-- The record of a node after a restart. -/
def restarted (now : UInt64) (node : Node) : Node :=
  if node.isHealthy then { node with lastHeartbeat := now } else node

theorem room_restarted (now : UInt64) (node : Node) : room (restarted now node) = room node := by
  unfold restarted
  split <;> rfl

theorem health_restarted (now : UInt64) (node : Node) :
    (restarted now node).health = node.health := by
  unfold restarted
  split <;> rfl

/-- The registry that is restored from all records has each of them in its place. -/
theorem restore_all (h : r.Keyed) (now : UInt64) :
    restore r.all now = ⟨r.nodes.map (restarted now)⟩ :=
  congrArg Registry.mk (Table.ofList_values h (restarted now))

/-- Every record that is restored stands in the list. -/
theorem exists_of_get?_restore {records : List Node} {now : UInt64}
    (h : (restore records now).get? id = some node) :
    ∃ old ∈ records, old.id = id ∧ node = restarted now old := by
  have hfound : (records.reverse.find? fun n => n.id = id).map (restarted now) = some node :=
    (Table.get?_ofList_map Node.id (restarted now) records id).symm.trans h
  obtain ⟨old, hold, rfl⟩ := Option.map_eq_some_iff.1 hfound
  exact ⟨old, List.mem_reverse.1 (List.mem_of_find?_eq_some hold),
    of_decide_eq_true (List.find?_some (p := fun n : Node => decide (n.id = id)) hold), rfl⟩

theorem keyed_restore (records : List Node) (now : UInt64) : (restore records now).Keyed := by
  intro id node hnode
  obtain ⟨old, -, hid, rfl⟩ := exists_of_get?_restore hnode
  exact (congrArg Prod.fst (room_restarted now old)).trans hid

theorem bounded_restore {records : List Node} (h : ∀ n ∈ records, n.free ≤ n.capacity)
    (now : UInt64) : (restore records now).Bounded := by
  intro id node hnode
  obtain ⟨old, hold, -, rfl⟩ := exists_of_get?_restore hnode
  obtain ⟨-, hcapacity, hfree⟩ : (restarted now old).id = old.id ∧
      (restarted now old).capacity = old.capacity ∧ (restarted now old).free = old.free := by
    simpa [room] using room_restarted now old
  rw [hcapacity, hfree]
  exact h old hold

theorem Bounded.restore_all (h : r.Bounded) (now : UInt64) : (restore r.all now).Bounded := by
  refine bounded_restore (fun node hnode => ?_) now
  obtain ⟨id, hid⟩ := Table.mem_values.1 hnode
  exact h id node hid

theorem agree_restore_all (h : r.Keyed) (now : UInt64) : Agree room r (restore r.all now) := by
  intro id
  rw [restore_all h, live?, get?, Table.get?_map, live?, get?]
  cases r.nodes.get? id with
  | none => rfl
  | some node =>
    have hlive : (restarted now node).isLive = node.isLive := by
      rw [Node.isLive, health_restarted, Node.isLive]
    cases hnode : node.isLive <;> simp [Option.filter, hlive, hnode, room_restarted]

end ChunkCoordinator.Registry
