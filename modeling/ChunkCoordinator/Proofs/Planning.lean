import ChunkCoordinator.Proofs.Placement
import Mathlib.Data.List.Nodup

/-!
# Plans do not give away more than there is

A plan for the chunks of a file places one after the other. What is `Placement.planned` for a node
adds up, and the next chunk is placed as if the nodes had just so much less free
(`Placement.roomLeft`). If no two nodes have one name, only nodes with room for a chunk are debited
for it, so the debits are exact and no node is given more than it has free
(`Placement.planUpload_greedy`).

With two records of one name this can fail : both are debited, though only one may have the room.
-/

namespace ChunkCoordinator.Placement

variable {nodes : List Node} {count : Nat} {exclude : KeySet NodeId} {size : UInt64}

/-- The bytes of the chunks of given sizes that a plan has for a node. -/
def planned (id : NodeId) : List (List NodeId) → List UInt64 → Nat
  | targets :: plan, size :: sizes =>
    (if id ∈ targets then size.toNat else 0) + planned id plan sizes
  | _, _ => 0

/-- The nodes with what a plan leaves them. -/
def roomLeft (nodes : List Node) (plan : List (List NodeId)) (sizes : List UInt64) : List Node :=
  nodes.map fun n => { n with free := n.free - .ofNat (planned n.id plan sizes) }

/-- A plan is made step by step, and no step takes more from a node than is left. -/
structure Greedy (nodes : List Node) (sizes : List UInt64) (replication : Nat)
    (plan : List (List NodeId)) : Prop where
  /-- There are targets for each chunk. -/
  length : plan.length = sizes.length
  /-- They are chosen in view of what the chunks before it leave. -/
  choice : ∀ (k : Nat) (size : UInt64), sizes[k]? = some size → plan[k]? = some
    (chooseTargets (roomLeft nodes (plan.take k) (sizes.take k)) replication .empty size)
  /-- Each target has the room for it. -/
  room : ∀ (k : Nat) (size : UInt64) (targets : List NodeId), sizes[k]? = some size →
    plan[k]? = some targets → ∀ n ∈ roomLeft nodes (plan.take k) (sizes.take k),
      n.id ∈ targets → size ≤ n.free
  /-- Nothing is planned that does not fit. -/
  fits : ∀ n ∈ nodes, planned n.id plan sizes ≤ n.free.toNat
  /-- So what the chunks before the `k`-th leave free is a difference of numbers. -/
  difference : ∀ (k : Nat), ∀ n ∈ nodes,
    (n.free - .ofNat (planned n.id (plan.take k) (sizes.take k))).toNat +
      planned n.id (plan.take k) (sizes.take k) = n.free.toNat

/-! ## What is left -/

theorem planned_take_le (id : NodeId) : ∀ (k : Nat) (plan : List (List NodeId)) (sizes : List UInt64),
    planned id (plan.take k) (sizes.take k) ≤ planned id plan sizes
  | 0, _, _ => Nat.zero_le _
  | _ + 1, [], _ => Nat.zero_le _
  | _ + 1, _ :: _, [] => Nat.zero_le _
  | k + 1, _ :: plan, _ :: sizes => Nat.add_le_add_left (planned_take_le id k plan sizes) _

/-- No part of a plan that fits takes more than there is. -/
theorem toNat_sub_planned {n : Node} {plan : List (List NodeId)} {sizes : List UInt64}
    (hfits : planned n.id plan sizes ≤ n.free.toNat) (k : Nat) :
    (n.free - .ofNat (planned n.id (plan.take k) (sizes.take k))).toNat +
      planned n.id (plan.take k) (sizes.take k) = n.free.toNat := by
  have hle := Nat.le_trans (planned_take_le n.id k plan sizes) hfits
  generalize planned n.id (plan.take k) (sizes.take k) = taken at hle ⊢
  have hword : (UInt64.ofNat taken).toNat = taken :=
    UInt64.toNat_ofNat_of_lt' (Nat.lt_of_le_of_lt hle n.free.toNat_lt)
  have hsub : UInt64.ofNat taken ≤ n.free := by
    rw [UInt64.le_iff_toNat_le, hword]
    exact hle
  rw [UInt64.toNat_sub_of_le _ _ hsub, hword]
  exact Nat.sub_add_cancel hle

/-! ## One chunk -/

theorem roomLeft_nil (nodes : List Node) (sizes : List UInt64) : roomLeft nodes [] sizes = nodes := by
  have hsame : ∀ n : Node,
      ({ n with free := n.free - .ofNat (planned n.id [] sizes) } : Node) = n := fun n => by
    have hzero : planned n.id [] sizes = 0 := rfl
    rw [hzero]
    simp
  simp [roomLeft, hsame]

theorem map_id_debit (nodes : List Node) (targets : List NodeId) (size : UInt64) :
    (debit nodes targets size).map Node.id = nodes.map Node.id := by
  rw [debit, List.map_map]
  refine List.map_congr_left fun n _ => ?_
  rw [Function.comp_apply]
  split <;> rfl

/-- A chosen node has the room that is asked for, if its name is its own. -/
theorem le_free_of_mem_chooseTargets (hnodes : (nodes.map Node.id).Nodup) {n : Node} (hn : n ∈ nodes)
    (h : n.id ∈ chooseTargets nodes count exclude size) : size ≤ n.free := by
  obtain ⟨m, hm, helig, hid⟩ := mem_chooseTargets h
  obtain rfl : m = n := List.inj_on_of_nodup_map hnodes hm hn hid
  simp only [eligible, Bool.and_eq_true, decide_eq_true_eq] at helig
  exact helig.2

/-- What is left if one more chunk is placed first. -/
theorem roomLeft_debit {targets : List NodeId}
    (hroom : ∀ n ∈ nodes, n.id ∈ targets → size ≤ n.free) (plan : List (List NodeId))
    (sizes : List UInt64) :
    roomLeft (debit nodes targets size) plan sizes =
      roomLeft nodes (targets :: plan) (size :: sizes) := by
  rw [roomLeft, roomLeft, debit, List.map_map]
  refine List.map_congr_left fun n hn => ?_
  rw [Function.comp_apply, planned]
  split
  · next h =>
    have hfree : n.free.satSub size = n.free - size := if_pos (hroom n hn h)
    have hsum : n.free - size - .ofNat (planned n.id plan sizes) =
        n.free - .ofNat (size.toNat + planned n.id plan sizes) := by
      rw [UInt64.ofNat_add, UInt64.ofNat_toNat]
      grind
    rw [hfree]
    exact congrArg (fun free => { n with free }) hsum
  · rw [Nat.zero_add]

/-- What fits into the rest fits, if the chunk is placed where there is room. -/
theorem planned_cons_le {targets : List NodeId} {plan : List (List NodeId)} {sizes : List UInt64}
    (hroom : ∀ n ∈ nodes, n.id ∈ targets → size ≤ n.free)
    (hrest : ∀ n ∈ debit nodes targets size, planned n.id plan sizes ≤ n.free.toNat) :
    ∀ n ∈ nodes, planned n.id (targets :: plan) (size :: sizes) ≤ n.free.toNat := by
  intro n hn
  have hrest := hrest _ (List.mem_map_of_mem hn)
  rw [planned]
  by_cases hmem : n.id ∈ targets
  · have hle := UInt64.le_iff_toNat_le.1 (hroom n hn hmem)
    simp only [if_pos hmem, UInt64.toNat_satSub] at hrest ⊢
    omega
  · simp only [if_neg hmem] at hrest ⊢
    omega

/-! ## The whole plan -/

/-- One more chunk is placed first. -/
theorem Greedy.cons {sizes : List UInt64} {replication : Nat} {targets : List NodeId}
    {plan : List (List NodeId)} (htargets : chooseTargets nodes replication .empty size = targets)
    (hroom : ∀ n ∈ nodes, n.id ∈ targets → size ≤ n.free)
    (h : Greedy (debit nodes targets size) sizes replication plan) :
    Greedy nodes (size :: sizes) replication (targets :: plan) where
  length := congrArg Nat.succ h.length
  choice k size' hsize := by
    cases k with
    | zero =>
      obtain rfl := Option.some.inj hsize
      rw [List.take_zero, roomLeft_nil, htargets]
      rfl
    | succ k =>
      rw [List.take_succ_cons, List.take_succ_cons, ← roomLeft_debit hroom]
      exact h.choice k size' hsize
  room k size' targets' hsize htargets' n hn hmem := by
    cases k with
    | zero =>
      obtain rfl := Option.some.inj hsize
      obtain rfl := Option.some.inj htargets'
      rw [List.take_zero, roomLeft_nil] at hn
      exact hroom n hn hmem
    | succ k =>
      rw [List.take_succ_cons, List.take_succ_cons, ← roomLeft_debit hroom] at hn
      exact h.room k size' targets' hsize htargets' n hn hmem
  fits := planned_cons_le hroom h.fits
  difference k n hn := toNat_sub_planned (planned_cons_le hroom h.fits n hn) k

/-- If the nodes have different names, a plan is greedy and gives no node more than it has free. -/
theorem planUpload_greedy {nodes : List Node} (hnodes : (nodes.map Node.id).Nodup)
    (sizes : List UInt64) (replication : Nat) :
    Greedy nodes sizes replication (planUpload nodes sizes replication) := by
  induction sizes generalizing nodes with
  | nil =>
    have hfits : ∀ n ∈ nodes, planned n.id [] [] ≤ n.free.toNat := fun n _ => Nat.zero_le _
    refine ⟨rfl, fun k size hsize => ?_, fun k size targets hsize => ?_, hfits, fun k n hn => ?_⟩
    · cases hsize
    · cases hsize
    · exact toNat_sub_planned (hfits n hn) k
  | cons size sizes ih =>
    refine .cons rfl (fun n hn => le_free_of_mem_chooseTargets hnodes hn) (ih ?_)
    rwa [map_id_debit]

/-- Three nodes, of which the second cannot take part. -/
def someNodes : List Node :=
  [⟨"a", "host", 1, 100, 35, .healthy, 0, 0⟩, ⟨"b", "host", 1, 100, 100, .unhealthy, 0, 0⟩,
   ⟨"c", "host", 1, 50, 20, .healthy, 0, 0⟩]

/-- Two copies of each chunk fit as long as there is room, then one of them, then none. -/
theorem planUpload_greedy_someNodes :
    (someNodes.map Node.id).Nodup ∧
      planUpload someNodes [10, 10, 5, 12] 2 = [["c", "a"], ["a", "c"], ["a"], []] ∧
      Greedy someNodes [10, 10, 5, 12] 2 (planUpload someNodes [10, 10, 5, 12] 2) := by
  have hnodes : (someNodes.map Node.id).Nodup := by decide
  exact ⟨hnodes, by decide +kernel, planUpload_greedy hnodes _ _⟩

end ChunkCoordinator.Placement
