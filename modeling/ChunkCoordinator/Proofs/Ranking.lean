import ChunkCoordinator.Proofs.Placement
import Mathlib.Algebra.Order.Field.Rat
import Mathlib.Data.List.MinMax
import Mathlib.Data.List.Perm.Basic
import Mathlib.Data.Prod.Lex
import Mathlib.Data.String.Basic

/-!
# The order of preference

The load of a node is a rational number (`Node.loadFactor`), and the comparison of loads by
cross-multiplication is that of these numbers, so that preference is a linear order on loads and
names (`Placement.preferred_iff`).

A list of nodes may hold several records of one name, and a name stands where its least loaded
eligible record puts it (`Placement.leastLoad`). There is one list of all eligible names in this
order (`Placement.IsRanking.unique`), and `Placement.chooseTargets` takes what it is asked for from
its beginning (`Placement.chooseTargets_ranked`).
-/

namespace ChunkCoordinator

/-- The share of a node's capacity that is in use. A node without capacity is full. -/
def Node.loadFactor (n : Node) : ℚ :=
  if n.capacity = 0 then 1
  else max ((n.capacity.toNat : ℚ) - n.free.toNat) 0 / n.capacity.toNat

namespace Placement

variable {nodes nodes' : List Node} {count : Nat} {exclude : KeySet NodeId} {size : UInt64}
  {ranking : List NodeId}

/-! ## Loads -/

/-- The load is a fraction of two words, the second of which is not zero. -/
theorem load_bounds (n : Node) :
    (load n).1 < 2 ^ 64 ∧ 0 < (load n).2 ∧ (load n).2 < 2 ^ 64 := by
  unfold load
  split
  · decide
  · next h =>
    exact ⟨n.used.toNat_lt, UInt64.toNat_pos h, n.capacity.toNat_lt⟩

/-- It stands for the load factor. -/
theorem loadFactor_eq (n : Node) : n.loadFactor = ((load n).1 : ℚ) / (load n).2 := by
  unfold Node.loadFactor load
  split
  · simp
  · dsimp only
    rw [Node.used, UInt64.toNat_satSub]
    rcases le_total n.free.toNat n.capacity.toNat with hle | hle
    · rw [Nat.cast_sub hle, max_eq_left (sub_nonneg.2 (Nat.cast_le.2 hle))]
    · rw [Nat.sub_eq_zero_of_le hle, Nat.cast_zero, max_eq_right (sub_nonpos.2 (Nat.cast_le.2 hle))]

/-- Loads compare like the load factors. -/
theorem compareLoad_eq (a b : Node) : compareLoad a b = compare a.loadFactor b.loadFactor := by
  obtain ⟨-, ha, -⟩ := load_bounds a
  obtain ⟨-, hb, -⟩ := load_bounds b
  have hpos : (0 : ℚ) < (load a).2 ∧ (0 : ℚ) < (load b).2 := ⟨Nat.cast_pos.2 ha, Nat.cast_pos.2 hb⟩
  rw [compareLoad, loadFactor_eq, loadFactor_eq]
  rcases lt_trichotomy ((load a).1 * (load b).2) ((load b).1 * (load a).2) with h | h | h
  · rw [compare_lt_iff_lt.2 h, eq_comm, compare_lt_iff_lt, div_lt_div_iff₀ hpos.1 hpos.2]
    exact_mod_cast h
  · rw [compare_eq_iff_eq.2 h, eq_comm, compare_eq_iff_eq, div_eq_div_iff hpos.1.ne' hpos.2.ne']
    exact_mod_cast h
  · rw [compare_gt_iff_gt.2 h, eq_comm, compare_gt_iff_gt, div_lt_div_iff₀ hpos.2 hpos.1]
    exact_mod_cast h

/-- Where a record stands: by its load, then by its name. -/
def rank (n : Node) : ℚ ×ₗ NodeId := toLex (n.loadFactor, n.id)

theorem preferred_iff {a b : Node} : preferred a b ↔ rank a ≤ rank b := by
  rw [preferred, compareLoad_eq, rank, rank, Prod.Lex.toLex_le_toLex]
  rcases lt_trichotomy a.loadFactor b.loadFactor with h | h | h
  · simp [compare_lt_iff_lt.2 h, h]
  · simp [h, ← Ordering.ne_gt_iff_isLE, compare_le_iff_le]
  · simp [compare_gt_iff_gt.2 h, h.not_gt, h.ne']

/-- The eligible records in order of preference. -/
theorem pairwise_eligible (nodes : List Node) (exclude : KeySet NodeId) (size : UInt64) :
    (sortedBy preferred (nodes.filter (eligible exclude size))).Pairwise fun a b =>
      rank a ≤ rank b := by
  refine (pairwise_sortedBy (fun a b => ?_) (fun a b c => ?_) _).imp preferred_iff.1
  · rw [preferred_iff, preferred_iff]
    exact le_total _ _
  · rw [preferred_iff, preferred_iff, preferred_iff]
    exact le_trans

/-! ## Names -/

/-- Taking different names until there are enough is taking the first of all different names. -/
theorem firstDistinct_eq : ∀ (ids taken : List NodeId), taken.length ≤ count →
    firstDistinct count taken ids = (taken ++ (ids.filter (· ∉ taken)).eraseDups).take count
  | [], taken, h => by simpa [firstDistinct] using (List.take_of_length_le h).symm
  | id :: ids, taken, h => by
    unfold firstDistinct
    split
    · next hfull => rw [List.take_append_of_le_length hfull, List.take_of_length_le h]
    split
    · next hmem => rw [firstDistinct_eq ids taken h, List.filter_cons_of_neg (by simpa using hmem)]
    · next hfull hnew =>
      have hrest : ((ids.filter (· ∉ taken)).filter fun b => !b == id) =
          ids.filter (· ∉ taken ++ [id]) := by
        rw [List.filter_filter]
        refine List.filter_congr fun b _ => ?_
        by_cases hb : b = id <;> simp [hb]
      rw [firstDistinct_eq ids (taken ++ [id]) (by simp; omega),
        List.filter_cons_of_pos (by simpa using hnew), List.eraseDups_cons, hrest, List.append_assoc,
        List.singleton_append]

/-- Of two different names of a list in order, the first has a record before all of the other. -/
theorem pairwise_eraseDups : ∀ {l : List Node}, (l.Pairwise fun a b => rank a ≤ rank b) →
    (l.map Node.id).eraseDups.Pairwise fun x y =>
      ∃ n ∈ l, n.id = x ∧ ∀ m ∈ l, m.id = y → rank n < rank m
  | [], _ => .nil
  | n :: l, h => by
    obtain ⟨hn, hl⟩ := List.pairwise_cons.1 h
    have hshorter : (l.filter fun m => !m.id == n.id).length < l.length + 1 :=
      Nat.lt_succ_of_le (List.length_filter_le _ _)
    have hothers : (l.map Node.id).filter (fun x => !x == n.id) =
        (l.filter fun m => !m.id == n.id).map Node.id := List.filter_map ..
    have hfirst : ∀ m ∈ n :: l, m.id ≠ n.id → rank n < rank m := by
      intro m hm hne
      rcases List.mem_cons.1 hm with rfl | hm
      · exact absurd rfl hne
      · refine lt_of_le_of_ne (hn m hm) fun heq => hne ?_
        exact (congrArg (fun r => (ofLex r).2) heq).symm
    have hname : ∀ x ∈ ((l.filter fun m => !m.id == n.id).map Node.id).eraseDups, x ≠ n.id := by
      intro x hx
      obtain ⟨m, hm, rfl⟩ := List.mem_map.1 (List.mem_eraseDups.1 hx)
      simpa using (List.mem_filter.1 hm).2
    rw [List.map_cons, List.eraseDups_cons, hothers]
    refine List.pairwise_cons.2 ⟨fun y hy => ?_, ?_⟩
    · exact ⟨n, List.mem_cons_self, rfl, fun m hm hid => hfirst m hm (hid ▸ hname y hy)⟩
    · refine (pairwise_eraseDups (hl.filter fun m => !m.id == n.id)).imp_of_mem fun hx hy hxy => ?_
      obtain ⟨m, hm, rfl, hbefore⟩ := hxy
      refine ⟨m, List.mem_cons_of_mem _ (List.mem_filter.1 hm).1, rfl, fun m' hm' hid => ?_⟩
      have hne : m'.id ≠ n.id := hid ▸ hname _ hy
      refine hbefore m' (List.mem_filter.2 ⟨?_, by simpa using hne⟩) hid
      exact (List.mem_cons.1 hm').resolve_left fun heq => hne (heq ▸ rfl)
termination_by l => l.length

/-! ## The ranking of names -/

/-- The least load of the eligible records of a name. -/
def leastLoad (nodes : List Node) (exclude : KeySet NodeId) (size : UInt64) (id : NodeId) :
    WithTop ℚ :=
  ((nodes.filter fun n => eligible exclude size n && n.id = id).map Node.loadFactor).minimum

/-- The list holds every name with an eligible record, ordered by its least load and, of equal
loads, by the name itself. -/
structure IsRanking (nodes : List Node) (exclude : KeySet NodeId) (size : UInt64)
    (ranking : List NodeId) : Prop where
  mem_iff : ∀ id, id ∈ ranking ↔ ∃ n ∈ nodes, eligible exclude size n ∧ n.id = id
  ordered : ranking.Pairwise fun a b =>
    toLex (leastLoad nodes exclude size a, a) < toLex (leastLoad nodes exclude size b, b)

namespace IsRanking

theorem nodup (h : IsRanking nodes exclude size ranking) : ranking.Nodup :=
  h.ordered.imp fun hlt heq => hlt.ne (by rw [heq])

/-- There is no other ranking. -/
theorem unique {ranking' : List NodeId} (h : IsRanking nodes exclude size ranking)
    (h' : IsRanking nodes exclude size ranking') : ranking = ranking' := by
  have hperm : ranking.Perm ranking' := (List.perm_ext_iff_of_nodup h.nodup h'.nodup).2 fun id =>
    (h.mem_iff id).trans (h'.mem_iff id).symm
  exact hperm.eq_of_pairwise (fun a b _ _ hab hba => absurd hab hba.asymm) h.ordered h'.ordered

/-- The order of the records does not matter. -/
theorem of_perm (h : IsRanking nodes exclude size ranking) (hperm : nodes'.Perm nodes) :
    IsRanking nodes' exclude size ranking := by
  have hleast : leastLoad nodes' exclude size = leastLoad nodes exclude size := funext fun id =>
    ((hperm.filter _).map Node.loadFactor).minimum_eq
  refine ⟨fun id => (h.mem_iff id).trans ?_, hleast ▸ h.ordered⟩
  simp only [hperm.mem_iff]

end IsRanking

theorem leastLoad_le {n : Node} (hn : n ∈ nodes) (helig : eligible exclude size n) :
    leastLoad nodes exclude size n.id ≤ n.loadFactor := by
  refine List.minimum_le_of_mem' (List.mem_map_of_mem (List.mem_filter.2 ⟨hn, ?_⟩))
  simp [helig]

/-- If a name has an eligible record, one of them has the least load. -/
theorem exists_leastLoad {n : Node} (hn : n ∈ nodes) (helig : eligible exclude size n) :
    ∃ m ∈ nodes, eligible exclude size m ∧ m.id = n.id ∧
      leastLoad nodes exclude size n.id = m.loadFactor := by
  cases hleast : leastLoad nodes exclude size n.id with
  | top =>
    have hle := leastLoad_le hn helig
    rw [hleast, top_le_iff] at hle
    cases hle
  | coe load =>
    obtain ⟨m, hm, rfl⟩ := List.mem_map.1 (List.minimum_mem hleast)
    obtain ⟨hmem, hm⟩ := List.mem_filter.1 hm
    rw [Bool.and_eq_true, decide_eq_true_eq] at hm
    exact ⟨m, hmem, hm.1, hm.2, rfl⟩

/-- The different names of the eligible records in order of preference are the ranking. -/
theorem isRanking_eligible (nodes : List Node) (exclude : KeySet NodeId) (size : UInt64) :
    IsRanking nodes exclude size
      ((sortedBy preferred (nodes.filter (eligible exclude size))).map Node.id).eraseDups := by
  have hmem : ∀ n, n ∈ sortedBy preferred (nodes.filter (eligible exclude size)) ↔
      n ∈ nodes ∧ eligible exclude size n := fun n => by
    rw [(perm_sortedBy _ _).mem_iff, List.mem_filter]
  refine ⟨fun id => ?_, ?_⟩
  · rw [List.mem_eraseDups, List.mem_map]
    simp only [hmem, and_assoc]
  · refine (pairwise_eraseDups (pairwise_eligible nodes exclude size)).imp_of_mem ?_
    rintro _ y - hy ⟨n, hn, rfl, hbefore⟩
    obtain ⟨m, hm, rfl⟩ := List.mem_map.1 (List.mem_eraseDups.1 hy)
    obtain ⟨hn, hn'⟩ := (hmem n).1 hn
    obtain ⟨hm, hm'⟩ := (hmem m).1 hm
    -- what stands for the second name is its least loaded record
    obtain ⟨least, hleast, helig, hid, hload⟩ := exists_leastLoad hm hm'
    have hlt := hbefore least ((hmem least).2 ⟨hleast, helig⟩) hid
    rw [rank, rank, Prod.Lex.toLex_lt_toLex, hid] at hlt
    rw [Prod.Lex.toLex_lt_toLex, hload]
    rcases hlt with hlt | ⟨heq, hlt⟩
    · exact .inl ((leastLoad_le hn hn').trans_lt (WithTop.coe_lt_coe.2 hlt))
    · rcases (leastLoad_le hn hn').lt_or_eq with hless | hsame
      · exact .inl (hless.trans_eq (congrArg _ heq))
      · exact .inr ⟨hsame.trans (congrArg _ heq), hlt⟩

/-- The choice is the beginning of the ranking. -/
theorem IsRanking.chooseTargets_eq (h : IsRanking nodes exclude size ranking) (count : Nat) :
    chooseTargets nodes count exclude size = ranking.take count := by
  rw [h.unique (isRanking_eligible nodes exclude size), chooseTargets,
    firstDistinct_eq _ [] (Nat.zero_le _)]
  simp

/-- So it does not depend on the order of the records. -/
theorem chooseTargets_of_perm (hperm : nodes'.Perm nodes) (count : Nat) (exclude : KeySet NodeId)
    (size : UInt64) :
    chooseTargets nodes' count exclude size = chooseTargets nodes count exclude size := by
  have hranking := isRanking_eligible nodes exclude size
  rw [hranking.chooseTargets_eq, (hranking.of_perm hperm).chooseTargets_eq]

/-- A choice are the first names of the ranking, as many as asked for or all. So none is repeated or
excluded, none is left out for one with more load, and the order of the records does not matter.
The products by which loads are compared have no more than 128 bits. -/
theorem chooseTargets_ranked (nodes : List Node) (count : Nat) (exclude : KeySet NodeId)
    (size : UInt64) :
    ∃ ranking, IsRanking nodes exclude size ranking ∧
      chooseTargets nodes count exclude size = ranking.take (min count ranking.length) ∧
      (chooseTargets nodes count exclude size).Nodup ∧
      (∀ id ∈ chooseTargets nodes count exclude size, exclude.contains id = false) ∧
      (∀ id ∈ chooseTargets nodes count exclude size, ∀ other ∈ ranking,
        other ∉ chooseTargets nodes count exclude size →
          leastLoad nodes exclude size id ≤ leastLoad nodes exclude size other) ∧
      (∀ nodes' : List Node, nodes'.Perm nodes →
        chooseTargets nodes' count exclude size = chooseTargets nodes count exclude size) ∧
      ∀ a b : Node, (load a).1 * (load b).2 < 2 ^ 128 := by
  obtain ⟨ranking, h⟩ : ∃ ranking, IsRanking nodes exclude size ranking :=
    ⟨_, isRanking_eligible nodes exclude size⟩
  have htargets := h.chooseTargets_eq count
  refine ⟨ranking, h, ?_, nodup_chooseTargets, fun id hid => ?_, fun id hid other hother hout => ?_,
    fun nodes' hperm => ?_, fun a b => ?_⟩
  · rw [htargets, ← List.take_eq_take_min]
  · obtain ⟨n, -, helig, rfl⟩ := mem_chooseTargets hid
    simp only [eligible, Bool.and_eq_true, Bool.not_eq_true'] at helig
    exact helig.1.2
  · rw [htargets] at hid hout
    have hlater : other ∈ ranking.drop count := by
      rw [← List.take_append_drop count ranking, List.mem_append] at hother
      exact hother.resolve_left hout
    have hordered := h.ordered
    rw [← List.take_append_drop count ranking, List.pairwise_append] at hordered
    have hlt := hordered.2.2 id hid other hlater
    rw [Prod.Lex.toLex_lt_toLex] at hlt
    exact hlt.elim le_of_lt fun hsame => hsame.1.le
  · rw [htargets, (h.of_perm hperm).chooseTargets_eq]
  · obtain ⟨ha, -, -⟩ := load_bounds a
    obtain ⟨-, -, hb⟩ := load_bounds b
    calc (load a).1 * (load b).2 < 2 ^ 64 * 2 ^ 64 :=
        Nat.mul_lt_mul_of_lt_of_le ha hb.le (Nat.two_pow_pos 64)
      _ = 2 ^ 128 := by rw [← pow_add]

/-- Of two records of one name the less loaded one counts, and a node that claims more free space
than it has is empty. -/
example :
    let node (id : NodeId) (capacity free : UInt64) : Node :=
      ⟨id, "host", 1, capacity, free, .healthy, 0, 0⟩
    chooseTargets [node "b" 100 50, node "a" 100 10, node "c" 0 0, node "a" 10 20] 3 .empty 10 =
      ["a", "b"] := by
  decide +kernel

end Placement

end ChunkCoordinator
