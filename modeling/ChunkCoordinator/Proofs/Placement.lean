import ChunkCoordinator.Placement
import ChunkCoordinator.Proofs.Table

/-!
# Which nodes are chosen

`Placement.chooseTargets` picks eligible nodes only (`mem_chooseTargets`), none twice
(`nodup_chooseTargets`), no more than asked for (`length_chooseTargets_le`), and it picks none
only if there is none (`exists_mem_chooseTargets`). `Placement.debit` changes nothing but free
space, so every node that `Placement.planUpload` names is one of the given nodes
(`mem_planUpload`).
-/

namespace ChunkCoordinator.Placement

variable {nodes : List Node} {count : Nat} {exclude : KeySet NodeId} {size : UInt64}

/-! ## Different names -/

theorem mem_firstDistinct {x : NodeId} :
    ∀ {taken ids : List NodeId}, x ∈ firstDistinct count taken ids → x ∈ taken ∨ x ∈ ids
  | _, [], h => .inl h
  | taken, id :: ids, h => by
    unfold firstDistinct at h
    split at h
    · exact .inl h
    split at h
    · exact (mem_firstDistinct h).imp_right (List.mem_cons_of_mem _)
    · rcases mem_firstDistinct h with h | h
      · rcases List.mem_append.1 h with h | h
        · exact .inl h
        · exact .inr (by rw [List.mem_singleton.1 h]; exact List.mem_cons_self)
      · exact .inr (List.mem_cons_of_mem _ h)

theorem nodup_firstDistinct :
    ∀ {taken ids : List NodeId}, taken.Nodup → (firstDistinct count taken ids).Nodup
  | _, [], h => h
  | taken, id :: ids, h => by
    unfold firstDistinct
    split
    · exact h
    split
    · exact nodup_firstDistinct h
    · next hnew =>
      refine nodup_firstDistinct (List.nodup_append.2 ⟨h, by simp, fun a ha b hb heq => ?_⟩)
      rw [List.mem_singleton.1 hb] at heq
      exact hnew (heq ▸ ha)

theorem length_firstDistinct_le :
    ∀ {taken ids : List NodeId}, taken.length ≤ count →
      (firstDistinct count taken ids).length ≤ count
  | _, [], h => h
  | taken, id :: ids, h => by
    unfold firstDistinct
    split
    · exact h
    split
    · exact length_firstDistinct_le h
    · exact length_firstDistinct_le (by simp; omega)

theorem subset_firstDistinct :
    ∀ {taken ids : List NodeId}, taken ⊆ firstDistinct count taken ids
  | _, [] => List.Subset.refl _
  | taken, id :: ids => by
    unfold firstDistinct
    split
    · exact List.Subset.refl _
    split
    · exact subset_firstDistinct
    · exact fun x hx => subset_firstDistinct (List.mem_append_left _ hx)

/-! ## The choice -/

theorem mem_chooseTargets {x : NodeId} (h : x ∈ chooseTargets nodes count exclude size) :
    ∃ n ∈ nodes, eligible exclude size n ∧ n.id = x := by
  rcases mem_firstDistinct h with h | h
  · cases h
  · obtain ⟨n, hn, rfl⟩ := List.mem_map.1 h
    obtain ⟨hmem, helig⟩ := List.mem_filter.1 ((perm_sortedBy _ _).subset hn)
    exact ⟨n, hmem, helig, rfl⟩

theorem nodup_chooseTargets : (chooseTargets nodes count exclude size).Nodup :=
  nodup_firstDistinct .nil

theorem length_chooseTargets_le : (chooseTargets nodes count exclude size).length ≤ count :=
  length_firstDistinct_le (Nat.zero_le _)

/-- If nodes are asked for and there is an eligible one, some node is chosen. -/
theorem exists_mem_chooseTargets {n : Node} (hcount : 0 < count) (hn : n ∈ nodes)
    (helig : eligible exclude size n) : ∃ x, x ∈ chooseTargets nodes count exclude size := by
  have hmem : n ∈ sortedBy preferred (nodes.filter (eligible exclude size)) :=
    (perm_sortedBy _ _).symm.subset (List.mem_filter.2 ⟨hn, helig⟩)
  unfold chooseTargets
  cases hl : sortedBy preferred (nodes.filter (eligible exclude size)) with
  | nil =>
    rw [hl] at hmem
    cases hmem
  | cons m rest =>
    refine ⟨m.id, ?_⟩
    have hfirst : firstDistinct count [] (m.id :: rest.map Node.id) =
        firstDistinct count [m.id] (rest.map Node.id) := by
      rw [firstDistinct, if_neg (by simp; omega), if_neg List.not_mem_nil, List.nil_append]
    rw [List.map_cons, hfirst]
    exact subset_firstDistinct List.mem_cons_self

/-! ## Space given away -/

@[simp] theorem debit_nil : debit nodes [] size = nodes := by
  simp [debit]

/-- A debited record differs in its free space only. -/
theorem mem_debit {targets : List NodeId} {n : Node} (h : n ∈ debit nodes targets size) :
    ∃ m ∈ nodes, ∃ free, n = { m with free } := by
  obtain ⟨m, hm, rfl⟩ := List.mem_map.1 h
  refine ⟨m, hm, ?_⟩
  split
  · exact ⟨_, rfl⟩
  · exact ⟨m.free, rfl⟩

/-! ## Plans -/

@[simp] theorem length_planUpload (replication : Nat) :
    ∀ (nodes : List Node) (sizes : List UInt64),
      (planUpload nodes sizes replication).length = sizes.length
  | _, [] => rfl
  | nodes, size :: sizes => by
    simp [planUpload, length_planUpload replication _ sizes]

/-- A plan names healthy ones of the given nodes. -/
theorem mem_planUpload {replication : Nat} {targets : List NodeId} {x : NodeId} :
    ∀ {nodes : List Node} {sizes : List UInt64},
      targets ∈ planUpload nodes sizes replication → x ∈ targets →
      ∃ n ∈ nodes, n.isHealthy ∧ n.id = x
  | _, [], h, _ => by cases h
  | nodes, size :: sizes, h, hx => by
    rcases List.mem_cons.1 h with rfl | h
    · obtain ⟨n, hn, helig, rfl⟩ := mem_chooseTargets hx
      simp only [eligible, Bool.and_eq_true] at helig
      exact ⟨n, hn, helig.1.1, rfl⟩
    · obtain ⟨n, hn, hhealthy, rfl⟩ := mem_planUpload h hx
      obtain ⟨m, hm, free, rfl⟩ := mem_debit hn
      exact ⟨m, hm, hhealthy, rfl⟩

end ChunkCoordinator.Placement
