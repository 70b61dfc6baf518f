/-!
# Stable sorting

`sortedBy le l` lists the elements of `l` in the order `le`; elements that `le` does not tell
apart keep the order that they had. `perm_sortedBy` says that nothing is lost or repeated, and
`pairwise_sortedBy` that the result is in order. What is in order stays as it is
(`sortedBy_eq_self`).
-/

namespace ChunkCoordinator

variable {α : Type}

/-- Puts an element in front of the first one that may follow it. -/
def insertSorted (le : α → α → Bool) (x : α) : List α → List α
  | [] => [x]
  | y :: ys => if le x y then x :: y :: ys else y :: insertSorted le x ys

/-- The elements in the order `le`, ties in the order given. -/
def sortedBy (le : α → α → Bool) (l : List α) : List α := l.foldr (insertSorted le) []

theorem perm_insertSorted (le : α → α → Bool) (x : α) (l : List α) :
    (insertSorted le x l).Perm (x :: l) := by
  induction l with
  | nil => exact .refl _
  | cons y ys ih =>
    simp only [insertSorted]
    split
    · exact .refl _
    · exact (ih.cons y).trans (.swap x y ys)

theorem perm_sortedBy (le : α → α → Bool) (l : List α) : (sortedBy le l).Perm l := by
  induction l with
  | nil => exact .refl _
  | cons x xs ih => exact (perm_insertSorted le x _).trans (ih.cons x)

theorem pairwise_insertSorted {le : α → α → Bool} (total : ∀ a b, le a b ∨ le b a)
    (trans : ∀ a b c, le a b → le b c → le a c) (x : α) {l : List α}
    (h : l.Pairwise fun a b => le a b) : (insertSorted le x l).Pairwise fun a b => le a b := by
  induction l with
  | nil => simp [insertSorted]
  | cons y ys ih =>
    obtain ⟨hy, hys⟩ := List.pairwise_cons.1 h
    simp only [insertSorted]
    split
    · next hxy =>
      refine List.pairwise_cons.2 ⟨fun z hz => ?_, h⟩
      rcases List.mem_cons.1 hz with rfl | hz
      · exact hxy
      · exact trans _ _ _ hxy (hy z hz)
    · next hxy =>
      refine List.pairwise_cons.2 ⟨fun z hz => ?_, ih hys⟩
      rcases List.mem_cons.1 ((perm_insertSorted le x ys).subset hz) with rfl | hz
      · exact (total _ _).resolve_left hxy
      · exact hy z hz

theorem pairwise_sortedBy {le : α → α → Bool} (total : ∀ a b, le a b ∨ le b a)
    (trans : ∀ a b c, le a b → le b c → le a c) (l : List α) :
    (sortedBy le l).Pairwise fun a b => le a b := by
  induction l with
  | nil => exact .nil
  | cons x xs ih => exact pairwise_insertSorted total trans x ih

theorem sortedBy_eq_self {le : α → α → Bool} {l : List α} (h : l.Pairwise fun a b => le a b) :
    sortedBy le l = l := by
  induction l with
  | nil => rfl
  | cons x xs ih =>
    obtain ⟨hx, hxs⟩ := List.pairwise_cons.1 h
    have hsorted : sortedBy le (x :: xs) = insertSorted le x xs := congrArg (insertSorted le x) (ih hxs)
    rw [hsorted]
    cases xs with
    | nil => rfl
    | cons y ys => exact if_pos (hx y List.mem_cons_self)

end ChunkCoordinator
