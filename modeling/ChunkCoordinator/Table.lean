/-!
# Tables

A `Table κ ν` holds at most one value per key, in the order of the keys. Its view is
`Table.toList`, whose keys strictly increase, so two tables with the same entries are equal and
every listing comes out sorted. A `KeySet κ` is a table without values.

* `Table.get?_insert`, `Table.get?_erase`, `Table.get?_filter`, `Table.get?_map`: what each
  operation does to a look-up.
* `Table.mem_toList_iff`: the entries of the view are the successful look-ups.
* `Table.ext_get?`: a table is determined by its look-ups.
-/

set_option linter.unusedSectionVars false

namespace ChunkCoordinator

/-- The entries of a table: one value per key, keys in increasing order. -/
structure Table (κ ν : Type) [Ord κ] where
  toList : List (κ × ν)
  sorted : toList.Pairwise fun a b => compare a.1 b.1 = .lt

/-- A set of keys. -/
abbrev KeySet (κ : Type) [Ord κ] := Table κ Unit

namespace Entries

variable {κ ν : Type} [Ord κ]

/-- The value stored at a key. -/
def lookup (k : κ) : List (κ × ν) → Option ν
  | [] => none
  | (k', v) :: rest => if compare k k' = .eq then some v else lookup k rest

/-- Puts a value at a key, in place of the one that was there. -/
def insert (k : κ) (v : ν) : List (κ × ν) → List (κ × ν)
  | [] => [(k, v)]
  | (k', v') :: rest =>
    match compare k k' with
    | .lt => (k, v) :: (k', v') :: rest
    | .eq => (k, v) :: rest
    | .gt => (k', v') :: insert k v rest

theorem mem_insert {k : κ} {v : ν} {l : List (κ × ν)} {e : κ × ν} (h : e ∈ insert k v l) :
    e = (k, v) ∨ e ∈ l := by
  induction l with
  | nil => simpa [insert] using h
  | cons a rest ih =>
    obtain ⟨k', v'⟩ := a
    simp only [insert] at h
    split at h
    · simpa using h
    · rcases List.mem_cons.1 h with h | h
      · exact .inl h
      · exact .inr (List.mem_cons_of_mem _ h)
    · rcases List.mem_cons.1 h with h | h
      · exact .inr (h ▸ List.mem_cons_self)
      · exact (ih h).imp_right (List.mem_cons_of_mem _)

theorem sorted_insert [Std.TransOrd κ] (k : κ) (v : ν) {l : List (κ × ν)}
    (h : l.Pairwise fun a b => compare a.1 b.1 = .lt) :
    (insert k v l).Pairwise fun a b => compare a.1 b.1 = .lt := by
  induction l with
  | nil => simp [insert]
  | cons a rest ih =>
    obtain ⟨k', v'⟩ := a
    obtain ⟨hhead, hrest⟩ := List.pairwise_cons.1 h
    simp only [insert]
    split
    · next hlt =>
      refine List.pairwise_cons.2 ⟨fun e he => ?_, h⟩
      rcases List.mem_cons.1 he with rfl | he
      · exact hlt
      · exact Std.TransCmp.lt_trans hlt (hhead e he)
    · next heq =>
      exact List.pairwise_cons.2 ⟨fun e he => Std.TransCmp.lt_of_eq_of_lt heq (hhead e he), hrest⟩
    · next hgt =>
      refine List.pairwise_cons.2 ⟨fun e he => ?_, ih hrest⟩
      rcases mem_insert he with rfl | he
      · exact Std.OrientedCmp.gt_iff_lt.1 hgt
      · exact hhead e he

theorem lookup_insert [Std.TransOrd κ] (k k' : κ) (v : ν) {l : List (κ × ν)}
    (h : l.Pairwise fun a b => compare a.1 b.1 = .lt) :
    lookup k' (insert k v l) = if compare k' k = .eq then some v else lookup k' l := by
  induction l with
  | nil => simp [insert, lookup]
  | cons a rest ih =>
    obtain ⟨k₀, v₀⟩ := a
    obtain ⟨-, hrest⟩ := List.pairwise_cons.1 h
    simp only [insert]
    split
    · simp [lookup]
    · next heq =>
      simp only [lookup]
      rw [Std.TransCmp.congr_right heq]
      split <;> rfl
    · next hgt =>
      simp only [lookup, ih hrest]
      split
      · next h0 =>
        split
        · next h1 =>
          have := Std.TransCmp.congr_left h1 (c := k₀)
          simp [h0, hgt] at this
        · rfl
      · rfl

/-- Two sorted lists with the same entries are equal. -/
theorem eq_of_sorted [Std.TransOrd κ] {l m : List (κ × ν)}
    (hl : l.Pairwise fun a b => compare a.1 b.1 = .lt)
    (hm : m.Pairwise fun a b => compare a.1 b.1 = .lt) (h : ∀ e, e ∈ l ↔ e ∈ m) : l = m := by
  induction l generalizing m with
  | nil =>
    cases m with
    | nil => rfl
    | cons b m => simpa using h b
  | cons a l ih =>
    cases m with
    | nil => simpa using h a
    | cons b m =>
      obtain ⟨ha, hl'⟩ := List.pairwise_cons.1 hl
      obtain ⟨hb, hm'⟩ := List.pairwise_cons.1 hm
      have hab : a = b := by
        rcases List.mem_cons.1 ((h a).1 List.mem_cons_self) with hab | hab
        · exact hab
        · rcases List.mem_cons.1 ((h b).2 List.mem_cons_self) with hba | hba
          · exact hba.symm
          · have := Std.TransCmp.lt_trans (hb a hab) (ha b hba)
            simp at this
      subst hab
      refine congrArg (a :: ·) (ih hl' hm' fun e => ⟨fun he => ?_, fun he => ?_⟩)
      · rcases List.mem_cons.1 ((h e).1 (List.mem_cons_of_mem _ he)) with rfl | h'
        · have := ha _ he
          simp at this
        · exact h'
      · rcases List.mem_cons.1 ((h e).2 (List.mem_cons_of_mem _ he)) with rfl | h'
        · have := hb _ he
          simp at this
        · exact h'

end Entries

namespace Table

variable {κ ν μ : Type} [Ord κ]

instance [DecidableEq κ] [DecidableEq ν] : DecidableEq (Table κ ν) := fun s t =>
  decidable_of_iff (s.toList = t.toList) ⟨fun h => by cases s; cases t; simp_all, fun h => h ▸ rfl⟩

theorem ext_toList {s t : Table κ ν} (h : s.toList = t.toList) : s = t := by
  cases s; cases t; simp_all

/-- The table without entries. -/
def empty : Table κ ν := ⟨[], .nil⟩

instance : Inhabited (Table κ ν) := ⟨empty⟩

/-- The value at a key. -/
def get? (t : Table κ ν) (k : κ) : Option ν := Entries.lookup k t.toList

/-- Whether the key has a value. -/
def contains (t : Table κ ν) (k : κ) : Bool := (t.get? k).isSome

/-- Puts a value at a key, in place of the one that was there. -/
def insert [Std.TransOrd κ] (t : Table κ ν) (k : κ) (v : ν) : Table κ ν :=
  ⟨Entries.insert k v t.toList, Entries.sorted_insert k v t.sorted⟩

/-- Keeps the entries that a test accepts. -/
def filter (p : κ → ν → Bool) (t : Table κ ν) : Table κ ν :=
  ⟨t.toList.filter fun e => p e.1 e.2, t.sorted.filter _⟩

/-- Takes a key and its value out. -/
def erase (t : Table κ ν) (k : κ) : Table κ ν := t.filter fun k' _ => compare k k' ≠ .eq

/-- Changes every value, keeping the keys. -/
def map (f : ν → μ) (t : Table κ ν) : Table κ μ :=
  ⟨t.toList.map fun e => (e.1, f e.2), by
    simpa [List.pairwise_map] using t.sorted⟩

/-- Puts a list of entries in, the later ones in place of earlier ones. -/
def insertAll [Std.TransOrd κ] (t : Table κ ν) (l : List (κ × ν)) : Table κ ν :=
  l.foldl (fun t e => t.insert e.1 e.2) t

/-- The table of a list of entries, in which a later entry wins over an earlier one. -/
def ofList [Std.TransOrd κ] (l : List (κ × ν)) : Table κ ν := empty.insertAll l

/-- The keys, in increasing order. -/
def keys (t : Table κ ν) : List κ := t.toList.map Prod.fst

/-- The values, in the order of their keys. -/
def values (t : Table κ ν) : List ν := t.toList.map Prod.snd

/-- The number of entries. -/
def size (t : Table κ ν) : Nat := t.toList.length

/-- Whether there is no entry. -/
def isEmpty (t : Table κ ν) : Bool := t.toList.isEmpty

/-! ## Look-ups -/

@[simp] theorem get?_empty (k : κ) : (empty : Table κ ν).get? k = none := rfl

theorem get?_insert [Std.TransOrd κ] (t : Table κ ν) (k k' : κ) (v : ν) :
    (t.insert k v).get? k' = if compare k' k = .eq then some v else t.get? k' :=
  Entries.lookup_insert k k' v t.sorted

@[simp] theorem get?_insert_self [Std.TransOrd κ] (t : Table κ ν) (k : κ) (v : ν) :
    (t.insert k v).get? k = some v := by
  simp [get?_insert]

theorem get?_map (f : ν → μ) (t : Table κ ν) (k : κ) : (t.map f).get? k = (t.get? k).map f := by
  obtain ⟨l, hl⟩ := t
  simp only [map, get?]
  induction l with
  | nil => rfl
  | cons a rest ih =>
    simp only [List.map_cons, Entries.lookup]
    split
    · rfl
    · exact ih (List.pairwise_cons.1 hl).2

section Lawful

variable [Std.TransOrd κ] [Std.LawfulEqOrd κ]

theorem mem_toList_iff {t : Table κ ν} {k : κ} {v : ν} :
    (k, v) ∈ t.toList ↔ t.get? k = some v := by
  obtain ⟨l, hl⟩ := t
  simp only [get?]
  induction l with
  | nil => simp [Entries.lookup]
  | cons a rest ih =>
    obtain ⟨k₀, v₀⟩ := a
    obtain ⟨hhead, hrest⟩ := List.pairwise_cons.1 hl
    simp only [List.mem_cons, Prod.mk.injEq, Entries.lookup]
    split
    · next heq =>
      have hk := Std.LawfulEqOrd.eq_of_compare heq
      subst hk
      constructor
      · rintro (⟨-, rfl⟩ | hmem)
        · rfl
        · have := hhead _ hmem
          simp at this
      · intro h
        exact .inl ⟨rfl, (Option.some.inj h).symm⟩
    · next hne =>
      rw [← ih hrest]
      constructor
      · rintro (⟨rfl, -⟩ | hmem)
        · simp at hne
        · exact hmem
      · exact .inr

theorem get?_filter (p : κ → ν → Bool) (t : Table κ ν) (k : κ) :
    (t.filter p).get? k = (t.get? k).filter (p k) := by
  apply Option.ext
  intro v
  rw [← mem_toList_iff, Option.filter_eq_some_iff, ← mem_toList_iff]
  simp [filter]

theorem get?_erase (t : Table κ ν) (k k' : κ) :
    (t.erase k).get? k' = if compare k k' = .eq then none else t.get? k' := by
  rw [erase, get?_filter]
  split
  · next h => cases t.get? k' <;> simp [Option.filter, h]
  · next h => cases t.get? k' <;> simp [Option.filter, h]

/-- A table is determined by its look-ups. -/
theorem ext_get? {s t : Table κ ν} (h : ∀ k, s.get? k = t.get? k) : s = t :=
  ext_toList <| Entries.eq_of_sorted s.sorted t.sorted fun e => by
    obtain ⟨k, v⟩ := e
    rw [mem_toList_iff, mem_toList_iff, h]

end Lawful

/-! ## Sets of keys -/

/-- Puts a key into a set. -/
def add [Std.TransOrd κ] (s : KeySet κ) (k : κ) : KeySet κ := s.insert k ()

/-- Puts every key of a list into a set. -/
def addAll [Std.TransOrd κ] (s : KeySet κ) (ks : List κ) : KeySet κ := ks.foldl add s

/-- The set of the keys of a list. -/
def ofKeys [Std.TransOrd κ] (ks : List κ) : KeySet κ := (empty : KeySet κ).addAll ks

end Table

end ChunkCoordinator
