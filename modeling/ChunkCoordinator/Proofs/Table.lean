import ChunkCoordinator.Table
import Mathlib.Algebra.GroupWithZero.Nat

/-!
# Look-ups and sums of tables

`get?` determines a table, so everything about insertion and removal is said through it. With
keys whose comparison is equality the conditions `compare k k' = .eq` become `k = k'`
(`Table.get?_insert_of_ne`, `Table.get?_erase_of_ne`, `Table.get?_insertAll`). Sets of keys have
`Table.contains` as their view.

`Table.sum` adds up a size over all values. Erasing an entry takes its size away and putting one in
adds it (`Table.sum_of_get?`, `Table.sum_insert`, `Table.sum_insertAll`).
-/

set_option linter.unusedSectionVars false

namespace ChunkCoordinator.Table

variable {κ ν μ : Type} [Ord κ] [Std.TransOrd κ] [Std.LawfulEqOrd κ]

/-! ## Look-ups -/

theorem get?_insert_of_ne (t : Table κ ν) {k k' : κ} (v : ν) (h : k' ≠ k) :
    (t.insert k v).get? k' = t.get? k' := by
  rw [get?_insert, if_neg]
  exact fun heq => h (Std.LawfulEqOrd.eq_of_compare heq)

@[simp] theorem get?_erase_self (t : Table κ ν) (k : κ) : (t.erase k).get? k = none := by
  rw [get?_erase, if_pos Std.ReflOrd.compare_self]

theorem get?_erase_of_ne (t : Table κ ν) {k k' : κ} (h : k' ≠ k) :
    (t.erase k).get? k' = t.get? k' := by
  rw [get?_erase, if_neg]
  exact fun heq => h (Std.LawfulEqOrd.eq_of_compare heq).symm

theorem get?_filter_eq_some {p : κ → ν → Bool} {t : Table κ ν} {k : κ} {v : ν} :
    (t.filter p).get? k = some v ↔ t.get? k = some v ∧ p k v := by
  rw [get?_filter, Option.filter_eq_some_iff]

/-- A filter that lets every entry through changes nothing. -/
theorem filter_eq_self {p : κ → ν → Bool} {t : Table κ ν}
    (h : ∀ k v, t.get? k = some v → p k v) : t.filter p = t := by
  refine ext_get? fun k => Option.ext fun v => ?_
  rw [get?_filter_eq_some]
  exact and_iff_left_of_imp (h k v)

theorem get?_erase_eq_some {t : Table κ ν} {k k' : κ} {v : ν} :
    (t.erase k).get? k' = some v ↔ k' ≠ k ∧ t.get? k' = some v := by
  by_cases h : k' = k
  · simp [h]
  · simp [get?_erase_of_ne t h, h]

theorem get?_insert_eq_some {t : Table κ ν} {k k' : κ} {v v' : ν} :
    (t.insert k v).get? k' = some v' ↔ (k' = k ∧ v' = v) ∨ (k' ≠ k ∧ t.get? k' = some v') := by
  by_cases h : k' = k
  · subst h
    simp [eq_comm]
  · simp [get?_insert_of_ne t v h, h]

/-- Of two values put at one key the second one stays. -/
theorem insert_insert (t : Table κ ν) (k : κ) (v v' : ν) :
    (t.insert k v).insert k v' = t.insert k v' :=
  ext_get? fun k' => by
    simp only [get?_insert]
    split <;> rfl

theorem contains_iff {t : Table κ ν} {k : κ} : t.contains k ↔ ∃ v, t.get? k = some v :=
  Option.isSome_iff_exists

theorem contains_of_get? {t : Table κ ν} {k : κ} {v : ν} (h : t.get? k = some v) :
    t.contains k :=
  contains_iff.2 ⟨v, h⟩

theorem contains_insert {t : Table κ ν} {k k' : κ} {v : ν} :
    (t.insert k v).contains k' ↔ k' = k ∨ t.contains k' := by
  simp only [contains_iff, get?_insert_eq_some]
  by_cases h : k' = k <;> simp [h]

theorem get?_eq_none_iff {t : Table κ ν} {k : κ} : t.get? k = none ↔ t.contains k = false := by
  simp [contains]

theorem mem_values {t : Table κ ν} {v : ν} : v ∈ t.values ↔ ∃ k, t.get? k = some v := by
  simp only [values, List.mem_map, Prod.exists, exists_eq_right, mem_toList_iff]

theorem mem_keys {t : Table κ ν} {k : κ} : k ∈ t.keys ↔ t.contains k := by
  simp only [keys, List.mem_map, Prod.exists, exists_and_right, exists_eq_right, mem_toList_iff,
    contains_iff]

/-- The keys come in strictly ascending order. -/
theorem pairwise_keys (t : Table κ ν) : t.keys.Pairwise fun a b => compare a b = .lt :=
  List.pairwise_map.2 t.sorted

theorem nodup_keys (t : Table κ ν) : t.keys.Nodup := by
  refine t.pairwise_keys.imp fun {a b} h heq => ?_
  rw [heq, Std.ReflOrd.compare_self] at h
  cases h

/-- If the values tell their keys, they tell them in order. -/
theorem map_values {t : Table κ ν} {key : ν → κ} (h : ∀ k v, t.get? k = some v → key v = k) :
    t.values.map key = t.keys := by
  rw [values, List.map_map, keys]
  exact List.map_congr_left fun e he => h e.1 e.2 (mem_toList_iff.1 he)

/-- If the values tell their keys, no two of them tell the same. -/
theorem nodup_map_values {t : Table κ ν} {key : ν → κ} (h : ∀ k v, t.get? k = some v → key v = k) :
    (t.values.map key).Nodup := by
  rw [map_values h]
  exact nodup_keys t

@[simp] theorem length_keys (t : Table κ ν) : t.keys.length = t.size := by
  simp [keys, size]

/-- A table has as many entries as any list of its keys without repetition. -/
theorem size_eq_length {t : Table κ ν} {l : List κ} (hl : l.Nodup)
    (h : ∀ k, t.contains k ↔ k ∈ l) : t.size = l.length := by
  rw [← length_keys]
  refine ((List.perm_ext_iff_of_nodup (nodup_keys t) hl).2 fun k => ?_).length_eq
  rw [mem_keys, h]

theorem isEmpty_iff {t : Table κ ν} : t.isEmpty ↔ ∀ k, t.contains k = false := by
  constructor
  · intro h k
    rw [isEmpty, List.isEmpty_iff] at h
    rw [← get?_eq_none_iff, get?, h]
    rfl
  · intro h
    rw [isEmpty, List.isEmpty_iff]
    refine List.eq_nil_iff_forall_not_mem.2 fun e he => ?_
    have := contains_of_get? (mem_toList_iff.1 he)
    simp [h] at this

/-! ## Lists of entries -/

theorem get?_insertAll_of_notMem {l : List (κ × ν)} {k : κ} (t : Table κ ν)
    (h : k ∉ l.map Prod.fst) : (t.insertAll l).get? k = t.get? k := by
  induction l generalizing t with
  | nil => rfl
  | cons e l ih =>
    simp only [List.map_cons, List.mem_cons, not_or] at h
    exact (ih (t.insert e.1 e.2) h.2).trans (get?_insert_of_ne t e.2 h.1)

/-- Of entries with distinct keys each one is found. -/
theorem get?_insertAll_of_mem {l : List (κ × ν)} {k : κ} {v : ν} (t : Table κ ν)
    (hl : (l.map Prod.fst).Nodup) (h : (k, v) ∈ l) : (t.insertAll l).get? k = some v := by
  induction l generalizing t with
  | nil => cases h
  | cons e l ih =>
    obtain ⟨hhead, hrest⟩ := List.nodup_cons.1 hl
    rcases List.mem_cons.1 h with rfl | h
    · exact (get?_insertAll_of_notMem (t.insert k v) hhead).trans (get?_insert_self t k v)
    · exact ih (t.insert e.1 e.2) hrest h

theorem get?_insertAll {l : List (κ × ν)} {k : κ} {v : ν} (t : Table κ ν)
    (hl : (l.map Prod.fst).Nodup) : (t.insertAll l).get? k = some v ↔
      (k, v) ∈ l ∨ (k ∉ l.map Prod.fst ∧ t.get? k = some v) := by
  by_cases hk : k ∈ l.map Prod.fst
  · obtain ⟨⟨k', v'⟩, hmem, rfl⟩ := List.mem_map.1 hk
    rw [get?_insertAll_of_mem t hl hmem]
    constructor
    · intro h
      exact .inl (Option.some.inj h ▸ hmem)
    · rintro (h | ⟨h, -⟩)
      · have := get?_insertAll_of_mem t hl h
        rw [← this, get?_insertAll_of_mem t hl hmem]
      · exact absurd hk h
  · rw [get?_insertAll_of_notMem t hk]
    constructor
    · exact fun h => .inr ⟨hk, h⟩
    · rintro (h | ⟨-, h⟩)
      · exact absurd (List.mem_map_of_mem h) hk
      · exact h

/-- What is found in the table of a list stands in the list. -/
theorem mem_of_get?_insertAll {l : List (κ × ν)} {k : κ} {v : ν} {t : Table κ ν}
    (h : (t.insertAll l).get? k = some v) : (k, v) ∈ l ∨ t.get? k = some v := by
  induction l generalizing t with
  | nil => exact .inr h
  | cons e l ih =>
    rcases ih (t := t.insert e.1 e.2) h with h | h
    · exact .inl (List.mem_cons_of_mem _ h)
    · rcases get?_insert_eq_some.1 h with ⟨rfl, rfl⟩ | ⟨-, h⟩
      · exact .inl List.mem_cons_self
      · exact .inr h

theorem get?_ofList {l : List (κ × ν)} {k : κ} {v : ν} (hl : (l.map Prod.fst).Nodup) :
    (ofList l).get? k = some v ↔ (k, v) ∈ l := by
  simp [ofList, get?_insertAll _ hl]

/-- Of several values with one key the last one is found. -/
theorem get?_ofList_map [DecidableEq κ] (key : ν → κ) (f : ν → μ) (l : List ν) (k : κ) :
    (ofList (l.map fun v => (key v, f v))).get? k =
      (l.reverse.find? fun v => key v = k).map f := by
  have hfold : ∀ (l : List ν) (t : Table κ μ),
      (t.insertAll (l.map fun v => (key v, f v))).get? k =
        ((l.reverse.find? fun v => key v = k).map f).or (t.get? k) := by
    intro l
    induction l with
    | nil => exact fun t => rfl
    | cons v l ih =>
      intro t
      refine (ih (t.insert (key v) (f v))).trans ?_
      rw [List.reverse_cons, List.find?_append]
      cases l.reverse.find? fun v => key v = k with
      | some w => rfl
      | none =>
        by_cases hkey : key v = k
        · simp [hkey]
        · simp [hkey, get?_insert_of_ne t (f v) (Ne.symm hkey)]
  rw [ofList, hfold]
  exact Option.or_none

/-- If the values tell their keys, they make up the table. -/
theorem ofList_values {t : Table κ ν} {key : ν → κ} (h : ∀ k v, t.get? k = some v → key v = k)
    (f : ν → μ) : ofList (t.values.map fun v => (key v, f v)) = t.map f := by
  have hkey : ∀ e ∈ t.toList, key e.2 = e.1 := fun e he => h e.1 e.2 (mem_toList_iff.1 he)
  have hentries : (t.values.map fun v => (key v, f v)) = (t.map f).toList := by
    rw [values, List.map_map, map]
    refine List.map_congr_left fun e he => ?_
    rw [Function.comp_apply, hkey e he]
  refine ext_get? fun k => Option.ext fun v => ?_
  rw [hentries, get?_ofList (nodup_keys (t.map f)), mem_toList_iff]

theorem map_insertAll (f : ν → μ) : ∀ (l : List (κ × ν)) (t : Table κ ν),
    (t.insertAll l).map f = (t.map f).insertAll (l.map fun e => (e.1, f e.2))
  | [], _ => rfl
  | (k, v) :: l, t => by
    have hinsert : (t.insert k v).map f = (t.map f).insert k (f v) := by
      refine ext_get? fun k' => ?_
      rw [get?_map, get?_insert, get?_insert, get?_map]
      split <;> rfl
    have hstep : t.insertAll ((k, v) :: l) = (t.insert k v).insertAll l := rfl
    rw [hstep, map_insertAll f l, hinsert]
    rfl

theorem map_ofList (f : ν → μ) (l : List (κ × ν)) :
    (ofList l).map f = ofList (l.map fun e => (e.1, f e.2)) :=
  map_insertAll f l empty

@[simp] theorem map_id (t : Table κ ν) : t.map id = t :=
  ext_toList (List.map_id t.toList)

/-- Putting in what is there already changes nothing. -/
theorem insert_of_get? {t : Table κ ν} {k : κ} {v : ν} (h : t.get? k = some v) : t.insert k v = t := by
  refine ext_get? fun k' => ?_
  by_cases hk : k' = k
  · rw [hk, get?_insert_self, h]
  · exact get?_insert_of_ne t v hk

/-! ## Sets of keys -/

theorem contains_add {s : KeySet κ} {k k' : κ} :
    (s.add k).contains k' ↔ k' = k ∨ s.contains k' :=
  contains_insert

theorem contains_addAll {s : KeySet κ} {ks : List κ} {k : κ} :
    (s.addAll ks).contains k ↔ k ∈ ks ∨ s.contains k := by
  induction ks generalizing s with
  | nil => simp [addAll]
  | cons k' ks ih =>
    have step : s.addAll (k' :: ks) = (s.add k').addAll ks := rfl
    rw [step, ih, contains_add, List.mem_cons, or_left_comm, or_assoc]

theorem contains_ofKeys {ks : List κ} {k : κ} :
    (ofKeys ks : KeySet κ).contains k ↔ k ∈ ks := by
  rw [ofKeys, contains_addAll]
  simp [contains]

/-- A set is made up of its keys. -/
theorem ofKeys_keys (s : KeySet κ) : ofKeys s.keys = s := by
  have hmem : ∀ k, (ofKeys s.keys : KeySet κ).contains k ↔ s.contains k := fun k => by
    rw [contains_ofKeys, mem_keys]
  refine ext_get? fun k => Option.ext fun u => ?_
  have hcontains : ∀ t : KeySet κ, t.get? k = some u ↔ t.contains k := fun t =>
    ⟨contains_of_get?, fun h => (contains_iff.1 h).elim fun _ h => h⟩
  rw [hcontains, hcontains, hmem]

theorem add_of_contains {s : KeySet κ} {k : κ} (h : s.contains k) : s.add k = s := by
  obtain ⟨⟨⟩, hk⟩ := contains_iff.1 h
  exact insert_of_get? hk

theorem addAll_of_contains {s : KeySet κ} : ∀ {ks : List κ}, (∀ k ∈ ks, s.contains k) → s.addAll ks = s
  | [], _ => rfl
  | k :: ks, h => by
    obtain ⟨hk, hks⟩ := List.forall_mem_cons.1 h
    have step : s.addAll (k :: ks) = (s.add k).addAll ks := rfl
    rw [step, add_of_contains hk, addAll_of_contains hks]

theorem contains_erase {t : Table κ ν} {k k' : κ} :
    (t.erase k).contains k' ↔ k' ≠ k ∧ t.contains k' := by
  simp only [contains_iff, get?_erase_eq_some, exists_and_left]

theorem contains_empty (k : κ) : (empty : Table κ ν).contains k = false := rfl

/-! ## Sums -/

/-- The sum of a size over all values. -/
def sum (t : Table κ ν) (size : ν → Nat) : Nat := (t.values.map size).sum

theorem perm_toList_of_get? {t : Table κ ν} {k : κ} {v : ν} (h : t.get? k = some v) :
    t.toList.Perm ((k, v) :: (t.erase k).toList) := by
  have hnodup : ∀ t : Table κ ν, t.toList.Nodup := fun t =>
    (List.pairwise_map.1 t.nodup_keys).imp fun hne heq => hne (congrArg Prod.fst heq)
  have hnew : (k, v) ∉ (t.erase k).toList := by
    rw [mem_toList_iff, get?_erase_self]
    exact fun h => nomatch h
  refine (List.perm_ext_iff_of_nodup (hnodup t) (List.nodup_cons.2 ⟨hnew, hnodup _⟩)).2 fun e => ?_
  obtain ⟨k', v'⟩ := e
  rw [List.mem_cons, mem_toList_iff, mem_toList_iff, get?_erase_eq_some, Prod.mk.injEq]
  by_cases hk : k' = k
  · subst hk
    simp [h, eq_comm]
  · simp [hk]

/-- The sum is that of one entry and of the others. -/
theorem sum_of_get? {t : Table κ ν} {k : κ} {v : ν} (h : t.get? k = some v) (size : ν → Nat) :
    t.sum size = size v + (t.erase k).sum size := by
  have hperm := ((perm_toList_of_get? h).map Prod.snd).map size
  exact hperm.sum_nat

theorem erase_of_get?_eq_none {t : Table κ ν} {k : κ} (h : t.get? k = none) : t.erase k = t := by
  refine ext_get? fun k' => ?_
  by_cases hk : k' = k
  · rw [hk, get?_erase_self, h]
  · exact get?_erase_of_ne t hk

/-- Erasing takes at most one entry away. -/
theorem size_eq_erase (t : Table κ ν) (k : κ) :
    t.size = (t.erase k).size + if t.contains k then 1 else 0 := by
  cases hk : t.get? k with
  | none =>
    rw [erase_of_get?_eq_none hk, get?_eq_none_iff.1 hk, if_neg Bool.false_ne_true, Nat.add_zero]
  | some v =>
    rw [contains_of_get? hk, if_pos rfl]
    exact (perm_toList_of_get? hk).length_eq

theorem erase_insert (t : Table κ ν) (k : κ) (v : ν) : (t.insert k v).erase k = t.erase k := by
  refine ext_get? fun k' => ?_
  by_cases hk : k' = k
  · rw [hk, get?_erase_self, get?_erase_self]
  · rw [get?_erase_of_ne _ hk, get?_erase_of_ne _ hk, get?_insert_of_ne _ _ hk]

/-- A new key adds one entry. -/
theorem perm_toList_insert {t : Table κ ν} {k : κ} (v : ν) (h : t.contains k = false) :
    (t.insert k v).toList.Perm ((k, v) :: t.toList) := by
  have hperm := perm_toList_of_get? (get?_insert_self t k v)
  rwa [erase_insert, erase_of_get?_eq_none (get?_eq_none_iff.2 h)] at hperm

theorem sum_insert (t : Table κ ν) (k : κ) (v : ν) (size : ν → Nat) :
    (t.insert k v).sum size = size v + (t.erase k).sum size := by
  rw [sum_of_get? (get?_insert_self t k v) size, erase_insert]

/-- A value of the same size may stand in place of another one. -/
theorem sum_insert_of_eq {t : Table κ ν} {k : κ} {v v' : ν} {size : ν → Nat} (h : t.get? k = some v)
    (hsize : size v' = size v) : (t.insert k v').sum size = t.sum size := by
  rw [sum_insert, hsize, ← sum_of_get? h size]

theorem sum_insertAll {size : ν → Nat} : ∀ {l : List (κ × ν)} {t : Table κ ν},
    (l.map Prod.fst).Nodup → (∀ e ∈ l, t.get? e.1 = none) →
    (t.insertAll l).sum size = (l.map fun e => size e.2).sum + t.sum size
  | [], t, _, _ => by simp [insertAll]
  | (k, v) :: l, t, hnodup, hnew => by
    obtain ⟨hk, hnodup⟩ := List.nodup_cons.1 hnodup
    obtain ⟨hhead, hrest⟩ := List.forall_mem_cons.1 hnew
    have hrest : ∀ e ∈ l, (t.insert k v).get? e.1 = none := by
      intro e he
      have hmem : e.1 ∈ l.map Prod.fst := List.mem_map_of_mem he
      have hne : e.1 ≠ k := fun heq => hk (heq ▸ hmem)
      rw [get?_insert_of_ne _ _ hne, hrest e he]
    have hstep : t.insertAll ((k, v) :: l) = (t.insert k v).insertAll l := rfl
    rw [hstep, sum_insertAll hnodup hrest, sum_insert, erase_of_get?_eq_none hhead, List.map_cons,
      List.sum_cons, Nat.add_left_comm, Nat.add_assoc]

/-- The values with a property, counted with those at one key apart. -/
theorem countP_values_erase (t : Table κ ν) (k : κ) (p : ν → Bool) : t.values.countP p =
    (t.erase k).values.countP p + if (t.get? k).any p then 1 else 0 := by
  cases hk : t.get? k with
  | none => rw [erase_of_get?_eq_none hk, Option.any_none, if_neg Bool.false_ne_true, Nat.add_zero]
  | some v =>
    have hperm : t.values.Perm (v :: (t.erase k).values) := (perm_toList_of_get? hk).map Prod.snd
    rw [hperm.countP_eq, List.countP_cons, Option.any_some]

theorem countP_values_insert (t : Table κ ν) (k : κ) (v : ν) (p : ν → Bool) :
    (t.insert k v).values.countP p = (t.erase k).values.countP p + if p v then 1 else 0 := by
  rw [countP_values_erase _ k, erase_insert, get?_insert_self, Option.any_some]

theorem sum_map (t : Table κ ν) (f : ν → μ) (size : μ → Nat) :
    (t.map f).sum size = t.sum (size ∘ f) := by
  simp [sum, values, map, Function.comp_def]

theorem sum_congr {t : Table κ ν} {size size' : ν → Nat}
    (h : ∀ k v, t.get? k = some v → size v = size' v) : t.sum size = t.sum size' := by
  unfold sum
  rw [List.map_congr_left]
  intro v hv
  obtain ⟨k, hk⟩ := mem_values.1 hv
  exact h k v hk

theorem sum_eq_zero {t : Table κ ν} {size : ν → Nat} (h : ∀ k v, t.get? k = some v → size v = 0) :
    t.sum size = 0 := by
  rw [sum_congr h, sum, List.map_const', List.sum_replicate_nat, Nat.mul_zero]

end ChunkCoordinator.Table
