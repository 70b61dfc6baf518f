import ChunkCoordinator.Queue
import ChunkCoordinator.Proofs.Sweep

/-!
# What a merge does to the queue

Merging drops the instructions that the survey found completed or expired and issues the new ones
(`Queue.drop_eq`, `Queue.exists_issue`), whatever has happened to the queue since then
(`Queue.perm_merge`). If the queue has not changed since it was surveyed, the instructions in flight
stay (`Queue.get?_kept`), every new instruction is issued and none of them replaces another one
(`Queue.merge_findings`) : its target is not among those that a copy of the chunk is under way to,
and chunks with different identifiers have different keys.
-/

set_option linter.unusedSectionVars false

namespace ChunkCoordinator

/-! ## Verdicts -/

namespace Survey

variable {s : Survey}

theorem mem_withVerdict {v : Verdict} {key : CopyKey} :
    key ∈ s.withVerdict v ↔ ∃ i, s.pending.get? key = some i ∧ s.verdict key i = v := by
  simp only [withVerdict, List.mem_map, List.mem_filter, decide_eq_true_eq]
  constructor
  · rintro ⟨⟨key, i⟩, ⟨hmem, hv⟩, rfl⟩
    exact ⟨i, Table.mem_toList_iff.1 hmem, hv⟩
  · rintro ⟨i, hget, hv⟩
    exact ⟨(key, i), ⟨Table.mem_toList_iff.2 hget, hv⟩, rfl⟩

theorem mem_withVerdict_of_get? {v : Verdict} {key : CopyKey} {i : Instruction}
    (h : s.pending.get? key = some i) : key ∈ s.withVerdict v ↔ s.verdict key i = v := by
  rw [mem_withVerdict]
  constructor
  · rintro ⟨j, hj, hv⟩
    rw [h] at hj
    rw [Option.some.inj hj, hv]
  · exact fun hv => ⟨i, h, hv⟩

/-- A pending instruction is in flight if it is neither completed nor expired. -/
theorem verdict_eq_inFlight {key : CopyKey} {i : Instruction} (h : s.pending.get? key = some i) :
    s.verdict key i = .inFlight ↔ key ∉ s.findings.completed ∧ key ∉ s.findings.expired := by
  have hcompleted : key ∈ s.findings.completed ↔ s.verdict key i = .completed :=
    mem_withVerdict_of_get? h
  have hexpired : key ∈ s.findings.expired ↔ s.verdict key i = .expired := mem_withVerdict_of_get? h
  rw [hcompleted, hexpired]
  cases s.verdict key i <;> simp

theorem mem_claims {c : ChunkRecord} {key : CopyKey} :
    key ∈ claims (s.withVerdict .inFlight) c.id ↔ key ∈ s.withVerdict .inFlight ∧ key.chunk = c.id := by
  simp [claims]

/-- A copy is under way to the targets in flight and to those of a fresh upload. -/
theorem contains_underWay {c : ChunkRecord} {t : NodeId} : (s.underWay c).contains t ↔
    ⟨c.id, t⟩ ∈ s.withVerdict .inFlight ∨ t ∈ s.uploadTargets c := by
  rw [underWay, Table.contains_addAll, Table.contains_ofKeys, or_comm]
  refine or_congr_left ⟨fun h => ?_, fun h => ?_⟩
  · obtain ⟨⟨chunk, target⟩, hkey, rfl⟩ := List.mem_map.1 h
    obtain ⟨hkey, rfl⟩ := mem_claims.1 hkey
    exact hkey
  · exact List.mem_map.2 ⟨⟨c.id, t⟩, mem_claims.2 ⟨h, rfl⟩, rfl⟩

/-- A chosen node holds no replica, and no copy is under way to it. -/
theorem mem_targets {room : List Node} {c : ChunkRecord} {t : NodeId} (h : t ∈ s.targets room c) :
    (∃ n ∈ room, n.isHealthy ∧ c.size ≤ n.free ∧ n.id = t) ∧
      c.replicas.contains t = false ∧ (s.underWay c).contains t = false := by
  obtain ⟨n, hn, helig, rfl⟩ := Placement.mem_chooseTargets h
  simp only [Placement.eligible, Bool.and_eq_true, Bool.not_eq_true', decide_eq_true_eq] at helig
  obtain ⟨⟨hhealthy, hout⟩, hfree⟩ := helig
  have hout : ¬(c.replicas.addAll (s.underWay c).keys).contains n.id := by simp [hout]
  rw [Table.contains_addAll, Table.mem_keys, not_or] at hout
  exact ⟨⟨n, hn, hhealthy, hfree, rfl⟩, by simpa using hout.2, by simpa using hout.1⟩

end Survey

namespace Queue

/-! ## Dropping and issuing -/

/-- What is dropped is what was pending at these keys. -/
theorem drop_eq : ∀ (n : Nat) (pending : Table CopyKey Instruction) (keys : List CopyKey),
    drop n pending keys =
      (n + pending.toList.countP (fun e => e.1 ∈ keys), pending.filter fun key _ => key ∉ keys)
  | n, pending, [] => by
    refine Prod.ext (by simp [drop]) (Table.ext_get? fun key => Option.ext fun i => ?_)
    simp [drop, Table.get?_filter_eq_some]
  | n, pending, k :: keys => by
    rw [drop, drop_eq]
    refine Prod.ext ?_ (Table.ext_get? fun key => Option.ext fun i => ?_)
    · have herased : (pending.erase k).toList.countP (fun e => e.1 ∈ k :: keys) =
          (pending.erase k).toList.countP (fun e => e.1 ∈ keys) := by
        refine List.countP_congr fun e he => ?_
        have hne := (Table.get?_erase_eq_some.1 (Table.mem_toList_iff.1 he)).1
        simp [hne]
      dsimp only
      rw [← herased, Nat.add_assoc]
      congr 1
      cases hget : pending.get? k with
      | none =>
        have hcontains := Table.get?_eq_none_iff.1 hget
        rw [Table.erase_of_get?_eq_none hget, hcontains, if_neg Bool.false_ne_true, Nat.zero_add]
      | some i =>
        rw [if_pos (Table.contains_of_get? hget), (Table.perm_toList_of_get? hget).countP_eq,
          List.countP_cons_of_pos (by simp), Nat.add_comm]
    · simp only [Table.get?_filter_eq_some, Table.get?_erase_eq_some, List.mem_cons, not_or,
        decide_eq_true_eq]
      exact ⟨fun h => ⟨h.1.2, h.1.1, h.2⟩, fun h => ⟨⟨h.2.1, h.1⟩, h.2.2⟩⟩

theorem get?_drop {n : Nat} {pending : Table CopyKey Instruction} {keys : List CopyKey} {key : CopyKey}
    {i : Instruction} :
    (drop n pending keys).2.get? key = some i ↔ key ∉ keys ∧ pending.get? key = some i := by
  rw [drop_eq, Table.get?_filter_eq_some, decide_eq_true_eq, and_comm]

/-- The instructions issued are some of the new ones. They come on top of what was pending. -/
theorem exists_issue :
    ∀ (issued : List Instruction) (pending : Table CopyKey Instruction) (new : List Instruction),
      ∃ added, added.Sublist new ∧ (issue issued pending new).1 = issued ++ added ∧
        (issue issued pending new).2.toList.Perm
          (added.map (fun i => (i.key, i)) ++ pending.toList)
  | issued, pending, [] => ⟨[], List.Sublist.refl _, (List.append_nil _).symm, List.Perm.refl _⟩
  | issued, pending, j :: new => by
    rw [issue]
    split
    · obtain ⟨added, hsub, hissued, hpending⟩ := exists_issue issued pending new
      exact ⟨added, hsub.cons j, hissued, hpending⟩
    · next hnew =>
      obtain ⟨added, hsub, hissued, hpending⟩ :=
        exists_issue (issued ++ [j]) (pending.insert j.key j) new
      refine ⟨j :: added, hsub.cons_cons j, by rw [hissued, List.append_assoc]; rfl,
        hpending.trans ?_⟩
      have hinsert := Table.perm_toList_insert j (Bool.not_eq_true _ ▸ hnew)
      exact (hinsert.append_left _).trans List.perm_middle

/-- New instructions with different keys, none of them pending, are all issued. -/
theorem issue_eq :
    ∀ {issued : List Instruction} {pending : Table CopyKey Instruction} {new : List Instruction},
      (new.map Instruction.key).Nodup → (∀ i ∈ new, pending.contains i.key = false) →
      issue issued pending new = (issued ++ new, pending.insertAll (new.map fun i => (i.key, i)))
  | issued, _, [], _, _ => by simp [issue, Table.insertAll]
  | issued, pending, i :: new, hnodup, hfresh => by
    obtain ⟨hhead, hnodup⟩ := List.nodup_cons.1 hnodup
    have hrest : ∀ j ∈ new, (pending.insert i.key i).contains j.key = false := by
      intro j hj
      have hne : j.key ≠ i.key := fun heq => hhead (heq ▸ List.mem_map_of_mem hj)
      rw [Table.contains, Table.get?_insert_of_ne _ _ hne]
      exact hfresh j (List.mem_cons_of_mem _ hj)
    rw [issue, if_neg (by simp [hfresh i List.mem_cons_self]), issue_eq hnodup hrest,
      List.append_assoc]
    rfl

/-! ## Merging what a survey of the queue has found -/

/-- The pending instructions without those that a survey found completed or expired. -/
def kept (s : Survey) : Table CopyKey Instruction :=
  (drop 0 (drop 0 s.pending s.findings.completed).2 s.findings.expired).2

theorem get?_kept {s : Survey} {key : CopyKey} {i : Instruction} :
    (kept s).get? key = some i ↔ s.pending.get? key = some i ∧ s.verdict key i = .inFlight := by
  rw [kept, get?_drop, get?_drop]
  constructor
  · rintro ⟨hexpired, hcompleted, hget⟩
    exact ⟨hget, (Survey.verdict_eq_inFlight hget).2 ⟨hcompleted, hexpired⟩⟩
  · rintro ⟨hget, hv⟩
    obtain ⟨hcompleted, hexpired⟩ := (Survey.verdict_eq_inFlight hget).1 hv
    exact ⟨hexpired, hcompleted, hget⟩

/-- A merge issues some of what was found. -/
theorem emitted_merge_sublist (q : Queue) (now : UInt64) (found : Findings) :
    (q.merge now found).1.emitted.Sublist found.emitted := by
  obtain ⟨added, hsub, hissued, -⟩ := exists_issue []
    (drop 0 (drop 0 q.pending found.completed).2 found.expired).2 found.emitted
  have hemitted : (q.merge now found).1.emitted = added := hissued
  exact hemitted ▸ hsub

/-- Afterwards what was issued is pending, and of the rest what was neither completed nor expired. -/
theorem perm_merge (q : Queue) (now : UInt64) (found : Findings) :
    (q.merge now found).2.pending.toList.Perm
      ((q.merge now found).1.emitted.map (fun i => (i.key, i)) ++
        q.pending.toList.filter fun e => e.1 ∉ found.completed && e.1 ∉ found.expired) := by
  obtain ⟨added, -, hissued, hpending⟩ := exists_issue []
    (drop 0 (drop 0 q.pending found.completed).2 found.expired).2 found.emitted
  have hemitted : (q.merge now found).1.emitted = added := hissued
  have hleft : (drop 0 (drop 0 q.pending found.completed).2 found.expired).2.toList =
      q.pending.toList.filter fun e => e.1 ∉ found.completed && e.1 ∉ found.expired := by
    rw [drop_eq, drop_eq]
    refine List.filter_filter.trans (List.filter_congr fun e _ => Bool.and_comm _ _)
  rw [hemitted, ← hleft]
  exact hpending

/-- What is counted as completed is what was pending at these keys. -/
theorem completed_merge (q : Queue) (now : UInt64) (found : Findings) :
    (q.merge now found).1.completed = q.pending.toList.countP fun e => e.1 ∈ found.completed := by
  have hdrop : (q.merge now found).1.completed = (drop 0 q.pending found.completed).1 := rfl
  rw [hdrop, drop_eq, Nat.zero_add]

/-- Nothing is counted as expired that has been counted as completed. -/
theorem expired_merge (q : Queue) (now : UInt64) (found : Findings) :
    (q.merge now found).1.expired =
      q.pending.toList.countP fun e => e.1 ∈ found.expired && e.1 ∉ found.completed := by
  have hdrop : (q.merge now found).1.expired =
      (drop 0 (drop 0 q.pending found.completed).2 found.expired).1 := rfl
  rw [hdrop, drop_eq, drop_eq, Nat.zero_add]
  exact List.countP_filter

theorem get?_merge (q : Queue) (now : UInt64) (found : Findings) {key : CopyKey} {i : Instruction} :
    (q.merge now found).2.pending.get? key = some i ↔
      (i.key = key ∧ i ∈ (q.merge now found).1.emitted) ∨
        (q.pending.get? key = some i ∧ key ∉ found.completed ∧ key ∉ found.expired) := by
  rw [← Table.mem_toList_iff, (perm_merge q now found).mem_iff, List.mem_append, List.mem_filter,
    Table.mem_toList_iff]
  refine or_congr ?_ ?_
  · simp only [List.mem_map, Prod.mk.injEq]
    constructor
    · rintro ⟨j, hj, hkey, rfl⟩
      exact ⟨hkey, hj⟩
    · rintro ⟨hkey, hi⟩
      exact ⟨i, hi, hkey, rfl⟩
  · simp only [Bool.and_eq_true, decide_eq_true_eq]

theorem mem_map_key_orders {s : Survey} {cs : List ChunkRecord} {room : List Node} {key : CopyKey}
    (h : key ∈ ((s.orders room cs).flatMap fun o => o.2.map (s.order o.1)).map Instruction.key) :
    key.chunk ∈ cs.map ChunkRecord.id := by
  obtain ⟨i, hi, rfl⟩ := List.mem_map.1 h
  obtain ⟨o, ho, hi⟩ := List.mem_flatMap.1 hi
  obtain ⟨t, -, rfl⟩ := List.mem_map.1 hi
  rw [← s.map_fst_orders room cs, List.map_map]
  exact List.mem_map_of_mem (f := ChunkRecord.id ∘ Prod.fst) ho

theorem nodup_key_orders (s : Survey) : ∀ (cs : List ChunkRecord) (room : List Node),
    (cs.map ChunkRecord.id).Nodup →
    (((s.orders room cs).flatMap fun o => o.2.map (s.order o.1)).map Instruction.key).Nodup
  | [], _, _ => .nil
  | c :: cs, room, h => by
    obtain ⟨hnew, h⟩ := List.nodup_cons.1 h
    rw [Survey.orders, List.flatMap_cons, List.map_append, List.nodup_append, List.map_map]
    refine ⟨?_, nodup_key_orders s cs _ h, fun key hkey key' hkey' heq => ?_⟩
    · refine List.pairwise_map.2 (Placement.nodup_chooseTargets.imp fun hne heq => hne ?_)
      exact congrArg CopyKey.target heq
    · obtain ⟨t, -, rfl⟩ := List.mem_map.1 hkey
      rw [← heq] at hkey'
      exact hnew (mem_map_key_orders hkey')

theorem nodup_key_findings {s : Survey} (h : (s.chunks.map ChunkRecord.id).Nodup) :
    (s.findings.emitted.map Instruction.key).Nodup := by
  rw [(Survey.findings_eq h).1]
  exact nodup_key_orders s _ _ ((s.perm_scanned.map ChunkRecord.id).nodup_iff.2 h)

/-- No new instruction repeats one that stays. -/
theorem contains_kept {s : Survey} (h : (s.chunks.map ChunkRecord.id).Nodup) {i : Instruction}
    (hi : i ∈ s.findings.emitted) : (kept s).contains i.key = false := by
  rw [(Survey.findings_eq h).1] at hi
  obtain ⟨⟨c, ts⟩, ho, hi⟩ := List.mem_flatMap.1 hi
  obtain ⟨t, ht, rfl⟩ := List.mem_map.1 hi
  obtain ⟨left, rfl, -⟩ := s.mem_orders ho
  have hunderWay := (Survey.mem_targets ht).2.2
  rw [Bool.eq_false_iff] at hunderWay ⊢
  intro hkept
  obtain ⟨j, hj⟩ := Table.contains_iff.1 hkept
  exact hunderWay (Survey.contains_underWay.2 (.inl (Survey.mem_withVerdict.2 ⟨j, get?_kept.1 hj⟩)))

/-- Merging into the queue that was surveyed issues every new instruction. -/
theorem merge_findings {q : Queue} {s : Survey} (hq : q.pending = s.pending)
    (h : (s.chunks.map ChunkRecord.id).Nodup) (now : UInt64) :
    (q.merge now s.findings).1.emitted = s.findings.emitted ∧
      (q.merge now s.findings).2.pending =
        (kept s).insertAll (s.findings.emitted.map fun i => (i.key, i)) := by
  have hissue : issue [] (drop 0 (drop 0 q.pending s.findings.completed).2 s.findings.expired).2
      s.findings.emitted =
        (s.findings.emitted, (kept s).insertAll (s.findings.emitted.map fun i => (i.key, i))) := by
    rw [hq]
    exact issue_eq (nodup_key_findings h) fun i hi => contains_kept h hi
  exact ⟨congrArg Prod.fst hissue, congrArg Prod.snd hissue⟩

/-- Afterwards the new instructions are pending, and of the others those in flight. -/
theorem get?_merge_findings {q : Queue} {s : Survey} (hq : q.pending = s.pending)
    (h : (s.chunks.map ChunkRecord.id).Nodup) (now : UInt64) {key : CopyKey} {i : Instruction} :
    (q.merge now s.findings).2.pending.get? key = some i ↔
      (i ∈ s.findings.emitted ∧ i.key = key) ∨
        (key ∉ s.findings.emitted.map Instruction.key ∧
          s.pending.get? key = some i ∧ s.verdict key i = .inFlight) := by
  have hkeys : (s.findings.emitted.map fun i => (i.key, i)).map Prod.fst =
      s.findings.emitted.map Instruction.key := by
    rw [List.map_map]
    rfl
  have hpair : (key, i) ∈ s.findings.emitted.map (fun i => (i.key, i)) ↔
      i ∈ s.findings.emitted ∧ i.key = key := by
    simp only [List.mem_map, Prod.mk.injEq]
    constructor
    · rintro ⟨j, hj, rfl, rfl⟩
      exact ⟨hj, rfl⟩
    · rintro ⟨hi, rfl⟩
      exact ⟨i, hi, rfl, rfl⟩
  rw [(merge_findings hq h now).2, Table.get?_insertAll _ (hkeys ▸ nodup_key_findings h), hkeys,
    hpair, get?_kept]

end Queue

end ChunkCoordinator
