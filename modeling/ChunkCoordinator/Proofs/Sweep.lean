import ChunkCoordinator.Sweep
import ChunkCoordinator.Proofs.Placement

/-!
# What a sweep finds

Handling one chunk depends on the chunks before it only through the space they were given. The
copies under way (`Survey.underWay`), how many are still needed (`Survey.needed`) and whether the
chunk is beyond help (`Survey.lost`) are read off the survey, and only the choice of nodes
(`Survey.targets`) looks at the room that is left. So the whole scan is one recursion over the
chunks with the room as its state (`Survey.orders`), and the findings are read off it
(`Survey.findings_eq`).

This needs chunks with different identifiers : the second of two chunks with one identifier finds
no copies in flight.
-/

set_option linter.unusedSectionVars false

namespace ChunkCoordinator.Survey

variable (s : Survey)

/-! ## One chunk -/

/-- The copies of a chunk that are in flight in the queue. -/
def claims (keys : List CopyKey) (id : ChunkId) : List CopyKey := keys.filter fun key => key.chunk = id

/-- The nodes that a copy of the chunk is under way to. -/
def underWay (c : ChunkRecord) : KeySet NodeId :=
  (Table.ofKeys ((claims (s.withVerdict .inFlight) c.id).map CopyKey.target)).addAll
    (s.uploadTargets c)

/-- How many copies are missing besides those on healthy nodes and those under way. -/
def needed (c : ChunkRecord) : Nat :=
  c.desired.toNat - (s.holders c).length - (s.underWay c).size

/-- The nodes chosen for the missing copies, given the room that is left. -/
def targets (room : List Node) (c : ChunkRecord) : List NodeId :=
  Placement.chooseTargets room (s.needed c) (c.replicas.addAll (s.underWay c).keys) c.size

/-- No healthy node holds a copy, and the chunk is not a fresh upload without any. -/
def lost (c : ChunkRecord) : Bool :=
  (s.holders c).length < c.desired.toNat && (s.holders c).isEmpty &&
    !(s.uploading c && c.isProvisional)

/-- The instruction to copy a chunk to a target. -/
def order (c : ChunkRecord) (target : NodeId) : Instruction :=
  { chunk := c.id, file := c.file, chunkIndex := c.index, size := c.size,
    source := source? (s.holders c), target, issuedAt := s.now }

theorem targets_of_needed_eq_zero {c : ChunkRecord} (h : s.needed c = 0) (room : List Node) :
    s.targets room c = [] := by
  have hle : (s.targets room c).length ≤ s.needed c := Placement.length_chooseTargets_le
  exact List.length_eq_zero_iff.1 (by omega)

theorem source?_eq_none {holders : List Node} : source? holders = none ↔ holders = [] := by
  cases holders <;> simp [source?]

/-- What handling a chunk does to the rest of a sweep under way. -/
theorem visit_eq (p : Progress) (c : ChunkRecord)
    (h : claims p.inFlight c.id = claims (s.withVerdict .inFlight) c.id) :
    s.visit p c =
      { room := Placement.debit p.room (s.targets p.room c) c.size
        inFlight := if c.desired.toNat ≤ (s.holders c).length then p.inFlight
          else p.inFlight.filter fun key => key.chunk ≠ c.id
        emitted := p.emitted ++ (s.targets p.room c).map (s.order c)
        unrecoverable := p.unrecoverable ++ if s.lost c then [c.id] else []
        shortOfTargets :=
          p.shortOfTargets + if (s.targets p.room c).length < s.needed c then 1 else 0 } := by
  unfold visit
  by_cases henough : c.desired.toNat ≤ (s.holders c).length
  · have hneeded : s.needed c = 0 := by unfold needed; omega
    have hlost : s.lost c = false := by simp [lost, Nat.not_lt.2 henough]
    simp [henough, s.targets_of_needed_eq_zero hneeded, hneeded, hlost]
  · have hclaims : (p.inFlight.partition fun key => key.chunk = c.id) =
        (claims (s.withVerdict .inFlight) c.id, p.inFlight.filter fun key => key.chunk ≠ c.id) := by
      rw [List.partition_eq_filter_filter, ← h]
      simp [claims, Function.comp_def]
    have hlost : (if (source? (s.holders c)).isNone && !(s.uploading c && c.isProvisional) then
        p.unrecoverable ++ [c.id] else p.unrecoverable) =
        p.unrecoverable ++ if s.lost c then [c.id] else [] := by
      have hnone : (source? (s.holders c)).isNone = (s.holders c).isEmpty := by
        cases s.holders c <;> rfl
      simp only [lost, hnone, Nat.lt_of_not_le henough, decide_true, Bool.true_and]
      split <;> simp
    simp only [henough, if_false, hclaims, hlost]
    have hunderWay : (Table.ofKeys ((claims (s.withVerdict .inFlight) c.id).map
        CopyKey.target)).addAll (s.uploadTargets c) = s.underWay c := rfl
    rw [hunderWay]
    by_cases hneeded : s.needed c = 0
    · rw [if_pos (by exact hneeded)]
      simp [s.targets_of_needed_eq_zero hneeded, hneeded]
    · rw [if_neg (by exact hneeded)]
      rfl

/-! ## All chunks -/

/-- The nodes chosen for each chunk, the room of each being what the earlier ones left. -/
def orders (room : List Node) : List ChunkRecord → List (ChunkRecord × List NodeId)
  | [] => []
  | c :: cs =>
    (c, s.targets room c) :: orders (Placement.debit room (s.targets room c) c.size) cs

@[simp] theorem map_fst_orders :
    ∀ (room : List Node) (cs : List ChunkRecord), (s.orders room cs).map Prod.fst = cs
  | _, [] => rfl
  | room, c :: cs => by simp [orders, map_fst_orders _ cs]

/-- Each chunk's nodes were chosen with some of the given room, of the same nodes. -/
theorem mem_orders {c : ChunkRecord} {ts : List NodeId} :
    ∀ {room : List Node} {cs : List ChunkRecord}, (c, ts) ∈ s.orders room cs →
      ∃ left, ts = s.targets left c ∧ ∀ n ∈ left, ∃ m ∈ room, ∃ free, n = { m with free }
  | _, [], h => by cases h
  | room, c' :: cs, h => by
    rcases List.mem_cons.1 h with heq | h
    · obtain ⟨rfl, rfl⟩ := Prod.mk.inj heq
      exact ⟨room, rfl, fun n hn => ⟨n, hn, n.free, rfl⟩⟩
    · obtain ⟨left, hts, hleft⟩ := mem_orders h
      refine ⟨left, hts, fun n hn => ?_⟩
      obtain ⟨m, hm, free, rfl⟩ := hleft n hn
      obtain ⟨m', hm', free', rfl⟩ := Placement.mem_debit hm
      exact ⟨m', hm', free, rfl⟩

/-- The scan is the recursion over the chunks, as long as no chunk's claims are taken by another. -/
theorem foldl_visit : ∀ (cs : List ChunkRecord) (p : Progress), (cs.map ChunkRecord.id).Nodup →
    (∀ c ∈ cs, claims p.inFlight c.id = claims (s.withVerdict .inFlight) c.id) →
    (cs.foldl s.visit p).emitted =
        p.emitted ++ (s.orders p.room cs).flatMap (fun o => o.2.map (s.order o.1)) ∧
      (cs.foldl s.visit p).unrecoverable =
        p.unrecoverable ++ (cs.filter s.lost).map ChunkRecord.id ∧
      (cs.foldl s.visit p).shortOfTargets =
        p.shortOfTargets + (s.orders p.room cs).countP fun o => o.2.length < s.needed o.1
  | [], p, _, _ => by simp [orders]
  | c :: cs, p, hnodup, hclaims => by
    obtain ⟨hnew, hnodup⟩ := List.nodup_cons.1 hnodup
    have hvisit := s.visit_eq p c (hclaims c List.mem_cons_self)
    have hrest : ∀ c' ∈ cs, claims (s.visit p c).inFlight c'.id =
        claims (s.withVerdict .inFlight) c'.id := by
      intro c' hc'
      have hne : c'.id ≠ c.id := fun heq => hnew (heq ▸ List.mem_map_of_mem hc')
      rw [← hclaims c' (List.mem_cons_of_mem _ hc'), hvisit]
      dsimp only
      split
      · rfl
      · rw [claims, List.filter_filter]
        refine List.filter_congr fun key _ => ?_
        by_cases hkey : key.chunk = c'.id <;> simp [hkey, hne]
    obtain ⟨hemitted, hunrecoverable, hshort⟩ := foldl_visit cs (s.visit p c) hnodup hrest
    rw [List.foldl_cons, hemitted, hunrecoverable, hshort, hvisit]
    refine ⟨by simp [orders], ?_, ?_⟩
    · by_cases hlost : s.lost c <;> simp [hlost]
    · simp only [orders, List.countP_cons, decide_eq_true_eq]
      omega

/-! ## Findings -/

/-- The chunks in the order of the scan. -/
def scanned : List ChunkRecord := sortedBy ChunkRecord.leByAge s.chunks

theorem perm_scanned : s.scanned.Perm s.chunks := perm_sortedBy _ _

variable {s}

theorem findings_eq (h : (s.chunks.map ChunkRecord.id).Nodup) :
    s.findings.emitted =
        (s.orders s.healthy.values s.scanned).flatMap (fun o => o.2.map (s.order o.1)) ∧
      s.findings.unrecoverable = (s.scanned.filter s.lost).map ChunkRecord.id ∧
      s.findings.shortOfTargets =
        (s.orders s.healthy.values s.scanned).countP fun o => o.2.length < s.needed o.1 := by
  have hnodup := (s.perm_scanned.map ChunkRecord.id).nodup_iff.2 h
  obtain ⟨hemitted, hunrecoverable, hshort⟩ := s.foldl_visit s.scanned s.start hnodup fun _ _ => rfl
  exact ⟨hemitted, hunrecoverable, hshort.trans (Nat.zero_add _)⟩

theorem mem_emitted_visit {p : Progress} {c : ChunkRecord} {i : Instruction}
    (hi : i ∈ (s.visit p c).emitted) : i ∈ p.emitted ∨ i = s.order c i.target := by
  unfold visit at hi
  dsimp only at hi
  split at hi
  · exact .inl hi
  split at hi
  · exact .inl hi
  · refine (List.mem_append.1 hi).imp_right fun hi => ?_
    obtain ⟨t, -, rfl⟩ := List.mem_map.1 hi
    rfl

theorem mem_emitted_foldl {i : Instruction} : ∀ (cs : List ChunkRecord) (p : Progress),
    i ∈ (cs.foldl s.visit p).emitted → i ∈ p.emitted ∨ ∃ c ∈ cs, i = s.order c i.target
  | [], _, hi => .inl hi
  | c :: cs, p, hi => by
    rcases mem_emitted_foldl cs (s.visit p c) hi with hi | ⟨c', hc', heq⟩
    · exact (mem_emitted_visit hi).imp_right fun heq => ⟨c, List.mem_cons_self, heq⟩
    · exact .inr ⟨c', List.mem_cons_of_mem _ hc', heq⟩

/-- A new instruction is about a surveyed chunk. -/
theorem mem_emitted_findings {i : Instruction} (hi : i ∈ s.findings.emitted) :
    ∃ c ∈ s.chunks, i = s.order c i.target := by
  rcases mem_emitted_foldl s.scanned s.start hi with hi | ⟨c, hc, heq⟩
  · cases hi
  · exact ⟨c, s.perm_scanned.subset hc, heq⟩

end ChunkCoordinator.Survey
