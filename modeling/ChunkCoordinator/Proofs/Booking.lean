import ChunkCoordinator.Proofs.Health

/-!
# Free space over a whole run of the registry

An `Operation` is anything that writes records: nodes register, report, are marked, touched, demoted
and removed, space is booked on them, and all records are replaced by saved ones. A run is a list of
operations, the newest first, and begins without nodes (`outcome`).

After every run in which only sensible records are restored, each record, that of a removed node
included, stands under its own name and has no more space free than it can hold
(`Regular.performed`). From this it follows what a signed amount of any size does (`Accounts`). With
the new balance `node.free + delta` as an integer, the amount is refused if the balance is negative
(`adjustFree_overdraft`); a debit leaves the balance exactly (`adjustFree_debit`), and a credit leaves
the balance or the capacity, whichever is less (`adjustFree_credit`).
`Registry.accounts_outcome` puts this together.
-/

set_option linter.unusedSectionVars false

namespace ChunkCoordinator.Registry

/-! ## Runs -/

/-- What is asked of a registry that may change its records. -/
inductive Operation where
  | register (id : NodeId) (host : String) (port : UInt16) (capacity now : UInt64)
  | markHealthy (id : NodeId)
  | markUnhealthy (id : NodeId)
  | recordHeartbeat (id : NodeId) (free now : UInt64)
  | touch (id : NodeId) (now : UInt64)
  | demoteStale (now timeout : UInt64)
  | remove (id : NodeId) (force : Bool) (references : Nat)
  | adjustFree (id : NodeId) (delta : Int64)
  | restore (records : List Node) (now : UInt64)

/-- Records that are restored have no more space free than they can hold. -/
def Operation.Sensible : Operation → Prop
  | restore records _ => ∀ n ∈ records, n.free ≤ n.capacity
  | _ => True

/-- The registry after an operation, or the refusal. -/
def perform (r : Registry) : Operation → Except ServiceError Registry
  | .register id host port capacity now => (r.register id host port capacity now).map Prod.snd
  | .markHealthy id => (r.markHealthy id).map Prod.snd
  | .markUnhealthy id => (r.markUnhealthy id).map Prod.snd
  | .recordHeartbeat id free now => (r.recordHeartbeat id free now).map Prod.snd
  | .touch id now => r.touch id now
  | .demoteStale now timeout => .ok (r.demoteStale now timeout).2
  | .remove id force references => r.remove id force references
  | .adjustFree id delta => (r.adjustFree id delta).map Prod.snd
  | .restore records now => .ok (Registry.restore records now)

/-- The registry after an operation. A refused one changes nothing. -/
def performed (r : Registry) (o : Operation) : Registry := (r.perform o).toOption.getD r

/-- The registry after a run that begins without nodes. -/
def outcome : List Operation → Registry
  | [] => .empty
  | o :: past => (outcome past).performed o

/-! ## One operation -/

variable {r r' : Registry} {id : NodeId} {node : Node} {delta : Int64} {o : Operation}

/-- An accepted booking is a debit or a credit. -/
theorem step_adjustFree {free : UInt64} (h : r.adjustFree id delta = .ok (free, r')) : Step r r' := by
  unfold adjustFree at h
  split at h
  · exact .debit h
  · exact .credit h

/-- An accepted operation is a step, or it puts saved records in place of all others. -/
theorem perform_ok (h : r.perform o = .ok r') :
    Step r r' ∨ ∃ records now, o = .restore records now ∧ r' = Registry.restore records now := by
  cases o with
  | register =>
    obtain ⟨_, h⟩ := map_snd_ok h
    exact .inl (.register h)
  | markHealthy | markUnhealthy =>
    obtain ⟨_, h⟩ := map_snd_ok h
    exact .inl (.setHealth h)
  | recordHeartbeat =>
    obtain ⟨_, h⟩ := map_snd_ok h
    exact .inl (.recordHeartbeat h)
  | touch => exact .inl (.touch h)
  | demoteStale now timeout =>
    rw [← Except.ok.inj h]
    exact .inl (.demoteStale now timeout)
  | remove => exact .inl (.remove h)
  | adjustFree =>
    obtain ⟨_, h⟩ := map_snd_ok h
    exact .inl (step_adjustFree h)
  | restore records now => exact .inr ⟨records, now, rfl, (Except.ok.inj h).symm⟩

/-- Every record, that of a removed node included, stands under its own name and has no more space
free than it can hold. -/
structure Regular (r : Registry) : Prop where
  keyed : r.Keyed
  bounded : r.Bounded

theorem Regular.performed (h : r.Regular) (ho : o.Sensible) : (r.performed o).Regular := by
  unfold Registry.performed
  cases hperform : r.perform o with
  | error why => exact h
  | ok r' =>
    rcases perform_ok hperform with hstep | ⟨records, now, rfl, rfl⟩
    · exact ⟨h.keyed.step hstep, h.bounded.step hstep⟩
    · exact ⟨keyed_restore records now, bounded_restore ho now⟩

theorem regular_outcome : ∀ {past : List Operation}, (∀ o ∈ past, o.Sensible) →
    (outcome past).Regular
  | [], _ => ⟨.empty, .empty⟩
  | o :: past, h => by
    obtain ⟨ho, hpast⟩ := List.forall_mem_cons.1 h
    exact (regular_outcome hpast).performed ho

/-! ## Bookings -/

/-- The size of a signed amount. It is a word also for the least amount, whose size is not a signed
one. -/
def magnitude (delta : Int64) : UInt64 := .ofNat delta.toInt.natAbs

theorem toNat_magnitude (delta : Int64) : (magnitude delta).toNat = delta.toInt.natAbs := by
  have hle := delta.le_toInt
  have hlt := delta.toInt_lt
  exact UInt64.toNat_ofNat_of_lt' (by simp only [UInt64.size]; omega)

theorem adjustFree_of_neg (r : Registry) (id : NodeId) (h : delta.toInt < 0) :
    r.adjustFree id delta = r.debit id (magnitude delta) := by
  rw [adjustFree, if_pos h, magnitude]

theorem adjustFree_of_nonneg (r : Registry) (id : NodeId) (h : 0 ≤ delta.toInt) :
    r.adjustFree id delta = r.credit id (magnitude delta) := by
  rw [adjustFree, if_neg (by omega), magnitude, show delta.toInt.toNat = delta.toInt.natAbs by omega]

section Served

variable (hr : r.Bounded) (hnode : r.live? id = some node)
include hr hnode

/-- A node pays no more than it has, and is not charged otherwise. -/
theorem adjustFree_overdraft (h : node.free.toNat + delta.toInt < 0) :
    r.adjustFree id delta = .error (.insufficientCapacity id node.free (magnitude delta)) ∧
      r.performed (.adjustFree id delta) = r := by
  have hle := hr id node (live?_eq_some.1 hnode).1
  have hshort : node.free < magnitude delta := by
    rw [UInt64.lt_iff_toNat_lt, toNat_magnitude]
    omega
  have hrefused : r.adjustFree id delta =
      .error (.insufficientCapacity id node.free (magnitude delta)) := by
    rw [adjustFree_of_neg r id (by omega), debit_eq hnode hle, if_pos hshort]
  exact ⟨hrefused, by rw [performed, perform, hrefused]; rfl⟩

/-- What it has, it pays in full. -/
theorem adjustFree_debit (hneg : delta.toInt < 0) (h : 0 ≤ node.free.toNat + delta.toInt) :
    ∃ left : UInt64, (left.toNat : Int) = node.free.toNat + delta.toInt ∧
      r.adjustFree id delta = .ok (left, r.set id { node with free := left }) := by
  have hle := hr id node (live?_eq_some.1 hnode).1
  have henough : magnitude delta ≤ node.free := by
    rw [UInt64.le_iff_toNat_le, toNat_magnitude]
    omega
  refine ⟨node.free - magnitude delta, ?_, ?_⟩
  · rw [UInt64.toNat_sub_of_le _ _ henough, toNat_magnitude]
    omega
  · rw [adjustFree_of_neg r id hneg, debit_eq hnode hle, if_neg (UInt64.not_lt.2 henough)]

omit hr in
/-- What is given back counts up to the capacity. -/
theorem adjustFree_credit (hnonneg : 0 ≤ delta.toInt) :
    ∃ free : UInt64, (free.toNat : Int) = min (node.capacity.toNat : Int)
        (node.free.toNat + delta.toInt) ∧
      r.adjustFree id delta = .ok (free, r.set id { node with free }) := by
  have hmin := toNat_credited_eq_min node (magnitude delta)
  rw [toNat_magnitude] at hmin
  refine ⟨credited node (magnitude delta), by omega, ?_⟩
  rw [adjustFree_of_nonneg r id hnonneg, credit_eq_ok hnode, crediting]

end Served

/-! ## The laws together -/

/-- The registry is regular and books every signed amount as it should. -/
structure Accounts (r : Registry) : Prop where
  regular : r.Regular
  /-- Nothing is booked on a node that is not in service. -/
  unknown : ∀ id delta, r.live? id = none → r.adjustFree id delta = .error (.unknownNode id)
  /-- A node that would pay more than it has is named, with what it has and what is asked, and no
  record changes. -/
  overdraft : ∀ id node (delta : Int64), r.live? id = some node → node.free.toNat + delta.toInt < 0 →
    ∃ amount : UInt64, (amount.toNat : Int) = -delta.toInt ∧
      r.adjustFree id delta = .error (.insufficientCapacity id node.free amount) ∧
      r.performed (.adjustFree id delta) = r
  /-- Any other node pays the exact amount, and nothing else changes. -/
  debit : ∀ id node (delta : Int64), r.live? id = some node → delta.toInt < 0 →
    0 ≤ node.free.toNat + delta.toInt →
    ∃ left : UInt64, (left.toNat : Int) = node.free.toNat + delta.toInt ∧
      r.adjustFree id delta = .ok (left, r.set id { node with free := left })
  /-- Of what a node is given back, it takes up to its capacity, and nothing else changes. -/
  credit : ∀ id node (delta : Int64), r.live? id = some node → 0 ≤ delta.toInt →
    ∃ free : UInt64, (free.toNat : Int) = min (node.capacity.toNat : Int)
        (node.free.toNat + delta.toInt) ∧
      r.adjustFree id delta = .ok (free, r.set id { node with free })

/-- The laws hold after every run in which only sensible records are restored, whatever the nodes
report and whatever amounts are booked. -/
theorem accounts_outcome {past : List Operation} (h : ∀ o ∈ past, o.Sensible) :
    (outcome past).Accounts where
  regular := regular_outcome h
  unknown id delta hnone := adjustFree_eq_error hnone delta
  overdraft id node delta hnode hneg := by
    obtain ⟨hrefused, hsame⟩ := adjustFree_overdraft (regular_outcome h).bounded hnode hneg
    refine ⟨magnitude delta, ?_, hrefused, hsame⟩
    rw [toNat_magnitude]
    omega
  debit id node delta hnode hneg := adjustFree_debit (regular_outcome h).bounded hnode hneg
  credit id node delta hnode := adjustFree_credit hnode

/-- A node of a hundred bytes pays forty and is given fifty back, one of the greatest capacity is
removed and put back among saved records, and a third one reports more space than it has. -/
def bookings : List Operation :=
  [.recordHeartbeat "c" 500 9, .register "c" "host" 1 70 8, .adjustFree "a" 50, .adjustFree "b" 7,
   .restore [⟨"a", "host", 1, 100, 60, .healthy, 0, 0⟩,
     ⟨"b", "host", 1, 0xFFFFFFFFFFFFFFFF, 0xFFFFFFFFFFFFFFF0, .unhealthy, 0, 0⟩] 7,
   .remove "b" false 0, .adjustFree "a" (-40), .register "b" "host" 1 0xFFFFFFFFFFFFFFFF 1,
   .register "a" "host" 1 100 0]

/-- The least amount is refused by the small node and paid by the great one, and the greatest amount
is given up to the capacity. -/
theorem accounts_outcome_bookings :
    (∀ o ∈ bookings, o.Sensible) ∧ (outcome bookings).Accounts ∧
      (outcome bookings).all.map (fun n => (n.free, n.capacity)) =
        [(100, 100), (0xFFFFFFFFFFFFFFF7, 0xFFFFFFFFFFFFFFFF), (70, 70)] ∧
      (outcome bookings).adjustFree "a" Int64.minValue =
        .error (.insufficientCapacity "a" 100 0x8000000000000000) ∧
      ((outcome bookings).adjustFree "b" Int64.minValue).map Prod.fst = .ok 0x7FFFFFFFFFFFFFF7 ∧
      ((outcome bookings).adjustFree "b" Int64.maxValue).map Prod.fst = .ok 0xFFFFFFFFFFFFFFFF := by
  have hsensible : ∀ o ∈ bookings, o.Sensible := by
    simp [bookings, Operation.Sensible]
  exact ⟨hsensible, accounts_outcome hsensible, by decide +kernel, rfl, rfl, rfl⟩

end ChunkCoordinator.Registry
