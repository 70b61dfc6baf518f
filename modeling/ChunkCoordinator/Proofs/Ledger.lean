import ChunkCoordinator.Proofs.Acceptance
import ChunkCoordinator.Proofs.Vanishing

/-!
# Every instruction is accounted for

In every event each pending instruction meets one `Fate`, and what is pending afterwards are those
that stay and those that are issued (`Cluster.Accounts`). The counters grow by just these numbers,
whatever the state and however old the records of a sweep. So what has been issued is what has been
completed, has expired, has been dropped with its chunk or target, or is still pending, but for the
instructions that a sweep strands. These it drops uncounted, because it has ordered another copy of
a chunk that is gone.

They had lost their chunk before. So nothing is stranded as long as no deletion stops halfway after
it has dropped a chunk with a pending instruction (`Run.accounted`).
-/

set_option linter.unusedSectionVars false

namespace ChunkCoordinator

/-- What becomes of a pending instruction. -/
inductive Fate where
  | stays
  | completed
  | expired
  | dropped
  | stranded
  deriving DecidableEq

namespace Cluster

open Store

variable {c : Cluster} {e : Event}

/-- What becomes of a pending instruction in an event : a report that is accepted completes it, the
deletion of its file or the removal of its node drops it, and a sweep completes it, lets it expire
or strands it. -/
def fate (c : Cluster) (e : Event) (key : CopyKey) (i : Instruction) : Fate :=
  match e with
  | .report chunk node =>
    match (c.report chunk node).result with
    | .error _ => .stays
    | .ok _ => if key = ⟨chunk, node⟩ then .completed else .stays
  | .deleteFile file =>
    match (c.deleteFile file).result with
    | .error _ => .stays
    | .ok deleted => if key.chunk ∈ deleted.chunkIds then .dropped else .stays
  | .removeNode node force =>
    match (c.removeNode node force).result with
    | .error _ => .stays
    | .ok _ => if key.target = node then .dropped else .stays
  | .sweep chunks nodes now =>
    if c.queue.sweeping then .stays
    else
      match (c.survey chunks nodes now).verdict key i with
      | .completed => .completed
      | .expired => .expired
      | .inFlight =>
        if c.store.chunkGone (c.orders chunks nodes now) key.chunk ||
          c.store.targetGone (c.orders chunks nodes now) key.target then .stranded else .stays
  | _ => .stays

/-- How many pending instructions meet a fate. -/
def tally (c : Cluster) (e : Event) (f : Fate) : Nat :=
  c.queue.pending.toList.countP fun p => c.fate e p.1 p.2 = f

/-- Afterwards the instructions are pending that stay or are issued, and those that are issued,
completed or expired are counted. -/
structure Accounts (c : Cluster) (e : Event) : Prop where
  pending : (c.after e).queue.pending.toList.Perm ((c.issued e).map (fun i => (i.key, i)) ++
    c.queue.pending.toList.filter fun p => c.fate e p.1 p.2 = .stays)
  emitted : (c.after e).metrics.emitted = c.metrics.emitted + (c.issued e).length
  completed : (c.after e).metrics.completed = c.metrics.completed + c.tally e .completed
  expired : (c.after e).metrics.expired = c.metrics.expired + c.tally e .expired

/-! ## Counting by fate -/

theorem tally_eq_zero {f : Fate}
    (h : ∀ key i, c.queue.pending.get? key = some i → c.fate e key i ≠ f) : c.tally e f = 0 :=
  List.countP_eq_zero.2 fun p hp => by
    simpa using h p.1 p.2 (Table.mem_toList_iff.1 hp)

/-- Every instruction meets one fate. -/
theorem size_eq_tally (c : Cluster) (e : Event) : c.queue.pending.size =
    c.tally e .stays + c.tally e .completed + c.tally e .expired + c.tally e .dropped +
      c.tally e .stranded := by
  have hall : ∀ l : List (CopyKey × Instruction), l.length =
      l.countP (fun p => c.fate e p.1 p.2 = .stays) +
        l.countP (fun p => c.fate e p.1 p.2 = .completed) +
        l.countP (fun p => c.fate e p.1 p.2 = .expired) +
        l.countP (fun p => c.fate e p.1 p.2 = .dropped) +
        l.countP (fun p => c.fate e p.1 p.2 = .stranded) := by
    intro l
    induction l with
    | nil => rfl
    | cons p l ih =>
      simp only [List.countP_cons, List.length_cons, ih]
      cases c.fate e p.1 p.2 <;> simp <;> omega
  exact hall c.queue.pending.toList

/-- What is pending afterwards, in numbers. -/
theorem Accounts.size (h : c.Accounts e) :
    (c.after e).queue.pending.size = (c.issued e).length + c.tally e .stays := by
  have hlength := h.pending.length_eq
  rwa [List.length_append, List.length_map, ← List.countP_eq_length_filter] at hlength

/-! ## Events without sweeps -/

/-- The queue stays as it is, and so do the counters of its instructions. -/
structure Quiet (c c' : Cluster) : Prop where
  queue : c'.queue = c.queue
  counted : c'.metrics.rebalances = c.metrics.rebalances

theorem quiet_register (c : Cluster) (request : RegisterRequest) (now : UInt64) :
    Quiet c (c.register request now).cluster := by
  rw [register]
  split
  · exact ⟨rfl, rfl⟩
  split
  · exact ⟨rfl, rfl⟩
  split <;> exact ⟨rfl, rfl⟩

theorem quiet_heartbeat (c : Cluster) (node : NodeId) (free now : UInt64) :
    Quiet c (c.heartbeat node free now).cluster := by
  rw [heartbeat]
  split
  · exact ⟨rfl, rfl⟩
  · dsimp only
    split <;> exact ⟨rfl, rfl⟩

theorem quiet_upload (c : Cluster) (request : UploadRequest) (now : UInt64) :
    Quiet c (c.upload request now).cluster := by
  rcases c.upload_cases request now with ⟨_, _, heq⟩ | ⟨_, _, _, _, _, -, heq⟩ <;> rw [heq] <;>
    exact ⟨rfl, rfl⟩

theorem quiet_failNode (c : Cluster) (node : NodeId) : Quiet c (c.failNode node).cluster := by
  rw [failNode]
  split
  · exact ⟨rfl, rfl⟩
  · dsimp only
    split <;> exact ⟨rfl, rfl⟩

theorem quiet_restoreNode (c : Cluster) (node : NodeId) (now : UInt64) :
    Quiet c (c.restoreNode node now).cluster := by
  rw [restoreNode]
  split
  · exact ⟨rfl, rfl⟩
  · dsimp only
    split <;> exact ⟨rfl, rfl⟩

theorem quiet_sweepTimeouts (c : Cluster) (now : UInt64) : Quiet c (c.sweepTimeouts now).2 := by
  rw [sweepTimeouts]
  dsimp only
  split <;> exact ⟨rfl, rfl⟩

/-- What a report does to the queue and the counters. -/
theorem report_cases (c : Cluster) (chunk : ChunkId) (node : NodeId) :
    (∃ fault, (c.report chunk node).result = .error fault ∧
        Quiet c (c.report chunk node).cluster) ∨
      ∃ answer, (c.report chunk node).result = .ok answer ∧
        (c.report chunk node).cluster.queue = (c.queue.acknowledge chunk node).2 ∧
        (c.report chunk node).cluster.metrics.rebalances = (c.metrics.emitted,
          c.metrics.completed + (if c.queue.isPending chunk node then 1 else 0),
          c.metrics.expired) := by
  rw [report]
  dsimp only
  split
  · exact .inl ⟨_, rfl, rfl, rfl⟩
  · refine .inr ⟨_, rfl, ?_⟩
    dsimp only [Queue.acknowledge]
    rcases Bool.eq_false_or_eq_true (c.queue.isPending chunk node) with h | h
    · simp only [h]
      split <;> exact ⟨rfl, rfl⟩
    · simp only [h]
      split <;> exact ⟨rfl, rfl⟩

/-- A deletion that is granted takes the chunks of the file out of the queue. -/
theorem deleteFile_cases (c : Cluster) (file : FileId) :
    (∃ fault, (c.deleteFile file).result = .error fault ∧ Quiet c (c.deleteFile file).cluster) ∨
      ∃ deleted, (c.deleteFile file).result = .ok deleted ∧
        (c.deleteFile file).cluster.queue = c.queue.forgetChunks deleted.chunkIds ∧
        (c.deleteFile file).cluster.metrics.rebalances = c.metrics.rebalances := by
  rw [deleteFile]
  split
  · exact .inl ⟨_, rfl, rfl, rfl⟩
  · exact .inr ⟨_, rfl, rfl, rfl⟩

/-- The removal of a node takes the instructions for it out of the queue. -/
theorem removeNode_cases (c : Cluster) (node : NodeId) (force : Bool) :
    (∃ fault, (c.removeNode node force).result = .error fault ∧
        Quiet c (c.removeNode node force).cluster) ∨
      ∃ stripped, (c.removeNode node force).result = .ok stripped ∧
        (c.removeNode node force).cluster.queue = (c.queue.forgetTarget node).2 ∧
        (c.removeNode node force).cluster.metrics.rebalances = c.metrics.rebalances := by
  rw [removeNode]
  split
  · exact .inl ⟨_, rfl, rfl, rfl⟩
  · exact .inr ⟨_, rfl, rfl, rfl⟩

/-- An event that issues nothing and has nothing to count. -/
theorem accounts_of_uncounted
    (hcounted : (c.after e).metrics.rebalances = c.metrics.rebalances) (hissued : c.issued e = [])
    (hpending : (c.after e).queue.pending.toList.Perm ((c.issued e).map (fun i => (i.key, i)) ++
      c.queue.pending.toList.filter fun p => c.fate e p.1 p.2 = .stays))
    (hzero : ∀ f, f ≠ .stays → f ≠ .dropped → c.tally e f = 0) : c.Accounts e := by
  obtain ⟨hemitted, hcounted⟩ := Prod.mk.inj hcounted
  obtain ⟨hcompleted, hexpired⟩ := Prod.mk.inj hcounted
  refine ⟨hpending, ?_, ?_, ?_⟩
  · rw [hemitted, hissued, List.length_nil, Nat.add_zero]
  · rw [hcompleted, hzero _ (by decide) (by decide), Nat.add_zero]
  · rw [hexpired, hzero _ (by decide) (by decide), Nat.add_zero]

theorem accounts_of_quiet (h : Quiet c (c.after e)) (hissued : c.issued e = [])
    (hstays : ∀ key i, c.fate e key i = .stays) : c.Accounts e := by
  refine accounts_of_uncounted h.counted hissued ?_ fun f hf _ =>
    tally_eq_zero fun key i _ heq => hf (heq.symm.trans (hstays key i))
  have hall : c.queue.pending.toList.filter (fun p => c.fate e p.1 p.2 = .stays) =
      c.queue.pending.toList :=
    List.filter_eq_self.2 fun p _ => decide_eq_true (hstays p.1 p.2)
  rw [h.queue, hissued, hall]
  exact .refl _

/-- An event that takes some instructions out of the queue, which all meet one fate. -/
theorem pending_of_leaving {f : Fate} {leaves : CopyKey → Prop} [DecidablePred leaves]
    (hf : f ≠ .stays)
    (hpending : (c.after e).queue.pending = c.queue.pending.filter fun key _ => ¬leaves key)
    (hissued : c.issued e = [])
    (hfate : ∀ key i, c.fate e key i = if leaves key then f else .stays) :
    (c.after e).queue.pending.toList.Perm ((c.issued e).map (fun i => (i.key, i)) ++
      c.queue.pending.toList.filter fun p => c.fate e p.1 p.2 = .stays) ∧
      ∀ f', f' ≠ .stays → f' ≠ f → c.tally e f' = 0 := by
  constructor
  · rw [hissued, hpending, List.map_nil, List.nil_append]
    refine List.Perm.of_eq (List.filter_congr fun p _ => ?_)
    rw [hfate]
    by_cases hleaves : leaves p.1
    · simp [hleaves, hf]
    · simp [hleaves]
  · intro f' hstays hne
    refine tally_eq_zero fun key i _ heq => ?_
    rw [hfate] at heq
    split at heq
    · exact hne heq.symm
    · exact hstays heq.symm

/-- An accepted report completes the instruction for the copy, if there is one. -/
theorem accounts_report (c : Cluster) (chunk : ChunkId) (node : NodeId) :
    c.Accounts (.report chunk node) := by
  rcases c.report_cases chunk node with ⟨fault, hresult, hquiet⟩ |
    ⟨answer, hresult, hqueue, hcounted⟩
  · exact accounts_of_quiet hquiet rfl fun key i => by simp only [fate, hresult]
  have hpending : (c.after (.report chunk node)).queue.pending =
      c.queue.pending.erase ⟨chunk, node⟩ := congrArg Queue.pending hqueue
  have herase : (c.after (.report chunk node)).queue.pending =
      c.queue.pending.filter fun key _ => ¬key = ⟨chunk, node⟩ := by
    refine hpending.trans (Table.ext_get? fun key => Option.ext fun i => ?_)
    rw [Table.get?_erase_eq_some, Table.get?_filter_eq_some, decide_eq_true_eq, and_comm]
  obtain ⟨hleft, hzero⟩ := pending_of_leaving (f := .completed) (by decide) herase rfl
    fun key i => by simp only [fate, hresult]
  obtain ⟨hemitted, hcounted⟩ := Prod.mk.inj hcounted
  obtain ⟨hcompleted, hexpired⟩ := Prod.mk.inj hcounted
  refine ⟨hleft, hemitted, hcompleted.trans (congrArg _ ?_), hexpired.trans ?_⟩
  · -- as many are completed as there are fewer pending
    have hall := c.size_eq_tally (.report chunk node)
    have hsize : c.queue.pending.size = (c.queue.pending.erase ⟨chunk, node⟩).size +
        if c.queue.isPending chunk node then 1 else 0 := c.queue.pending.size_eq_erase ⟨chunk, node⟩
    have hstay : (c.queue.pending.erase ⟨chunk, node⟩).size =
        c.tally (.report chunk node) .stays := by
      have hlength := hpending ▸ hleft.length_eq
      rw [List.length_append, List.length_map, ← List.countP_eq_length_filter] at hlength
      exact hlength.trans (Nat.zero_add _)
    rw [hzero .expired (by decide) (by decide), hzero .dropped (by decide) (by decide),
      hzero .stranded (by decide) (by decide)] at hall
    omega
  · rw [hzero _ (by decide) (by decide), Nat.add_zero]

/-- A deletion, or the removal of a node, completes nothing and lets nothing expire. -/
theorem accounts_of_dropping {leaves : CopyKey → Prop} [DecidablePred leaves]
    (hpending : (c.after e).queue.pending = c.queue.pending.filter fun key _ => ¬leaves key)
    (hcounted : (c.after e).metrics.rebalances = c.metrics.rebalances) (hissued : c.issued e = [])
    (hfate : ∀ key i, c.fate e key i = if leaves key then .dropped else .stays) :
    c.Accounts e := by
  obtain ⟨hleft, hzero⟩ := pending_of_leaving (by decide) hpending hissued hfate
  exact accounts_of_uncounted hcounted hissued hleft hzero

theorem accounts_deleteFile (c : Cluster) (file : FileId) : c.Accounts (.deleteFile file) := by
  rcases c.deleteFile_cases file with ⟨fault, hresult, hquiet⟩ |
    ⟨deleted, hresult, hqueue, hcounted⟩
  · exact accounts_of_quiet hquiet rfl fun key i => by simp only [fate, hresult]
  · have hpending : (c.after (.deleteFile file)).queue.pending =
        c.queue.pending.filter fun key _ => ¬key.chunk ∈ deleted.chunkIds :=
      congrArg Queue.pending hqueue
    exact accounts_of_dropping hpending hcounted rfl fun key i => by simp only [fate, hresult]

theorem accounts_removeNode (c : Cluster) (node : NodeId) (force : Bool) :
    c.Accounts (.removeNode node force) := by
  rcases c.removeNode_cases node force with ⟨fault, hresult, hquiet⟩ |
    ⟨stripped, hresult, hqueue, hcounted⟩
  · exact accounts_of_quiet hquiet rfl fun key i => by simp only [fate, hresult]
  · have hpending : (c.after (.removeNode node force)).queue.pending =
        c.queue.pending.filter fun key _ => ¬key.target = node :=
      congrArg Queue.pending hqueue
    exact accounts_of_dropping hpending hcounted rfl fun key i => by simp only [fate, hresult]

/-! ## Sweeps -/

/-- A sweep strands what is in flight to be copied, if the chunk or the target turns out to be
gone. -/
theorem fate_sweep {chunks : List ChunkRecord} {nodes : List Node} {now : UInt64}
    (h : c.queue.sweeping = false) (key : CopyKey) (i : Instruction) :
    c.fate (.sweep chunks nodes now) key i =
      match (c.survey chunks nodes now).verdict key i with
      | .completed => .completed
      | .expired => .expired
      | .inFlight =>
        if c.store.chunkGone (c.orders chunks nodes now) key.chunk ||
          c.store.targetGone (c.orders chunks nodes now) key.target then .stranded else .stays := by
  rw [fate, if_neg (Bool.eq_false_iff.1 h)]

theorem accounts_sweep (c : Cluster) (chunks : List ChunkRecord) (nodes : List Node) (now : UInt64) :
    c.Accounts (.sweep chunks nodes now) := by
  cases hsweeping : c.queue.sweeping with
  | true =>
    have hrefused : c.after (.sweep chunks nodes now) = c :=
      congrArg Reply.cluster (sweepOver_refused hsweeping)
    have hquiet : Quiet c (c.after (.sweep chunks nodes now)) :=
      ⟨congrArg Cluster.queue hrefused, congrArg (fun c => c.metrics.rebalances) hrefused⟩
    exact accounts_of_quiet hquiet (if_pos hsweeping) fun _ _ => if_pos hsweeping
  | false =>
    obtain ⟨hemitted, hcounted⟩ := Prod.mk.inj (c.rebalances_sweepOver hsweeping)
    obtain ⟨hcompleted, hexpired⟩ := Prod.mk.inj hcounted
    refine ⟨?_, hemitted, hcompleted.trans (congrArg _ ?_), hexpired.trans (congrArg _ ?_)⟩
    · refine (pending_sweepOver hsweeping).trans (List.Perm.of_eq (congrArg _ ?_))
      refine List.filter_congr fun p _ => ?_
      rw [fate_sweep hsweeping]
      cases (c.survey chunks nodes now).verdict p.1 p.2 with
      | inFlight =>
        cases c.store.chunkGone (c.orders chunks nodes now) p.1.chunk <;>
          cases c.store.targetGone (c.orders chunks nodes now) p.1.target <;> rfl
      | _ => rfl
    · refine List.countP_congr fun p _ => ?_
      rw [fate_sweep hsweeping]
      cases (c.survey chunks nodes now).verdict p.1 p.2 with
      | inFlight => dsimp only; split <;> simp
      | _ => simp
    · refine List.countP_congr fun p _ => ?_
      rw [fate_sweep hsweeping]
      cases (c.survey chunks nodes now).verdict p.1 p.2 with
      | inFlight => dsimp only; split <;> simp
      | _ => simp

/-! ## Every event -/

/-- Every event accounts for the pending instructions. -/
theorem accounts (c : Cluster) : ∀ e, c.Accounts e
  | .register request now => accounts_of_quiet (quiet_register c request now) rfl fun _ _ => rfl
  | .heartbeat node free now =>
    accounts_of_quiet (quiet_heartbeat c node free now) rfl fun _ _ => rfl
  | .upload request now => accounts_of_quiet (quiet_upload c request now) rfl fun _ _ => rfl
  | .report chunk node => accounts_report c chunk node
  | .deleteFile file => accounts_deleteFile c file
  | .failNode node => accounts_of_quiet (quiet_failNode c node) rfl fun _ _ => rfl
  | .restoreNode node now => accounts_of_quiet (quiet_restoreNode c node now) rfl fun _ _ => rfl
  | .removeNode node force => accounts_removeNode c node force
  | .sweepTimeouts now => accounts_of_quiet (quiet_sweepTimeouts c now) rfl fun _ _ => rfl
  | .sweep chunks nodes now => accounts_sweep c chunks nodes now

/-- A founded instruction is not stranded : its chunk is stored, and its target is in service. -/
theorem PendingFounded.tally_stranded (h : c.PendingFounded) (e : Event) :
    c.tally e .stranded = 0 := by
  refine tally_eq_zero fun key i hi => ?_
  obtain ⟨-, hlive, r, hr, -⟩ := h key i hi
  cases e with
  | sweep chunks nodes now =>
    have hchunk : c.store.chunkGone (c.orders chunks nodes now) key.chunk = false := by
      rw [chunkGone, hr]
      rfl
    have htarget : c.store.targetGone (c.orders chunks nodes now) key.target = false := by
      rw [targetGone, hlive]
      rfl
    rw [fate]
    split
    · rintro ⟨⟩
    · rw [hchunk, htarget]
      split <;> rintro ⟨⟩
  | report _ _ | deleteFile _ | removeNode _ _ =>
    rw [fate]
    split
    · rintro ⟨⟩
    · split <;> rintro ⟨⟩
  | _ => rintro ⟨⟩

end Cluster

/-! ## A whole run -/

/-- How many instructions have been issued in some steps. -/
def countIssued (steps : List (Cluster × Event)) : Nat :=
  (steps.map fun s => (s.1.issued s.2).length).sum

/-- How many instructions have met a fate in some steps. -/
def countFate (steps : List (Cluster × Event)) (f : Fate) : Nat :=
  (steps.map fun s => s.1.tally s.2 f).sum

namespace Run

variable {settings : Settings} {ids : IdSupply} {steps : List (Cluster × Event)} {c : Cluster}

/-- The counters tell what has been issued, completed and found expired, and what has been issued
has met its fate or is pending. -/
theorem counted (h : Run (.fresh settings ids) steps c) :
    c.metrics.rebalances =
        (countIssued steps, countFate steps .completed, countFate steps .expired) ∧
      countIssued steps = countFate steps .completed + countFate steps .expired +
        c.queue.pending.size + countFate steps .dropped + countFate steps .stranded := by
  induction h with
  | nil => exact ⟨rfl, rfl⟩
  | @cons steps c e run read ih =>
    obtain ⟨hcounters, htotal⟩ := ih
    obtain ⟨hemitted, hcounters⟩ := Prod.mk.inj hcounters
    obtain ⟨hcompleted, hexpired⟩ := Prod.mk.inj hcounters
    have haccounts := c.accounts e
    have hall := c.size_eq_tally e
    have hsize := haccounts.size
    have hissued : countIssued ((c, e) :: steps) = (c.issued e).length + countIssued steps :=
      List.sum_cons
    have hfate : ∀ f, countFate ((c, e) :: steps) f = c.tally e f + countFate steps f := fun f =>
      List.sum_cons
    simp only [hissued, hfate]
    constructor
    · rw [Metrics.rebalances, haccounts.emitted, haccounts.completed, haccounts.expired, hemitted,
        hcompleted, hexpired, Nat.add_comm (countIssued _), Nat.add_comm (countFate _ _),
        Nat.add_comm (countFate _ _)]
    · omega

/-- No instruction is stranded unless a deletion has stopped halfway. -/
theorem countFate_stranded (h : Run (.fresh settings ids) steps c)
    (hinj : Set.InjOn ids.nth (Set.Ioc ids.drawn c.ids.drawn))
    (hno : ∀ s e, (s, e) ∈ steps → ¬s.Orphans e) : countFate steps .stranded = 0 := by
  induction h with
  | nil => rfl
  | @cons steps c e run read ih =>
    have hinj' := injOn_before hinj
    have hno' : ∀ s e, (s, e) ∈ steps → ¬s.Orphans e := fun s e hstep =>
      hno s e (List.mem_cons_of_mem _ hstep)
    have hfounded : c.PendingFounded :=
      run.lifetime.pendingFounded hinj' fun s e hstep => hno' s e (mem_turns.1 hstep)
    have hstep : countFate ((c, e) :: steps) .stranded =
        c.tally e .stranded + countFate steps .stranded := List.sum_cons
    rw [hstep, hfounded.tally_stranded, ih hinj' hno']

/-- Every event accounts for the pending instructions, and those in the report of a sweep are the
ones that it issues. The counters tell what has been issued, completed and found expired. What has been
issued is what has been completed, has expired, has been dropped by deletions and removals, or is
pending, if and only if nothing has been stranded, and then only a deletion that has stopped halfway
can have been at fault. -/
theorem accounted (h : Run (.fresh settings ids) steps c)
    (hinj : Set.InjOn ids.nth (Set.Ioc ids.drawn c.ids.drawn)) :
    (∀ s e, (s, e) ∈ steps → s.Accounts e) ∧
      (∀ s chunks nodes now report, (s, .sweep chunks nodes now) ∈ steps →
        (s.sweepOver chunks nodes now).result = .ok report →
        report.emitted = s.issued (.sweep chunks nodes now)) ∧
      c.metrics.rebalances =
        (countIssued steps, countFate steps .completed, countFate steps .expired) ∧
      (c.metrics.emitted = c.metrics.completed + c.metrics.expired + c.queue.pending.size +
        countFate steps .dropped ↔ countFate steps .stranded = 0) ∧
      ((∀ s e, (s, e) ∈ steps → ¬s.Orphans e) → countFate steps .stranded = 0) := by
  obtain ⟨hcounters, htotal⟩ := h.counted
  obtain ⟨hemitted, hrest⟩ := Prod.mk.inj hcounters
  obtain ⟨hcompleted, hexpired⟩ := Prod.mk.inj hrest
  refine ⟨fun s e _ => s.accounts e, fun s chunks nodes now report _ => Cluster.emitted_sweepOver,
    hcounters, ?_, h.countFate_stranded hinj⟩
  omega

/-- A copy is made, a second one is given up after a while and ordered anew, and then its target is
removed. -/
def givenUpCopy : List (Cluster → Event) :=
  [fun _ => .register ⟨"a", "host", 1, 1000⟩ 0,
   fun _ => .register ⟨"b", "host", 1, 1000⟩ 0,
   fun _ => .register ⟨"c", "host", 1, 1000⟩ 0,
   fun _ => .upload ⟨"name", 10, none, some 2⟩ 0,
   fun _ => .report ⟨2⟩ "a",
   fun _ => .failNode "b",
   Cluster.sweepNow 1000,
   fun _ => .report ⟨2⟩ "c",
   fun _ => .failNode "c",
   fun _ => .restoreNode "b" 1000,
   Cluster.sweepNow 1000,
   Cluster.sweepNow 2000,
   fun _ => .removeNode "b" true]

/-- Of three instructions one was completed, one expired and one was dropped. -/
theorem accounted_givenUpCopy :
    Run (.fresh .default .counting) (played givenUpCopy).1 (played givenUpCopy).2 ∧
      Set.InjOn IdSupply.counting.nth (Set.Ioc 0 (played givenUpCopy).2.ids.drawn) ∧
      (played givenUpCopy).2.metrics.rebalances = (3, 1, 1) ∧
      countFate (played givenUpCopy).1 .dropped = 1 ∧
      (played givenUpCopy).2.metrics.emitted = (played givenUpCopy).2.metrics.completed +
        (played givenUpCopy).2.metrics.expired + (played givenUpCopy).2.queue.pending.size +
          countFate (played givenUpCopy).1 .dropped := by
  have hrun : Run (.fresh .default .counting) (played givenUpCopy).1 (played givenUpCopy).2 :=
    of_played (by simp [givenUpCopy, Event.ReadFrom, Cluster.sweepNow])
  have hdrawn : (played givenUpCopy).2.ids.drawn = 2 := by decide +kernel
  have hinj : Set.InjOn IdSupply.counting.nth (Set.Ioc 0 (played givenUpCopy).2.ids.drawn) := by
    rw [hdrawn]
    exact IdSupply.injOn_counting (by decide)
  obtain ⟨-, -, -, hbalance, hnone⟩ := Run.accounted hrun hinj
  refine ⟨hrun, hinj, by decide +kernel, by decide +kernel, hbalance.2 (hnone ?_)⟩
  intro s e hstep horphans
  obtain ⟨choose, hchoose, rfl⟩ := mem_played hstep
  simp only [givenUpCopy, List.mem_cons, List.not_mem_nil, or_false] at hchoose
  rcases hchoose with rfl | rfl | rfl | rfl | rfl | rfl | rfl | rfl | rfl | rfl | rfl | rfl | rfl <;>
    exact horphans

/-- Two chunks of almost `2 ^ 62` bytes each come to have five copies in all, and one more copy of
the first one is on its way. -/
def crowdedFile : List (Cluster → Event) :=
  [fun _ => .register ⟨"a", "host", 1, 0x3FFFFFFFFFFFFFFF⟩ 0,
   fun _ => .register ⟨"b", "host", 1, 0x3FFFFFFFFFFFFFFF⟩ 0,
   fun _ => .register ⟨"c", "host", 1, 0x3FFFFFFFFFFFFFFF⟩ 0,
   fun _ => .register ⟨"d", "host", 1, 0x3FFFFFFFFFFFFFFF⟩ 0,
   fun _ => .upload ⟨"name", 0x7FFFFFFFFFFFFFFE, some 0x3FFFFFFFFFFFFFFF, some 2⟩ 0,
   fun _ => .report ⟨2⟩ "a",
   fun _ => .report ⟨2⟩ "b",
   fun _ => .report ⟨3⟩ "c",
   fun _ => .report ⟨3⟩ "d",
   fun _ => .failNode "c",
   fun _ => .heartbeat "a" 0x3FFFFFFFFFFFFFFF 0,
   Cluster.sweepNow 1000,
   fun _ => .report ⟨3⟩ "a",
   fun _ => .failNode "a",
   fun _ => .failNode "b",
   fun _ => .heartbeat "c" 0x3FFFFFFFFFFFFFFF 0,
   Cluster.sweepNow 1000,
   fun _ => .heartbeat "d" 0x3FFFFFFFFFFFFFFF 0]

/-- Then the file is deleted, which stops halfway, while a sweep is at work that orders the second
copy of the first chunk. The sweep drops both instructions and counts neither. -/
theorem exists_unaccounted :
    ¬∀ (settings : Settings) (ids : IdSupply) (steps : List (Cluster × Event)) (c : Cluster),
      Run (.fresh settings ids) steps c → Set.InjOn ids.nth (Set.Ioc ids.drawn c.ids.drawn) →
      c.metrics.emitted = c.metrics.completed + c.metrics.expired + c.queue.pending.size +
        countFate steps .dropped := by
  intro h
  have hrun : Run (.fresh .default .counting) (played crowdedFile).1 (played crowdedFile).2 :=
    of_played (by simp [crowdedFile, Event.ReadFrom, Cluster.sweepNow])
  have hlate := hrun.cons_late (e := .deleteFile ⟨1⟩) trivial 1001
  have hbalance := h _ _ _ _ hlate (IdSupply.injOn_counting (by decide +kernel))
  revert hbalance
  decide +kernel

end Run

end ChunkCoordinator
