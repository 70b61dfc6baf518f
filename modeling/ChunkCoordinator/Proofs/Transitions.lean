import ChunkCoordinator.Proofs.Health
import ChunkCoordinator.Proofs.Order
import ChunkCoordinator.Proofs.Vanishing

/-!
# Changes of health are counted

An event turns a node to a health if the node is on record with another health before and with this
one afterwards (`Cluster.turned`). The registration of a node that has been removed turns nobody.

What an event can do to the health of nodes and to the counters is said once
(`Cluster.HealthEffect`): it gives a health to one node in service, or takes it out of service,
demotes the stale ones, brings a new one, or leaves all as they are. In each case the counters grow
by just as many nodes as are turned (`HealthEffect.counted`), whether they are counted one by one or
as a list, and the number of unhealthy nodes moves with them (`HealthEffect.unhealthy`).
`Run.transitions_turned` adds this up over a run. The counters are natural numbers; as 64-bit words
they would tell the same of every run with fewer than `2 ^ 64` changes of health.
-/

set_option linter.unusedSectionVars false

namespace ChunkCoordinator

/-- The event registers a node. -/
def Event.isRegistration : Event → Bool
  | .register .. => true
  | _ => false

theorem Transitions.count_add (t : Transitions) (n : Nat) (h goal : Health) :
    (t.add n h).count goal = t.count goal + if h = goal then n else 0 := by
  cases h <;> cases goal <;> rfl

/-! ## The health of nodes on record -/

namespace Registry

variable {r r' : Registry} {id : NodeId} {node old new : Node}

/-- The health of a node on record. -/
def health? (r : Registry) (id : NodeId) : Option Health := (r.get? id).map Node.health

/-- The nodes on record that have another health at first and the given one in the end. -/
def turned (r r' : Registry) (goal : Health) : List NodeId :=
  r.nodes.keys.filter fun id => r.health? id ≠ some goal ∧ r'.health? id = some goal

theorem health?_set (r : Registry) (id id' : NodeId) (node : Node) :
    (r.set id node).health? id' = if id' = id then some node.health else r.health? id' := by
  rw [health?, get?, set]
  split
  · next heq => rw [heq, Table.get?_insert_self, Option.map_some]
  · next hne => rw [Table.get?_insert_of_ne _ _ hne]; rfl

theorem health?_of_live? (h : r.live? id = some node) : r.health? id = some node.health := by
  rw [health?, (live?_eq_some.1 h).1, Option.map_some]

/-- A record may be replaced by one with the same health. -/
theorem health?_set_of_eq (h : r.live? id = some old) (hnew : new.health = old.health)
    (id' : NodeId) : (r.set id new).health? id' = r.health? id' := by
  rw [health?_set]
  split
  · next heq => rw [heq, health?_of_live? h, hnew]
  · rfl

theorem turned_of_health?_eq (h : ∀ id, r'.health? id = r.health? id) (goal : Health) :
    r.turned r' goal = [] := by
  refine List.filter_eq_nil_iff.2 fun id _ => ?_
  rw [h id, decide_eq_true_eq]
  exact fun hturned => hturned.1 hturned.2

/-- Nobody is turned but the node that is given another health. -/
theorem turned_set (h : r.live? id = some old) (goal : Health) :
    r.turned (r.set id new) goal = if old.health ≠ goal ∧ new.health = goal then [id] else [] := by
  have hmem : id ∈ r.nodes.keys :=
    Table.mem_keys.2 (Table.contains_of_get? (live?_eq_some.1 h).1)
  have hturned : ∀ id', (r.health? id' ≠ some goal ∧ (r.set id new).health? id' = some goal) ↔
      id' = id ∧ old.health ≠ goal ∧ new.health = goal := by
    intro id'
    rw [health?_set]
    by_cases hid : id' = id
    · simp [hid, health?_of_live? h]
    · simp [hid]
  unfold turned
  simp only [hturned]
  by_cases hgoal : old.health ≠ goal ∧ new.health = goal
  · rw [if_pos hgoal]
    have honly : ∀ id', (id' = id ∧ old.health ≠ goal ∧ new.health = goal) ↔ id' = id :=
      fun id' => and_iff_left hgoal
    simp only [honly]
    rw [List.filter_eq, List.count_eq_one_of_mem (Table.nodup_keys _) hmem, List.replicate_one]
  · simp [hgoal]

theorem isStale_healthy {now timeout : UInt64} (h : isStale now timeout node) :
    node.health = .healthy := by
  simp only [isStale, Node.isHealthy, Bool.and_eq_true, decide_eq_true_eq] at h
  exact h.1

/-- As many nodes become unhealthy as are named. -/
theorem length_turned_demoteStale (r : Registry) (now timeout : UInt64) (goal : Health) :
    (r.turned (r.demoteStale now timeout).2 goal).length =
      if Health.unhealthy = goal then (r.demoteStale now timeout).1.length else 0 := by
  have hturned : ∀ e ∈ r.nodes.toList, (r.health? e.1 ≠ some goal ∧
      (r.demoteStale now timeout).2.health? e.1 = some goal) ↔
      Health.unhealthy = goal ∧ isStale now timeout e.2 := by
    intro e he
    have hnode : r.get? e.1 = some e.2 := Table.mem_toList_iff.1 he
    rw [health?, health?, get?_demoteStale, hnode]
    by_cases hstale : isStale now timeout e.2
    · simp only [Option.map_some, isStale_healthy hstale, hstale, if_true]
      cases goal <;> simp
    · simp [hstale]
  have hcount : (r.turned (r.demoteStale now timeout).2 goal).length =
      r.nodes.toList.countP fun e => Health.unhealthy = goal ∧ isStale now timeout e.2 := by
    rw [turned, Table.keys, List.filter_map, List.length_map, ← List.countP_eq_length_filter]
    refine List.countP_congr fun e he => ?_
    rw [Function.comp_apply, decide_eq_true_eq, decide_eq_true_eq]
    exact hturned e he
  have hnamed : (r.demoteStale now timeout).1.length =
      r.nodes.toList.countP fun e => isStale now timeout e.2 := by
    rw [demoteStale, List.length_map, ← List.countP_eq_length_filter]
    exact List.countP_map
  rw [hcount, hnamed]
  split
  · next hgoal => simp [hgoal]
  · next hgoal => simp [hgoal]

/-! ## The number of nodes with a health -/

theorem count_congr (h : ∀ id, r'.health? id = r.health? id) (goal : Health) :
    r'.count goal = r.count goal := by
  have hcount : ∀ r : Registry, r.count goal =
      (r.nodes.map Node.health).values.countP fun h => h = goal := by
    intro r
    simp only [count, all, Table.values, Table.map, List.countP_map]
    rfl
  have hsame : r'.nodes.map Node.health = r.nodes.map Node.health :=
    Table.ext_get? fun id => by rw [Table.get?_map, Table.get?_map]; exact h id
  rw [hcount, hcount, hsame]

/-- A health is had by one node less if that node had it, and by one more if the new record has
it. -/
theorem count_set (r : Registry) (id : NodeId) (new : Node) (goal : Health) :
    (r.set id new).count goal + (if r.health? id = some goal then 1 else 0) =
      r.count goal + if new.health = goal then 1 else 0 := by
  have hbefore := Table.countP_values_erase r.nodes id fun n : Node => n.health = goal
  have hafter := Table.countP_values_insert r.nodes id new fun n : Node => n.health = goal
  have hold : (r.nodes.get? id).any (fun n : Node => n.health = goal) = true ↔
      r.health? id = some goal := by
    rw [health?, get?]
    cases r.nodes.get? id <;> simp
  simp only [hold, decide_eq_true_eq] at hbefore hafter
  simp only [count, all, set]
  omega

theorem count_demoteStale (r : Registry) (now timeout : UInt64) :
    (r.demoteStale now timeout).2.count .unhealthy =
      r.count .unhealthy + (r.demoteStale now timeout).1.length := by
  have hcount : ∀ l : List Node,
      (l.map fun n => if isStale now timeout n then { n with health := .unhealthy } else n).countP
        (fun n => n.health = .unhealthy) =
      l.countP (fun n => n.health = .unhealthy) + (l.filter (isStale now timeout)).length := by
    intro l
    induction l with
    | nil => rfl
    | cons n l ih =>
      rw [List.map_cons, List.countP_cons, ih, List.countP_cons, List.filter_cons]
      by_cases hstale : isStale now timeout n
      · simp [hstale, isStale_healthy hstale]
        omega
      · simp [hstale]
        omega
  have hvalues : (r.demoteStale now timeout).2.all = r.all.map fun n =>
      if isStale now timeout n then { n with health := .unhealthy } else n := by
    simp only [all, demoteStale, Table.values, Table.map, List.map_map]
    rfl
  rw [count, hvalues, hcount, count, demoteStale, List.length_map]

end Registry

/-! ## One event -/

namespace Cluster

open Store

variable {c c' : Cluster} {e : Event}

/-- The nodes on record that an event turns to a health. A registration turns nobody. -/
def turned (c : Cluster) (e : Event) (goal : Health) : List NodeId :=
  if e.isRegistration then [] else c.store.registry.turned (c.after e).store.registry goal

/-- The event takes an unhealthy node out of service. -/
def losesUnhealthy (c : Cluster) : Event → Bool
  | .removeNode id force =>
    (c.removeNode id force).result.isOk && c.store.registry.health? id = some .unhealthy
  | _ => false

/-- What an event can do to the health of the nodes and to the counters of changes. -/
inductive HealthEffect (c : Cluster) : Event → Cluster → Prop where
  /-- Everybody's health stays as it is. -/
  | still {e : Event} {c' : Cluster}
      (health : ∀ id, c'.store.registry.health? id = c.store.registry.health? id)
      (counted : c'.metrics.transitions = c.metrics.transitions)
      (keeps : c.losesUnhealthy e = false) : HealthEffect c e c'
  /-- A node that is not in service comes into service. -/
  | registered {request : RegisterRequest} {now : UInt64} {c' : Cluster} {id : NodeId} {node : Node}
      (new : c.store.registry.isLive id = false) (healthy : node.health = .healthy)
      (registry : c'.store.registry = c.store.registry.set id node)
      (counted : c'.metrics.transitions = c.metrics.transitions) :
      HealthEffect c (.register request now) c'
  /-- A node in service is given a health, which it may have had before, or is taken out of
  service. -/
  | given {e : Event} {c' : Cluster} {id : NodeId} {old new : Node}
      (other : e.isRegistration = false)
      (loses : c.losesUnhealthy e = decide (old.health = .unhealthy ∧ new.health = .removed))
      (live : c.store.registry.live? id = some old)
      (registry : c'.store.registry = c.store.registry.set id new)
      (counted : c'.metrics.transitions = if old.health ≠ new.health then
        c.metrics.transitions.add 1 new.health else c.metrics.transitions) : HealthEffect c e c'
  /-- The stale nodes are demoted, and counted as a list. -/
  | demoted {now time : UInt64} {c' : Cluster}
      (registry : c'.store.registry =
        (c.store.registry.demoteStale now c.settings.heartbeatTimeout).2)
      (counted : c'.metrics.transitions = c.metrics.transitions.add
        (c.store.registry.demoteStale now c.settings.heartbeatTimeout).1.length .unhealthy) :
      HealthEffect c (.sweepTimeouts time) c'

theorem HealthEffect.of_eq (hregistry : c'.store.registry = c.store.registry)
    (hcounted : c'.metrics.transitions = c.metrics.transitions)
    (hkeeps : c.losesUnhealthy e = false) : HealthEffect c e c' :=
  .still (fun id => by rw [hregistry]) hcounted hkeeps

theorem healthEffect_register (c : Cluster) (request : RegisterRequest) (now : UInt64) :
    HealthEffect c (.register request now) (c.register request now).cluster := by
  unfold register
  split
  · exact .of_eq rfl rfl rfl
  split
  · exact .of_eq rfl rfl rfl
  split
  · exact .of_eq rfl rfl rfl
  · next node registry hregister =>
    obtain ⟨hnew, rfl, -⟩ := Registry.register_ok hregister
    unfold Registry.register at hregister
    rw [if_neg (Bool.eq_false_iff.1 hnew)] at hregister
    obtain ⟨hnode, -⟩ := Prod.mk.inj (Except.ok.inj hregister)
    exact .registered hnew (by rw [← hnode]) rfl rfl

/-- The changes are counted in the way of the events that concern one node. -/
theorem healthEffect_of_noted {id : NodeId} {old : Node} (new : Node) {changed : Bool}
    (hother : e.isRegistration = false) (hkeeps : c.losesUnhealthy e = false)
    (hlive : c.store.registry.live? id = some old) (hserves : new.isLive)
    (hchanged : changed = decide (old.health ≠ new.health)) :
    HealthEffect c e (if changed then (c.withRegistry (c.store.registry.set id new)).noteTransitions
      new.health 1 else c.withRegistry (c.store.registry.set id new)) := by
  have hstays : new.health ≠ .removed := by simpa [Node.isLive] using hserves
  have hloses : c.losesUnhealthy e = decide (old.health = .unhealthy ∧ new.health = .removed) := by
    simp [hkeeps, hstays]
  refine .given hother hloses hlive ?_ ?_
  · cases changed <;> rfl
  · subst hchanged
    by_cases hsame : old.health ≠ new.health
    · rw [if_pos hsame, if_pos (decide_eq_true hsame)]
      rfl
    · rw [if_neg hsame, if_neg (by simpa using hsame)]
      rfl

theorem healthEffect_heartbeat (c : Cluster) (node : NodeId) (free now : UInt64) :
    HealthEffect c (.heartbeat node free now) (c.heartbeat node free now).cluster := by
  unfold heartbeat
  split
  · exact .of_eq rfl rfl rfl
  · next recovered registry hheartbeat =>
    obtain ⟨old, hold, heq⟩ := Registry.map_live_ok hheartbeat
    obtain ⟨hrecovered, rfl⟩ := Prod.mk.inj heq
    exact healthEffect_of_noted
      { old with lastHeartbeat := now, free := min free old.capacity, health := .healthy }
      rfl rfl hold rfl (by simp [← hrecovered, Node.isHealthy])

theorem healthEffect_failNode (c : Cluster) (node : NodeId) :
    HealthEffect c (.failNode node) (c.failNode node).cluster := by
  unfold failNode
  split
  · exact .of_eq rfl rfl rfl
  · next changed registry hfail =>
    obtain ⟨old, hold, heq⟩ := Registry.map_live_ok hfail
    obtain ⟨hchanged, rfl⟩ := Prod.mk.inj heq
    exact healthEffect_of_noted { old with health := .unhealthy } rfl rfl hold rfl hchanged.symm

theorem healthEffect_restoreNode (c : Cluster) (node : NodeId) (now : UInt64) :
    HealthEffect c (.restoreNode node now) (c.restoreNode node now).cluster := by
  unfold restoreNode
  split
  · exact .of_eq rfl rfl rfl
  · next changed registry hrestore =>
    obtain ⟨old, hold, hchanged, rfl⟩ := Registry.reinstate_eq hrestore
    exact healthEffect_of_noted { old with lastHeartbeat := now, health := .healthy } rfl rfl hold
      rfl hchanged

theorem healthEffect_removeNode (c : Cluster) (node : NodeId) (force : Bool) :
    HealthEffect c (.removeNode node force) (c.removeNode node force).cluster := by
  cases hretire : c.store.retireNode node force with
  | error why =>
    have hrefused : c.removeNode node force = c.refuse why := by rw [removeNode, hretire]
    rw [hrefused]
    exact .of_eq rfl rfl (by rw [losesUnhealthy, hrefused]; rfl)
  | ok outcome =>
    obtain ⟨references, store⟩ := outcome
    obtain ⟨old, hold, -, hregistry⟩ := Registry.remove_ok (retireNode_ok hretire).2.2
    have hgranted : (c.removeNode node force).result.isOk = true := by
      rw [removeNode, hretire]
      rfl
    have hloses : c.losesUnhealthy (.removeNode node force) =
        decide (old.health = .unhealthy ∧ Health.removed = .removed) := by
      rw [losesUnhealthy, hgranted, Registry.health?_of_live? hold, Bool.true_and]
      simp
    have hserves : old.health ≠ .removed := by
      simpa [Node.isLive] using (Registry.live?_eq_some.1 hold).2
    refine @HealthEffect.given c _ _ node old { old with health := .removed } rfl hloses hold ?_ ?_
    · rw [removeNode, hretire]
      exact hregistry
    · rw [removeNode, hretire, if_pos hserves]
      rfl

theorem healthEffect_sweepTimeouts (c : Cluster) (now : UInt64) :
    HealthEffect c (.sweepTimeouts now) (c.sweepTimeouts now).2 := by
  refine @HealthEffect.demoted c now now _ ?_ ?_
  · unfold sweepTimeouts
    dsimp only
    split <;> rfl
  · unfold sweepTimeouts
    dsimp only
    split
    · next hnone =>
      rw [List.isEmpty_iff.1 hnone]
      rfl
    · rfl

theorem healthEffect_upload (c : Cluster) (request : UploadRequest) (now : UInt64) :
    HealthEffect c (.upload request now) (c.upload request now).cluster := by
  rcases c.upload_cases request now with ⟨_, _, heq⟩ | ⟨_, _, _, _, _, hcreated, heq⟩ <;> rw [heq]
  · exact .of_eq rfl rfl rfl
  · exact .of_eq (by rw [hcreated.store]) rfl rfl

/-- A confirmed copy is debited, which leaves the health of its node. -/
theorem healthEffect_report (c : Cluster) (chunk : ChunkId) (node : NodeId) :
    HealthEffect c (.report chunk node) (c.report chunk node).cluster := by
  have hasked := (c.expecting_asked chunk node).registry
  unfold report
  generalize (if c.queue.isPending chunk node then
    ((c.store.expect chunk [node]).map Prod.snd).getD c.store else c.store) = asked at hasked
  dsimp only
  split
  · exact .of_eq hasked rfl rfl
  · next outcome store hreport =>
    have hhealth : ∀ id, store.registry.health? id = c.store.registry.health? id := by
      rw [← hasked]
      obtain ⟨record, -, -, ⟨-, rfl, -⟩ | ⟨-, -, free, registry, hdebit, rfl⟩⟩ := report_ok hreport
      · exact fun id => rfl
      · obtain ⟨old, hold, rfl, -⟩ := Registry.debit_ok hdebit
        exact Registry.health?_set_of_eq hold rfl
    refine .still ?_ ?_ rfl
    · split <;> split <;> exact hhealth
    · split <;> split <;> rfl

/-- What a deletion gives back leaves the health of all nodes. -/
theorem healthEffect_deleteFile (c : Cluster) (file : FileId) :
    HealthEffect c (.deleteFile file) (c.deleteFile file).cluster := by
  have hhealth : ∀ id, (c.store.deleteFile file).2.registry.health? id =
      c.store.registry.health? id := by
    refine deleteFile_keeps
      (P := fun r => ∀ id, r.health? id = c.store.registry.health? id) ?_ (fun _ => rfl) file
    intro r r' id amount free hcredit hsame id'
    obtain ⟨old, hold, heq⟩ := Registry.map_live_ok hcredit
    obtain ⟨-, rfl⟩ := Prod.mk.inj heq
    exact Eq.trans (Registry.health?_set_of_eq hold (by rfl) id') (hsame id')
  unfold deleteFile
  split
  · next heq => exact .still (by rw [heq] at hhealth; exact hhealth) rfl rfl
  · next heq => exact .still (by rw [heq] at hhealth; exact hhealth) rfl rfl

theorem transitions_status (c : Cluster) :
    c.status.cluster.metrics.transitions = c.metrics.transitions := by
  unfold status
  split <;> rfl

theorem healthEffect_sweep (c : Cluster) (chunks : List ChunkRecord) (nodes : List Node)
    (now : UInt64) : HealthEffect c (.sweep chunks nodes now)
      (c.sweepOver chunks nodes now).cluster := by
  have hrecorded : ∀ (c : Cluster) (report : SweepReport),
      (c.recordSweep report).cluster.metrics.transitions = c.metrics.transitions := by
    intro c report
    rw [cluster_recordSweep rfl, transitions_status]
    rfl
  refine .of_eq (sweepOver_spec c chunks nodes now).1.registry ?_ rfl
  cases hsweeping : c.queue.sweeping with
  | true => rw [sweepOver_refused hsweeping]; rfl
  | false => rw [sweepOver_merged hsweeping, hrecorded]

/-- Nothing else happens. -/
theorem healthEffect_after (c : Cluster) : ∀ e : Event, HealthEffect c e (c.after e)
  | .register request now => healthEffect_register c request now
  | .heartbeat node free now => healthEffect_heartbeat c node free now
  | .upload request now => healthEffect_upload c request now
  | .report chunk node => healthEffect_report c chunk node
  | .deleteFile file => healthEffect_deleteFile c file
  | .failNode node => healthEffect_failNode c node
  | .restoreNode node now => healthEffect_restoreNode c node now
  | .removeNode node force => healthEffect_removeNode c node force
  | .sweepTimeouts now => healthEffect_sweepTimeouts c now
  | .sweep chunks nodes now => healthEffect_sweep c chunks nodes now

namespace HealthEffect

/-- The counters grow by the number of nodes that are turned. -/
theorem counted (h : HealthEffect c e c') (goal : Health) : c'.metrics.transitions.count goal =
    c.metrics.transitions.count goal + if e.isRegistration then 0
      else (c.store.registry.turned c'.store.registry goal).length := by
  cases h with
  | still health counted keeps =>
    rw [counted, Registry.turned_of_health?_eq health, List.length_nil, ite_self, Nat.add_zero]
  | registered new healthy registry counted => rw [counted]; rfl
  | @given _ _ id old new other loses live registry counted =>
    rw [other, if_neg Bool.false_ne_true, registry, Registry.turned_set live, counted]
    by_cases hsame : old.health = new.health
    · rw [if_neg (not_not.2 hsame), hsame, if_neg fun hturned => hturned.1 hturned.2]
      rfl
    · rw [if_pos hsame, Transitions.count_add]
      by_cases hgoal : new.health = goal
      · rw [if_pos hgoal, if_pos ⟨hgoal ▸ hsame, hgoal⟩]
        rfl
      · rw [if_neg hgoal, if_neg fun hturned => hgoal hturned.2]
        rfl
  | demoted registry counted =>
    rw [counted, Transitions.count_add, registry, Registry.length_turned_demoteStale]
    rfl

/-- The number of unhealthy nodes moves with the counters, but for a node that is taken out of
service while it is unhealthy. -/
theorem unhealthy (h : HealthEffect c e c') : c'.store.registry.count .unhealthy +
      c'.metrics.transitions.count .healthy + c.metrics.transitions.count .unhealthy +
      (if c.losesUnhealthy e then 1 else 0) =
    c.store.registry.count .unhealthy + c'.metrics.transitions.count .unhealthy +
      c.metrics.transitions.count .healthy := by
  cases h with
  | still health counted keeps =>
    rw [counted, keeps, Registry.count_congr health, if_neg Bool.false_ne_true]
    omega
  | @registered request now _ id node new healthy registry counted =>
    have hkeeps : c.losesUnhealthy (.register request now) = false := rfl
    have hcount := c.store.registry.count_set id node .unhealthy
    have hno : ¬c.store.registry.health? id = some .unhealthy := by
      intro hhealth
      obtain ⟨old, hold, hunhealthy⟩ := Option.map_eq_some_iff.1 hhealth
      have hlive : c.store.registry.live? id = some old :=
        Registry.live?_eq_some.2 ⟨hold, by simp [Node.isLive, hunhealthy]⟩
      rw [Registry.isLive_of_live? hlive] at new
      cases new
    rw [healthy, if_neg hno, if_neg (by decide)] at hcount
    rw [counted, registry, hkeeps, if_neg Bool.false_ne_true]
    omega
  | @given _ _ id old new other loses live registry counted =>
    have hcount := c.store.registry.count_set id new .unhealthy
    have hold : old.health ≠ .removed := by
      simpa [Node.isLive] using (Registry.live?_eq_some.1 live).2
    rw [Registry.health?_of_live? live] at hcount
    rw [registry, counted, loses]
    generalize (c.store.registry.set id new).count .unhealthy = after at hcount ⊢
    cases hfrom : old.health <;> cases hinto : new.health <;>
      simp_all [Transitions.add, Transitions.count] <;> omega
  | demoted registry counted =>
    rw [registry, counted, Registry.count_demoteStale]
    simp only [losesUnhealthy, Transitions.count, Transitions.add]
    simp
    omega

end HealthEffect

end Cluster

/-! ## Whole runs -/

namespace Run

open Cluster

variable {start c : Cluster} {steps : List (Cluster × Event)} {settings : Settings} {ids : IdSupply}

/-- The pairs of an event and a node that it turns to a health, the newest first. -/
def changes (steps : List (Cluster × Event)) (goal : Health) : List (Event × NodeId) :=
  steps.flatMap fun (s, e) => (s.turned e goal).map fun id => (e, id)

/-- How many times an unhealthy node has been taken out of service. -/
def losses (steps : List (Cluster × Event)) : Nat :=
  steps.countP fun (s, e) => s.losesUnhealthy e

/-- From whatever state a run begins, the counters have grown by the number of nodes that were
turned since. -/
theorem counted_since (h : Run start steps c) (goal : Health) :
    c.metrics.transitions.count goal =
      start.metrics.transitions.count goal + (changes steps goal).length := by
  induction h with
  | nil => rfl
  | @cons steps c e run read ih =>
    have hstep := (c.healthEffect_after e).counted goal
    have hturned : (c.turned e goal).length = if e.isRegistration then 0
        else (c.store.registry.turned (c.after e).store.registry goal).length := by
      unfold turned
      split <;> rfl
    have hchanges : (changes ((c, e) :: steps) goal).length =
        (c.turned e goal).length + (changes steps goal).length := by
      rw [changes, List.flatMap_cons, List.length_append, List.length_map]
      rfl
    omega

/-- The number of unhealthy nodes has moved with the counters since. -/
theorem unhealthy_since (h : Run start steps c) : (c.store.registry.count .unhealthy : Int) =
    start.store.registry.count .unhealthy + (changes steps .unhealthy).length -
      (changes steps .healthy).length - losses steps := by
  induction h with
  | nil => simp [changes, losses]
  | @cons steps c e run read ih =>
    have hstep := (c.healthEffect_after e).unhealthy
    have hlosses : losses ((c, e) :: steps) =
        losses steps + if c.losesUnhealthy e then 1 else 0 := List.countP_cons
    have hbefore := run.counted_since
    have hafter := (run.cons read).counted_since
    have hunhealthy := And.intro (hbefore .unhealthy) (hafter .unhealthy)
    have hhealthy := And.intro (hbefore .healthy) (hafter .healthy)
    omega

/-- After every run of a new coordinator each counter is the number of pairs of an event and a node
that it turns to this health, and there are as many unhealthy nodes as have become unhealthy, less
those that have become healthy and those that were taken out of service while unhealthy. -/
theorem transitions_turned (h : Run (.fresh settings ids) steps c) :
    (∀ goal, c.metrics.transitions.count goal = (changes steps goal).length) ∧
      (c.store.registry.count .unhealthy : Int) = c.metrics.transitions.count .unhealthy -
        c.metrics.transitions.count .healthy - losses steps := by
  have hcounted : ∀ goal, c.metrics.transitions.count goal = (changes steps goal).length := by
    intro goal
    have hnone : (Cluster.fresh settings ids).metrics.transitions.count goal = 0 := by
      cases goal <;> rfl
    rw [h.counted_since, hnone, Nat.zero_add]
  refine ⟨hcounted, ?_⟩
  have hnone : (Cluster.fresh settings ids).store.registry.count .unhealthy = 0 := rfl
  rw [hcounted, hcounted, h.unhealthy_since, hnone]
  omega

/-- A node fails, fails again, recovers, falls silent together with the other one and is removed and
registered anew, while an operator reinstates the other one and fails it. -/
def upsAndDowns : List (Cluster → Event) :=
  [fun _ => .register ⟨"a", "host", 1, 100⟩ 0, fun _ => .register ⟨"b", "host", 1, 100⟩ 0,
   fun _ => .failNode "a", fun _ => .failNode "a", fun _ => .heartbeat "a" 100 5,
   fun _ => .sweepTimeouts 1000, fun _ => .restoreNode "b" 1000, fun _ => .removeNode "a" false,
   fun _ => .register ⟨"a", "host", 1, 100⟩ 1001, fun _ => .heartbeat "a" 100 1002,
   fun _ => .failNode "b"]

/-- The second failure and the second registration turn nobody, and the timeout turns two nodes. -/
theorem transitions_turned_upsAndDowns :
    Run (.fresh .default .counting) (played upsAndDowns).1 (played upsAndDowns).2 ∧
      ((∀ goal, (played upsAndDowns).2.metrics.transitions.count goal =
          (changes (played upsAndDowns).1 goal).length) ∧
        ((played upsAndDowns).2.store.registry.count .unhealthy : Int) =
          (played upsAndDowns).2.metrics.transitions.count .unhealthy -
            (played upsAndDowns).2.metrics.transitions.count .healthy -
            losses (played upsAndDowns).1) ∧
      Health.all.map (fun goal => (changes (played upsAndDowns).1 goal).map Prod.snd) =
        [["b", "a"], ["b", "a", "b", "a"], ["a"]] ∧
      losses (played upsAndDowns).1 = 1 := by
  have hrun : Run (.fresh .default .counting) (played upsAndDowns).1 (played upsAndDowns).2 :=
    of_played (by simp [upsAndDowns, Event.ReadFrom])
  exact ⟨hrun, transitions_turned hrun, by decide +kernel, by decide +kernel⟩

end Run

end ChunkCoordinator
