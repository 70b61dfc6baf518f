import ChunkCoordinator.Proofs.Registry

/-!
# The health of a node over a whole run

A run of the registry is a list of actions (`Registry.Action`), the newest first: nodes register and
send heartbeats, an operator fails, reinstates or removes them, and sweeps look for nodes that have
fallen silent. The clock may show any time at any action.

`Registry.contact?` is the time of the last accepted sign of life of a node. It is what every record
holds as its last heartbeat (`Tracked.play`), so a sweep finds the healthy nodes that are `Overdue`
and no others. What makes a node healthy is a sign of life (`isHealthy_after`): whoever is found
twice has given one in between. A removed node comes back by registering anew and in no other way.
These laws are put together in `Registry.health_of_play`.
-/

set_option linter.unusedSectionVars false

namespace ChunkCoordinator.Registry

/-! ## Runs -/

/-- What is asked of a registry about the health of its nodes. -/
inductive Action where
  | register (id : NodeId) (host : String) (port : UInt16) (capacity now : UInt64)
  | heartbeat (id : NodeId) (free now : UInt64)
  | fail (id : NodeId)
  | reinstate (id : NodeId) (now : UInt64)
  | remove (id : NodeId) (force : Bool) (references : Nat)
  | sweep (now : UInt64)

namespace Action

/-- The node that an action is about. A sweep is about all of them. -/
def node? : Action → Option NodeId
  | register id .. | heartbeat id .. | fail id | reinstate id _ | remove id .. => some id
  | sweep _ => none

/-- The action registers a node. -/
def registers : Action → Bool
  | register .. => true
  | _ => false

/-- The node that an action, if accepted, shows to be alive, and when. -/
def sign? : Action → Option (NodeId × UInt64)
  | register id _ _ _ now | heartbeat id _ now | reinstate id now => some (id, now)
  | fail _ | remove .. | sweep _ => none

theorem node?_of_sign {a : Action} {id : NodeId} {now : UInt64} (h : a.sign? = some (id, now)) :
    a.node? = some id := by
  cases a <;> simp_all [sign?, node?]

end Action

/-- The registry after an action, or the refusal. -/
def act (timeout : UInt64) (r : Registry) : Action → Except ServiceError Registry
  | .register id host port capacity now => (r.register id host port capacity now).map Prod.snd
  | .heartbeat id free now => (r.recordHeartbeat id free now).map Prod.snd
  | .fail id => (r.markUnhealthy id).map Prod.snd
  | .reinstate id now => (r.reinstate id now).map Prod.snd
  | .remove id force references => r.remove id force references
  | .sweep now => .ok (r.demoteStale now timeout).2

/-- The registry after an action. A refused one changes nothing. -/
def after (timeout : UInt64) (r : Registry) (a : Action) : Registry :=
  (r.act timeout a).toOption.getD r

/-- The registry after a run that begins without nodes. -/
def play (timeout : UInt64) : List Action → Registry
  | [] => .empty
  | a :: past => (play timeout past).after timeout a

/-- The time at which an action on a registry is an accepted sign of life of a node. -/
def heard? (timeout : UInt64) (r : Registry) (id : NodeId) (a : Action) : Option UInt64 :=
  match a.sign?, r.act timeout a with
  | some (id', now), .ok _ => if id' = id then some now else none
  | _, _ => none

/-- The time of the last accepted sign of life of a node. -/
def contact? (timeout : UInt64) (id : NodeId) : List Action → Option UInt64
  | [] => none
  | a :: past => (heard? timeout (play timeout past) id a).or (contact? timeout id past)

/-- After a run a node is healthy, and at a given time it has not given a sign of life for longer
than the timeout. -/
def Overdue (timeout : UInt64) (past : List Action) (now : UInt64) (id : NodeId) : Prop :=
  (play timeout past).isHealthy id ∧
    ∃ last, contact? timeout id past = some last ∧ timeout.toNat < now.toNat - last.toNat

/-- The nodes that a sweep after a run finds silent. -/
def reported (timeout : UInt64) (past : List Action) (now : UInt64) : List NodeId :=
  ((play timeout past).demoteStale now timeout).1

/-! ## One action -/

variable {timeout now : UInt64} {r r' : Registry} {id : NodeId} {a : Action} {node : Node}
  {past : List Action}

/-- What an accepted action does: it renews the record of a node that gives a sign of life, or takes
a node's health and leaves its last heartbeat, or it is a sweep. -/
inductive Change (timeout : UInt64) (r : Registry) : Action → Registry → Prop where
  | sign {a : Action} {id : NodeId} {now : UInt64} {new : Node} (sign : a.sign? = some (id, now))
      (named : new.id = id) (last : new.lastHeartbeat = now) (healthy : new.health = .healthy) :
      Change timeout r a (r.set id new)
  | lapse {a : Action} {id : NodeId} {old new : Node} (about : a.node? = some id)
      (silent : a.sign? = none) (live : r.live? id = some old) (named : new.id = id)
      (last : new.lastHeartbeat = old.lastHeartbeat) (unwell : new.health ≠ .healthy) :
      Change timeout r a (r.set id new)
  | sweep (now : UInt64) : Change timeout r (.sweep now) (r.demoteStale now timeout).2

theorem map_snd_ok {α : Type} {x : Except ServiceError (α × Registry)} (h : x.map Prod.snd = .ok r') :
    ∃ answer, x = .ok (answer, r') := by
  cases x with
  | error why => cases h
  | ok outcome =>
    obtain ⟨answer, r''⟩ := outcome
    exact ⟨answer, by rw [← Except.ok.inj h]⟩

/-- An accepted reinstatement leaves a healthy record with the time of the reinstatement. -/
theorem reinstate_eq {changed : Bool} (h : r.reinstate id now = .ok (changed, r')) :
    ∃ old, r.live? id = some old ∧ changed = decide (old.health ≠ .healthy) ∧
      r' = r.set id { old with lastHeartbeat := now, health := .healthy } := by
  unfold reinstate at h
  cases htouch : r.touch id now with
  | error why => rw [htouch] at h; cases h
  | ok touched =>
    rw [htouch] at h
    obtain ⟨old, hold, rfl⟩ := map_live_ok htouch
    obtain ⟨new, hnew, heq⟩ := map_live_ok h
    obtain ⟨hchanged, rfl⟩ := Prod.mk.inj heq
    have htouched : ({ old with lastHeartbeat := now } : Node).isLive := (live?_eq_some.1 hold).2
    obtain rfl := Option.some.inj ((live?_set_self htouched).symm.trans hnew)
    exact ⟨old, hold, hchanged.symm, congrArg Registry.mk (Table.insert_insert _ _ _ _)⟩

theorem act_ok (hr : r.Keyed) (h : r.act timeout a = .ok r') : Change timeout r a r' := by
  cases a with
  | register id host port capacity now =>
    obtain ⟨new, h⟩ := map_snd_ok h
    unfold register at h
    split at h
    · cases h
    · obtain ⟨-, rfl⟩ := Prod.mk.inj (Except.ok.inj h)
      exact .sign rfl rfl rfl rfl
  | heartbeat id free now =>
    obtain ⟨_, h⟩ := map_snd_ok h
    obtain ⟨old, hold, heq⟩ := map_live_ok h
    obtain ⟨-, rfl⟩ := Prod.mk.inj heq
    exact .sign rfl (hr.named id old hold) rfl rfl
  | fail id =>
    obtain ⟨_, h⟩ := map_snd_ok h
    obtain ⟨old, hold, heq⟩ := map_live_ok h
    obtain ⟨-, rfl⟩ := Prod.mk.inj heq
    exact .lapse rfl rfl hold (hr.named id old hold) rfl (by simp)
  | reinstate id now =>
    obtain ⟨_, h⟩ := map_snd_ok h
    obtain ⟨old, hold, -, rfl⟩ := reinstate_eq h
    exact .sign rfl (hr.named id old hold) rfl rfl
  | remove id force references =>
    obtain ⟨old, hold, -, rfl⟩ := remove_ok h
    exact .lapse rfl rfl hold (hr.named id old hold) rfl (by simp)
  | sweep now =>
    rw [← Except.ok.inj h]
    exact .sweep now

theorem after_cases (timeout : UInt64) (r : Registry) (a : Action) :
    (∃ why, r.act timeout a = .error why ∧ r.after timeout a = r) ∨
      ∃ r', r.act timeout a = .ok r' ∧ r.after timeout a = r' := by
  unfold after
  cases r.act timeout a with
  | error why => exact .inl ⟨why, rfl, rfl⟩
  | ok r' => exact .inr ⟨r', rfl, rfl⟩

theorem get?_demoteStale (r : Registry) (now timeout : UInt64) (id : NodeId) :
    (r.demoteStale now timeout).2.get? id = (r.get? id).map fun n =>
      if isStale now timeout n then { n with health := .unhealthy } else n :=
  Table.get?_map _ _ _

theorem heard?_of_error {why : ServiceError} (h : r.act timeout a = .error why) :
    heard? timeout r id a = none := by
  unfold heard?
  rw [h]
  split <;> simp_all

theorem heard?_of_sign {id' : NodeId} (h : r.act timeout a = .ok r')
    (hsign : a.sign? = some (id', now)) :
    heard? timeout r id a = if id' = id then some now else none := by
  rw [heard?, h, hsign]

theorem heard?_of_silent (hsign : a.sign? = none) : heard? timeout r id a = none := by
  rw [heard?, hsign]

/-- A node that is healthy after an action has been so before, or the action is a sign of life of
it. -/
theorem isHealthy_after (hr : r.Keyed) (h : (r.after timeout a).isHealthy id) :
    r.isHealthy id ∨ ∃ now, heard? timeout r id a = some now := by
  rcases after_cases timeout r a with ⟨why, -, hsame⟩ | ⟨r', hact, hafter⟩
  · exact .inl (hsame ▸ h)
  rw [hafter] at h
  have key : ∀ {id' : NodeId} {new : Node}, (r.set id' new).isHealthy id → id' ≠ id →
      r.isHealthy id := by
    intro id' new h hid
    rwa [isHealthy, get?, set, Table.get?_insert_of_ne _ _ (Ne.symm hid)] at h
  cases act_ok hr hact with
  | @sign _ id' now new sign =>
    by_cases hid : id' = id
    · exact .inr ⟨now, by rw [heard?_of_sign hact sign, if_pos hid]⟩
    · exact .inl (key h hid)
  | @lapse _ id' old new _ _ _ _ _ unwell =>
    by_cases hid : id' = id
    · subst hid
      simp [isHealthy, get?, set, Node.isHealthy, unwell] at h
    · exact .inl (key h hid)
  | sweep now =>
    left
    rw [isHealthy, get?_demoteStale, Option.any_map] at h
    rw [isHealthy]
    cases hnode : r.get? id with
    | none => simp [hnode] at h
    | some node =>
      rw [hnode] at h
      by_cases hstale : isStale now timeout node
      · simp [hstale, Node.isHealthy] at h
      · simpa [hstale] using h

/-! ## Whole runs -/

/-- Every record is stored under its own name, with the last sign of life as last heartbeat. -/
structure Tracked (timeout : UInt64) (past : List Action) : Prop where
  keyed : (play timeout past).Keyed
  contact : ∀ id node, (play timeout past).get? id = some node →
    contact? timeout id past = some node.lastHeartbeat

theorem Tracked.cons (h : Tracked timeout past) (a : Action) : Tracked timeout (a :: past) := by
  rcases after_cases timeout (play timeout past) a with ⟨why, hact, hsame⟩ | ⟨r', hact, hafter⟩
  · refine ⟨by rw [play, hsame]; exact h.keyed, fun id node hnode => ?_⟩
    rw [play, hsame] at hnode
    rw [contact?, heard?_of_error hact, Option.none_or]
    exact h.contact id node hnode
  cases act_ok h.keyed hact with
  | @sign _ id' now new sign named last _ =>
    refine ⟨by rw [play, hafter]; exact h.keyed.set named, fun id node hnode => ?_⟩
    rw [play, hafter] at hnode
    rw [contact?, heard?_of_sign hact sign]
    rcases Table.get?_insert_eq_some.1 hnode with ⟨rfl, rfl⟩ | ⟨hne, hold⟩
    · rw [if_pos rfl, Option.some_or, last]
    · rw [if_neg (Ne.symm hne), Option.none_or]
      exact h.contact id node hold
  | @lapse _ id' old new _ silent live named last _ =>
    refine ⟨by rw [play, hafter]; exact h.keyed.set named, fun id node hnode => ?_⟩
    rw [play, hafter] at hnode
    rw [contact?, heard?_of_silent silent, Option.none_or]
    rcases Table.get?_insert_eq_some.1 hnode with ⟨rfl, rfl⟩ | ⟨-, hold⟩
    · rw [last]
      exact h.contact id old (live?_eq_some.1 live).1
    · exact h.contact id node hold
  | sweep now =>
    refine ⟨by rw [play, hafter]; exact h.keyed.demoteStale now timeout, fun id node hnode => ?_⟩
    rw [play, hafter, get?_demoteStale] at hnode
    rw [contact?, heard?_of_silent rfl, Option.none_or]
    obtain ⟨old, hold, rfl⟩ := Option.map_eq_some_iff.1 hnode
    rw [h.contact id old hold]
    split <;> rfl

theorem Tracked.play (timeout : UInt64) (actions : List Action) : Tracked timeout actions := by
  induction actions with
  | nil => exact ⟨.empty, fun id node hnode => by cases hnode⟩
  | cons a past ih => exact ih.cons a

/-- A sweep finds stale what is overdue. -/
theorem Tracked.overdue_iff (h : Tracked timeout past) :
    Overdue timeout past now id ↔
      ∃ node, (Registry.play timeout past).get? id = some node ∧ isStale now timeout node := by
  have hstale : ∀ node : Node, isStale now timeout node ↔
      node.isHealthy ∧ timeout.toNat < now.toNat - node.lastHeartbeat.toNat := by
    intro node
    rw [isStale, Bool.and_eq_true, decide_eq_true_eq, UInt64.lt_iff_toNat_lt, UInt64.toNat_satSub]
  constructor
  · rintro ⟨hhealthy, last, hlast, hlapse⟩
    rw [isHealthy, Option.any_eq_true] at hhealthy
    obtain ⟨node, hnode, hhealthy⟩ := hhealthy
    rw [h.contact id node hnode, Option.some_inj] at hlast
    exact ⟨node, hnode, (hstale node).2 ⟨hhealthy, hlast ▸ hlapse⟩⟩
  · rintro ⟨node, hnode, hlapse⟩
    obtain ⟨hhealthy, hlapse⟩ := (hstale node).1 hlapse
    refine ⟨?_, node.lastHeartbeat, h.contact id node hnode, hlapse⟩
    rw [isHealthy, Option.any_eq_true]
    exact ⟨node, hnode, hhealthy⟩

/-! ## Sweeps -/

/-- Only what is overdue is reported. -/
theorem mem_reported : id ∈ reported timeout past now ↔ Overdue timeout past now id := by
  have htracked := Tracked.play timeout past
  rw [htracked.overdue_iff]
  simp only [reported, demoteStale, List.mem_map, List.mem_filter]
  constructor
  · rintro ⟨node, ⟨hmem, hstale⟩, rfl⟩
    obtain ⟨id, hid⟩ := Table.mem_values.1 hmem
    obtain rfl := htracked.keyed id node hid
    exact ⟨node, hid, hstale⟩
  · rintro ⟨node, hnode, hstale⟩
    exact ⟨node, ⟨Table.mem_values.2 ⟨id, hnode⟩, hstale⟩, htracked.keyed id node hnode⟩

theorem pairwise_reported (timeout : UInt64) (past : List Action) (now : UInt64) :
    (reported timeout past now).Pairwise fun a b => compare a b = .lt := by
  have hnames : (play timeout past).all.map Node.id = (play timeout past).nodes.keys :=
    Table.map_values (Tracked.play timeout past).keyed
  have hsorted := (play timeout past).nodes.pairwise_keys
  rw [← hnames] at hsorted
  exact hsorted.sublist (List.filter_sublist.map Node.id)

theorem get?_sweep (timeout : UInt64) (past : List Action) (now : UInt64) (id : NodeId) :
    (Overdue timeout past now id → (play timeout (.sweep now :: past)).get? id =
      ((play timeout past).get? id).map fun n => { n with health := .unhealthy }) ∧
    (¬Overdue timeout past now id →
      (play timeout (.sweep now :: past)).get? id = (play timeout past).get? id) := by
  have hget : (play timeout (.sweep now :: past)).get? id = _ :=
    get?_demoteStale (play timeout past) now timeout id
  rw [hget, (Tracked.play timeout past).overdue_iff]
  cases hnode : (play timeout past).get? id with
  | none => simp
  | some node =>
    constructor
    · rintro ⟨stale, hsame, hstale⟩
      obtain rfl := Option.some.inj hsame
      simp [hstale]
    · intro hfresh
      have hstale : ¬isStale now timeout node := fun hstale => hfresh ⟨node, rfl, hstale⟩
      simp [hstale]

/-- A node that is not healthy becomes so by a sign of life of its own. -/
theorem exists_heard (hbefore : (play timeout past).isHealthy id = false) :
    ∀ recent : List Action, (play timeout (recent ++ past)).isHealthy id →
      ∃ newer a older, recent = newer ++ a :: older ∧
        ∃ last, heard? timeout (play timeout (older ++ past)) id a = some last
  | [], h => by rw [List.nil_append, hbefore] at h; cases h
  | a :: recent, h => by
    rcases isHealthy_after (Tracked.play timeout (recent ++ past)).keyed h with h | hheard
    · obtain ⟨newer, a', older, rfl, hheard⟩ := exists_heard hbefore recent h
      exact ⟨a :: newer, a', older, rfl, hheard⟩
    · exact ⟨[], a, recent, rfl, hheard⟩

/-! ## Removed nodes -/

/-- A removed node is on record as such. -/
def IsRemoved (r : Registry) (id : NodeId) : Prop :=
  ∃ node, r.get? id = some node ∧ node.health = .removed

theorem IsRemoved.live?_eq_none (h : r.IsRemoved id) : r.live? id = none := by
  obtain ⟨node, hnode, hremoved⟩ := h
  rw [live?, hnode]
  simp [Option.filter, Node.isLive, hremoved]

theorem IsRemoved.live_eq_error (h : r.IsRemoved id) : r.live id = .error (.unknownNode id) := by
  rw [live, h.live?_eq_none]

/-- Whatever is asked about a removed node except that it register is refused. -/
theorem IsRemoved.act_eq_error (h : r.IsRemoved id) (ha : a.node? = some id)
    (hregisters : a.registers = false) : r.act timeout a = .error (.unknownNode id) := by
  cases a with
  | register => cases hregisters
  | heartbeat _ free now =>
    obtain rfl := Option.some.inj ha
    rw [act, recordHeartbeat, h.live_eq_error]
    rfl
  | fail _ =>
    obtain rfl := Option.some.inj ha
    rw [act, markUnhealthy, setHealth, h.live_eq_error]
    rfl
  | reinstate _ now =>
    obtain rfl := Option.some.inj ha
    rw [act, reinstate, touch, h.live_eq_error]
    rfl
  | remove _ force references =>
    obtain rfl := Option.some.inj ha
    rw [act, remove, h.live_eq_error]
    rfl
  | sweep => cases ha

theorem IsRemoved.adjustFree_eq_error (h : r.IsRemoved id) (delta : Int64) :
    r.adjustFree id delta = .error (.unknownNode id) :=
  Registry.adjustFree_eq_error h.live?_eq_none delta

/-- A removed node that registers gets a fresh record. -/
theorem IsRemoved.register_eq_ok (h : r.IsRemoved id) (host : String) (port : UInt16)
    (capacity now : UInt64) :
    r.register id host port capacity now =
      .ok (⟨id, host, port, capacity, capacity, .healthy, now, now⟩,
        r.set id ⟨id, host, port, capacity, capacity, .healthy, now, now⟩) := by
  rw [register, isLive, h.live?_eq_none]
  rfl

/-- Nothing else touches the record of a removed node. -/
theorem IsRemoved.get?_after (hr : r.Keyed) (h : r.IsRemoved id)
    (ha : a.node? = some id → a.registers = false) : (r.after timeout a).get? id = r.get? id := by
  rcases after_cases timeout r a with ⟨why, -, hsame⟩ | ⟨r', hact, hafter⟩
  · rw [hsame]
  have hother : a.node? ≠ some id := fun hid => by
    rw [h.act_eq_error hid (ha hid)] at hact
    cases hact
  rw [hafter]
  cases act_ok hr hact with
  | sign sign =>
    refine Table.get?_insert_of_ne _ _ fun heq => hother ?_
    rw [heq, Action.node?_of_sign sign]
  | lapse about => exact Table.get?_insert_of_ne _ _ fun heq => hother (heq ▸ about)
  | sweep now =>
    obtain ⟨node, hnode, hremoved⟩ := h
    rw [get?_demoteStale, hnode]
    simp [isStale, Node.isHealthy, hremoved]

/-! ## The laws together -/

/-- What holds of the health of nodes after a run. -/
structure HealthLaws (timeout : UInt64) (past : List Action) : Prop where
  /-- A sweep names nodes in ascending order. -/
  ascending : ∀ now, (reported timeout past now).Pairwise fun a b => compare a b = .lt
  /-- It names the healthy nodes whose last sign of life is longer ago than the timeout. -/
  overdue : ∀ now id, id ∈ reported timeout past now ↔ Overdue timeout past now id
  /-- It makes them unhealthy and changes nothing else. -/
  demotes : ∀ now id, (play timeout (.sweep now :: past)).get? id =
    if id ∈ reported timeout past now then
      ((play timeout past).get? id).map fun n => { n with health := .unhealthy }
    else (play timeout past).get? id
  /-- Nobody is named before the deadline. -/
  patient : ∀ id last now, contact? timeout id past = some last →
    now.toNat ≤ last.toNat + timeout.toNat → id ∉ reported timeout past now
  /-- Nobody is named twice without an accepted sign of life in between. -/
  once : ∀ id now before recent older, past = recent ++ .sweep before :: older →
    id ∈ reported timeout older before → id ∈ reported timeout past now →
    ∃ newer a since, recent = newer ++ a :: since ∧
      ∃ last, heard? timeout (play timeout (since ++ .sweep before :: older)) id a = some last
  /-- A removed node that registers gets a fresh record. -/
  renewed : ∀ id, (play timeout past).IsRemoved id → ∀ host port capacity now,
    (play timeout past).register id host port capacity now =
      .ok (⟨id, host, port, capacity, capacity, .healthy, now, now⟩,
        (play timeout past).set id ⟨id, host, port, capacity, capacity, .healthy, now, now⟩)
  /-- All else that is asked about a removed node is refused. -/
  refused : ∀ id, (play timeout past).IsRemoved id →
    (∀ a : Action, a.node? = some id → a.registers = false →
      (play timeout past).act timeout a = .error (.unknownNode id)) ∧
    ∀ delta, (play timeout past).adjustFree id delta = .error (.unknownNode id)
  /-- Unless it registers, a removed node stays as it is. -/
  final : ∀ id, (play timeout past).IsRemoved id → ∀ a : Action,
    (a.node? = some id → a.registers = false) →
    (play timeout (a :: past)).get? id = (play timeout past).get? id

/-- The laws hold after every run, whatever the clock has shown. -/
theorem health_of_play (timeout : UInt64) (past : List Action) : HealthLaws timeout past where
  ascending := pairwise_reported timeout past
  overdue now id := mem_reported
  demotes now id := by
    obtain ⟨hdemoted, hkept⟩ := get?_sweep timeout past now id
    split
    · next hid => exact hdemoted (mem_reported.1 hid)
    · next hid => exact hkept fun hoverdue => hid (mem_reported.2 hoverdue)
  patient id last now hlast hearly hid := by
    obtain ⟨-, last', hlast', hlapse⟩ := mem_reported.1 hid
    rw [hlast, Option.some_inj] at hlast'
    subst hlast'
    omega
  once id now before recent older hpast hbefore hnow := by
    subst hpast
    refine exists_heard ?_ recent (mem_reported.1 hnow).1
    rw [isHealthy, (get?_sweep timeout older before id).1 (mem_reported.1 hbefore), Option.any_map]
    simp [Node.isHealthy]
  renewed id hremoved := hremoved.register_eq_ok
  refused id hremoved := ⟨fun a => hremoved.act_eq_error, hremoved.adjustFree_eq_error⟩
  final id hremoved a := hremoved.get?_after (Tracked.play timeout past).keyed

/-- A node is silent and is found once; when it has been heard again, it is found once more. -/
example :
    let started : List Action := [.register "n1" "127.0.0.1" 9000 100 100]
    let found : List Action := .sweep 116 :: started
    reported 15 started 115 = [] ∧ reported 15 started 116 = ["n1"] ∧ reported 15 found 200 = [] ∧
      reported 15 (.heartbeat "n1" 70 130 :: found) 146 = ["n1"] := by
  decide +kernel

/-- A removed node is not heard, and no sweep finds it. It begins afresh when it registers anew. -/
example :
    let removed : List Action := [.remove "n1" false 0, .register "n1" "127.0.0.1" 9000 100 100]
    let unheard : List Action := .sweep 300 :: .heartbeat "n1" 70 130 :: removed
    ((play 15 removed).get? "n1").map Node.health = some .removed ∧
      (play 15 removed).act 15 (.heartbeat "n1" 70 130) = .error (.unknownNode "n1") ∧
      (play 15 unheard).get? "n1" = (play 15 removed).get? "n1" ∧ reported 15 unheard 400 = [] ∧
      (play 15 (.register "n1" "127.0.0.1" 9001 80 500 :: unheard)).get? "n1" =
        some ⟨"n1", "127.0.0.1", 9001, 80, 80, .healthy, 500, 500⟩ := by
  decide +kernel

end ChunkCoordinator.Registry
