import ChunkCoordinator.Proofs.Order

/-!
# The life of a coordinator

In its life a coordinator takes requests, and every now and then it is started anew from what it
has saved (`Turn`). In a `Lifetime` a sweep works on records that were read at any earlier point,
and a restart takes over the state that was saved at any earlier point; the supply of identifiers
goes on.

`Annals` sum up what is known of all states so far, and `Lifetime.annals` says that they can be kept
if no identifier is drawn twice : every state is in good order, and a chunk that two states store is
the same but for the nodes that it names. `Lifetime.since` is the induction over what comes after a
given state.
-/

set_option linter.unusedSectionVars false

namespace ChunkCoordinator

/-- A request, or a restart from a saved state. -/
inductive Turn where
  | event (e : Event)
  | restart (settings : Settings) (snapshot : Snapshot) (now : UInt64)

/-- What a sweep works on was read, and what a restart takes over was saved, in some of these
states. -/
def Turn.ReadFrom (states : List Cluster) : Turn → Prop
  | .event e => e.ReadFrom states
  | .restart _ snapshot _ => ∃ s ∈ states, ∃ time, snapshot = s.exportSnapshot time

theorem Turn.ReadFrom.mono {states states' : List Cluster} (hsubset : states ⊆ states') :
    ∀ {turn : Turn}, turn.ReadFrom states → turn.ReadFrom states'
  | .event (.sweep _ _ _), ⟨⟨s, hs, hchunks⟩, s', hs', hnodes⟩ =>
    ⟨⟨s, hsubset hs, hchunks⟩, s', hsubset hs', hnodes⟩
  | .restart _ _ _, ⟨s, hs, hsaved⟩ => ⟨s, hsubset hs, hsaved⟩
  | .event (.register ..), _ | .event (.heartbeat ..), _ | .event (.upload ..), _
  | .event (.report ..), _ | .event (.deleteFile _), _ | .event (.failNode _), _
  | .event (.restoreNode ..), _ | .event (.removeNode ..), _
  | .event (.sweepTimeouts _), _ => trivial

/-- The state that a turn leaves behind. -/
def Cluster.afterTurn (c : Cluster) : Turn → Cluster
  | .event e => c.after e
  | .restart settings snapshot now => (c.restart settings snapshot now).cluster

/-- The turns of a life, the newest first, each with the state before it, and the state after
all. -/
inductive Lifetime (start : Cluster) : List (Cluster × Turn) → Cluster → Prop where
  | nil : Lifetime start [] start
  | cons {steps : List (Cluster × Turn)} {c : Cluster} {turn : Turn} (life : Lifetime start steps c)
      (read : turn.ReadFrom (c :: steps.map Prod.fst)) :
      Lifetime start ((c, turn) :: steps) (c.afterTurn turn)

/-- The events of a run as turns of a life. -/
def Run.turns (steps : List (Cluster × Event)) : List (Cluster × Turn) :=
  steps.map fun s => (s.1, .event s.2)

theorem Run.mem_turns {steps : List (Cluster × Event)} {s : Cluster} {e : Event} :
    (s, .event e) ∈ turns steps ↔ (s, e) ∈ steps := by
  simp [turns]

/-- A run is a life without restarts. -/
theorem Run.lifetime {start c : Cluster} {steps : List (Cluster × Event)} (h : Run start steps c) :
    Lifetime start (turns steps) c := by
  induction h with
  | nil => exact .nil
  | @cons steps c e run read ih =>
    have hread : Turn.ReadFrom (c :: (turns steps).map Prod.fst) (.event e) := by
      rw [turns, List.map_map]
      exact read
    exact ih.cons hread

/-! ## What is known of all states -/

/-- What is known of some states that lead up to a last one, `ids` being the identifiers of the
first. -/
structure Annals (ids : IdSupply) (states : List Cluster) (c : Cluster) : Prop where
  last : c ∈ states
  nth : c.ids.nth = ids.nth
  drawn : ids.drawn ≤ c.ids.drawn
  orderly : ∀ s ∈ states, s.Orderly
  dated : ∀ s ∈ states, ∀ id, s.Uses id → ∃ k ∈ Set.Ioc ids.drawn c.ids.drawn, ids.nth k = id
  kept : ∀ s ∈ states, ∀ s' ∈ states, ∀ id r r', s.store.chunk? id = some r →
    s'.store.chunk? id = some r' → r.bare = r'.bare

namespace Annals

variable {ids : IdSupply} {states : List Cluster} {c c' : Cluster}

theorem history (h : Annals ids states c) : History ids states c where
  last := h.last
  nth := h.nth
  drawn := h.drawn
  sound := fun s hs => (h.orderly s hs).sound
  dated := fun s hs id r hr => h.dated s hs id (.inl ⟨r, hr⟩)
  kept := fun s hs => h.kept s hs c h.last

/-- An identifier that is drawn only later is not in use yet. -/
theorem unused (h : Annals ids states c)
    (hinj : Set.InjOn ids.nth (Set.Ioc ids.drawn c'.ids.drawn)) (hle : c.ids.drawn ≤ c'.ids.drawn)
    {k : Nat} (hk : k ∈ Set.Ioc c.ids.drawn c'.ids.drawn) {s : Cluster} (hs : s ∈ states) :
    ¬s.Uses (ids.nth k) := by
  intro huses
  obtain ⟨j, ⟨hlow, hhigh⟩, hj⟩ := h.dated s hs _ huses
  have hdrawn := h.drawn
  have hjk : j = k := hinj ⟨hlow, hhigh.trans hle⟩ ⟨hdrawn.trans_lt hk.1, hk.2⟩ hj
  exact absurd hk.1 (by omega)

theorem drawsFresh (h : Annals ids states c) (hle : c.ids.drawn ≤ c'.ids.drawn)
    (hinj : Set.InjOn ids.nth (Set.Ioc ids.drawn c'.ids.drawn)) : Cluster.DrawsFresh c c' := by
  have hlater : Set.Ioc c.ids.drawn c'.ids.drawn ⊆ Set.Ioc ids.drawn c'.ids.drawn :=
    fun k hk => ⟨h.drawn.trans_lt hk.1, hk.2⟩
  exact ⟨h.nth ▸ hinj.mono hlater, fun k hk => h.nth ▸ h.unused hinj hle hk h.last⟩

/-- One more state, which is in good order and has all that it uses from earlier states or has just
drawn it. -/
theorem cons (h : Annals ids states c) (hnth : c'.ids.nth = c.ids.nth)
    (hle : c.ids.drawn ≤ c'.ids.drawn) (horderly : c'.Orderly)
    (hinj : Set.InjOn ids.nth (Set.Ioc ids.drawn c'.ids.drawn))
    (huses : ∀ id, c'.Uses id → (∃ s ∈ states, s.Uses id) ∨
      ∃ k ∈ Set.Ioc c.ids.drawn c'.ids.drawn, c.ids.nth k = id)
    (hold : ∀ id r', c'.store.chunk? id = some r' →
      (∃ s ∈ states, ∃ r, s.store.chunk? id = some r ∧ r.bare = r'.bare) ∨
        ∃ k ∈ Set.Ioc c.ids.drawn c'.ids.drawn, c.ids.nth k = id) :
    Annals ids (c' :: states) c' := by
  have hdrawn := h.drawn
  have hkept : ∀ s ∈ states, ∀ id r r', s.store.chunk? id = some r → c'.store.chunk? id = some r' →
      r.bare = r'.bare := by
    intro s hs id r r' hr hr'
    rcases hold id r' hr' with ⟨s', hs', old, hold, hbare⟩ | ⟨k, hk, hid⟩
    · exact (h.kept s hs s' hs' id r old hr hold).trans hbare
    · rw [← hid, h.nth] at hr
      exact absurd (.inl ⟨r, hr⟩) (h.unused hinj hle hk hs)
  refine ⟨List.mem_cons_self, hnth.trans h.nth, hdrawn.trans hle,
    List.forall_mem_cons.2 ⟨horderly, h.orderly⟩, ?_, ?_⟩
  · have hdated : ∀ s ∈ states, ∀ id, s.Uses id →
        ∃ k ∈ Set.Ioc ids.drawn c'.ids.drawn, ids.nth k = id := by
      intro s hs id hid
      obtain ⟨k, hk, heq⟩ := h.dated s hs id hid
      exact ⟨k, ⟨hk.1, hk.2.trans hle⟩, heq⟩
    refine List.forall_mem_cons.2 ⟨fun id hid => ?_, hdated⟩
    rcases huses id hid with ⟨s, hs, hid⟩ | ⟨k, hk, heq⟩
    · exact hdated s hs id hid
    · exact ⟨k, ⟨hdrawn.trans_lt hk.1, hk.2⟩, h.nth ▸ heq⟩
  · refine List.forall_mem_cons.2 ⟨List.forall_mem_cons.2 ⟨fun id r r' hr hr' => ?_, ?_⟩,
      fun s hs => List.forall_mem_cons.2 ⟨hkept s hs, h.kept s hs⟩⟩
    · rw [Option.some.inj (hr.symm.trans hr')]
    · exact fun s hs id r r' hr hr' => (hkept s hs id r' r hr' hr).symm

theorem after (h : Annals ids states c) (e : Event)
    (hinj : Set.InjOn ids.nth (Set.Ioc ids.drawn (c.after e).ids.drawn)) :
    Annals ids (c.after e :: states) (c.after e) := by
  have heffect := Cluster.effect_after c e
  obtain ⟨hnth, hle⟩ := heffect.drawn
  have hsound := (h.orderly c h.last).sound
  refine h.cons hnth hle ((h.orderly c h.last).after (h.drawsFresh hle hinj)) hinj
    (fun id hid => ?_) fun id r' hr' => ?_
  · exact (heffect.uses hsound hid).imp_left fun hid => ⟨c, h.last, hid⟩
  · exact (heffect.chunk?_cases hsound hr').imp_left fun hr => ⟨c, h.last, hr⟩

theorem restart (h : Annals ids states c) {s : Cluster} (hs : s ∈ states) (settings : Settings)
    (time now : UInt64)
    (hinj : Set.InjOn ids.nth (Set.Ioc ids.drawn c.ids.drawn)) :
    Annals ids ((c.restart settings (s.exportSnapshot time) now).cluster :: states)
      (c.restart settings (s.exportSnapshot time) now).cluster := by
  have hids := Cluster.ids_restart c settings (s.exportSnapshot time) now
  have hsaved := h.orderly s hs
  refine h.cons (by rw [hids]) (by rw [hids]) (hsaved.restart c settings time now)
    (by rwa [hids]) (fun id hid => ?_) fun id r' hr' => ?_
  · exact .inl ⟨s, hs, hsaved.uses_of_restart hid⟩
  · exact .inl ⟨s, hs, r', hsaved.chunk?_of_restart hr', rfl⟩

end Annals

namespace Lifetime

variable {start b c : Cluster} {steps later : List (Cluster × Turn)} {settings : Settings}
  {ids : IdSupply}

theorem drawn_afterTurn (c : Cluster) : ∀ turn, (c.afterTurn turn).ids.nth = c.ids.nth ∧
    c.ids.drawn ≤ (c.afterTurn turn).ids.drawn
  | .event e => (Cluster.effect_after c e).drawn
  | .restart settings snapshot now => by
    have hids : (c.afterTurn (.restart settings snapshot now)).ids = c.ids :=
      Cluster.ids_restart c settings snapshot now
    rw [hids]
    exact ⟨rfl, Nat.le_refl _⟩

/-- An earlier state has drawn fewer identifiers. -/
theorem injOn_of_le (hle : b.ids.drawn ≤ c.ids.drawn)
    (h : Set.InjOn ids.nth (Set.Ioc ids.drawn c.ids.drawn)) :
    Set.InjOn ids.nth (Set.Ioc ids.drawn b.ids.drawn) := by
  have hfewer : Set.Ioc ids.drawn b.ids.drawn ⊆ Set.Ioc ids.drawn c.ids.drawn :=
    fun _ hk => ⟨hk.1, hk.2.trans hle⟩
  exact h.mono hfewer

theorem injOn_before {turn : Turn}
    (h : Set.InjOn ids.nth (Set.Ioc ids.drawn (c.afterTurn turn).ids.drawn)) :
    Set.InjOn ids.nth (Set.Ioc ids.drawn c.ids.drawn) :=
  injOn_of_le (drawn_afterTurn c turn).2 h

/-- If no identifier is drawn twice, the annals of a life from a fresh coordinator can be kept. -/
theorem annals (h : Lifetime (.fresh settings ids) steps c)
    (hinj : Set.InjOn ids.nth (Set.Ioc ids.drawn c.ids.drawn)) :
    Annals ids (c :: steps.map Prod.fst) c := by
  induction h with
  | nil =>
    refine ⟨List.mem_cons_self, rfl, Nat.le_refl _, ?_, ?_, ?_⟩
    · exact List.forall_mem_singleton.2 (.fresh settings ids)
    · exact List.forall_mem_singleton.2 fun id hid => absurd hid (Cluster.not_uses_fresh _ _ id)
    · refine List.forall_mem_singleton.2 (List.forall_mem_singleton.2 fun id r r' hr _ => ?_)
      cases hr
  | @cons steps c turn life read ih =>
    have hbefore := ih (injOn_before hinj)
    cases turn with
    | event e => exact hbefore.after e hinj
    | restart settings snapshot now =>
      obtain ⟨s, hs, time, rfl⟩ := read
      exact hbefore.restart hs settings time now (injOn_before hinj)

/-- The states before and after a turn are among those of the life. -/
theorem mem_states (h : Lifetime start steps c) {s : Cluster} {turn : Turn}
    (hstep : (s, turn) ∈ steps) :
    s ∈ c :: steps.map Prod.fst ∧ s.afterTurn turn ∈ c :: steps.map Prod.fst := by
  induction h with
  | nil => cases hstep
  | @cons steps c turn' life read ih =>
    rcases List.mem_cons.1 hstep with heq | hstep
    · obtain ⟨rfl, rfl⟩ := Prod.mk.inj heq
      exact ⟨by simp, by simp⟩
    · obtain ⟨hbefore, hafter⟩ := ih hstep
      exact ⟨List.mem_cons_of_mem _ hbefore, List.mem_cons_of_mem _ hafter⟩

/-- A life may go on. -/
theorem append (h : Lifetime start steps b) (hlater : Lifetime b later c) :
    Lifetime start (later ++ steps) c := by
  induction hlater with
  | nil => exact h
  | @cons later c turn life read ih =>
    refine ih.cons (read.mono ?_)
    rw [List.map_append]
    exact List.cons_subset_cons _ (List.subset_append_left _ _)

/-- A part of a life has come to some state, from which the rest goes on. -/
theorem of_append (h : Lifetime start (later ++ steps) c) :
    ∃ b, Lifetime start steps b ∧ b.ids.drawn ≤ c.ids.drawn := by
  induction later generalizing c with
  | nil => exact ⟨c, h, Nat.le_refl _⟩
  | cons step later ih =>
    cases h with
    | @cons _ d turn life read =>
    obtain ⟨b, hb, hle⟩ := ih life
    exact ⟨b, hb, hle.trans (drawn_afterTurn d turn).2⟩

/-- It has come to no other. -/
theorem eq_of_steps {c' : Cluster} (h : Lifetime start steps c) (h' : Lifetime start steps c') :
    c = c' := by
  cases h <;> cases h' <;> rfl

/-! ## From then on -/

/-- Every restart in these steps takes over a state that was saved in their course. -/
def SavedSince : List (Cluster × Turn) → Prop
  | [] => True
  | (_, .event _) :: steps => SavedSince steps
  | (s, .restart _ snapshot _) :: steps =>
    (∃ b ∈ s :: steps.map Prod.fst, ∃ time, snapshot = b.exportSnapshot time) ∧ SavedSince steps

/-- A restart can only take over what has been saved before. -/
theorem savedSince (h : Lifetime start steps c) : SavedSince steps := by
  induction h with
  | nil => trivial
  | @cons steps c turn life read ih =>
    cases turn with
    | event e => exact ih
    | restart settings snapshot now => exact ⟨read, ih⟩

/-- An event that happens after some states, with what is known of them. -/
structure Happening (ids : IdSupply) (states : List Cluster) (s : Cluster) (e : Event) : Prop where
  annals : Annals ids states s
  read : e.ReadFrom states
  distinct : Set.InjOn ids.nth (Set.Ioc ids.drawn (s.after e).ids.drawn)

namespace Happening

variable {states : List Cluster} {s : Cluster} {e : Event}

theorem orderly (h : Happening ids states s e) : s.Orderly := h.annals.orderly s h.annals.last

theorem fresh (h : Happening ids states s e) : Cluster.DrawsFresh s (s.after e) :=
  h.annals.drawsFresh (Cluster.effect_after s e).drawn.2 h.distinct

/-- The identifiers that the event draws have not been in use. -/
theorem unused (h : Happening ids states s e) {k : Nat}
    (hk : k ∈ Set.Ioc s.ids.drawn (s.after e).ids.drawn) (hb : b ∈ states) :
    ¬b.Uses (s.ids.nth k) :=
  h.annals.nth ▸ h.annals.unused h.distinct (Cluster.effect_after s e).drawn.2 hk hb

end Happening

/-- The last event of a life. -/
theorem happening {s : Cluster} {e : Event}
    (h : Lifetime (.fresh settings ids) ((s, .event e) :: steps) c)
    (hinj : Set.InjOn ids.nth (Set.Ioc ids.drawn c.ids.drawn)) :
    Happening ids (s :: steps.map Prod.fst) s e := by
  cases h with
  | cons life read => exact ⟨life.annals (injOn_before hinj), read, hinj⟩

/-- What holds of a state holds from then on, if later events keep it and restarts bring it back. -/
theorem since {P : Cluster → Prop} (hbefore : Lifetime (.fresh settings ids) steps b) (hb : P b)
    (h : Lifetime (.fresh settings ids) (later ++ steps) c)
    (hinj : Set.InjOn ids.nth (Set.Ioc ids.drawn c.ids.drawn)) (hsaved : SavedSince later)
    (hevent : ∀ states s e, (s, .event e) ∈ later → Happening ids states s e →
      steps.map Prod.fst ⊆ states → P s → P (s.after e))
    (hrestart : ∀ s saved settings time now,
      (s, .restart settings (saved.exportSnapshot time) now) ∈ later →
      saved ∈ c :: (later ++ steps).map Prod.fst → saved.Orderly → P saved →
      P (s.restart settings (saved.exportSnapshot time) now).cluster) :
    ∀ s ∈ c :: later.map Prod.fst, P s := by
  induction later generalizing c with
  | nil =>
    rw [← hbefore.eq_of_steps h]
    exact List.forall_mem_singleton.2 hb
  | cons step later ih =>
    have hlife := h
    cases h with
    | @cons _ s turn life read =>
    have hinj' := injOn_before hinj
    have hall : SavedSince later → ∀ s' ∈ s :: later.map Prod.fst, P s' := fun hsaved =>
      ih life hinj' hsaved
        (fun states s' e hstep => hevent states s' e (List.mem_cons_of_mem _ hstep))
        fun s' saved settings time now hstep hmem =>
          hrestart s' saved settings time now (List.mem_cons_of_mem _ hstep)
            (List.mem_cons_of_mem _ hmem)
    cases turn with
    | event e =>
      have hearlier : steps.map Prod.fst ⊆ s :: (later ++ steps).map Prod.fst := by
        rw [List.map_append]
        exact List.subset_cons_of_subset _ (List.subset_append_right _ _)
      have hs := hall hsaved s List.mem_cons_self
      have hafter := hevent _ s e List.mem_cons_self (hlife.happening hinj) hearlier hs
      exact List.forall_mem_cons.2 ⟨hafter, hall hsaved⟩
    | restart settings' snapshot now =>
      have hlater : s :: later.map Prod.fst ⊆ s :: (later ++ steps).map Prod.fst := by
        rw [List.map_append]
        exact List.cons_subset_cons _ (List.subset_append_left _ _)
      obtain ⟨⟨saved, hmem, time, rfl⟩, hsaved⟩ := hsaved
      have horderly := (life.annals hinj').orderly saved (hlater hmem)
      have hafter := hrestart s saved settings' time now List.mem_cons_self
        (List.mem_cons_of_mem _ (hlater hmem)) horderly (hall hsaved saved hmem)
      exact List.forall_mem_cons.2 ⟨hafter, hall hsaved⟩

/-- What holds of a fresh coordinator holds all along, if events keep it and restarts bring it
back. -/
theorem always {P : Cluster → Prop} (h : Lifetime (.fresh settings ids) steps c)
    (hinj : Set.InjOn ids.nth (Set.Ioc ids.drawn c.ids.drawn)) (hfresh : P (.fresh settings ids))
    (hevent : ∀ states s e, (s, .event e) ∈ steps → Happening ids states s e → P s →
      P (s.after e))
    (hrestart : ∀ (s saved : Cluster) settings time now, saved.Orderly → P saved →
      P (s.restart settings (saved.exportSnapshot time) now).cluster) :
    ∀ s ∈ c :: steps.map Prod.fst, P s := by
  have hlife : Lifetime (.fresh settings ids) (steps ++ []) c := (List.append_nil steps).symm ▸ h
  refine Lifetime.nil.since hfresh hlife hinj h.savedSince ?_ ?_
  · exact fun states s e hstep happening _ hs => hevent states s e hstep happening hs
  · exact fun s saved settings time now _ _ => hrestart s saved settings time now

/-! ## Living through given turns -/

/-- Takes one turn after the other, each chosen in view of the state that it finds. -/
def play (steps : List (Cluster × Turn)) (c : Cluster) :
    List (Cluster → Turn) → List (Cluster × Turn) × Cluster
  | [] => (steps, c)
  | choose :: rest => play ((c, choose c) :: steps) (c.afterTurn (choose c)) rest

/-- That is a life, if every turn reads and saves nothing but the records that it finds. -/
theorem of_play : ∀ (choices : List (Cluster → Turn)) {steps : List (Cluster × Turn)} {c : Cluster},
    Lifetime start steps c → (∀ choose ∈ choices, ∀ s, (choose s).ReadFrom [s]) →
    Lifetime start (play steps c choices).1 (play steps c choices).2
  | [], _, _, h, _ => h
  | choose :: rest, steps, c, h, hread => by
    obtain ⟨hfirst, hrest⟩ := List.forall_mem_cons.1 hread
    have hnow : [c] ⊆ c :: steps.map Prod.fst := List.cons_subset_cons _ (List.nil_subset _)
    exact of_play rest (h.cons ((hfirst c).mono hnow)) hrest

theorem mem_play {s : Cluster} {turn : Turn} : ∀ (choices : List (Cluster → Turn))
    (steps : List (Cluster × Turn)) (c : Cluster), (s, turn) ∈ (play steps c choices).1 →
    (s, turn) ∈ steps ∨ ∃ choose ∈ choices, turn = choose s
  | [], _, _, h => .inl h
  | choose :: rest, steps, c, h => by
    rcases mem_play rest _ _ h with h | ⟨choose', hmem, heq⟩
    · rcases List.mem_cons.1 h with heq | h
      · obtain ⟨rfl, rfl⟩ := Prod.mk.inj heq
        exact .inr ⟨choose, List.mem_cons_self, rfl⟩
      · exact .inl h
    · exact .inr ⟨choose', List.mem_cons_of_mem _ hmem, heq⟩

/-- What is true of every request that may be chosen is true of those that have been taken. -/
theorem forall_play {P : Cluster → Event → Prop} {choices : List (Cluster → Turn)} {c : Cluster}
    (h : ∀ choose ∈ choices, ∀ s e, choose s = .event e → P s e) :
    ∀ s e, (s, .event e) ∈ (play [] c choices).1 → P s e := by
  intro s e hstep
  obtain ⟨choose, hchoose, heq⟩ := (mem_play choices [] c hstep).resolve_left List.not_mem_nil
  exact h choose hchoose s e heq.symm

/-- What a new coordinator with the settings by default lives through if it numbers what it
creates. -/
def played (choices : List (Cluster → Turn)) : List (Cluster × Turn) × Cluster :=
  play [] (.fresh .default .counting) choices

theorem of_played {choices : List (Cluster → Turn)}
    (hread : ∀ choose ∈ choices, ∀ s, (choose s).ReadFrom [s]) :
    Lifetime (.fresh .default .counting) (played choices).1 (played choices).2 :=
  of_play choices .nil hread

end Lifetime

end ChunkCoordinator
