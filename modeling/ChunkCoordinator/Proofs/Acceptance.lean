import ChunkCoordinator.Proofs.Consistency
import ChunkCoordinator.Proofs.Integrity

/-!
# What is handed out is taken back

An upload, a sign of life and a sweep are answered with copies that nodes are to make
(`Cluster.handedOut`). Whoever makes one may take any time : as long as its chunk expects the node
(`Cluster.Asks`), the report is accepted unless the node has no room (`Cluster.Asks.accepts`),
whether the instruction is still pending or not. Only a deletion of the file or the removal of the
node ends that (`Cluster.Asks.after`), and a restart from a state that was saved since does not
(`Cluster.Asks.restart`).

`Lifetime.accepts_handedOut` says so of every life in which no deletion leaves something behind. A
deletion that stops halfway may leave a pending instruction without its chunk, which the next sign
of life hands out (`Lifetime.exists_not_accepts`).
-/

set_option linter.unusedSectionVars false

namespace ChunkCoordinator

namespace Cluster

open Store

variable {c c' : Cluster} {e : Event} {key : CopyKey}

/-! ## Copies that are asked for -/

/-- The copies that the answer to an event asks for. -/
def handedOut (c : Cluster) : Event → List CopyKey
  | .heartbeat node free now =>
    match (c.heartbeat node free now).result with
    | .ok response => response.rebalances.map Instruction.key
    | .error _ => []
  | .upload request now =>
    match (c.upload request now).result with
    | .ok plan => plan.chunks.flatMap fun p => p.targets.map fun place => ⟨p.chunk, place.node⟩
    | .error _ => []
  | .sweep chunks nodes now =>
    match (c.sweepOver chunks nodes now).result with
    | .ok report => report.emitted.map Instruction.key
    | .error _ => []
  | _ => []

/-- A stored chunk expects the copy on a node in service. -/
def Asks (c : Cluster) (key : CopyKey) : Prop := c.store.registry.isLive key.target ∧
  ∃ r, c.store.chunk? key.chunk = some r ∧ r.expected.contains key.target

/-- The report of the copy is accepted, or refused for want of space. -/
def Accepts (c : Cluster) (key : CopyKey) : Prop :=
  (∃ response, (c.report key.chunk key.target).result = .ok response) ∨
    ∃ free size, (c.report key.chunk key.target).result =
      .error (.refused (.insufficientCapacity key.target free size))

namespace Asks

theorem accepts (h : c.Asks key) : c.Accepts key := by
  obtain ⟨hlive, r, hr, hexpected⟩ := h
  have hexpecting : Expecting c.store (if c.queue.isPending key.chunk key.target then
      ((c.store.expect key.chunk [key.target]).map Prod.snd).getD c.store else c.store) := by
    split
    · exact expecting_getD _ _ _
    · exact .refl _
  unfold Accepts report
  generalize (if c.queue.isPending key.chunk key.target then
    ((c.store.expect key.chunk [key.target]).map Prod.snd).getD c.store else c.store) = asked
      at hexpecting
  dsimp only
  obtain ⟨nodes, -, hr'⟩ := hexpecting.exists_chunk? hr
  rw [← hexpecting.registry] at hlive
  rcases report_cases hr' (ChunkRecord.contains_expecting.2 (.inr hexpected)) hlive with
    ⟨⟨outcome, store⟩, hreport⟩ | ⟨free, size, hreport⟩
  · rw [hreport]
    exact .inl ⟨_, rfl⟩
  · rw [hreport]
    exact .inr ⟨free, size, rfl⟩

/-- One event. -/
theorem after (h : c.Asks key) (hsound : c.store.Sound) (hnew : DrawsNew c (c.after e))
    (hno : ¬c.Withdraws key e) : (c.after e).Asks key := by
  obtain ⟨hlive, r, hr, hexpected⟩ := h
  obtain ⟨hlive', r', hr', hkeeps⟩ := (effect_after c e).keeps hsound hnew hr hlive
    (fun hdeletes => hno (.inl ⟨r, hr, hdeletes⟩)) fun hremoves => hno (.inr hremoves)
  exact ⟨hlive', r', hr', hkeeps.expected hexpected⟩

/-- A restart. -/
theorem restart {s : Cluster} (h : s.Asks key) (horderly : s.Orderly)
    (hstrays : s.store.catalog.NoStrays) (c : Cluster) (settings : Settings) (time now : UInt64) :
    (c.restart settings (s.exportSnapshot time) now).cluster.Asks key := by
  obtain ⟨hlive, r, hr, hexpected⟩ := h
  have hcatalog := catalog_restart c settings time now horderly.sound horderly.keyed horderly.filed
    hstrays
  have hregistry := (restart_spec c settings time now horderly.sound horderly.filed rfl).2.1
  refine ⟨?_, r, ?_, hexpected⟩
  · rw [hregistry, (Registry.agree_restore_all horderly.keyed now).isLive]
    exact hlive
  · rw [chunk?, hcatalog]
    exact hr

end Asks

/-! ## What is handed out is asked for -/

theorem upload_ok {request : UploadRequest} {now : UInt64} {plan : UploadPlan}
    {reply : Reply UploadPlan} (hreply : c.upload request now = reply)
    (h : reply.result = .ok plan) :
    ∃ file chunks, Created c.store c.ids file chunks reply.cluster.store reply.cluster.ids ∧
      plan.chunks = chunks.map reply.cluster.placement := by
  subst hreply
  rcases c.upload_cases request now with ⟨_, _, heq⟩ | ⟨file, chunks, _, _, _, hcreated, heq⟩ <;>
    rw [heq] at h ⊢
  · cases h
  · obtain rfl := Except.ok.inj h
    exact ⟨file, chunks, hcreated, rfl⟩

/-- An upload is answered with the nodes that the new chunks expect. -/
theorem asks_upload (horderly : c.Orderly) {request : UploadRequest} {now : UInt64}
    (hnew : DrawsNew c (c.after (.upload request now))) {plan : UploadPlan}
    (h : (c.upload request now).result = .ok plan) {p : ChunkPlacement} (hp : p ∈ plan.chunks)
    {place : Endpoint} (hplace : place ∈ p.targets) :
    (c.after (.upload request now)).Asks ⟨p.chunk, place.node⟩ := by
  obtain ⟨file, chunks, hcreated, hchunks⟩ := upload_ok rfl h
  obtain ⟨hids, hunused⟩ := hnew.chunks hcreated
  rw [hchunks] at hp
  obtain ⟨r, hr, rfl⟩ := List.mem_map.1 hp
  have hregistry : (c.after (.upload request now)).store.registry = c.store.registry :=
    (congrArg Store.registry hcreated.store).trans rfl
  have hkeyed : (c.after (.upload request now)).store.registry.Keyed := hregistry ▸ horderly.keyed
  have hexpected : r.expected.contains place.node :=
    Table.mem_keys.1 (hkeyed.mem_of_mem_endpoints hplace)
  refine ⟨?_, r, (hcreated.chunk?_iff hids hunused).2 (.inl ⟨hr, rfl⟩), hexpected⟩
  rw [hregistry]
  exact hcreated.expected_live horderly.sound.named r hr place.node hexpected

/-- A sign of life is answered with pending instructions. -/
theorem asks_heartbeat (horderly : c.Orderly) (hfounded : c.PendingFounded) {node : NodeId}
    {free now : UInt64} (hnew : DrawsNew c (c.after (.heartbeat node free now)))
    {response : HeartbeatResponse} (h : (c.heartbeat node free now).result = .ok response)
    {i : Instruction} (hi : i ∈ response.rebalances) :
    (c.after (.heartbeat node free now)).Asks i.key := by
  have hrebalances : response.rebalances = c.queue.instructionsFor node := by
    unfold heartbeat at h
    split at h
    · cases h
    · next recovered registry hheartbeat =>
      cases recovered <;> rw [← Except.ok.inj h] <;> rfl
  rw [hrebalances] at hi
  obtain ⟨key, hkey⟩ := Table.mem_values.1 (List.mem_of_mem_filter hi)
  obtain ⟨rfl, hlive, r, hr, -, hexpected⟩ := hfounded key i hkey
  have hasks : c.Asks i.key := ⟨hlive, r, hr, hexpected⟩
  exact hasks.after horderly.sound hnew
    (not_withdraws (fun file heq => by cases heq) fun force heq => by cases heq)

theorem asks_of_handedOut (horderly : c.Orderly) (hfounded : c.PendingFounded)
    (hnew : DrawsNew c (c.after e)) (h : key ∈ c.handedOut e) : (c.after e).Asks key := by
  cases e with
  | heartbeat node free now =>
    rw [handedOut] at h
    split at h
    · next response hresponse =>
      obtain ⟨i, hi, rfl⟩ := List.mem_map.1 h
      exact asks_heartbeat horderly hfounded hnew hresponse hi
    · cases h
  | upload request now =>
    rw [handedOut] at h
    split at h
    · next plan hplan =>
      obtain ⟨p, hp, hkey⟩ := List.mem_flatMap.1 h
      obtain ⟨place, hplace, rfl⟩ := List.mem_map.1 hkey
      exact asks_upload horderly hnew hplan hp hplace
    · cases h
  | sweep chunks nodes now =>
    rw [handedOut] at h
    split at h
    · next report hreport =>
      obtain ⟨i, hi, rfl⟩ := List.mem_map.1 h
      obtain ⟨-, hplaced⟩ := sweepOver_ok hreport
      have hregistry := (sweepOver_spec c chunks nodes now).1.registry
      obtain ⟨hlive, hchunk⟩ := hplaced i hi
      exact ⟨hregistry ▸ hlive, hchunk⟩
    · cases h
  | _ => cases h

end Cluster

/-! ## From then on -/

namespace Lifetime

variable {settings : Settings} {ids : IdSupply} {steps later earlier : List (Cluster × Turn)}
  {s c : Cluster} {key : CopyKey}

/-- The instructions stay founded, restarts included, since they are not saved. -/
theorem pendingFounded (h : Lifetime (.fresh settings ids) steps c)
    (hinj : Set.InjOn ids.nth (Set.Ioc ids.drawn c.ids.drawn))
    (hno : ∀ s e, (s, .event e) ∈ steps → ¬s.Orphans e) : c.PendingFounded := by
  refine h.always (P := Cluster.PendingFounded) hinj (fun key i hi => by cases hi) ?_ ?_ c
    List.mem_cons_self
  · intro states s e hstep happening hs
    exact hs.step happening.annals.history happening.read happening.fresh.drawsNew (hno s e hstep)
  · intro s saved settings' time now horderly _ key i hi
    rw [(Cluster.restart_spec s settings' time now horderly.sound horderly.filed rfl).1] at hi
    cases hi

/-- What is asked for once is asked for until it is withdrawn. -/
theorem asks_since (hbefore : Lifetime (.fresh settings ids) steps s) (hasks : s.Asks key)
    (h : Lifetime (.fresh settings ids) (later ++ steps) c)
    (hinj : Set.InjOn ids.nth (Set.Ioc ids.drawn c.ids.drawn))
    (hno : ∀ b d, (b, .event d) ∈ later ++ steps → ¬b.Abandons d) (hsaved : SavedSince later)
    (hkept : ∀ b d, (b, .event d) ∈ later → ¬b.Withdraws key d) :
    ∀ b ∈ c :: later.map Prod.fst, b.Asks key := by
  refine hbefore.since hasks h hinj hsaved ?_ ?_
  · intro states b d hstep happening _ hb
    exact hb.after happening.orderly.sound happening.fresh.drawsNew (hkept b d hstep)
  · intro b saved settings' time now _ hmem horderly hb
    exact hb.restart horderly (h.noStrays hinj hno saved hmem) b settings' time now

/-- In a life that draws no identifier twice and whose deletions leave neither chunks without their
file nor instructions without their chunk, whatever is handed out is accepted, or refused for want
of space, until the file is deleted or the node removed. -/
theorem accepts_handedOut {e : Event}
    (h : Lifetime (.fresh settings ids) (later ++ (s, .event e) :: earlier) c)
    (hinj : Set.InjOn ids.nth (Set.Ioc ids.drawn c.ids.drawn))
    (hwhole : ∀ b d, (b, .event d) ∈ later ++ (s, .event e) :: earlier →
      ¬b.Abandons d ∧ ¬b.Orphans d)
    (hkey : key ∈ s.handedOut e) (hsaved : SavedSince later)
    (hkept : ∀ b d, (b, .event d) ∈ later → ¬b.Withdraws key d) :
    ∀ b ∈ c :: later.map Prod.fst, b.Accepts key := by
  obtain ⟨b, hb, hle⟩ := h.of_append
  have happening := hb.happening (injOn_of_le hle hinj)
  cases hb with
  | cons life read =>
  have hfounded := life.pendingFounded (injOn_before (injOn_of_le hle hinj)) fun b d hstep =>
    (hwhole b d (List.mem_append_right _ (List.mem_cons_of_mem _ hstep))).2
  have hasks : (s.afterTurn (.event e)).Asks key :=
    Cluster.asks_of_handedOut happening.orderly hfounded happening.fresh.drawsNew hkey
  have hall := asks_since (life.cons read) hasks h hinj (fun b d hstep => (hwhole b d hstep).1)
    hsaved hkept
  exact fun b hb => (hall b hb).accepts

end Lifetime

/-- A copy is ordered for want of a report. -/
def unreportedCopy : List (Cluster → Turn) :=
  [fun _ => .event (.register ⟨"a", "host", 1, 1000⟩ 0),
   fun _ => .event (.register ⟨"b", "host", 1, 1000⟩ 0),
   fun _ => .event (.upload ⟨"name", 10, none, some 2⟩ 0),
   fun _ => .event (.report ⟨2⟩ "a"),
   fun s => .event (s.sweepNow 1000)]

/-- The node that is to make the copy fails, so that the order is dropped, and the coordinator is
started anew. -/
def outage : List (Cluster → Turn) :=
  [fun _ => .event (.failNode "b"),
   fun s => .event (s.sweepNow 2000),
   fun s => .restart .default (s.exportSnapshot 2000) 3000]

/-- The node may report the copy nevertheless. -/
theorem Lifetime.accepts_handedOut_outage :
    ∃ later earlier s c,
      Lifetime (.fresh .default .counting)
        (later ++ (s, .event (.heartbeat "b" 990 1000)) :: earlier) c ∧
      Set.InjOn IdSupply.counting.nth (Set.Ioc 0 c.ids.drawn) ∧
      (∀ s' d, (s', .event d) ∈ later ++ (s, .event (.heartbeat "b" 990 1000)) :: earlier →
        ¬s'.Abandons d ∧ ¬s'.Orphans d) ∧
      ⟨⟨2⟩, "b"⟩ ∈ s.handedOut (.heartbeat "b" 990 1000) ∧ SavedSince later ∧
      (∀ b d, (b, .event d) ∈ later → ¬b.Withdraws ⟨⟨2⟩, "b"⟩ d) ∧
      c.queue.pending = .empty ∧ c.Accepts ⟨⟨2⟩, "b"⟩ := by
  have hread : ∀ choose ∈ unreportedCopy, ∀ s, (choose s).ReadFrom [s] := by
    simp [unreportedCopy, Turn.ReadFrom, Event.ReadFrom, Cluster.sweepNow]
  have hread' : ∀ choose ∈ outage, ∀ s, (choose s).ReadFrom [s] := by
    simp [outage, Turn.ReadFrom, Event.ReadFrom, Cluster.sweepNow]
  obtain ⟨s, hs⟩ : ∃ s, (played unreportedCopy).2 = s := ⟨_, rfl⟩
  obtain ⟨b, hb⟩ : ∃ b, s.after (.heartbeat "b" 990 1000) = b := ⟨_, rfl⟩
  have hfirst : Lifetime (.fresh .default .counting)
      ((s, .event (.heartbeat "b" 990 1000)) :: (played unreportedCopy).1) b :=
    hb ▸ hs ▸ (of_played hread).cons trivial
  have hlife := hfirst.append (of_play outage .nil hread')
  have hdrawn : (play [] b outage).2.ids.drawn = 2 := by
    rw [← hb, ← hs]
    decide +kernel
  have hinj : Set.InjOn IdSupply.counting.nth (Set.Ioc 0 (play [] b outage).2.ids.drawn) := by
    rw [hdrawn]
    exact IdSupply.injOn_counting (by decide)
  have hkey : ⟨⟨2⟩, "b"⟩ ∈ s.handedOut (.heartbeat "b" 990 1000) := by
    rw [← hs]
    decide +kernel
  have hpending : (play [] b outage).2.queue.pending = .empty := by
    rw [← hb, ← hs]
    decide +kernel
  have hsaved : SavedSince (play [] b outage).1 :=
    ⟨⟨_, List.mem_cons_self, 2000, rfl⟩, trivial⟩
  have hkept : ∀ s d, (s, .event d) ∈ (play [] b outage).1 → ¬s.Withdraws ⟨⟨2⟩, "b"⟩ d :=
    forall_play (by simp [outage, Cluster.sweepNow, Cluster.Withdraws, Cluster.Deletes,
      Cluster.Removes])
  have hwhole : ∀ s' d, (s', .event d) ∈ (play [] b outage).1 ++
      (s, .event (.heartbeat "b" 990 1000)) :: (played unreportedCopy).1 →
      ¬s'.Abandons d ∧ ¬s'.Orphans d := by
    intro s' d hstep
    rcases List.mem_append.1 hstep with hstep | hstep
    · exact forall_play (P := fun s d => ¬s.Abandons d ∧ ¬s.Orphans d)
        (by simp [outage, Cluster.sweepNow, Cluster.Abandons, Cluster.Orphans]) s' d hstep
    rcases List.mem_cons.1 hstep with heq | hstep
    · cases heq
      exact ⟨id, id⟩
    · exact forall_play (P := fun s d => ¬s.Abandons d ∧ ¬s.Orphans d)
        (by simp [unreportedCopy, Cluster.sweepNow, Cluster.Abandons, Cluster.Orphans]) s' d hstep
  exact ⟨_, _, _, _, hlife, hinj, hwhole, hkey, hsaved, hkept, hpending,
    Lifetime.accepts_handedOut hlife hinj hwhole hkey hsaved hkept _ List.mem_cons_self⟩

/-- The deletion that stops halfway, in the life of a coordinator that is never started anew. -/
def orphanedInstruction : List (Cluster → Turn) :=
  halfwayDeletion.map fun choose s => .event (choose s)

/-- A node is then sent to make a copy of the chunk that is gone, and may not report it. -/
theorem Lifetime.exists_not_accepts :
    ¬∀ (settings : Settings) (ids : IdSupply) (later earlier : List (Cluster × Turn))
      (s : Cluster) (e : Event) (c : Cluster),
      Lifetime (.fresh settings ids) (later ++ (s, .event e) :: earlier) c →
      Set.InjOn ids.nth (Set.Ioc ids.drawn c.ids.drawn) →
      ∀ key ∈ s.handedOut e, SavedSince later →
      (∀ b d, (b, .event d) ∈ later → ¬b.Withdraws key d) →
      ∀ b ∈ c :: later.map Prod.fst, b.Accepts key := by
  intro h
  have hread : ∀ choose ∈ orphanedInstruction, ∀ s, (choose s).ReadFrom [s] := by
    simp [orphanedInstruction, halfwayDeletion, Turn.ReadFrom, Event.ReadFrom, Cluster.sweepNow]
  obtain ⟨s, hs⟩ : ∃ s, (played orphanedInstruction).2 = s := ⟨_, rfl⟩
  have hlife : Lifetime (.fresh .default .counting)
      ((s, .event (.heartbeat "c" 0x4000000000000000 1000)) :: (played orphanedInstruction).1)
      (s.after (.heartbeat "c" 0x4000000000000000 1000)) :=
    hs ▸ (of_played hread).cons trivial
  have hdrawn : (s.after (.heartbeat "c" 0x4000000000000000 1000)).ids.drawn = 3 := by
    rw [← hs]
    decide +kernel
  have hkey : ⟨⟨2⟩, "c"⟩ ∈ s.handedOut (.heartbeat "c" 0x4000000000000000 1000) := by
    rw [← hs]
    decide +kernel
  have hunknown : ((s.after (.heartbeat "c" 0x4000000000000000 1000)).report ⟨2⟩ "c").result =
      .error (.refused (.unknownChunk ⟨2⟩)) := by
    rw [← hs]
    decide +kernel
  have hinj : Set.InjOn IdSupply.counting.nth
      (Set.Ioc 0 (s.after (.heartbeat "c" 0x4000000000000000 1000)).ids.drawn) :=
    hdrawn ▸ IdSupply.injOn_counting (by decide)
  have haccepts := h _ _ [] _ _ _ _ hlife hinj _ hkey trivial
    (fun b d hstep => absurd hstep List.not_mem_nil) _ List.mem_cons_self
  rcases haccepts with ⟨response, heq⟩ | ⟨free, size, heq⟩
  · cases hunknown.symm.trans heq
  · cases hunknown.symm.trans heq

end ChunkCoordinator
