import ChunkCoordinator.Proofs.Current
import ChunkCoordinator.Proofs.Uploading

/-!
# Uploads are given time

Of a chunk that has just been planned not all copies can be there yet. As long as it is fresh, the
nodes that it expects count as nodes to which a copy is under way. Its upload plan names as many
different nodes as it should have copies (`Lifetime.PlanOf`), and it goes on expecting all of them
until one is removed (`Lifetime.PlanOf.expected`). So while they fare well no copy of the chunk is
missing, and while the nodes with a copy fare well it is not beyond help either, whichever of the
planned copies have been reported. `Lifetime.sweep_spares_uploads` is the main statement.
-/

set_option linter.unusedSectionVars false

namespace ChunkCoordinator

/-! ## Copies under way -/

namespace Repair

variable {pending : Table CopyKey Instruction} {nodes : List Node} {now ttl : UInt64}
  {c : ChunkRecord}

/-- No copy of a fresh chunk is missing if it expects enough healthy nodes. -/
theorem missing_eq_zero (hfresh : isFresh now ttl c.createdAt) {targets : List NodeId}
    (hnodup : targets.Nodup) (henough : c.desired.toNat ≤ targets.length)
    (hexpected : ∀ t ∈ targets, c.expected.contains t)
    (hhealthy : ∀ t ∈ targets, ∃ n ∈ nodes, n.isHealthy ∧ n.id = t) :
    missing pending nodes now ttl c = 0 := by
  have hcovered : targets ⊆ (holders nodes c).map Node.id ++ inFlight pending nodes now ttl c := by
    intro t ht
    obtain ⟨n, hn, hnhealthy, rfl⟩ := hhealthy t ht
    refine List.mem_append.2 ?_
    cases hcopy : c.replicas.contains n.id with
    | true => exact .inl (List.mem_map_of_mem (mem_holders.2 ⟨hn, hnhealthy, hcopy⟩))
    | false =>
      exact .inr (Survey.mem_inFlight.2 ⟨hcopy,
        List.mem_map_of_mem (List.mem_filter.2 ⟨hn, hnhealthy⟩), .inr ⟨hfresh, hexpected _ ht⟩⟩)
  have hlength := (List.subperm_of_subset hnodup hcovered).length_le
  rw [List.length_append, List.length_map] at hlength
  unfold missing
  omega

/-- A fresh chunk is not beyond help if all nodes with a copy are healthy. -/
theorem not_isLost (hfresh : isFresh now ttl c.createdAt)
    (hhealthy : ∀ t, c.replicas.contains t → ∃ n ∈ nodes, n.isHealthy ∧ n.id = t) :
    ¬IsLost nodes now ttl c := by
  rintro ⟨-, hnone, hprovisional⟩
  refine hprovisional ⟨hfresh, Table.isEmpty_iff.2 fun t => Bool.eq_false_iff.2 fun hcopy => ?_⟩
  obtain ⟨n, hn, hnhealthy, rfl⟩ := hhealthy t hcopy
  have hholder : n ∈ holders nodes c := mem_holders.2 ⟨hn, hnhealthy, hcopy⟩
  rw [hnone] at hholder
  cases hholder

end Repair

namespace Cluster

open Store

variable {c : Cluster} {now : UInt64} {report : SweepReport} {id : ChunkId} {r : ChunkRecord}

/-- The sweep with the report neither orders copies of the chunk, nor counts it among those that it
finds too few nodes for, nor lists it among those beyond help. -/
structure LeftAlone (c : Cluster) (now : UInt64) (report : SweepReport) (id : ChunkId)
    (r : ChunkRecord) : Prop where
  notOrdered : ∀ i ∈ report.emitted, i.chunk ≠ id
  notShort : ¬Repair.IsShort c.queue.pending c.store.registry.all now c.settings.instructionTtl
    report r
  /-- The report counts just the chunks that come out short. -/
  counted : report.shortOfTargets = c.store.catalog.allChunks.countP fun r =>
    Repair.IsShort c.queue.pending c.store.registry.all now c.settings.instructionTtl report r
  notListed : id ∉ report.unrecoverable ∧
    id ∉ (c.after (c.sweepNow now)).listRebalances.unrecoverable

/-- A fresh chunk is left alone if it expects enough healthy nodes and its copies are on healthy
nodes. -/
theorem SweepsNow.leftAlone (h : c.SweepsNow now report) (horderly : c.Orderly)
    (hr : c.store.chunk? id = some r)
    (hfresh : Repair.isFresh now c.settings.instructionTtl r.createdAt) {targets : List NodeId}
    (hnodup : targets.Nodup) (henough : r.desired.toNat ≤ targets.length)
    (hexpected : ∀ t ∈ targets, r.expected.contains t)
    (htargets : ∀ t ∈ targets, c.store.registry.isHealthy t)
    (hreplicas : ∀ t, r.replicas.contains t → c.store.registry.isHealthy t) :
    c.LeftAlone now report id r := by
  have hkeyed := horderly.keyed
  have hmissing : Repair.missing c.queue.pending c.store.registry.all now
      c.settings.instructionTtl r = 0 :=
    Repair.missing_eq_zero hfresh hnodup henough hexpected fun t ht =>
      hkeyed.isHealthy_iff.1 (htargets t ht)
  have hnone := (h.served horderly hr).bounded
  rw [hmissing, Nat.le_zero, List.length_eq_zero_iff] at hnone
  have hlisted : id ∉ report.unrecoverable := by
    rw [h.mem_unrecoverable horderly]
    rintro ⟨r', hr', hlost⟩
    obtain rfl := Option.some.inj (hr.symm.trans hr')
    exact Repair.not_isLost hfresh (fun t ht => hkeyed.isHealthy_iff.1 (hreplicas t ht)) hlost
  refine ⟨?_, ?_, h.shortOfTargets_eq horderly, hlisted,
    fun hafter => hlisted ((h.mem_listRebalances horderly).1 hafter)⟩
  · rw [← (horderly.sound.fits id r hr).id_eq]
    exact Repair.emittedFor_eq_nil.1 hnone
  · rw [Repair.IsShort, hmissing]
    exact Nat.not_lt_zero _

/-! ## New identifiers -/

/-- Only uploads draw identifiers. -/
theorem ids_after (c : Cluster) : ∀ {e : Event}, (∀ request now, e ≠ .upload request now) →
    (c.after e).ids = c.ids
  | .register request now, _ => by
    rw [after, register]
    split
    · rfl
    split
    · rfl
    split <;> rfl
  | .heartbeat node free now, _ => by
    rw [after, heartbeat]
    split
    · rfl
    · next recovered _ _ => cases recovered <;> rfl
  | .upload request now, h => absurd rfl (h request now)
  | .report chunk node, _ => by
    rw [after, report]
    dsimp only
    split
    · rfl
    · split <;> split <;> rfl
  | .deleteFile file, _ => ids_after_deleteFile c file
  | .failNode node, _ => by
    rw [after, failNode]
    split
    · rfl
    · next changed _ _ => cases changed <;> rfl
  | .restoreNode node now, _ => by
    rw [after, restoreNode]
    split
    · rfl
    · next changed _ _ => cases changed <;> rfl
  | .removeNode node force, _ => by
    rw [after, removeNode]
    split <;> rfl
  | .sweepTimeouts now, _ => by
    rw [after, sweepTimeouts]
    dsimp only
    split <;> rfl
  | .sweep chunks nodes now, _ => (sweepOver_spec c chunks nodes now).2.1

/-- So only they make new chunks, -/
theorem exists_chunk?_before (hsound : c.store.Sound) {e : Event}
    (he : ∀ request now, e ≠ .upload request now) (hr : (c.after e).store.chunk? id = some r) :
    ∃ old, c.store.chunk? id = some old := by
  rcases (effect_after c e).chunk?_cases hsound hr with ⟨old, hold, -⟩ | ⟨k, ⟨hlow, hhigh⟩, -⟩
  · exact ⟨old, hold⟩
  · rw [c.ids_after he] at hhigh
    omega

/-- and only if they are granted. -/
theorem store_upload_of_error {request : UploadRequest} {fault : Fault}
    (h : (c.upload request now).result = .error fault) :
    (c.upload request now).cluster.store = c.store := by
  rcases c.upload_cases request now with ⟨_, _, heq⟩ | ⟨_, _, _, _, _, -, heq⟩ <;> rw [heq] at h ⊢
  cases h

end Cluster

/-! ## The plan of an upload -/

namespace Lifetime

variable {settings : Settings} {ids : IdSupply} {steps later earlier : List (Cluster × Turn)}
  {states : List Cluster} {s c : Cluster} {request : UploadRequest} {time : UInt64}
  {plan : UploadPlan} {id : ChunkId} {p : ChunkPlacement} {r : ChunkRecord}

/-- An upload that is granted is planned wholly. -/
theorem planned_of_ok
    (h : Lifetime (.fresh settings ids) ((s, .event (.upload request time)) :: earlier) c)
    (hinj : Set.InjOn ids.nth (Set.Ioc ids.drawn c.ids.drawn))
    (hplan : (s.upload request time).result = .ok plan) :
    ∃ file chunks, s.Planned (s.newFile request) time file chunks (s.upload request time) := by
  have hkeyed := (h.happening hinj).orderly.keyed
  cases h with
  | cons life read =>
  have hname : Text.blank request.name = false := by
    rw [← Bool.not_eq_true]
    intro hblank
    rw [Cluster.upload, Cluster.planUpload, if_pos hblank] at hplan
    cases hplan
  by_cases hmany : s.store.Exceeds (s.newFile request)
  · have hcreate := Store.tryCreateFile_of_exceeds hkeyed s.ids time hmany
    rw [Cluster.upload_of_error hname hcreate] at hplan
    cases hplan
  rcases Store.tryCreateFile_cases hkeyed s.ids time hmany with
    ⟨file, chunks, store, ids', hcreate, hrecord, hprovisional⟩ | ⟨why, hcreate, -⟩
  · exact ⟨file, chunks, life.planned hinj hname hcreate hrecord hprovisional⟩
  · rw [Cluster.upload_of_error hname hcreate] at hplan
    cases hplan

/-- In these steps an upload was granted whose plan lists the chunk with these places. The steps
since then are the later ones. -/
def PlanOf (steps : List (Cluster × Turn)) (id : ChunkId) (p : ChunkPlacement)
    (later : List (Cluster × Turn)) : Prop :=
  ∃ s request time earlier plan, steps = later ++ (s, .event (.upload request time)) :: earlier ∧
    (s.upload request time).result = .ok plan ∧ p ∈ plan.chunks ∧ p.chunk = id

/-- The chunk was new then, and it expected the places of the plan, which are as many as it should
have copies. -/
theorem PlanOf.exists_planned (h : Lifetime (.fresh settings ids) steps c)
    (hinj : Set.InjOn ids.nth (Set.Ioc ids.drawn c.ids.drawn)) (hplan : PlanOf steps id p later) :
    ∃ s request time earlier r, steps = later ++ (s, .event (.upload request time)) :: earlier ∧
      s.store.chunk? id = none ∧ (s.after (.upload request time)).store.chunk? id = some r ∧
      r.expected.keys = p.targets.map Endpoint.node ∧ r.expected.size = r.desired.toNat := by
  obtain ⟨s, request, time, earlier, plan, rfl, hplan, hp, rfl⟩ := hplan
  obtain ⟨b, hb, hle⟩ := h.of_append
  obtain ⟨file, chunks, hplanned⟩ := hb.planned_of_ok (injOn_of_le hle hinj) hplan
  obtain rfl := Except.ok.inj (hplan.symm.trans hplanned.answer)
  obtain ⟨r, hr, rfl⟩ := List.mem_map.1 hp
  refine ⟨s, request, time, earlier, r, rfl, hplanned.new_chunks.2 r hr,
    (hplanned.stored_chunks r.id r).2 (.inl ⟨hr, rfl⟩), (hplanned.targets r hr).symm, ?_⟩
  have hdesired : r.desired = (s.newFile request).replication :=
    (hplanned.complete.desired r hr).trans (congrArg FileRecord.replication hplanned.record)
  rw [(hplanned.provisional r hr).count, hdesired]

/-- An identifier that one event draws is not drawn by a later one. -/
theorem Happening.nth_ne {states' : List Cluster} {s' : Cluster} {e e' : Event}
    (h : Happening ids states s e) (h' : Happening ids states' s' e')
    (hlater : (s.after e).ids.drawn ≤ s'.ids.drawn) {k k' : Nat}
    (hk : k ∈ Set.Ioc s.ids.drawn (s.after e).ids.drawn)
    (hk' : k' ∈ Set.Ioc s'.ids.drawn (s'.after e').ids.drawn) : s'.ids.nth k' ≠ s.ids.nth k := by
  intro hsame
  rw [h.annals.nth, h'.annals.nth] at hsame
  have hlow := h.annals.drawn
  obtain ⟨hk, hhigh⟩ := hk
  obtain ⟨hk', hhigh'⟩ := hk'
  have heq : k' = k := h'.distinct ⟨by omega, by omega⟩ ⟨by omega, by omega⟩ hsame
  omega

/-- An event leaves a chunk expecting the nodes that it does not remove. -/
theorem Happening.expected_after {e : Event} (h : Happening ids states s e) {old : ChunkRecord}
    (hold : s.store.chunk? id = some old) (hr : (s.after e).store.chunk? id = some r) {t : NodeId}
    (ht : old.expected.contains t) (hkept : ¬s.Removes t e) : r.expected.contains t := by
  have hsound := h.orderly.sound
  have heffect := Cluster.effect_after s e
  have hlive := (heffect.isLive hsound ((hsound.fits id old hold).live t ht)).resolve_right hkept
  exact (heffect.grows hsound h.fresh.drawsNew hold hr hlive).expected ht

/-- Until one of these places is removed, the chunk expects all of them as long as it is stored. -/
theorem PlanOf.expected (h : Lifetime (.fresh settings ids) steps c)
    (hinj : Set.InjOn ids.nth (Set.Ioc ids.drawn c.ids.drawn)) (hplan : PlanOf steps id p later)
    (hkept : ∀ s e, (s, .event e) ∈ later → ∀ t ∈ p.targets.map Endpoint.node, ¬s.Removes t e) :
    ∀ s ∈ c :: steps.map Prod.fst, ∀ r, s.store.chunk? id = some r →
      ∀ t ∈ p.targets.map Endpoint.node, r.expected.contains t := by
  obtain ⟨s, request, time, earlier, r, rfl, hnone, hr, htargets, -⟩ := hplan.exists_planned h hinj
  obtain ⟨b, hb, hle⟩ := h.of_append
  have happening := hb.happening (injOn_of_le hle hinj)
  have hlater := hb.le_drawn h
  cases hb with
  | cons life read =>
  obtain ⟨k, hk, hid⟩ := ((Cluster.effect_after s _).chunk?_cases happening.orderly.sound
    hr).resolve_left fun ⟨old, hold, _⟩ => by rw [hnone] at hold; cases hold
  refine h.always hinj (fun r hr => by cases hr) ?_ ?_
  · intro states s' e hstep happening' hs r' hr' t ht
    rcases List.mem_append.1 hstep with hstep' | hstep'
    · -- afterwards the chunk goes on expecting the node, and it is not made anew
      rcases (Cluster.effect_after s' e).chunk?_cases happening'.orderly.sound hr' with
        ⟨old, hold, -⟩ | ⟨k', hk', hid'⟩
      · exact happening'.expected_after hold hr' (hs old hold t ht) (hkept s' e hstep' t ht)
      · have hdrawn := hlater s' (List.mem_cons_of_mem _ (List.mem_map_of_mem hstep'))
        exact absurd (hid'.trans hid.symm) (happening.nth_ne happening' hdrawn hk hk')
    · rcases List.mem_cons.1 hstep' with heq | hstep'
      · obtain ⟨rfl, he⟩ := Prod.mk.inj heq
        obtain rfl := Turn.event.inj he
        obtain rfl := Option.some.inj (hr.symm.trans hr')
        exact Table.mem_keys.1 (htargets ▸ ht)
      · -- before that it was not there
        have hunused := happening.unused hk (life.mem_states hstep').2
        rw [hid] at hunused
        exact absurd (.inl ⟨r', hr'⟩) hunused
  · intro s' saved settings' now now' horderly hsaved r' hr'
    exact hsaved r' (horderly.chunk?_of_restart hr')

/-- A chunk that is stored after an event was stored before, or an upload has just planned it. -/
theorem stored_or_planned {e : Event}
    (h : Lifetime (.fresh settings ids) ((s, .event e) :: earlier) c)
    (hinj : Set.InjOn ids.nth (Set.Ioc ids.drawn c.ids.drawn))
    (hr : (s.after e).store.chunk? id = some r) : (∃ old, s.store.chunk? id = some old) ∨
      ∃ request time plan, e = .upload request time ∧ (s.upload request time).result = .ok plan ∧
        ∃ p ∈ plan.chunks, p.chunk = id := by
  by_cases hupload : ∃ request time, e = .upload request time
  · obtain ⟨request, time, rfl⟩ := hupload
    cases hplan : (s.upload request time).result with
    | error fault =>
      have hstore : (s.after (.upload request time)).store = s.store :=
        Cluster.store_upload_of_error hplan
      exact .inl ⟨r, hstore ▸ hr⟩
    | ok plan =>
      obtain ⟨file, chunks, hplanned⟩ := h.planned_of_ok hinj hplan
      obtain rfl := Except.ok.inj (hplan.symm.trans hplanned.answer)
      rcases (hplanned.stored_chunks id r).1 hr with ⟨hmem, rfl⟩ | hold
      · exact .inr ⟨request, time, _, rfl, hplan, _, List.mem_map_of_mem hmem, rfl⟩
      · exact .inl ⟨r, hold⟩
  · have hother : ∀ request time, e ≠ .upload request time := fun request time he =>
      hupload ⟨request, time, he⟩
    exact .inl (Cluster.exists_chunk?_before (h.happening hinj).orderly.sound hother hr)

/-- Every stored chunk was planned by an upload. -/
theorem exists_planOf (h : Lifetime (.fresh settings ids) steps c)
    (hinj : Set.InjOn ids.nth (Set.Ioc ids.drawn c.ids.drawn)) :
    ∀ s ∈ c :: steps.map Prod.fst, ∀ id r, s.store.chunk? id = some r →
      ∃ p later, PlanOf steps id p later := by
  induction h with
  | nil => exact List.forall_mem_singleton.2 fun id r hr => by cases hr
  | @cons steps c turn life read ih =>
    have hbefore : ∀ s ∈ c :: steps.map Prod.fst, ∀ id r, s.store.chunk? id = some r →
        ∃ p later, PlanOf ((c, turn) :: steps) id p later := by
      intro s hs id r hr
      obtain ⟨p, later, s, request, time, earlier, plan, rfl, hplan⟩ :=
        ih (injOn_before hinj) s hs id r hr
      exact ⟨p, (c, turn) :: later, s, request, time, earlier, plan, rfl, hplan⟩
    refine List.forall_mem_cons.2 ⟨fun id r hr => ?_, hbefore⟩
    cases turn with
    | restart settings' snapshot now =>
      obtain ⟨saved, hmem, time, rfl⟩ := read
      have horderly := (life.annals (injOn_before hinj)).orderly saved hmem
      exact hbefore saved hmem id r (horderly.chunk?_of_restart hr)
    | event e =>
      rcases (life.cons read).stored_or_planned hinj hr with
        ⟨old, hold⟩ | ⟨request, time, plan, rfl, hplan, p, hp, rfl⟩
      · exact hbefore c List.mem_cons_self id old hold
      · exact ⟨p, [], c, request, time, steps, plan, rfl, hplan, hp, rfl⟩

/-- Wherever a life has come to that draws no identifier twice, every stored chunk was planned by an
upload. While it is fresh, none of its planned places has been removed since then, and they and all
nodes with a copy are healthy, a sweep over the records as they are leaves the chunk alone,
whichever places have reported their copies. -/
theorem sweep_spares_uploads (h : Lifetime (.fresh settings ids) steps c)
    (hinj : Set.InjOn ids.nth (Set.Ioc ids.drawn c.ids.drawn))
    (hr : c.store.chunk? id = some r) :
    (∃ p later, PlanOf steps id p later) ∧ ∀ p later, PlanOf steps id p later →
      (∀ s e, (s, .event e) ∈ later → ∀ t ∈ p.targets.map Endpoint.node, ¬s.Removes t e) →
      (∀ t ∈ p.targets.map Endpoint.node, c.store.registry.isHealthy t) →
      (∀ t, r.replicas.contains t → c.store.registry.isHealthy t) →
      ∀ now, Repair.isFresh now c.settings.instructionTtl r.createdAt →
        ∃ report, c.SweepsNow now report ∧ c.LeftAlone now report id r := by
  refine ⟨h.exists_planOf hinj c List.mem_cons_self id r hr, fun p later hplan hkept htargets
    hreplicas now hfresh => ?_⟩
  have hannals := h.annals hinj
  have horderly := hannals.orderly c hannals.last
  have hexpected := hplan.expected h hinj hkept c List.mem_cons_self r hr
  obtain ⟨s, request, time, earlier, r₀, rfl, -, hr₀, hkeys, hcount⟩ := hplan.exists_planned h hinj
  have hdesired : r.desired = r₀.desired := by
    have hstep : (s, .event (.upload request time)) ∈
        later ++ (s, .event (.upload request time)) :: earlier :=
      List.mem_append_right _ List.mem_cons_self
    exact ChunkRecord.eq_of_bare
      (hannals.kept c hannals.last _ (h.mem_states hstep).2 id r r₀ hr hr₀) fun _ => rfl
  obtain ⟨report, hsweep⟩ :=
    horderly.exists_sweepsNow (h.idle hinj c List.mem_cons_self) now
  refine ⟨report, hsweep, hsweep.leftAlone horderly hr hfresh ?_ ?_ hexpected htargets hreplicas⟩
  · rw [← hkeys]
    exact Table.nodup_keys _
  · rw [← hkeys, Table.length_keys, hcount, hdesired]

/-- Three nodes for a file of one chunk. -/
def threeHosts : List (Cluster → Turn) :=
  [fun _ => .event (.register ⟨"a", "host", 1, 100⟩ 0),
   fun _ => .event (.register ⟨"b", "host", 1, 100⟩ 0),
   fun _ => .event (.register ⟨"c", "host", 1, 100⟩ 0)]

/-- One of two copies is reported, and the coordinator is started anew. -/
def firstCopy : List (Cluster → Turn) :=
  [fun _ => .event (.report ⟨2⟩ "b"),
   fun s => .restart .default (s.exportSnapshot 11) 12]

/-- A sweep before the second copy is reported does nothing about the chunk. -/
theorem sweep_spares_uploads_firstCopy : ∃ steps c r p later report,
    Lifetime (.fresh .default .counting) steps c ∧
      Set.InjOn IdSupply.counting.nth (Set.Ioc 0 c.ids.drawn) ∧
      c.store.chunk? ⟨2⟩ = some r ∧ PlanOf steps ⟨2⟩ p later ∧
      p.targets.map Endpoint.node = ["a", "b"] ∧ r.replicas.keys = ["b"] ∧
      c.SweepsNow 15 report ∧ c.LeftAlone 15 report ⟨2⟩ r := by
  have hread : ∀ choose ∈ threeHosts, ∀ s, (choose s).ReadFrom [s] := by
    simp [threeHosts, Turn.ReadFrom, Event.ReadFrom]
  have hread' : ∀ choose ∈ firstCopy, ∀ s, (choose s).ReadFrom [s] := by
    simp [firstCopy, Turn.ReadFrom, Event.ReadFrom]
  obtain ⟨s, hs⟩ : ∃ s, (played threeHosts).2 = s := ⟨_, rfl⟩
  obtain ⟨b, hb⟩ : ∃ b, s.after (.upload ⟨"name", 10, none, some 2⟩ 10) = b := ⟨_, rfl⟩
  have hfirst : Lifetime (.fresh .default .counting)
      ((s, .event (.upload ⟨"name", 10, none, some 2⟩ 10)) :: (played threeHosts).1) b :=
    hb ▸ hs ▸ (of_played hread).cons trivial
  have hlife := hfirst.append (of_play firstCopy .nil hread')
  have hdrawn : (play [] b firstCopy).2.ids.drawn = 2 := by
    rw [← hb, ← hs]
    decide +kernel
  have hinj : Set.InjOn IdSupply.counting.nth (Set.Ioc 0 (play [] b firstCopy).2.ids.drawn) :=
    hdrawn ▸ IdSupply.injOn_counting (by decide)
  have hchunk : ((play [] b firstCopy).2.store.chunk? ⟨2⟩).map
      (fun r => (r.replicas.keys, r.createdAt)) = some (["b"], 10) := by
    rw [← hb, ← hs]
    decide +kernel
  obtain ⟨r, hr, hrecord⟩ := Option.map_eq_some_iff.1 hchunk
  obtain ⟨hreplicas, hcreated⟩ := Prod.mk.inj hrecord
  have hanswer : ((s.upload ⟨"name", 10, none, some 2⟩ 10).result.toOption.map fun plan =>
      plan.chunks.map fun p => (p.chunk, p.targets.map Endpoint.node)) =
        some [(⟨2⟩, ["a", "b"])] := by
    rw [← hs]
    decide +kernel
  have hhealthy : ∀ t ∈ ["a", "b"], (play [] b firstCopy).2.store.registry.isHealthy t := by
    rw [← hb, ← hs]
    decide +kernel
  have hyoung : Repair.isFresh 15 (play [] b firstCopy).2.settings.instructionTtl r.createdAt := by
    rw [hcreated, ← hb, ← hs]
    decide +kernel
  have hkept : ∀ s' e, (s', .event e) ∈ (play [] b firstCopy).1 →
      ∀ t ∈ ["a", "b"], ¬s'.Removes t e :=
    forall_play (by simp [firstCopy, Cluster.Removes])
  cases hplan : (s.upload ⟨"name", 10, none, some 2⟩ 10).result with
  | error fault =>
    rw [hplan] at hanswer
    cases hanswer
  | ok plan =>
    rw [hplan] at hanswer
    obtain ⟨p, hp, hplace⟩ := List.map_eq_singleton_iff.1 (Option.some.inj hanswer)
    obtain ⟨hid, htargets⟩ := Prod.mk.inj hplace
    have hplanned : PlanOf ((play [] b firstCopy).1 ++
        (s, .event (.upload ⟨"name", 10, none, some 2⟩ 10)) :: (played threeHosts).1) ⟨2⟩ p
          (play [] b firstCopy).1 :=
      ⟨s, _, 10, _, plan, rfl, hplan, hp ▸ List.mem_singleton_self p, hid⟩
    obtain ⟨report, hsweep, halone⟩ := (sweep_spares_uploads hlife hinj hr).2 p _ hplanned
      (htargets ▸ hkept) (htargets ▸ hhealthy)
      (fun t ht => hhealthy t (List.mem_cons_of_mem _ (hreplicas ▸ Table.mem_keys.2 ht))) 15 hyoung
    exact ⟨_, _, r, p, _, report, hlife, hinj, hr, hplanned, htargets, hreplicas, hsweep, halone⟩

end Lifetime

end ChunkCoordinator
