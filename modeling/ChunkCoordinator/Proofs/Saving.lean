import ChunkCoordinator.Host
import ChunkCoordinator.Proofs.Marking

/-!
# No change is lost

In a `Service` a host answers requests and saves its state every now and then, and what stands at
the place of its file may change at any time, so that any attempt to save may fail. A host writes
its state if there are unsaved changes and the file can be written, and then there are none any
more. Otherwise it is as if it had not tried (`Host.persistIfDirty_eq`).

`Service.saved_iff` : whenever there are no unsaved changes, the snapshot that was written last is
the one that would be written now, but for what the nodes have free and when they were last heard
of, if and only if no deletion has given up since. The invariant is that an unmarked state differs
from the saved one only by the files that such deletions have taken away, which do not come back
without a mark.
-/

set_option linter.unusedSectionVars false

namespace ChunkCoordinator

/-! ## What is saved -/

/-- The records of a snapshot, but for what the nodes have free and when they were last heard of. -/
def Snapshot.lasting (s : Snapshot) : List Node × List FileRecord × List ChunkRecord :=
  (s.nodes.map Node.lasting, s.files, s.chunks)

theorem Cluster.Lasting.exportSnapshot {c c' : Cluster} (h : c.Lasting c') (time time' : UInt64) :
    (c'.exportSnapshot time').lasting = (c.exportSnapshot time).lasting := by
  have hnodes : ∀ r : Registry, r.all.map Node.lasting = r.lasting.values := fun r => by
    simp [Registry.all, Registry.lasting, Table.values, Table.map, Function.comp_def]
  have hcatalog := congrArg Catalog.exported h.catalog
  calc (c'.exportSnapshot time').lasting
    _ = (c'.store.registry.all.map Node.lasting, c'.store.catalog.exported) := rfl
    _ = (c.store.registry.all.map Node.lasting, c.store.catalog.exported) := by
      rw [hnodes, hnodes, h.nodes, hcatalog]

namespace Host

/-- A request, an attempt to save, or a change of what stands at the place of the file. -/
inductive Step where
  | event (e : Event)
  | save (now : UInt64)
  | place (disk : Disk)

/-- What a sweep works on was read in some of these states. -/
def Step.ReadFrom (states : List Host) : Step → Prop
  | .event e => e.ReadFrom (states.map Host.cluster)
  | _ => True

theorem Step.ReadFrom.mono {states states' : List Host} (hsubset : states ⊆ states') :
    ∀ {step : Step}, step.ReadFrom states → step.ReadFrom states'
  | .event e, h => by
    have hturn : (Turn.event e).ReadFrom (states.map Host.cluster) := h
    exact hturn.mono (List.map_subset _ hsubset)
  | .save _, _ | .place _, _ => trivial

/-- The host that a step leaves behind. -/
def after (h : Host) : Step → Host
  | .event e => { h with cluster := h.cluster.after e }
  | .save now => h.persistIfDirty now
  | .place disk => { h with disk }

/-- The snapshot that a step writes into the file, if it writes one. -/
def written? (h : Host) : Step → Option Snapshot
  | .save now =>
    if h.cluster.dirty && h.disk ≠ .blocked then some (h.cluster.exportSnapshot now) else none
  | _ => none

/-- The snapshot is in the file and there are no unsaved changes, or nothing has happened. -/
theorem persistIfDirty_eq (h : Host) (now : UInt64) : h.persistIfDirty now =
    match h.written? (.save now) with
    | some snapshot => ⟨{ h.cluster with dirty := false }, .file snapshot.toText⟩
    | none => h := by
  obtain ⟨⟨settings, store, queue, metrics, dirty, ids⟩, disk⟩ := h
  cases dirty <;> cases disk <;> rfl

end Host

/-! ## Serving and saving -/

/-- The steps of a host, the newest first, each with the host before it, and the host after all. -/
inductive Service (start : Host) : List (Host × Host.Step) → Host → Prop where
  | nil : Service start [] start
  | cons {steps : List (Host × Host.Step)} {h : Host} {step : Host.Step}
      (service : Service start steps h) (read : step.ReadFrom (h :: steps.map Prod.fst)) :
      Service start ((h, step) :: steps) (h.after step)

namespace Service

variable {start host : Host} {steps : List (Host × Host.Step)} {settings : Settings}
  {ids : IdSupply}

/-- The records of the snapshot that was written last. There are none if none was written. -/
def lastSaved (steps : List (Host × Host.Step)) : List Node × List FileRecord × List ChunkRecord :=
  (steps.findSome? fun s => s.1.written? s.2).elim ([], [], []) Snapshot.lasting

/-- The steps since the snapshot was written. -/
def sinceSaved (steps : List (Host × Host.Step)) : List (Host × Host.Step) :=
  steps.takeWhile fun s => (s.1.written? s.2).isNone

theorem cons_of_written {step : Host.Step} {snapshot : Snapshot}
    (h : host.written? step = some snapshot) (steps : List (Host × Host.Step)) :
    lastSaved ((host, step) :: steps) = snapshot.lasting ∧
      sinceSaved ((host, step) :: steps) = [] := by
  simp [lastSaved, sinceSaved, h]

theorem cons_of_not_written {step : Host.Step} (h : host.written? step = none)
    (steps : List (Host × Host.Step)) :
    lastSaved ((host, step) :: steps) = lastSaved steps ∧
      sinceSaved ((host, step) :: steps) = (host, step) :: sinceSaved steps := by
  simp [lastSaved, sinceSaved, h]

/-! ## Good order -/

/-- Apart from requests nothing changes but the mark. -/
theorem cluster_after (h : Host) : ∀ step : Host.Step,
    (∃ e, step = .event e) ∨ ∃ dirty, (h.after step).cluster = { h.cluster with dirty }
  | .event e => .inl ⟨e, rfl⟩
  | .place disk => .inr ⟨h.cluster.dirty, rfl⟩
  | .save now => by
    rw [Host.after, Host.persistIfDirty_eq]
    split
    · exact .inr ⟨false, rfl⟩
    · exact .inr ⟨h.cluster.dirty, rfl⟩

/-- A state and the same with another mark. -/
theorem annals_remarked {states : List Cluster} {c : Cluster} (h : Annals ids states c)
    (hinj : Set.InjOn ids.nth (Set.Ioc ids.drawn c.ids.drawn)) (dirty : Bool) :
    Annals ids ({ c with dirty } :: states) { c with dirty } := by
  obtain ⟨hsound, hkeyed, hfiled, hexpected⟩ := h.orderly c h.last
  exact h.cons rfl (Nat.le_refl _) ⟨hsound, hkeyed, hfiled, hexpected⟩ hinj
    (fun id hid => .inl ⟨c, h.last, hid⟩) fun id r hr => .inl ⟨c, h.last, r, hr, rfl⟩

theorem drawn_after (h : Host) (step : Host.Step) :
    h.cluster.ids.drawn ≤ (h.after step).cluster.ids.drawn := by
  rcases cluster_after h step with ⟨e, rfl⟩ | ⟨dirty, hcluster⟩
  · exact (Cluster.effect_after h.cluster e).drawn.2
  · rw [hcluster]

/-- The annals of a fresh host can be kept as well. -/
theorem annals (h : Service (.fresh settings ids) steps host)
    (hinj : Set.InjOn ids.nth (Set.Ioc ids.drawn host.cluster.ids.drawn)) :
    Annals ids (host.cluster :: (steps.map Prod.fst).map Host.cluster) host.cluster := by
  induction h with
  | nil =>
    have hlife : Lifetime (.fresh settings ids) [] (.fresh settings ids) := .nil
    exact hlife.annals hinj
  | @cons steps host step service read ih =>
    have hbefore := Lifetime.injOn_of_le (drawn_after host step) hinj
    rcases cluster_after host step with ⟨e, rfl⟩ | ⟨dirty, hcluster⟩
    · exact (ih hbefore).after e hinj
    · rw [hcluster]
      exact annals_remarked (ih hbefore) hbefore dirty

theorem orderly (h : Service (.fresh settings ids) steps host)
    (hinj : Set.InjOn ids.nth (Set.Ioc ids.drawn host.cluster.ids.drawn)) :
    host.cluster.Orderly :=
  (h.annals hinj).orderly host.cluster (h.annals hinj).last

/-- How a step comes to leave no unsaved changes : it saves the state, or there were none and
nothing has changed that is to be saved, or there were none and a deletion gives up. -/
theorem step_cases {h : Host} (horderly : h.cluster.Orderly) (step : Host.Step)
    (hclean : (h.after step).cluster.dirty = false) :
    (∃ snapshot, h.written? step = some snapshot ∧
        ∀ time, snapshot.lasting = ((h.after step).cluster.exportSnapshot time).lasting) ∨
      (h.written? step = none ∧ h.cluster.dirty = false ∧
        ((h.cluster.Lasting (h.after step).cluster ∧
            ∀ e, step = .event e → ¬h.cluster.GivesUp e) ∨
          ∃ file, step = .event (.deleteFile file) ∧ h.cluster.GivesUp (.deleteFile file))) := by
  cases step with
  | save now =>
    rw [Host.after, Host.persistIfDirty_eq] at hclean ⊢
    cases hwritten : h.written? (.save now) with
    | some snapshot =>
      refine .inl ⟨snapshot, rfl, fun time => ?_⟩
      obtain ⟨-, heq⟩ := Option.ite_none_right_eq_some.1 hwritten
      rw [← Option.some.inj heq]
      rfl
    | none =>
      rw [hwritten] at hclean
      exact .inr ⟨rfl, hclean, .inl ⟨.of_store rfl, fun e heq => by cases heq⟩⟩
  | place disk =>
    exact .inr ⟨rfl, hclean, .inl ⟨.of_store rfl, fun e heq => by cases heq⟩⟩
  | event e =>
    by_cases hgives : h.cluster.GivesUp e
    · cases e with
      | deleteFile file =>
        have hsame := (Cluster.files_of_givesUp horderly.sound hgives).1
        exact .inr ⟨rfl, hsame.symm.trans hclean, .inr ⟨file, rfl, hgives⟩⟩
      | _ => cases hgives
    · rcases horderly.noted hgives with hdirty | ⟨hsame, hlasting⟩
      · exact absurd (hdirty.symm.trans hclean) (by decide)
      · refine .inr ⟨rfl, hsame.symm.trans hclean, .inl ⟨hlasting, fun e' heq => ?_⟩⟩
        cases heq
        exact hgives

/-! ## What has been saved -/

/-- No deletion has given up since the snapshot was written, and the snapshot is that of the
state. -/
structure Saved (steps : List (Host × Host.Step)) (c : Cluster) : Prop where
  whole : ∀ s e, (s, .event e) ∈ sinceSaved steps → ¬s.cluster.GivesUp e
  same : ∀ time, lastSaved steps = (c.exportSnapshot time).lasting

/-- A deletion has given up since the snapshot was written, and a file of the snapshot is not stored
any more. -/
structure Lost (steps : List (Host × Host.Step)) (c : Cluster) : Prop where
  givesUp : ∃ s e, (s, .event e) ∈ sinceSaved steps ∧ s.cluster.GivesUp e
  gone : ∃ file ∈ (lastSaved steps).2.1, c.store.catalog.files.get? file.id = none

section

variable {c c' : Cluster} {step : Host.Step}

/-- Nothing that is to be saved has changed, in a step that does not save. -/
theorem Saved.cons (h : Saved steps c) (hlasting : c.Lasting c')
    (hwritten : host.written? step = none) (hno : ∀ e, step = .event e → ¬host.cluster.GivesUp e) :
    Saved ((host, step) :: steps) c' := by
  obtain ⟨hlast, hsince⟩ := cons_of_not_written hwritten steps
  refine ⟨fun s e hmem => ?_, fun time => ?_⟩
  · rw [hsince] at hmem
    rcases List.mem_cons.1 hmem with heq | hmem
    · obtain ⟨rfl, rfl⟩ := Prod.mk.inj heq
      exact hno e rfl
    · exact h.whole s e hmem
  · rw [hlast, hlasting.exportSnapshot time time]
    exact h.same time

/-- What is lost stays lost as long as nothing is saved. -/
theorem Lost.cons (h : Lost steps c) (hwritten : host.written? step = none)
    (hfiles : ∀ id, c.store.catalog.files.get? id = none → c'.store.catalog.files.get? id = none) :
    Lost ((host, step) :: steps) c' := by
  obtain ⟨hlast, hsince⟩ := cons_of_not_written hwritten steps
  obtain ⟨⟨s, e, hmem, hgives⟩, file, hfile, hgone⟩ := h
  refine ⟨⟨s, e, hsince ▸ List.mem_cons_of_mem _ hmem, hgives⟩, file, ?_, hfiles _ hgone⟩
  rw [hlast]
  exact hfile

/-- A deletion that gives up loses a file. -/
theorem Saved.lose (h : Saved steps host.cluster) (horderly : host.cluster.Orderly) {file : FileId}
    (hgives : host.cluster.GivesUp (.deleteFile file)) :
    Lost ((host, .event (.deleteFile file)) :: steps)
      (host.cluster.after (.deleteFile file)) := by
  have hwritten : host.written? (.event (.deleteFile file)) = none := rfl
  obtain ⟨hlast, hsince⟩ := cons_of_not_written hwritten steps
  obtain ⟨⟨record, hfile⟩, -⟩ := (Cluster.givesUp_iff horderly.sound).1 hgives
  refine ⟨⟨host, _, hsince ▸ List.mem_cons_self, hgives⟩, record, ?_, ?_⟩
  · rw [hlast, h.same 0]
    exact Table.mem_values.2 ⟨file, hfile⟩
  · rw [(Cluster.files_of_givesUp horderly.sound hgives).2, horderly.filed.named file record hfile]
    exact Table.get?_erase_self _ _

end

/-- An unmarked state has been saved, or a file has been lost. -/
theorem saved_or_lost (h : Service (.fresh settings ids) steps host)
    (hinj : Set.InjOn ids.nth (Set.Ioc ids.drawn host.cluster.ids.drawn))
    (hclean : host.cluster.dirty = false) :
    Saved steps host.cluster ∨ Lost steps host.cluster := by
  induction h with
  | nil => exact .inl ⟨fun s e hmem => absurd hmem List.not_mem_nil, fun time => rfl⟩
  | @cons steps host step service read ih =>
    have hbefore := Lifetime.injOn_of_le (drawn_after host step) hinj
    have horderly := service.orderly hbefore
    rcases step_cases horderly step hclean with ⟨snapshot, hwritten, hsame⟩ |
      ⟨hwritten, hclean', ⟨hlasting, hno⟩ | ⟨file, rfl, hgives⟩⟩
    · obtain ⟨hlast, hsince⟩ := cons_of_written hwritten steps
      refine .inl ⟨fun s e hmem => ?_, fun time => ?_⟩
      · rw [hsince] at hmem
        cases hmem
      · rw [hlast, hsame time]
    · refine (ih hbefore hclean').imp (fun hsaved => hsaved.cons hlasting hwritten hno) ?_
      exact fun hlost => hlost.cons hwritten fun id hid => by rwa [hlasting.catalog]
    · refine .inr ((ih hbefore hclean').elim (fun hsaved => hsaved.lose horderly hgives) ?_)
      exact fun hlost => hlost.cons hwritten fun id hid =>
        Cluster.not_stored_of_givesUp horderly.sound hgives hid

/-- Whenever there are no unsaved changes, the snapshot that was written last is the one that would
be written now, but for what the nodes have free and when they were last heard of, if and only if no
deletion has given up since. -/
theorem saved_iff (h : Service (.fresh settings ids) steps host)
    (hinj : Set.InjOn ids.nth (Set.Ioc ids.drawn host.cluster.ids.drawn))
    (hclean : host.cluster.dirty = false) (time : UInt64) :
    lastSaved steps = (host.cluster.exportSnapshot time).lasting ↔
      ∀ s e, (s, .event e) ∈ sinceSaved steps → ¬s.cluster.GivesUp e := by
  rcases saved_or_lost h hinj hclean with
    ⟨hwhole, hsame⟩ | ⟨⟨s, e, hmem, hgives⟩, file, hfile, hgone⟩
  · exact iff_of_true (hsame time) hwhole
  · refine iff_of_false (fun hsame => ?_) fun hwhole => hwhole s e hmem hgives
    rw [hsame] at hfile
    obtain ⟨id, hid⟩ := Table.mem_values.1 hfile
    rw [(h.orderly hinj).filed.named id file hid, hid] at hgone
    cases hgone

/-! ## Serving and saving in given steps -/

/-- Takes one step after the other, each chosen in view of the host that it finds. -/
def play (steps : List (Host × Host.Step)) (h : Host) :
    List (Host → Host.Step) → List (Host × Host.Step) × Host
  | [] => (steps, h)
  | choose :: rest => play ((h, choose h) :: steps) (h.after (choose h)) rest

/-- That is a service, if every sweep works on the records that it finds. -/
theorem of_play : ∀ (choices : List (Host → Host.Step)) {steps : List (Host × Host.Step)}
    {h : Host}, Service start steps h → (∀ choose ∈ choices, ∀ s, (choose s).ReadFrom [s]) →
    Service start (play steps h choices).1 (play steps h choices).2
  | [], _, _, service, _ => service
  | choose :: rest, steps, h, service, hread => by
    obtain ⟨hfirst, hrest⟩ := List.forall_mem_cons.1 hread
    have hnow : [h] ⊆ h :: steps.map Prod.fst := List.cons_subset_cons _ (List.nil_subset _)
    exact of_play rest (service.cons ((hfirst h).mono hnow)) hrest

/-- What is true of every request that may be chosen is true of those that have been made. -/
theorem forall_play {P : Host → Event → Prop} : ∀ (choices : List (Host → Host.Step))
    {steps : List (Host × Host.Step)} {h : Host}, (∀ s e, (s, .event e) ∈ steps → P s e) →
    (∀ choose ∈ choices, ∀ s e, choose s = .event e → P s e) →
    ∀ s e, (s, .event e) ∈ (play steps h choices).1 → P s e
  | [], _, _, hsteps, _ => hsteps
  | choose :: rest, steps, h, hsteps, hchoices => by
    obtain ⟨hfirst, hrest⟩ := List.forall_mem_cons.1 hchoices
    refine forall_play rest (fun s e hmem => ?_) hrest
    rcases List.mem_cons.1 hmem with heq | hmem
    · obtain ⟨rfl, heq⟩ := Prod.mk.inj heq
      exact hfirst s e heq.symm
    · exact hsteps s e hmem

/-- What a new host with the settings by default goes through if it numbers what it creates. -/
def played (choices : List (Host → Host.Step)) : List (Host × Host.Step) × Host :=
  play [] (.fresh .default .counting) choices

/-- The first attempt to save a new node fails and the second one does not. The node is heard of
before and afterwards. -/
def secondAttempt : List (Host → Host.Step) :=
  [fun _ => .event (.register ⟨"a", "host", 1, 1000⟩ 0),
   fun _ => .place .blocked,
   fun _ => .save 1,
   fun _ => .event (.heartbeat "a" 800 2),
   fun _ => .place .empty,
   fun _ => .save 3,
   fun _ => .event (.heartbeat "a" 600 4)]

/-- What it has free is not as it was saved, all the rest is. -/
theorem saved_secondAttempt :
    (played secondAttempt).2.cluster.dirty = false ∧
      lastSaved (played secondAttempt).1 =
        ((played secondAttempt).2.cluster.exportSnapshot 5).lasting ∧
      (played secondAttempt).1.findSome? (fun s => (s.1.written? s.2).map Snapshot.nodes) =
        some [⟨"a", "host", 1, 1000, 800, .healthy, 2, 0⟩] ∧
      (played secondAttempt).2.cluster.listNodes =
        [⟨"a", "host", 1, 1000, 600, .healthy, 4, 0⟩] := by
  have hservice : Service (.fresh .default .counting) (played secondAttempt).1
      (played secondAttempt).2 :=
    of_play secondAttempt .nil (by simp [secondAttempt, Host.Step.ReadFrom, Event.ReadFrom])
  have hdrawn : (played secondAttempt).2.cluster.ids.drawn = 0 := by decide +kernel
  have hinj : Set.InjOn IdSupply.counting.nth
      (Set.Ioc 0 (played secondAttempt).2.cluster.ids.drawn) := by
    rw [hdrawn]
    exact IdSupply.injOn_counting (by decide)
  have hclean : (played secondAttempt).2.cluster.dirty = false := by decide +kernel
  have hwhole : ∀ s e, (s, .event e) ∈ (played secondAttempt).1 → ¬s.cluster.GivesUp e :=
    forall_play secondAttempt (fun s e hmem => absurd hmem List.not_mem_nil)
      (by simp [secondAttempt, Cluster.GivesUp])
  refine ⟨hclean, (saved_iff hservice hinj hclean 5).2 fun s e hmem => ?_,
    by decide +kernel, by decide +kernel⟩
  exact hwhole s e ((List.takeWhile_subset _) hmem)

/-- A file whose copies have `2 ^ 64` bytes in all is saved and then deleted. -/
def unsavedDeletion : List (Host → Host.Step) :=
  [fun _ => .event (.register ⟨"a", "host", 1, 0xFFFFFFFFFFFFFFFF⟩ 0),
   fun _ => .event (.register ⟨"b", "host", 1, 0xFFFFFFFFFFFFFFFF⟩ 0),
   fun _ => .event (.upload ⟨"name", 0x8000000000000000, some 0x4000000000000000, some 2⟩ 0),
   fun _ => .event (.report ⟨2⟩ "a"),
   fun _ => .event (.report ⟨2⟩ "b"),
   fun _ => .event (.report ⟨3⟩ "a"),
   fun _ => .event (.report ⟨3⟩ "b"),
   fun _ => .save 1,
   fun _ => .event (.deleteFile ⟨1⟩)]

/-- The file is gone although nothing is marked as unsaved, and it comes back with the snapshot. -/
theorem exists_clean_not_saved :
    ¬∀ (settings : Settings) (ids : IdSupply) (steps : List (Host × Host.Step)) (host : Host),
      Service (.fresh settings ids) steps host →
      Set.InjOn ids.nth (Set.Ioc ids.drawn host.cluster.ids.drawn) → host.cluster.dirty = false →
      ∀ time, lastSaved steps = (host.cluster.exportSnapshot time).lasting := by
  intro h
  have hservice : Service (.fresh .default .counting) (played unsavedDeletion).1
      (played unsavedDeletion).2 :=
    of_play unsavedDeletion .nil (by simp [unsavedDeletion, Host.Step.ReadFrom, Event.ReadFrom])
  have hdrawn : (played unsavedDeletion).2.cluster.ids.drawn = 3 := by decide +kernel
  have hsame := h _ _ _ _ hservice (by rw [hdrawn]; exact IdSupply.injOn_counting (by decide))
    (by decide +kernel) 2
  have hsaved : (lastSaved (played unsavedDeletion).1).2.1.map FileRecord.id = [⟨1⟩] := by
    decide +kernel
  have hnone : ((played unsavedDeletion).2.cluster.exportSnapshot 2).lasting.2.1 = [] := by
    decide +kernel
  rw [hsame, hnone] at hsaved
  cases hsaved

end Service

end ChunkCoordinator
