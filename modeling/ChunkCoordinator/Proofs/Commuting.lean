import ChunkCoordinator.Proofs.Granting
import Mathlib.Data.List.Perm.Basic

/-!
# Reports in any order

If a list of reports is granted in one order it is granted in every other, and the outcome is the
same (`Cluster.Reached.reports_commute`). It holds of all that a coordinator may come to
(`Cluster.Reached`), also between the parts of a sweep, when instructions are pending whose targets
the chunks do not expect yet.

A repeated report changes nothing. The first report of a copy that was confirmed before the list
began changes no record, but there may still be an instruction for it, left behind by a sweep over
older records, and that one is taken out (`Lifetime.exists_moving_repeat`).
-/

set_option linter.unusedSectionVars false

namespace ChunkCoordinator

/-! ## All that a coordinator may come to -/

namespace Store

variable {s s' : Store}

/-- Nodes stand under their own names, none has more free than it can hold, and those that have
confirmed a copy have been asked for it. -/
structure Regular (s : Store) : Prop where
  keyed : s.registry.Keyed
  bounded : s.registry.Bounded
  asked : ∀ id r, s.chunk? id = some r → r.Asked

theorem Regular.of_expecting (h : s.Regular) (hexpecting : Expecting s s') : s'.Regular := by
  have hregistry := hexpecting.registry
  refine ⟨hregistry ▸ h.keyed, hregistry ▸ h.bounded, fun id r hr => ?_⟩
  obtain ⟨old, nodes, hold, -, rfl⟩ := hexpecting.exists_old hr
  exact (h.asked id old hold).expecting nodes

end Store

namespace Cluster

open Store

variable {c c' : Cluster} {e : Event}

/-- No event lets a node confirm a copy that it has not been asked for. -/
theorem Effect.asked (h : Effect c e c') (hasked : ∀ id r, c.store.chunk? id = some r → r.Asked) :
    ∀ id r, c'.store.chunk? id = some r → r.Asked := by
  have hexpecting : ∀ {s : Store}, Expecting c.store s →
      ∀ id r, s.chunk? id = some r → r.Asked := by
    intro s hexpecting id r hr
    obtain ⟨old, nodes, hold, -, rfl⟩ := hexpecting.exists_old hr
    exact (hasked id old hold).expecting nodes
  intro id r hr
  cases h with
  | health standing room catalog queue ids =>
    rw [chunk?, catalog] at hr
    exact hasked id r hr
  | registered new live named free store queue ids =>
    rw [store] at hr
    exact hasked id r hr
  | created created queue =>
    rcases created.chunk?_cases hr with ⟨hmem, -⟩ | hr
    · intro n hn
      rw [created.no_replica r hmem, Table.contains_empty] at hn
      cases hn
    · exact hasked id r hr
  | @reported _ _ asked expecting report pending ids =>
    rcases report with report | ⟨chunk, node, outcome, report⟩
    · exact hexpecting (report ▸ expecting) id r hr
    obtain ⟨record, hrecord, hexpected, ⟨-, heq, -⟩ | ⟨-, -, free, registry, -, heq⟩⟩ :=
      report_ok report
    · exact hexpecting (heq ▸ expecting) id r hr
    · rw [heq] at hr
      rcases Table.get?_insert_eq_some.1 hr with ⟨rfl, rfl⟩ | ⟨-, hr⟩
      · exact (hexpecting expecting _ record hrecord).confirming hexpected
      · exact hexpecting expecting id r hr
  | @deleted file record stored =>
    have hstore : (c.after (.deleteFile file)).store = (c.store.deleteFile file).2 := by
      rw [after, deleteFile]
      split
      · next heq => rw [heq]
      · next heq => rw [heq]; rfl
    rw [hstore] at hr
    exact hasked id r (chunk?_of_deleteFile hr)
  | retired retire pending ids =>
    rw [chunk?_retireNode retire] at hr
    obtain ⟨old, hold, rfl⟩ := Option.map_eq_some_iff.1 hr
    exact (hasked id old hold).without _
  | swept chunks nodes now => exact hexpecting (sweepOver_spec c chunks nodes now).1 id r hr

/-- All that a coordinator may come to, whatever identifiers it draws. Its sweeps may be under way,
with anything found and anything to be recorded. -/
inductive Reached : Cluster → Prop where
  | fresh (settings : Settings) (ids : IdSupply) : Reached (.fresh settings ids)
  | after {c : Cluster} (h : Reached c) (e : Event) : Reached (c.after e)
  | restart {c s : Cluster} (h : Reached c) (hs : Reached s) (settings : Settings)
      (time now : UInt64) : Reached (c.restart settings (s.exportSnapshot time) now).cluster
  | beginSweep {c : Cluster} (h : Reached c) (chunks : List ChunkRecord) (nodes : List Node)
      (now : UInt64) : Reached (c.beginSweep chunks nodes now).cluster
  | mergeSweep {c : Cluster} (h : Reached c) (now : UInt64) (found : Findings) :
      Reached (c.mergeSweep now found).2
  | recordSweep {c : Cluster} (h : Reached c) (report : SweepReport) :
      Reached (c.recordSweep report).cluster
  | status {c : Cluster} (h : Reached c) : Reached c.status.cluster
  | takeDirty {c : Cluster} (h : Reached c) : Reached c.takeDirty.2

theorem regular_fresh (settings : Settings) (ids : IdSupply) : (fresh settings ids).store.Regular :=
  ⟨.empty, .empty, fun id r hr => by cases hr⟩

theorem regular_restart {s : Cluster} (h : s.store.Regular) (c : Cluster) (settings : Settings)
    (time now : UInt64) :
    (c.restart settings (s.exportSnapshot time) now).cluster.store.Regular := by
  have hkeyed := Registry.keyed_restore s.store.registry.all now
  have hbounded := h.bounded.restore_all now
  cases hrestore : Catalog.restore (.restore (s.exportSnapshot time).nodes now)
      (s.exportSnapshot time).files (s.exportSnapshot time).chunks with
  | error what =>
    rw [restart, restoreSnapshot_of_error hrestore]
    exact ⟨hkeyed, hbounded, fun id r hr => by cases hr⟩
  | ok catalog =>
    rw [restart, cluster_restoreSnapshot hrestore, (cluster_status _).1]
    refine ⟨hkeyed, hbounded, fun id r hr => ?_⟩
    obtain ⟨hmem, -⟩ := ((Catalog.restored_of_restore hrestore).chunk_iff id r).1 hr
    obtain ⟨id', hr'⟩ := Catalog.mem_exported.1 hmem
    exact h.asked id' r hr'

theorem Reached.regular (h : Reached c) : c.store.Regular := by
  induction h with
  | fresh settings ids => exact regular_fresh settings ids
  | @after c _ e ih =>
    have hsteps := steps_after c e
    exact ⟨ih.keyed.steps hsteps, ih.bounded.steps hsteps, (effect_after c e).asked ih.asked⟩
  | @restart c _ _ _ settings time now _ ih => exact regular_restart ih c settings time now
  | @beginSweep c _ chunks nodes now ih =>
    unfold Cluster.beginSweep
    split <;> exact ih
  | mergeSweep _ now found ih => exact ih
  | @recordSweep c _ report ih => exact ih.of_expecting (recordSweep_spec c report).1
  | @status c _ ih => exact (cluster_status c).1 ▸ ih
  | takeDirty _ ih => exact ih

/-! ## Lists of reports -/

/-- The state after some reports. -/
def reported (c : Cluster) (keys : List CopyKey) : Cluster :=
  keys.foldl (fun c key => (c.report key.chunk key.target).cluster) c

/-- Each of some reports is granted when they come one after the other. -/
def Granted (c : Cluster) : List CopyKey → Prop
  | [] => True
  | key :: keys => (∃ answer, (c.report key.chunk key.target).result = .ok answer) ∧
      (c.report key.chunk key.target).cluster.Granted keys

section

variable {key key' : CopyKey} {keys keys' before : List CopyKey}

theorem Reached.reported (h : c.Reached) (keys : List CopyKey) : (c.reported keys).Reached :=
  List.foldlRecOn (motive := Reached) keys _ h fun _ h key _ =>
    h.after (.report key.chunk key.target)

theorem granted_cons_iff (h : c.Reached) :
    c.Granted (key :: keys) ↔ c.Grants key ∧ (c.granting key).Granted keys := by
  have hbounded := h.regular.bounded
  constructor
  · rintro ⟨⟨answer, hanswer⟩, hrest⟩
    have hgrants := grants_of_ok hbounded hanswer
    obtain ⟨count, hreport⟩ := hgrants.report_eq hbounded
    rw [hreport] at hrest
    exact ⟨hgrants, hrest⟩
  · rintro ⟨hgrants, hrest⟩
    obtain ⟨count, hreport⟩ := hgrants.report_eq hbounded
    rw [Granted, hreport]
    exact ⟨⟨_, rfl⟩, hrest⟩

theorem Grants.reported_cons (h : c.Reached) (hgrants : c.Grants key) (keys : List CopyKey) :
    c.reported (key :: keys) = (c.granting key).reported keys := by
  obtain ⟨count, hreport⟩ := hgrants.report_eq h.regular.bounded
  rw [Cluster.reported, List.foldl_cons, hreport]
  rfl

theorem Grants.reached (h : c.Reached) (hgrants : c.Grants key) : (c.granting key).Reached := by
  have hreported : c.reported [key] = c.granting key := hgrants.reported_cons h []
  exact hreported ▸ h.reported [key]

/-- Reports that are granted in one order are granted in every other, and come to the same. -/
theorem Granted.perm (hperm : keys.Perm keys') (h : c.Reached) (hgranted : c.Granted keys) :
    c.Granted keys' ∧ c.reported keys' = c.reported keys := by
  induction hperm generalizing c with
  | nil => exact ⟨hgranted, rfl⟩
  | @cons key keys keys' _ ih =>
    obtain ⟨hgrants, hrest⟩ := (granted_cons_iff h).1 hgranted
    obtain ⟨hrest', hsame⟩ := ih (hgrants.reached h) hrest
    rw [hgrants.reported_cons h, hgrants.reported_cons h]
    exact ⟨(granted_cons_iff h).2 ⟨hgrants, hrest'⟩, hsame⟩
  | swap key key' keys =>
    by_cases hne : key' = key
    · subst hne
      exact ⟨hgranted, rfl⟩
    obtain ⟨hgrants, hrest⟩ := (granted_cons_iff h).1 hgranted
    obtain ⟨hgrants', hrest⟩ := (granted_cons_iff (hgrants.reached h)).1 hrest
    obtain ⟨hfirst, hsecond⟩ := hgrants.swap hne hgrants'
    have hcomm := granting_comm (c := c) hne
    refine ⟨(granted_cons_iff h).2 ⟨hfirst, (granted_cons_iff (hfirst.reached h)).2
      ⟨hsecond, hcomm ▸ hrest⟩⟩, ?_⟩
    rw [hfirst.reported_cons h, hsecond.reported_cons (hfirst.reached h), hgrants.reported_cons h,
      hgrants'.reported_cons (hgrants.reached h), hcomm]
  | trans _ _ ih ih' =>
    obtain ⟨hmid, hsame⟩ := ih h hgranted
    obtain ⟨hlast, hsame'⟩ := ih' h hmid
    exact ⟨hlast, hsame'.trans hsame⟩

/-- What has come of some granted reports: their copies are confirmed, and nothing more is pending
for them. -/
theorem Granted.confirms_reported (h : c.Reached) (hgranted : c.Granted before) (key : CopyKey) :
    (c.reported before).store.confirms key = (decide (key ∈ before) || c.store.confirms key) ∧
      (c.reported before).queue.isPending key.chunk key.target =
        (decide (key ∉ before) && c.queue.isPending key.chunk key.target) := by
  induction before generalizing c with
  | nil => simp [reported]
  | cons first before ih =>
    obtain ⟨hgrants, hrest⟩ := (granted_cons_iff h).1 hgranted
    obtain ⟨hconfirms, hpending⟩ := ih (hgrants.reached h) hrest
    have hfirst : (c.granting first).store.confirms key =
        (decide (key = first) || c.store.confirms key) := by
      by_cases heq : key = first
      · obtain ⟨⟨r, hr, -⟩, -⟩ := hgrants
        rw [heq, decide_eq_true rfl, Bool.true_or]
        exact confirms_granting_self hr
      · rw [decide_eq_false heq, Bool.false_or]
        exact confirms_granting heq
    rw [hgrants.reported_cons h, hconfirms, hpending, hfirst, isPending_granting]
    constructor <;> by_cases heq : key = first <;> by_cases hmem : key ∈ before <;>
      simp [heq, hmem]

/-- A part of some granted reports is granted. -/
theorem granted_append_iff (h : c.Reached) :
    c.Granted (before ++ keys) ↔ c.Granted before ∧ (c.reported before).Granted keys := by
  induction before generalizing c with
  | nil => simp [Granted, reported]
  | cons first before ih =>
    have hfirst : (c.report first.chunk first.target).cluster.Reached :=
      h.after (.report first.chunk first.target)
    simp only [List.cons_append, Granted, ih hfirst, and_assoc]
    rfl

theorem settling_of_idle (h : c.queue.isPending key.chunk key.target = false) :
    c.settling key = c := by
  have hpending : c.queue.pending.erase key = c.queue.pending :=
    Table.erase_of_get?_eq_none (Table.get?_eq_none_iff.2 h)
  rw [settling, h, Queue.acknowledge, hpending]
  rfl

/-- Nothing more is done by the report of a confirmed copy. -/
theorem granting_of_confirms (h : c.Reached) (hconfirms : c.store.confirms key) :
    c.granting key = c.settling key := by
  have hstore : c.store.granting key = c.store :=
    granting_eq_self (fun r hr => h.regular.asked key.chunk r hr) hconfirms
  rw [granting, hstore, hconfirms, Bool.not_true, Bool.or_false]
  rfl

/-- What the report of a copy does after some others. -/
structure ReportedOnce (c : Cluster) (before : List CopyKey) (key : CopyKey) : Prop where
  /-- It adds the copy if that was not confirmed and is not among the others. -/
  added : ∃ count, ((c.reported before).report key.chunk key.target).result =
    .ok ⟨decide (key ∉ before) && !c.store.confirms key, count⟩
  /-- It changes nothing if it is a repeated one. -/
  repeated : key ∈ before →
    ((c.reported before).report key.chunk key.target).cluster = c.reported before
  /-- If the copy was confirmed, all that changes is that no instruction for it is left. -/
  confirmed : c.store.confirms key →
    ((c.reported before).report key.chunk key.target).cluster = (c.reported before).settling key
  /-- So nothing changes if there was none. -/
  idle : c.store.confirms key → c.queue.isPending key.chunk key.target = false →
    ((c.reported before).report key.chunk key.target).cluster = c.reported before

theorem Granted.reportedOnce {after : List CopyKey} (h : c.Reached)
    (hgranted : c.Granted (before ++ key :: after)) : c.ReportedOnce before key := by
  obtain ⟨hbefore, hafter⟩ := (granted_append_iff h).1 hgranted
  obtain ⟨hconfirms, hpending⟩ := hbefore.confirms_reported h key
  have hreached := h.reported before
  obtain ⟨hgrants, -⟩ := (granted_cons_iff hreached).1 hafter
  obtain ⟨count, hreport⟩ := hgrants.report_eq hreached.regular.bounded
  have hdone : (c.reported before).store.confirms key →
      ((c.reported before).report key.chunk key.target).cluster =
        (c.reported before).settling key := by
    intro hconfirmed
    rw [hreport]
    exact granting_of_confirms hreached hconfirmed
  constructor
  case added =>
    refine ⟨count, ?_⟩
    rw [hreport, hconfirms, Bool.not_or, decide_not]
  case repeated =>
    intro hmem
    rw [hdone (by simp [hconfirms, hmem])]
    exact settling_of_idle (by simp [hpending, hmem])
  case confirmed => exact fun hconfirmed => hdone (by simp [hconfirms, hconfirmed])
  case idle =>
    intro hconfirmed hidle
    rw [hdone (by simp [hconfirms, hconfirmed])]
    exact settling_of_idle (by simp [hpending, hidle])

end

/-- Wherever a coordinator has come to, reports that are all granted in one order are so in every
other, and they come to the same. In either order a report adds its copy if it is the first one of a
copy that was not confirmed. A repeated one changes nothing, and the first one of a confirmed copy
nothing but that there is no instruction for it any more. -/
theorem Reached.reports_commute (h : c.Reached) {keys keys' : List CopyKey}
    (hgranted : c.Granted keys) (hperm : keys.Perm keys') :
    c.Granted keys' ∧ c.reported keys' = c.reported keys ∧
      ∀ before key after, keys' = before ++ key :: after → c.ReportedOnce before key := by
  obtain ⟨hgranted', hsame⟩ := hgranted.perm hperm h
  refine ⟨hgranted', hsame, fun before key after hsplit => ?_⟩
  exact (hsplit ▸ hgranted').reportedOnce h

end Cluster

namespace Lifetime

variable {settings : Settings} {ids : IdSupply} {steps : List (Cluster × Turn)} {c : Cluster}

/-- A coordinator reaches whatever it comes to in its life. -/
theorem reached (h : Lifetime (.fresh settings ids) steps c) :
    ∀ s ∈ c :: steps.map Prod.fst, s.Reached := by
  induction h with
  | nil => exact List.forall_mem_singleton.2 (.fresh settings ids)
  | @cons steps c turn life read ih =>
    have hc := ih c List.mem_cons_self
    refine List.forall_mem_cons.2 ⟨?_, ih⟩
    cases turn with
    | event e => exact hc.after e
    | restart settings' snapshot now =>
      obtain ⟨s, hs, time, rfl⟩ := read
      exact hc.restart (ih s hs) settings' time now

/-- Two chunks have a copy each on one node and are to have another one. A third node comes into
service. -/
def singleCopies : List (Cluster → Turn) :=
  [fun _ => .event (.register ⟨"a", "host", 1, 40⟩ 0),
   fun _ => .event (.register ⟨"b", "host", 2, 30⟩ 0),
   fun _ => .event (.upload ⟨"name", 20, some 10, some 2⟩ 0),
   fun _ => .event (.report ⟨2⟩ "a"),
   fun _ => .event (.report ⟨3⟩ "a"),
   fun _ => .event (.register ⟨"c", "host", 3, 100⟩ 0)]

/-- A sweep that has put its instructions into the queue and not yet recorded them. -/
def midSweep (c : Cluster) (now : UInt64) : Cluster :=
  match c.beginSweep c.store.catalog.allChunks c.store.registry.all now with
  | ⟨.ok survey, c⟩ => (c.mergeSweep now survey.findings).2
  | ⟨.error _, c⟩ => c

theorem reached_midSweep (h : c.Reached) (now : UInt64) : (midSweep c now).Reached := by
  have hbegun := h.beginSweep c.store.catalog.allChunks c.store.registry.all now
  unfold midSweep
  split
  · next survey c' hbegin =>
    rw [hbegin] at hbegun
    exact hbegun.mergeSweep now survey.findings
  · next hbegin =>
    rw [hbegin] at hbegun
    exact hbegun

/-- The node that the second chunk does not expect yet, its repetition, and a confirmed copy. -/
def mixedReports : List CopyKey := [⟨⟨3⟩, "c"⟩, ⟨⟨2⟩, "b"⟩, ⟨⟨2⟩, "a"⟩, ⟨⟨3⟩, "c"⟩, ⟨⟨3⟩, "b"⟩]

/-- The other way round they come to the same. -/
theorem reports_commute_midSweep :
    (midSweep (played singleCopies).2 1000).Granted mixedReports.reverse ∧
      (midSweep (played singleCopies).2 1000).reported mixedReports.reverse =
        (midSweep (played singleCopies).2 1000).reported mixedReports ∧
      ((midSweep (played singleCopies).2 1000).reported mixedReports).store.registry.all.map
        Node.free = [20, 10, 90] := by
  have hlife : Lifetime (.fresh .default .counting) (played singleCopies).1
      (played singleCopies).2 := of_played (by simp [singleCopies, Turn.ReadFrom, Event.ReadFrom])
  have hreached := reached_midSweep (hlife.reached _ List.mem_cons_self) 1000
  have hgranted : (midSweep (played singleCopies).2 1000).Granted mixedReports :=
    ⟨⟨⟨true, 2⟩, by decide +kernel⟩, ⟨⟨true, 2⟩, by decide +kernel⟩,
      ⟨⟨false, 2⟩, by decide +kernel⟩, ⟨⟨false, 2⟩, by decide +kernel⟩,
      ⟨⟨true, 3⟩, by decide +kernel⟩, trivial⟩
  obtain ⟨hreverse, hsame, -⟩ := hreached.reports_commute hgranted (List.reverse_perm _).symm
  exact ⟨hreverse, hsame, by decide +kernel⟩

/-- One of two copies is confirmed. -/
def secondCopy : List (Cluster → Event) :=
  [fun _ => .register ⟨"a", "host", 1, 100⟩ 0, fun _ => .register ⟨"b", "host", 2, 100⟩ 0,
   fun _ => .upload ⟨"name", 10, some 10, some 2⟩ 0, fun _ => .report ⟨2⟩ "a"]

/-- A sweep that has read the records before the other copy is confirmed orders that copy. When it
is reported once more, the instruction leaves the queue. -/
theorem exists_moving_repeat :
    ¬∀ (settings : Settings) (ids : IdSupply) (steps : List (Cluster × Turn)) (c : Cluster),
      Lifetime (.fresh settings ids) steps c → Set.InjOn ids.nth (Set.Ioc ids.drawn c.ids.drawn) →
      ∀ keys, c.Granted keys → ∀ before key after, keys = before ++ key :: after →
        key ∈ before ∨ c.store.confirms key →
        ((c.reported before).report key.chunk key.target).cluster.queue =
          (c.reported before).queue := by
  intro h
  have hrun : Run (.fresh .default .counting) (Run.played secondCopy).1 (Run.played secondCopy).2 :=
    Run.of_played (by simp [secondCopy, Event.ReadFrom])
  have hlate := (hrun.cons_late (e := .report ⟨2⟩ "b") trivial 1000).lifetime
  obtain ⟨c, hc⟩ : ∃ c, ((Run.played secondCopy).2.after (.report ⟨2⟩ "b")).after
    ((Run.played secondCopy).2.sweepNow 1000) = c := ⟨_, rfl⟩
  rw [hc] at hlate
  have hdrawn : c.ids.drawn = 2 := by
    rw [← hc]
    decide +kernel
  have hinj : Set.InjOn IdSupply.counting.nth (Set.Ioc 0 c.ids.drawn) := by
    rw [hdrawn]
    exact IdSupply.injOn_counting (by decide)
  have hanswer : (c.report ⟨2⟩ "b").result = .ok ⟨false, 2⟩ := by
    rw [← hc]
    decide +kernel
  have hconfirmed : c.store.confirms ⟨⟨2⟩, "b"⟩ := by
    rw [← hc]
    decide +kernel
  have hmoved : (c.report ⟨2⟩ "b").cluster.queue ≠ c.queue := by
    rw [← hc]
    decide +kernel
  exact hmoved (h _ _ _ c hlate hinj [⟨⟨2⟩, "b"⟩] ⟨⟨_, hanswer⟩, trivial⟩ [] _ [] rfl
    (.inr hconfirmed))

end Lifetime

end ChunkCoordinator
