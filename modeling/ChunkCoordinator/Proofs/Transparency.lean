import ChunkCoordinator.Proofs.Client
import ChunkCoordinator.Proofs.Queue
import ChunkCoordinator.Proofs.Run

/-!
# Every call through the server is a call to the cluster

Answers count nodes, files, chunks, copies and instructions. They count no more than there are
(`Call.countable_direct`), so the numbers are words as long as the collections of the cluster are as
small as collections in memory are (`Cluster.InMemory`). A call that names no node in its path then
does through the server what it does to the cluster itself (`Call.send_eq_direct`), whatever the state,
the time and the arguments.
-/

namespace ChunkCoordinator

open Http Http.Server

/-- Every collection of the cluster has fewer than `2 ^ 63` entries, as collections in memory do. -/
structure Cluster.InMemory (c : Cluster) : Prop where
  nodes : c.store.registry.nodes.size < 2 ^ 63
  files : c.store.catalog.files.size < 2 ^ 63
  chunks : c.store.catalog.chunks.size < 2 ^ 63
  chunkIds : ∀ file, (c.store.catalog.idsOf file).length < 2 ^ 63
  replicas : ∀ id r, c.store.chunk? id = some r → r.replicas.size < 2 ^ 63
  pending : c.queue.pending.size < 2 ^ 63
  unrecoverable : c.queue.unrecoverable.size < 2 ^ 63

instance (c : Cluster) : Decidable c.InMemory :=
  decidable_of_iff
    (c.store.registry.nodes.size < 2 ^ 63 ∧ c.store.catalog.files.size < 2 ^ 63 ∧
      c.store.catalog.chunks.size < 2 ^ 63 ∧
      (∀ ids ∈ c.store.catalog.chunkIds.values, ids.length < 2 ^ 63) ∧
      (∀ r ∈ c.store.catalog.chunks.values, r.replicas.size < 2 ^ 63) ∧
      c.queue.pending.size < 2 ^ 63 ∧ c.queue.unrecoverable.size < 2 ^ 63) <| by
  constructor
  · rintro ⟨hnodes, hfiles, hchunks, hids, hreplicas, hpending, hunrecoverable⟩
    refine ⟨hnodes, hfiles, hchunks, fun file => ?_,
      fun id r hr => hreplicas r (Table.mem_values.2 ⟨id, hr⟩), hpending, hunrecoverable⟩
    rw [Catalog.idsOf]
    cases hfile : c.store.catalog.chunkIds.get? file with
    | none => exact (by decide : (0 : Nat) < 2 ^ 63)
    | some ids => exact hids ids (Table.mem_values.2 ⟨file, hfile⟩)
  · intro h
    refine ⟨h.nodes, h.files, h.chunks, fun ids hids => ?_, fun r hr => ?_, h.pending,
      h.unrecoverable⟩
    · obtain ⟨file, hfile⟩ := Table.mem_values.1 hids
      have hlength := h.chunkIds file
      rwa [Catalog.idsOf, hfile] at hlength
    · obtain ⟨id, hid⟩ := Table.mem_values.1 hr
      exact h.replicas id r hid

/-! ## Files -/

theorem Catalog.length_chunksOf_le (c : Catalog) (file : FileId) :
    (c.chunksOf file).length ≤ (c.idsOf file).length := by
  rw [chunksOf, (perm_sortedBy _ _).length_eq]
  exact List.length_filterMap_le _ _

theorem Catalog.exists_of_mem_chunksOf {c : Catalog} {file : FileId} {r : ChunkRecord}
    (h : r ∈ c.chunksOf file) : ∃ id, c.chunks.get? id = some r := by
  obtain ⟨id, -, hr⟩ := List.mem_filterMap.1 ((perm_sortedBy _ _).subset h)
  exact ⟨id, hr⟩

/-! ## Nodes and copies -/

/-- The nodes of a summary are those of the registry. -/
theorem Registry.counts_summary? {r : Registry} {s : Summary} (h : r.summary? = some s) :
    s.total = r.nodes.size ∧ s.healthy ≤ r.nodes.size ∧ s.unhealthy ≤ r.nodes.size ∧
      s.removed ≤ r.nodes.size := by
  have hlength : r.all.length = r.nodes.size := List.length_map _
  have hcount : ∀ health, r.count health ≤ r.nodes.size := fun health =>
    hlength ▸ List.countP_le_length
  simp only [summary?, Option.bind_eq_bind, Option.bind_eq_some_iff] at h
  obtain ⟨capacity, -, free, -, hs⟩ := h
  obtain rfl := Option.some.inj hs
  exact ⟨hlength, hcount _, hcount _, hcount _⟩

theorem Table.size_insert_le {κ ν : Type} [Ord κ] [Std.TransOrd κ] [Std.LawfulEqOrd κ]
    (t : Table κ ν) (k : κ) (v : ν) : (t.insert k v).size ≤ t.size + 1 := by
  have hinsert := size_eq_erase (t.insert k v) k
  have herase := size_eq_erase t k
  rw [erase_insert] at hinsert
  split at hinsert <;> omega

theorem Store.replicaCount_report {s s' : Store} {chunk : ChunkId} {node : NodeId}
    {outcome : ReportOutcome} (h : s.report chunk node = .ok (outcome, s')) :
    ∃ r, s.chunk? chunk = some r ∧ outcome.replicaCount ≤ r.replicas.size + 1 := by
  unfold report at h
  split at h
  · cases h
  · next r hr =>
    refine ⟨r, hr, ?_⟩
    split at h
    · cases h
    · split at h
      · obtain ⟨rfl, -⟩ := Prod.mk.inj (Except.ok.inj h)
        exact Nat.le_succ _
      · split at h
        · cases h
        · obtain ⟨rfl, -⟩ := Prod.mk.inj (Except.ok.inj h)
          exact Table.size_insert_le _ _ _

namespace Cluster

variable {c : Cluster}

/-- No more copies are healthy than there are. -/
theorem healthyReplicas_le (c : Cluster) (r : ChunkRecord) :
    (c.chunkReplicas r).healthyReplicas ≤ r.replicas.size := by
  rw [← Table.length_keys]
  exact Nat.le_trans List.countP_le_length (List.length_filterMap_le _ _)

theorem getFile_ok {file : FileId} {metadata : FileMetadata}
    (h : (c.getFile file).result = .ok metadata) :
    ∀ replicas ∈ metadata.chunks, ∃ id r, c.store.chunk? id = some r ∧ replicas = c.chunkReplicas r := by
  rw [getFile, Catalog.file] at h
  split at h
  · cases h
  · next record chunks hfile =>
    split at hfile
    · obtain ⟨rfl, rfl⟩ := Prod.mk.inj (Except.ok.inj hfile)
      obtain rfl := Except.ok.inj h
      intro replicas hreplicas
      obtain ⟨r, hr, rfl⟩ := List.mem_map.1 hreplicas
      obtain ⟨id, hid⟩ := Catalog.exists_of_mem_chunksOf hr
      exact ⟨id, r, hid, rfl⟩
    · cases hfile

/-- No more chunks of a file are short of copies than the file has. -/
theorem underReplicated_le {s : FileSummary} (h : s ∈ c.listFiles) :
    ∃ file, s.underReplicated ≤ (c.store.catalog.idsOf file).length := by
  obtain ⟨⟨record, chunks⟩, hlisted, rfl⟩ := List.mem_map.1 h
  obtain ⟨f, -, heq⟩ := List.mem_map.1 hlisted
  obtain ⟨rfl, rfl⟩ := Prod.mk.inj heq
  exact ⟨f.id, Nat.le_trans List.countP_le_length (Catalog.length_chunksOf_le _ _)⟩

/-! ## Copies -/

/-- A report adds at most one copy to those of the chunk. -/
theorem replicaCount_report {chunk : ChunkId} {node : NodeId} {response : ReportResponse}
    (h : (c.report chunk node).result = .ok response) :
    ∃ r, c.store.chunk? chunk = some r ∧ response.replicaCount ≤ r.replicas.size + 1 := by
  have hexpecting := c.expecting_asked chunk node
  unfold report at h
  generalize (if c.queue.isPending chunk node then
    ((c.store.expect chunk [node]).map Prod.snd).getD c.store else c.store) = asked at h hexpecting
  dsimp only at h
  split at h
  · cases h
  · next outcome store hreport =>
    obtain ⟨r, hr, hcount⟩ := Store.replicaCount_report hreport
    obtain ⟨nodes, -, heq⟩ := hexpecting.chunk?_eq chunk
    rw [hr] at heq
    obtain ⟨r', hr', rfl⟩ := Option.map_eq_some_iff.1 heq.symm
    have hresponse := Except.ok.inj h
    refine ⟨r', hr', ?_⟩
    rw [← hresponse]
    exact hcount

/-! ## Status -/

theorem countable_currentStatus? (h : c.InMemory) {status : ClusterStatus}
    (hstatus : c.currentStatus? = some status) : status.Countable := by
  obtain ⟨summary, hsummary, rfl⟩ := Option.map_eq_some_iff.1 hstatus
  obtain ⟨htotal, hhealthy, hunhealthy, hremoved⟩ := Registry.counts_summary? hsummary
  have hnodes := h.nodes
  have hfiles := h.files
  have hchunks := h.chunks
  have hpending := h.pending
  have hunrecoverable := h.unrecoverable
  constructor <;> simp only [UInt64.size, Catalog.counts] <;> omega

end Cluster

/-! ## Sweeps -/

theorem Survey.shortOfTargets_visit (s : Survey) (p : Progress) (c : ChunkRecord) :
    (s.visit p c).shortOfTargets ≤ p.shortOfTargets + 1 := by
  have hone : ∀ (short : Prop) [Decidable short], (if short then 1 else 0) ≤ 1 := by
    intro short _
    split <;> decide
  unfold visit
  dsimp only
  split
  · exact Nat.le_succ _
  · split
    · exact Nat.le_succ _
    · exact Nat.add_le_add_left (hone _) p.shortOfTargets

/-- No more chunks are short of targets than there are. -/
theorem Survey.shortOfTargets_findings (s : Survey) :
    s.findings.shortOfTargets ≤ s.chunks.length := by
  have hfold : ∀ (cs : List ChunkRecord) (p : Progress),
      (cs.foldl s.visit p).shortOfTargets ≤ p.shortOfTargets + cs.length := by
    intro cs
    induction cs with
    | nil => exact fun p => Nat.le_refl _
    | cons c cs ih =>
      intro p
      have hvisit := s.shortOfTargets_visit p c
      have hrest := ih (s.visit p c)
      rw [List.foldl_cons, List.length_cons]
      omega
  have hall := hfold (sortedBy ChunkRecord.leByAge s.chunks) s.start
  rw [(perm_sortedBy _ _).length_eq] at hall
  exact hall.trans (Nat.zero_add _).le

/-- Recording a sweep changes nothing in the report but the list of instructions. -/
theorem Cluster.exists_emitted_recordSweep {c : Cluster} {report answer : SweepReport}
    (h : (c.recordSweep report).result = .ok answer) : ∃ emitted, answer = { report with emitted } :=
  ⟨_, result_recordSweep h⟩

/-- A sweep counts no more instructions and chunks than there are. -/
theorem Cluster.countable_sweep {c : Cluster} (h : c.InMemory) {now : UInt64} {report : SweepReport}
    (hreport : (c.sweep now).result = .ok report) : report.Countable := by
  have hlength : c.store.catalog.allChunks.length = c.store.catalog.chunks.size := List.length_map _
  have hpending := h.pending
  have hchunks := h.chunks
  rw [sweep] at hreport
  by_cases hsweeping : c.queue.sweeping
  · rw [sweepOver_refused hsweeping] at hreport
    cases hreport
  rw [Bool.not_eq_true] at hsweeping
  rw [sweepOver_eq hsweeping] at hreport
  generalize hs : Survey.ofRecords c.store.catalog.allChunks c.store.registry.all c.queue.pending now
    c.settings.instructionTtl = s at hreport
  have hshort := s.shortOfTargets_findings
  have hscanned : s.chunks.length = c.store.catalog.allChunks.length := by rw [← hs]; rfl
  have hcompleted : (({ c.queue with sweeping := true } : Queue).merge now s.findings).1.completed ≤
      c.queue.pending.size := by
    rw [Queue.completed_merge]
    exact List.countP_le_length
  have hexpired : (({ c.queue with sweeping := true } : Queue).merge now s.findings).1.expired ≤
      c.queue.pending.size := by
    rw [Queue.expired_merge]
    exact List.countP_le_length
  have hfound : (({ c.queue with sweeping := true } : Queue).merge now s.findings).1.shortOfTargets =
      s.findings.shortOfTargets := rfl
  obtain ⟨emitted, rfl⟩ := exists_emitted_recordSweep hreport
  have hword : (2 : Nat) ^ 63 ≤ UInt64.size := by decide
  exact {
    completed := Nat.lt_of_le_of_lt hcompleted (by omega)
    expired := Nat.lt_of_le_of_lt hexpired (by omega)
    shortOfTargets := Nat.lt_of_le_of_lt hfound.le (by omega) }

/-! ## Calls -/

/-- The numbers of things in an answer are words. -/
theorem Call.countable_direct {α : Type} {c : Cluster} (h : c.InMemory) (call : Call α) (now : UInt64)
    {value : α} (hvalue : (call.direct now c).result = .ok value) : call.Countable value := by
  cases call with
  | reportStored chunk node =>
    obtain ⟨r, hr, hle⟩ := Cluster.replicaCount_report hvalue
    have hsize := h.replicas chunk r hr
    simp only [Countable, UInt64.size]
    omega
  | fileMetadata file =>
    intro replicas hmem
    obtain ⟨id, r, hr, rfl⟩ := Cluster.getFile_ok hvalue replicas hmem
    have hsize := h.replicas id r hr
    have hle := c.healthyReplicas_le r
    simp only [UInt64.size]
    omega
  | listFiles =>
    intro s hs
    obtain rfl := Except.ok.inj hvalue
    obtain ⟨file, hle⟩ := Cluster.underReplicated_le hs
    have hsize := h.chunkIds file
    simp only [UInt64.size]
    omega
  | triggerSweep => exact Cluster.countable_sweep h hvalue
  | clusterStatus =>
    have hstatus : c.currentStatus? = some value := by
      rw [direct, Cluster.status] at hvalue
      cases hcurrent : c.currentStatus? with
      | none => rw [hcurrent] at hvalue; cases hvalue
      | some status => rw [hcurrent] at hvalue; exact congrArg some (Except.ok.inj hvalue)
    exact Cluster.countable_currentStatus? h hstatus
  | _ => trivial

/-- A call that names no node in its path tells the caller through the server what the cluster itself
answers, and leaves the cluster in the same state. The server speaks for itself only where a sweep has
given up. -/
theorem Call.send_eq_direct {α : Type} (call : Call α) (hnode : call.node? = none) {address : String}
    (haddress : IsOrigin address) {c : Cluster} (h : c.InMemory) (now : UInt64)
    (hlimit : ∀ body ∈ call.body?, body.utf8ByteSize ≤ bodyLimit) :
    call.send (Transport.server now) address c = (call.served (call.direct now c)).told ∧
      ((call.direct now c).result ≠ .error .overflow →
        call.send (Transport.server now) address c = (call.direct now c).told) := by
  have hsend : call.send (Transport.server now) address c =
      (call.served (call.direct now c)).told := by
    refine send_of_isPlain haddress ?_ ?_ hlimit fun value hvalue => countable_direct h call now hvalue
    · rw [hnode]
      exact fun node hmem => nomatch hmem
    · rw [hnode]
      exact fun node hmem => nomatch hmem
  exact ⟨hsend, fun hresult => hsend.trans (by rw [served_of_ne hresult])⟩

/-- A node whose name and host are out of the ordinary, and a file that is to be stored on it. -/
def oddlyNamed : Cluster :=
  (((Cluster.fresh .default .counting).register ⟨"a/..\"\n?é", "\\ \t", 1, 1000⟩ 0).cluster.upload
    ⟨"\x00", 25, some 10, some 1⟩ 0).cluster

/-- The first copy that the node reports is confirmed through the server as it is by the cluster. -/
theorem Call.send_eq_direct_oddlyNamed :
    IsOrigin "http://master:7070//" ∧ oddlyNamed.InMemory ∧
      (∀ body ∈ (reportStored ⟨2⟩ "a/..\"\n?é").body?, body.utf8ByteSize ≤ bodyLimit) ∧
      (reportStored ⟨2⟩ "a/..\"\n?é").send (Transport.server 5) "http://master:7070//" oddlyNamed =
        ((reportStored ⟨2⟩ "a/..\"\n?é").direct 5 oddlyNamed).told ∧
      ((reportStored ⟨2⟩ "a/..\"\n?é").direct 5 oddlyNamed).told.1 = .ok ⟨true, 1⟩ := by
  have haddress : IsOrigin "http://master:7070//" :=
    ⟨"http".toList, "master:7070".toList, ['/', '/'],
      ⟨by decide, by decide +kernel, by decide⟩, by decide, by decide⟩
  have hmemory : oddlyNamed.InMemory := by decide +kernel
  have hlimit : ∀ body ∈ (reportStored ⟨2⟩ "a/..\"\n?é").body?, body.utf8ByteSize ≤ bodyLimit := by
    decide +kernel
  have hresult : ((reportStored ⟨2⟩ "a/..\"\n?é").direct 5 oddlyNamed).result ≠ .error .overflow := by
    decide +kernel
  exact ⟨haddress, hmemory, hlimit, (send_eq_direct _ rfl haddress hmemory 5 hlimit).2 hresult,
    by decide +kernel⟩

end ChunkCoordinator
