import ChunkCoordinator.Proofs.Client
import ChunkCoordinator.Proofs.Run

/-!
# Names of nodes in addresses

Four calls name a node in their path, and they put the name there as it is. A name may be any text
that is not blank, so it may hold what means something in an address. The four calls do what they
stand for if the name is plain, and only then (`Call.send_eq_direct_iff`). Any other name is shown by the
address only in part, or it has an escape and is read as a shorter one (`Call.hasEscape_of_read`), so
that no segment of the path is read as the name (`Call.isPlain_of_read`): a coordinator that knows no
nodes says that another one is unknown, or that it does not understand (`Http.Server.perform_new`).

What a name may do is seen where it brings its own query: a removal without force becomes the removal
of another node with force (`Call.exists_forced_removal`).
-/

namespace ChunkCoordinator

open Http Http.Target Http.Server
open Text (splitOn)

variable {α : Type}

/-! ## Answers that say that a node is unknown -/

/-- A new coordinator that numbers what it creates. -/
def Cluster.new : Cluster := .fresh .default .counting

/-- The message about an unknown node names it. -/
theorem ServiceError.eq_of_message {node other : NodeId}
    (h : (unknownNode node).message = (unknownNode other).message) : node = other := by
  have htext : ∀ n, (unknownNode n).message = "node " ++ n ++ " is not registered" := fun _ => rfl
  rw [htext, htext, String.append_left_inj, String.append_right_inj] at h
  exact h

namespace Http

/-- The name of a node whose failure or restoration is asked for is a segment of the path. -/
theorem Resource.mem_of_ofSegments? {segments : List (List Char)} {raw : List Char}
    {resource : Resource} (h : ofSegments? segments = some resource)
    (hresource : resource = .failure raw ∨ resource = .restoration raw) : raw ∈ segments := by
  unfold ofSegments? at h
  rcases hresource with rfl | rfl <;> split at h <;> (try split_ifs at h) <;> cases h
  all_goals simp

namespace Server

theorem readParameter_error {parameter : String} {raw : List Char} {response : Response}
    (h : readParameter parameter raw = .error response) :
    response = .rejection 400 s!"Invalid URL: Invalid UTF-8 in `{parameter}`" := by
  rw [readParameter] at h
  split at h
  · cases h
  · exact (Except.error.inj h).symm

theorem decode_of_readParameter {parameter text : String} {raw : List Char}
    (h : readParameter parameter raw = .ok text) :
    Text.Utf8.decode (Text.Percent.decode raw) = text.toList.map some := by
  rw [readParameter] at h
  split at h
  · next s hs =>
    obtain rfl := Except.ok.inj h
    exact Text.Received.eq_of_whole? hs
  · cases h

theorem readId_error {parameter : String} {raw : List Char} {response : Response}
    (h : readId parameter raw = .error response) :
    response = .rejection 400 s!"Invalid URL: Invalid UTF-8 in `{parameter}`" ∨
      response = .rejection 400 "Invalid URL: UUID parsing failed" := by
  rw [readId] at h
  cases hread : readParameter parameter raw with
  | error rejection =>
    rw [hread] at h
    obtain rfl := Except.error.inj h
    exact .inl (readParameter_error hread)
  | ok text =>
    rw [hread] at h
    dsimp only [bind, Except.bind] at h
    split at h
    · cases h
    · exact .inr (Except.error.inj h).symm

theorem readBody_of_none {β : Type} {codec : Codec β} {r : Request} (h : r.contentType = none) :
    readBody codec r =
      .error (.rejection 415 "Expected request with `Content-Type: application/json`") := by
  rw [readBody, h]
  rfl

/-- What is read is rejected, or goes on. -/
theorem response_withRead {β : Type} {c : Cluster} {read : Except Response β} {next : β → Outcome}
    {response : Response} (h : (withRead c read next).response = some response) :
    read = .error response ∨ ∃ value, read = .ok value ∧ (next value).response = some response := by
  cases read with
  | error rejection => exact .inl (congrArg Except.error (Option.some.inj h))
  | ok value => exact .inr ⟨value, rfl, h⟩

/-- What a new coordinator may say to a request without a body in which it finds no name of a node. -/
def otherAnswers : List Response :=
  [.bare 404, .bare 405, .rejection 415 "Expected request with `Content-Type: application/json`",
    .rejection 400 "Invalid URL: Invalid UTF-8 in `node_id`",
    .rejection 400 "Invalid URL: Invalid UTF-8 in `chunk_id`",
    .rejection 400 "Invalid URL: UUID parsing failed",
    .json 200 SweepReport.codec ⟨0, [], [], 0, 0, 0⟩]

/-- A body is asked for in vain. -/
theorem mem_otherAnswers_of_readBody {β : Type} {codec : Codec β} {r : Request}
    (htype : r.contentType = none) {next : β → Outcome} {response : Response}
    (h : (withRead .new (readBody codec r) next).response = some response) :
    response ∈ otherAnswers := by
  rw [readBody_of_none htype] at h
  obtain rfl := Option.some.inj h
  decide +kernel

/-- A new coordinator that is asked to do something without a body finds the name of a node in what it
is asked for, and says that the node is unknown, or gives one of the other answers. -/
theorem perform_new {r : Request} (htype : r.contentType = none) {resource : Resource}
    {response : Response} (hresponse : (perform .new 0 r "POST" resource).response = some response) :
    response ∈ otherAnswers ∨ ∃ raw node, (resource = .failure raw ∨ resource = .restoration raw) ∧
      readName raw = .ok node ∧ response = .refusal (.unknownNode node) := by
  cases resource with
  | nodes | files => exact .inl (mem_otherAnswers_of_readBody htype hresponse)
  | heartbeat raw =>
    rcases response_withRead hresponse with hname | ⟨node, -, hresponse⟩
    · obtain rfl := readParameter_error hname
      exact .inl (by decide +kernel)
    · exact .inl (mem_otherAnswers_of_readBody htype hresponse)
  | replicas raw =>
    rcases response_withRead hresponse with hid | ⟨chunk, -, hresponse⟩
    · rcases readId_error hid with rfl | rfl <;> exact .inl (by decide +kernel)
    · exact .inl (mem_otherAnswers_of_readBody htype hresponse)
  | failure raw | restoration raw =>
    rcases response_withRead hresponse with hname | ⟨node, hname, hresponse⟩
    · obtain rfl := readParameter_error hname
      exact .inl (by decide +kernel)
    · exact .inr ⟨raw, node, by simp, hname, (Option.some.inj hresponse).symm⟩
  | sweep =>
    have hsweep : (respond 200 SweepReport.codec (Cluster.new.sweep 0)).response =
        some (.json 200 SweepReport.codec ⟨0, [], [], 0, 0, 0⟩) := by decide +kernel
    obtain rfl := Option.some.inj (hsweep.symm.trans hresponse)
    exact .inl (by decide +kernel)
  | _ =>
    obtain rfl := Option.some.inj hresponse
    exact .inl (by decide +kernel)

/-- None of the other answers says that a node is unknown. -/
theorem code_of_otherAnswers : ∀ response ∈ otherAnswers,
    (ErrorBody.codec.read (.ofString response.body)).toOption.map ErrorBody.code ≠
      some "unknown_node" := by
  decide +kernel

/-- Whom a new coordinator does not know has been named by a segment of the path. -/
theorem exists_readName {r : Request} {response : Response}
    (hresponse : (handle .new 0 r).response = some response) (hmethod : r.method = "POST")
    (htype : r.contentType = none) {segments : List (List Char)}
    (hslash : ∀ s ∈ segments, ∀ c ∈ s, isSlash c = false)
    (hpath : r.target.path = joinSegments segments) {message : String}
    (hread : ErrorBody.codec.read (.ofString response.body) = .ok ⟨"unknown_node", message⟩) :
    ∃ raw ∈ segments, ∃ node, readName raw = .ok node ∧
      message = (ServiceError.unknownNode node).message := by
  have hother : response ∉ otherAnswers := fun hmem => code_of_otherAnswers response hmem (by
    rw [hread]
    rfl)
  rw [handle, hpath] at hresponse
  split at hresponse
  · exact absurd (Option.some.inj hresponse ▸ List.mem_cons_self) hother
  · next resource hresource =>
    rw [if_neg (by rw [hmethod]; decide), hmethod] at hresponse
    obtain ⟨raw, node, hnamed, hname, rfl⟩ := (perform_new htype hresponse).resolve_left hother
    refine ⟨raw, ?_, node, hname, ?_⟩
    · cases segments with
      | nil => cases hresource
      | cons first segments =>
        rw [Resource.ofPath?_joinSegments hslash] at hresource
        exact Resource.mem_of_ofSegments? hresource hnamed
    · have htext : ErrorBody.codec.read (.ofString (Response.refusal (.unknownNode node)).body) =
          .ok ⟨"unknown_node", (ServiceError.unknownNode node).message⟩ :=
        (ErrorBody.faithful_codec _).read_text
      rw [htext] at hread
      simpa using hread.symm

end Server

end Http

namespace Call

/-! ## What is left of a call -/

/-- A segment that is asked for comes from one of the call. -/
theorem exists_segment {call : Call α} {t : List Char} (h : t ∈ splitOn isSlash (shown call.behind)) :
    ∃ s ∈ call.segments, t ∈ splitOn isSlash (shown s) := by
  obtain ⟨first, segments, hsegments⟩ := call.exists_segments
  have hbehind : call.behind = first ++ joinSegments segments ++ queryText call.query? := by
    rw [behind, hsegments]
    rfl
  have hshown : shown call.behind = shown (first ++ joinSegments segments) := by
    rw [hbehind]
    rcases shown_append (first ++ joinSegments segments) (queryText call.query?) with heq | heq
    · exact heq
    · rw [heq, shown_queryText, List.append_nil]
  rw [hshown] at h
  rw [hsegments]
  exact Target.exists_segment h

/-- There are no percent signs around the name. -/
theorem eq_of_percent_mem {call : Call α} {node : NodeId} (hnode : call.node? = some node)
    {s : List Char} (hs : s ∈ call.segments) (hpercent : '%' ∈ s) : s = node.toList := by
  have hwords : ∀ w ∈ ["nodes", "heartbeat", "admin", "fail", "restore"], '%' ∉ w.toList := by decide
  simp only [List.mem_cons, List.not_mem_nil, or_false, forall_eq_or_imp, forall_eq] at hwords
  have hsegments : ∀ s ∈ call.segments, s = node.toList ∨ '%' ∉ s := by
    cases call <;> cases hnode <;>
      simp only [segments, List.mem_cons, List.not_mem_nil, or_false, forall_eq_or_imp, forall_eq,
        hwords, not_false_eq_true, or_true, true_or, and_self]
  exact (hsegments s hs).resolve_right (not_not_intro hpercent)

/-- A segment that is read as the name has no escape, which would make the name longer than itself. -/
theorem hasEscape_of_read {call : Call α} {node : NodeId} (hnode : call.node? = some node)
    {t : List Char} (ht : t ∈ splitOn isSlash (shown call.behind))
    (hread : Text.Utf8.decode (Text.Percent.decode (Text.Percent.encode isPathSpecial t)) =
      node.toList.map some) : Text.Percent.hasEscape t = false := by
  have hle : (Text.Utf8.decode (Text.Percent.decode (Text.Percent.encode isPathSpecial t))).length +
      (Text.Percent.hasEscape t).toNat ≤ t.length := by
    refine Text.Percent.length_decodeFrom_le (by decide) isPathSpecial_of_digit ?_ t ?_
    · exact fun p hp => absurd hp (Option.not_mem_none p)
    · rw [← Text.Utf8.decode, hread, List.mem_map]
      rintro ⟨c, -, hc⟩
      cases hc
  by_contra hescape
  rw [Bool.not_eq_false] at hescape
  obtain ⟨s, hs, hts⟩ := exists_segment ht
  have hsub := (Text.of_mem_splitOn hts).1.trans (shown_sublist s)
  have hpercent : '%' ∈ t := by
    by_contra hnot
    rw [Text.Percent.hasEscape_of_notMem hnot] at hescape
    cases hescape
  obtain rfl := eq_of_percent_mem hnode hs (hsub.subset hpercent)
  rw [hread, List.length_map, hescape] at hle
  exact absurd hle (Nat.not_le.2 (Nat.lt_succ_of_le hsub.length_le))

/-- If a segment of the path is read as the name, the name is plain. -/
theorem isPlain_of_read {call : Call α} {node : NodeId} (hnode : call.node? = some node)
    (hne : node ≠ "") {raw : List Char} (hraw : raw ∈ shownSegments call.behind)
    (hread : readName raw = .ok node) : IsPlain node.toList := by
  have hdecode := decode_of_readParameter hread
  rcases mem_shownSegments hraw with rfl | ⟨t, ht, rfl, hplace⟩
  · exact absurd (String.toList_eq_nil_iff.1 (List.map_eq_nil_iff.1 hdecode.symm)) hne
  · have hescape := hasEscape_of_read hnode ht hdecode
    rw [Text.Percent.decode_encode hescape, Text.Utf8.decode_flatMap] at hdecode
    obtain rfl : t = node.toList := List.map_injective_iff.2 (Option.some_injective _) hdecode
    exact isPlain_of_mem_shown ht hescape hplace

/-! ## What the caller is told -/

/-- A caller who is told that a node is unknown has been answered so. -/
theorem read_of_interpret {α : Type} {call : Call α} {delivery : Delivery} {message : String}
    (h : call.interpret delivery = .error (.answered 404 "unknown_node" message)) :
    ∃ status body, delivery = .answered status body ∧
      ErrorBody.codec.read body = .ok ⟨"unknown_node", message⟩ := by
  cases delivery with
  | unreachable => cases h
  | abandoned => cases h
  | answered status body =>
    refine ⟨status, body, rfl, ?_⟩
    rw [interpret] at h
    split at h
    · split at h <;> cases h
    · have hrefusal := Except.error.inj h
      rw [refusal] at hrefusal
      split at hrefusal
      · next error herror =>
        simp only [Failure.answered.injEq] at hrefusal
        obtain ⟨-, hcode, hmessage⟩ := hrefusal
        rw [herror, ← hcode, ← hmessage]
      · simp only [Failure.answered.injEq] at hrefusal
        exact absurd hrefusal.2.1 (by decide)

/-- A call is answered by the transport. -/
theorem send_of_request? {σ : Type} {call : Call α} {address : String} {r : Request}
    (h : call.request? address = some r) (transport : Transport σ) (s : σ) :
    call.send transport address s = (call.interpret (transport r s).1, (transport r s).2) := by
  rw [send, h]

/-- What is answered is what the server responds with. -/
theorem response_of_answered {now : UInt64} {r : Request} {c : Cluster} {status : Nat}
    {body : Text.Received} (h : (Transport.server now r c).1 = .answered status body) :
    ∃ response, (handle c now r).response = some response ∧ body = .ofString response.body := by
  rw [Transport.server] at h
  generalize handle c now r = outcome at h
  obtain ⟨response | response, c'⟩ := outcome
  · cases h
  · exact ⟨response, rfl, (Delivery.answered.inj h).2.symm⟩

/-- A name with which a failure is noted, as it is by the cluster, is plain. -/
theorem isPlain_of_send {node : NodeId} (hne : node ≠ "") {address : String}
    (haddress : IsOrigin address)
    (h : (failNode node).send (.server 0) address .new = ((failNode node).direct 0 .new).told) :
    IsPlain node.toList := by
  have hdirect : ((failNode node).direct 0 .new).told.1 =
      .error (.answered 404 "unknown_node" (ServiceError.unknownNode node).message) := rfl
  rw [send_of_request? (request?_of_isOrigin haddress _)] at h
  have hanswer := (Prod.ext_iff.1 h).1
  rw [hdirect] at hanswer
  dsimp only at hanswer
  obtain ⟨status, body, hdelivery, hread⟩ := read_of_interpret hanswer
  obtain ⟨response, hresponse, rfl⟩ := response_of_answered hdelivery
  obtain ⟨raw, hraw, other, hother, hmessage⟩ :=
    exists_readName hresponse rfl rfl isSlash_shownSegments (path_ofBehind _) hread
  obtain rfl := ServiceError.eq_of_message hmessage
  exact isPlain_of_read rfl hne hraw hother

end Call

/-! ## Heartbeats -/

/-- The size of a text is at most four bytes for each character. -/
theorem utf8ByteSize_ofList_le (cs : List Char) :
    (String.ofList cs).utf8ByteSize ≤ 4 * cs.length := by
  have hsize : (String.ofList cs).utf8ByteSize = (cs.flatMap String.utf8EncodeChar).length := by
    simp [String.utf8ByteSize, String.ofList, List.utf8Encode]
  rw [hsize]
  clear hsize
  induction cs with
  | nil => exact Nat.le_refl 0
  | cons c cs ih =>
    have hc := c.utf8Size_le_four
    rw [List.flatMap_cons, List.length_append, String.length_utf8EncodeChar, List.length_cons]
    omega

theorem HeartbeatRequest.text_eq (request : HeartbeatRequest) :
    codec.text request =
      .ofList ("\x7b\"free_bytes\":".toList ++ Nat.toDigits 10 request.free.toNat ++ ['\x7d']) := rfl

/-- The body of a heartbeat is never too long. -/
theorem HeartbeatRequest.utf8ByteSize_le (request : HeartbeatRequest) :
    (codec.text request).utf8ByteSize ≤ bodyLimit := by
  have hdigits : (Nat.toDigits 10 request.free.toNat).length ≤ 20 :=
    (Nat.length_toDigits_le_iff (by decide) (by decide)).2
      (Nat.lt_of_lt_of_le request.free.toNat_lt (by decide))
  have hname : "\x7b\"free_bytes\":".toList.length = 14 := by decide
  rw [text_eq]
  refine Nat.le_trans (utf8ByteSize_ofList_le _) ?_
  rw [List.length_append, List.length_append, hname, List.length_singleton, bodyLimit]
  omega

namespace Call

/-- A call that names a node in its path has a body that the server takes. -/
theorem utf8ByteSize_body_le {call : Call α} {node : NodeId} (hnode : call.node? = some node) :
    ∀ body ∈ call.body?, body.utf8ByteSize ≤ bodyLimit := by
  intro body hbody
  cases call <;> cases hnode <;> cases hbody
  exact HeartbeatRequest.utf8ByteSize_le _

/-! ## The calls that name a node -/

/-- The calls that name a node in their path do what they stand for, in every state and at any time,
if and only if the name is plain. -/
theorem send_eq_direct_iff {node : NodeId} (haccepted : Text.blank node = false) {address : String}
    (haddress : IsOrigin address) :
    (∀ (α : Type) (call : Call α), call.node? = some node → ∀ (now : UInt64) (c : Cluster),
      call.send (Transport.server now) address c = (call.direct now c).told) ↔
        IsPlain node.toList := by
  have hne : node ≠ "" := by
    rintro rfl
    exact absurd haccepted (by decide)
  refine ⟨fun h => isPlain_of_send hne haddress (h _ (failNode node) rfl 0 .new), ?_⟩
  intro hplain α call hnode now c
  rw [← served_of_node? hnode (call.direct now c)]
  refine send_of_isPlain haddress ?_ ?_ (utf8ByteSize_body_le hnode) fun value _ => ?_
  · rw [hnode]
    exact fun other hother => Option.some.inj hother ▸ hplain
  · rw [hnode]
    exact fun other hother => Option.some.inj hother ▸ hne
  · cases call <;> cases hnode <;> trivial

/-- A name in which nothing is special to addresses but much has to be encoded, and one that names
another node. -/
theorem send_eq_direct_iff_spaced :
    (Text.blank "rack 1 <é>" = false ∧ Text.blank "rack%201" = false) ∧ IsOrigin "http://master/" ∧
      (∀ (now : UInt64) (c : Cluster), (heartbeat "rack 1 <é>" 7).send (Transport.server now)
        "http://master/" c = ((heartbeat "rack 1 <é>" 7).direct now c).told) ∧
      ¬∀ (α : Type) (call : Call α), call.node? = some "rack%201" → ∀ (now : UInt64) (c : Cluster),
        call.send (Transport.server now) "http://master/" c = (call.direct now c).told := by
  have hspaced : Text.blank "rack 1 <é>" = false := by decide
  have hescaped : Text.blank "rack%201" = false := by decide
  have haddress : IsOrigin "http://master/" :=
    ⟨"http".toList, "master".toList, ['/'], ⟨by decide, by decide +kernel, by decide⟩, by decide,
      by decide⟩
  have hplain : IsPlain "rack 1 <é>".toList := by decide
  refine ⟨⟨hspaced, hescaped⟩, haddress, fun now c => ?_, fun h => ?_⟩
  · exact (send_eq_direct_iff hspaced haddress).2 hplain _ (heartbeat "rack 1 <é>" 7) rfl now c
  · exact absurd ((send_eq_direct_iff hescaped haddress).1 h) (by decide)

/-! ## A name with a query -/

/-- A node with a copy, and another one whose name holds a query. -/
def nodeWithQuery : List (Cluster → Event) :=
  [fun _ => .register ⟨"a", "host", 1, 1000⟩ 0,
   fun _ => .upload ⟨"name", 10, some 10, some 1⟩ 0,
   fun _ => .report ⟨2⟩ "a",
   fun _ => .register ⟨"a?force=true&x=", "host", 1, 1000⟩ 0]

theorem run_nodeWithQuery :
    Run (.fresh .default .counting) (Run.played nodeWithQuery).1 (Run.played nodeWithQuery).2 :=
  Run.of_played (by simp [nodeWithQuery, Event.ReadFrom])

/-- A removal without force through the server may remove another node by force. -/
theorem exists_forced_removal :
    ¬∀ (settings : Settings) (ids : IdSupply) (steps : List (Cluster × Event)) (c : Cluster),
      Run (.fresh settings ids) steps c →
      ∀ node, Text.blank node = false → ∀ (force : Bool) (address : String), IsOrigin address →
      ∀ now, (removeNode node force).send (Transport.server now) address c =
        ((removeNode node force).direct now c).told := by
  intro h
  have haddress : IsOrigin "http://master/" :=
    ⟨"http".toList, "master".toList, ['/'], ⟨by decide, by decide +kernel, by decide⟩, by decide,
      by decide⟩
  have hsame := congrArg (fun told => told.2.store.registry.isLive "a")
    (h _ _ _ _ run_nodeWithQuery "a?force=true&x=" (by decide) false _ haddress 0)
  have hsent : (((removeNode "a?force=true&x=" false).send (Transport.server 0) "http://master/"
      (Run.played nodeWithQuery).2).2.store.registry.isLive "a") = false := by decide +kernel
  have hdirect : (((removeNode "a?force=true&x=" false).direct 0
      (Run.played nodeWithQuery).2).told.2.store.registry.isLive "a") = true := by decide +kernel
  exact absurd (hsent.symm.trans (hsame.trans hdirect)) (by decide)

end Call

end ChunkCoordinator
