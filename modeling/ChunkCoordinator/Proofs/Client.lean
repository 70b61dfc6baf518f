import ChunkCoordinator.Proofs.Target
import ChunkCoordinator.Proofs.Wire

/-!
# Calls through the server and calls to the cluster

Every call stands for an operation of the cluster (`Call.direct`). Through the server the caller is
told the same (`Reply.told`) and the cluster is left in the same state (`Call.send_of_isPlain`): the
request names the resource that the call is about, its body holds what the call was made with, and the
answer, or the reason for the refusal, comes back as it was given. Of an operation that is given up the
caller hears nothing, unless it is a sweep, of which the server tells that it has failed
(`Call.served`). This is so for a call that goes to
a server (`Call.IsOrigin`) and whose body the server takes, if the name in the path is plain, where
there is one, and the numbers of things in the answer are words.
-/

namespace ChunkCoordinator

open Http Http.Target Http.Server
open Text (Received)

variable {α : Type}

/-! ## What a caller is told -/

/-- What a caller is told of an answer, and the state that is left behind. -/
def Reply.told (r : Reply α) : Except Call.Failure α × Cluster :=
  (match r.result with
    | .ok value => .ok value
    | .error (.refused why) => .error (.answered why.status why.code why.message)
    | .error .overflow => .error .abandoned,
    r.cluster)

/-- All that a caller is told who asks no more than that all goes well. -/
def Reply.acknowledged (r : Reply α) : Reply Ack := ⟨r.result.map fun _ => ⟨true⟩, r.cluster⟩

/-- The metrics, with the gauges refreshed. -/
def Cluster.readMetrics (c : Cluster) : Reply String :=
  match c.status with
  | ⟨.ok _, c⟩ => c.answer c.metrics.text
  | ⟨.error fault, c⟩ => ⟨.error fault, c⟩

namespace Call

/-- What a call stands for, asked of the cluster itself. -/
def direct : Call α → UInt64 → Cluster → Reply α
  | health, _, c => c.answer Server.health
  | registerNode request, now, c => c.register request now
  | heartbeat node free, now, c => c.heartbeat node free now
  | planUpload request, now, c => c.upload request now
  | reportStored chunk node, _, c => c.report chunk node
  | fileMetadata file, _, c => c.getFile file
  | listFiles, _, c => c.answer c.listFiles
  | deleteFile file, _, c => (c.deleteFile file).acknowledged
  | listNodes, _, c => c.answer c.listNodes
  | failNode node, _, c => (c.failNode node).acknowledged
  | restoreNode node, now, c => (c.restoreNode node now).acknowledged
  | removeNode node force, _, c => (c.removeNode node force).acknowledged
  | listRebalances, _, c => c.answer c.listRebalances
  | triggerSweep, now, c => c.sweep now
  | clusterStatus, _, c => c.status
  | metricsText, _, c => c.readMetrics

/-- What the server makes of the cluster's reply. It answers even if a sweep gives up. -/
def served : Call α → Reply α → Reply α
  | triggerSweep, reply => Server.ofTask reply
  | _, reply => reply

/-- It leaves a reply as it is that is not given up. -/
theorem served_of_ne {reply : Reply α} (h : reply.result ≠ .error .overflow) (call : Call α) :
    call.served reply = reply := by
  cases call with
  | triggerSweep =>
    rw [served, Server.ofTask]
    split
    · next heq => exact absurd heq h
    · rfl
  | _ => rfl

/-- A value comes from the cluster. -/
theorem result_of_served {call : Call α} {reply : Reply α} {value : α}
    (h : (call.served reply).result = .ok value) : reply.result = .ok value := by
  cases call with
  | triggerSweep =>
    rw [served, Server.ofTask] at h
    split at h
    · cases h
    · exact h
  | _ => exact h

/-! ## Requests -/

/-- The name in the path of a call. -/
def node? : Call α → Option NodeId
  | heartbeat node _ | failNode node | restoreNode node | removeNode node _ => some node
  | _ => none

theorem served_of_node? {call : Call α} {node : NodeId} (h : call.node? = some node)
    (reply : Reply α) : call.served reply = reply := by
  cases call <;> cases h <;> rfl

/-- The segments of the path. -/
def segments : Call α → List (List Char)
  | health => ["health".toList]
  | registerNode _ => ["nodes".toList]
  | heartbeat node _ => ["nodes".toList, node.toList, "heartbeat".toList]
  | planUpload _ | listFiles => ["files".toList]
  | reportStored chunk _ => ["chunks".toList, chunk.toText.toList, "replicas".toList]
  | fileMetadata file | deleteFile file => ["files".toList, file.toText.toList]
  | listNodes => ["admin".toList, "nodes".toList]
  | failNode node => ["admin".toList, "nodes".toList, node.toList, "fail".toList]
  | restoreNode node => ["admin".toList, "nodes".toList, node.toList, "restore".toList]
  | removeNode node _ => ["admin".toList, "nodes".toList, node.toList]
  | listRebalances => ["admin".toList, "rebalances".toList]
  | triggerSweep => ["admin".toList, "rebalances".toList, "sweep".toList]
  | clusterStatus => ["cluster".toList, "status".toList]
  | metricsText => ["metrics".toList]

/-- The query behind the path. -/
def query? : Call α → Option (List Char)
  | removeNode _ force => some (if force then "force=true".toList else "force=false".toList)
  | _ => none

theorem toList_path (call : Call α) :
    call.path.toList = joinSegments call.segments ++ queryText call.query? := by
  cases call with
  | removeNode node force =>
    cases force <;> simp [path, segments, query?, joinSegments, queryText]
  | _ => simp [path, segments, query?, joinSegments, queryText]

/-- The segments are plain if the name among them is. -/
theorem isPlain_segments {call : Call α} (h : ∀ node ∈ call.node?, IsPlain node.toList) :
    ∀ s ∈ call.segments, IsPlain s := by
  have hwords : ∀ s ∈ ["health", "metrics", "cluster", "status", "nodes", "heartbeat", "files",
      "chunks", "replicas", "admin", "fail", "restore", "rebalances", "sweep"],
      IsPlain s.toList := by decide
  simp only [List.mem_cons, List.not_mem_nil, or_false, forall_eq_or_imp, forall_eq] at hwords
  cases call <;> simp only [segments, node?, Option.mem_def, Option.some.injEq, forall_eq'] at h ⊢ <;>
    simp only [List.mem_cons, List.not_mem_nil, or_false, forall_eq_or_imp, forall_eq, hwords,
      isPlain_toText, h, and_self]

/-- No white space ends a path. -/
theorem getLast?_path (call : Call α) : ∀ c ∈ call.path.toList.getLast?, 0x20 < c.toNat := by
  have hend : ∀ {s t : String}, (∀ c ∈ t.toList.getLast?, 0x20 < c.toNat) → t.toList ≠ [] →
      ∀ c ∈ (s ++ t).toList.getLast?, 0x20 < c.toNat := by
    intro s t ht hne c hc
    rw [String.toList_append, List.getLast?_append_of_ne_nil _ hne] at hc
    exact ht c hc
  have hfile : ∀ file : FileId, ∀ c ∈ ("/files/" ++ file.toText).toList.getLast?, 0x20 < c.toNat := by
    intro file c hc
    have hmem := List.mem_of_getLast? hc
    rw [String.toList_append, List.mem_append] at hmem
    exact hmem.elim ((by decide : ∀ c ∈ "/files/".toList, 0x20 < c.toNat) c) fun h =>
      (by decide : ∀ c ∈ "-0123456789abcdef".toList, 0x20 < c.toNat) c (Uuid.mem_toText h)
  cases call with
  | heartbeat | reportStored | failNode | restoreNode => exact hend (by decide) (by decide)
  | removeNode node force => cases force <;> exact hend (by decide) (by decide)
  | fileMetadata file | deleteFile file => exact hfile file
  | _ => rw [path]; decide

/-- The address is a scheme of the web and a server, perhaps with slashes behind. -/
def IsOrigin (address : String) : Prop :=
  ∃ scheme server slashes, IsServed scheme server ∧ (∀ c ∈ slashes, c = '/') ∧
    address.toList = originText scheme server ++ slashes

/-- The slashes behind the server are dropped. -/
theorem toList_baseUrl {address : String} {scheme server slashes : List Char}
    (h : IsServed scheme server) (hslashes : ∀ c ∈ slashes, c = '/')
    (haddress : address.toList = originText scheme server ++ slashes) :
    (baseUrl address).toList = originText scheme server := by
  have hlast : ∀ c ∈ (originText scheme server).getLast?, ¬c = '/' := by
    intro c hc
    rw [originText, List.getLast?_append_of_ne_nil _ h.ne_nil] at hc
    rintro rfl
    exact h.chars '/' (List.mem_of_getLast? hc) (by decide)
  have hdrop : (originText scheme server).reverse.dropWhile (· = '/') =
      (originText scheme server).reverse := by
    rw [← List.head?_reverse] at hlast
    cases hrev : (originText scheme server).reverse with
    | nil => rfl
    | cons c cs => exact List.dropWhile_cons_of_neg (by simpa using hlast c (by rw [hrev]; rfl))
  rw [baseUrl, String.toList_ofList, haddress, List.reverse_append,
    List.dropWhile_append_of_pos fun c hc => decide_eq_true (hslashes c (List.mem_reverse.1 hc)),
    hdrop, List.reverse_reverse]

/-- The target of a call. -/
def target (call : Call α) : Target :=
  ⟨joinSegments (call.segments.map (Text.Percent.encode isPathSpecial)), call.query?⟩

theorem isPlainQuery (call : Call α) : ∀ query ∈ call.query?, IsPlainQuery query := by
  intro query hquery
  cases call with
  | removeNode node force =>
    cases force <;> obtain rfl := Option.some.inj hquery <;> rw [IsPlainQuery] <;> decide
  | _ => cases hquery

theorem exists_segments (call : Call α) : ∃ first segments, call.segments = first :: segments := by
  cases call <;> exact ⟨_, _, rfl⟩

/-- What stands behind the server and a slash. -/
def behind (call : Call α) : List Char := (joinSegments call.segments).drop 1 ++ queryText call.query?

theorem toList_path_eq_cons (call : Call α) : call.path.toList = '/' :: call.behind := by
  obtain ⟨first, segments, hsegments⟩ := call.exists_segments
  rw [toList_path, behind, hsegments]
  rfl

/-- A call asks for what its path asks for. -/
theorem request?_of_isOrigin {address : String} (haddress : IsOrigin address) (call : Call α) :
    call.request? address = some
      { method := call.method, target := ofBehind call.behind
        contentType := call.body?.map fun _ => Response.jsonType
        body := call.body?.getD "" } := by
  obtain ⟨scheme, server, slashes, hserved, hslashes, haddress⟩ := haddress
  have hpath := call.toList_path_eq_cons
  have hlast := call.getLast?_path
  have hurl : baseUrl address ++ call.path = .ofList (originText scheme server ++ '/' :: call.behind) := by
    rw [← hpath, ← toList_baseUrl hserved hslashes haddress, ← String.toList_append,
      String.ofList_toList]
  rw [hpath] at hlast
  rw [request?, hurl, ofUrl?_of_isServed hserved hlast, Option.map_some]

/-- Plain segments are asked for as they are. -/
theorem ofBehind_behind {call : Call α} (h : ∀ node ∈ call.node?, IsPlain node.toList) :
    ofBehind call.behind = call.target := by
  have hplain := isPlain_segments h
  have hquery := call.isPlainQuery
  obtain ⟨first, segments, hsegments⟩ := call.exists_segments
  rw [behind, target, hsegments]
  exact ofBehind_joinSegments (hsegments ▸ hplain) hquery

/-! ## Resources -/

/-- The name of a node as it stands in a path. -/
def rawName (node : NodeId) : List Char := Text.Percent.encode isPathSpecial node.toList

/-- The resource that a call is about. -/
def resource : Call α → Resource
  | health => .health
  | registerNode _ => .nodes
  | heartbeat node _ => .heartbeat (rawName node)
  | planUpload _ | listFiles => .files
  | reportStored chunk _ => .replicas chunk.toText.toList
  | fileMetadata file | deleteFile file => .file file.toText.toList
  | listNodes => .roster
  | failNode node => .failure (rawName node)
  | restoreNode node => .restoration (rawName node)
  | removeNode node _ => .member (rawName node)
  | listRebalances => .rebalances
  | triggerSweep => .sweep
  | clusterStatus => .status
  | metricsText => .metrics

theorem encode_toText (u : Uuid) :
    Text.Percent.encode isPathSpecial u.toText.toList = u.toText.toList :=
  Text.Percent.encode_of_not_special fun c hc =>
    (by decide : ∀ c ∈ "-0123456789abcdef".toList, isPathSpecial c = false) c (Uuid.mem_toText hc)

theorem ofSegments?_segments {call : Call α} (h : ∀ node ∈ call.node?, rawName node ≠ []) :
    Resource.ofSegments? (call.segments.map (Text.Percent.encode isPathSpecial)) =
      some call.resource := by
  have hwords : ∀ s ∈ ["health", "metrics", "cluster", "status", "nodes", "heartbeat", "files",
      "chunks", "replicas", "admin", "fail", "restore", "rebalances", "sweep"],
      Text.Percent.encode isPathSpecial s.toList = s.toList := by decide
  simp only [List.mem_cons, List.not_mem_nil, or_false, forall_eq_or_imp, forall_eq] at hwords
  cases call with
  | removeNode node force =>
    simp only [segments, List.map_cons, List.map_nil, hwords]
    rw [Resource.ofSegments?, if_neg fun h => absurd h.1 (by decide),
      if_neg fun h => absurd h.1 (by decide), if_pos ⟨rfl, rfl, h node rfl⟩]
    rfl
  | fileMetadata file | deleteFile file =>
    simp only [segments, List.map_cons, List.map_nil, hwords, encode_toText]
    rw [Resource.ofSegments?, if_neg fun h => absurd h.1 (by decide), if_pos ⟨rfl, file.toText_ne_nil⟩]
    rfl
  | _ =>
    simp only [segments, List.map_cons, List.map_nil, hwords, encode_toText]
    rfl

/-- The path of a call names its resource. -/
theorem ofPath?_target {call : Call α} (hplain : ∀ node ∈ call.node?, IsPlain node.toList)
    (hne : ∀ node ∈ call.node?, node ≠ "") :
    Resource.ofPath? call.target.path = some call.resource := by
  have hraw : ∀ node ∈ call.node?, rawName node ≠ [] := fun node hnode =>
    Text.Percent.encode_ne_nil fun h => hne node hnode (String.toList_eq_nil_iff.1 h)
  have hslash : ∀ s ∈ call.segments.map (Text.Percent.encode isPathSpecial),
      ∀ c ∈ s, isSlash c = false := by
    intro s hs
    obtain ⟨t, ht, rfl⟩ := List.mem_map.1 hs
    exact isSlash_encode fun c hc => isSlash_of_notMem ((isPlain_segments hplain t ht).chars c hc)
  obtain ⟨first, segments, hsegments⟩ := call.exists_segments
  rw [← ofSegments?_segments hraw, target, hsegments, List.map_cons]
  exact Resource.ofPath?_joinSegments (by simpa only [hsegments, List.map_cons] using hslash)

end Call

/-! ## Reading the request -/

namespace Http.Server

theorem readName_rawName {node : NodeId} (h : IsPlain node.toList) :
    readName (Call.rawName node) = .ok node := readParameter_encode "node_id" h.noEscape

theorem readId_toText (parameter : String) (u : Uuid) : readId parameter u.toText.toList = .ok u := by
  have hread : readParameter parameter u.toText.toList = .ok u.toText := by
    rw [← Call.encode_toText, readParameter_encode parameter (isPlain_toText u).noEscape]
  rw [readId, hread]
  dsimp only [bind, Except.bind]
  rw [Uuid.parse?_toText]

/-- A body that is not too long is read as what it was made from. -/
theorem readBody_text {codec : Codec α} {value : α} (h : codec.Faithful value) {r : Request}
    (htype : r.contentType = some Response.jsonType) (hbody : r.body = codec.text value)
    (hlimit : r.body.utf8ByteSize ≤ bodyLimit) : readBody codec r = .ok value := by
  have hjson : r.contentType.any MediaType.isJson := by
    rw [htype]
    decide
  rw [readBody, hjson, if_neg (by decide), if_neg (by omega), hbody, h.read_text]

end Http.Server

/-! ## The answer -/

namespace Call

/-- The status of the answer if all goes well. -/
def success : Call α → Nat
  | registerNode _ | planUpload _ => 201
  | _ => 200

/-- How the answer is written. The metrics are not JSON. -/
def codec? : Call α → Option (Codec α)
  | health => some HealthStatus.codec
  | registerNode _ => some Node.codec
  | heartbeat .. => some HeartbeatResponse.codec
  | planUpload _ => some UploadPlan.codec
  | reportStored .. => some ReportResponse.codec
  | fileMetadata _ => some FileMetadata.codec
  | listFiles => some FileSummary.codec.list
  | deleteFile _ | failNode _ | restoreNode _ | removeNode .. => some Ack.codec
  | listNodes => some Node.codec.list
  | listRebalances => some RebalanceListing.codec
  | triggerSweep => some SweepReport.codec
  | clusterStatus => some ClusterStatus.codec
  | metricsText => none

/-- The numbers of things in the answer are words. -/
def Countable : Call α → α → Prop
  | reportStored .., response => response.replicaCount < UInt64.size
  | fileMetadata _, metadata => ∀ r ∈ metadata.chunks, r.healthyReplicas < UInt64.size
  | listFiles, files => ∀ s ∈ files, s.underReplicated < UInt64.size
  | triggerSweep, report => report.Countable
  | clusterStatus, status => status.Countable
  | _, _ => True

variable {call : Call α} {codec : Codec α} {c : Cluster} {now : UInt64} {r : Request}

/-- The server responds with what it makes of the cluster's reply. -/
theorem perform_resource (hcodec : call.codec? = some codec)
    (hplain : ∀ node ∈ call.node?, IsPlain node.toList)
    (hlimit : ∀ body ∈ call.body?, body.utf8ByteSize ≤ bodyLimit)
    (htarget : r.target = call.target)
    (htype : r.contentType = call.body?.map fun _ => Response.jsonType)
    (hbody : r.body = call.body?.getD "") :
    perform c now r call.method call.resource =
      respond call.success codec (call.served (call.direct now c)) := by
  cases call with
  | health | listFiles | listNodes | listRebalances | triggerSweep | clusterStatus =>
    cases hcodec
    rfl
  | registerNode request =>
    cases hcodec
    have hread := readBody_text (RegisterRequest.faithful_codec request) htype hbody
      (hbody ▸ hlimit _ rfl)
    have hperform : perform c now r "POST" .nodes =
        withRead c (readBody RegisterRequest.codec r) fun request =>
          respond 201 Node.codec (c.register request now) := rfl
    exact hperform.trans (by rw [hread]; rfl)
  | planUpload request =>
    cases hcodec
    have hread := readBody_text (UploadRequest.faithful_codec request) htype hbody
      (hbody ▸ hlimit _ rfl)
    have hperform : perform c now r "POST" .files =
        withRead c (readBody UploadRequest.codec r) fun request =>
          respond 201 UploadPlan.codec (c.upload request now) := rfl
    exact hperform.trans (by rw [hread]; rfl)
  | heartbeat node free =>
    cases hcodec
    have hread := readBody_text (HeartbeatRequest.faithful_codec ⟨free⟩) htype hbody
      (hbody ▸ hlimit _ rfl)
    have hperform : perform c now r "POST" (.heartbeat (rawName node)) =
        withRead c (readName (rawName node)) fun node =>
          withRead c (readBody HeartbeatRequest.codec r) fun request =>
            respond 200 HeartbeatResponse.codec (c.heartbeat node request.free now) := rfl
    exact hperform.trans (by rw [readName_rawName (hplain node rfl), hread]; rfl)
  | reportStored chunk node =>
    cases hcodec
    have hread := readBody_text (ReportRequest.faithful_codec ⟨node⟩) htype hbody
      (hbody ▸ hlimit _ rfl)
    have hperform : perform c now r "POST" (.replicas chunk.toText.toList) =
        withRead c (readId "chunk_id" chunk.toText.toList) fun chunk =>
          withRead c (readBody ReportRequest.codec r) fun request =>
            respond 200 ReportResponse.codec (c.report chunk request.node) := rfl
    exact hperform.trans (by rw [readId_toText, hread]; rfl)
  | fileMetadata file =>
    cases hcodec
    have hperform : perform c now r "GET" (.file file.toText.toList) =
        withRead c (readId "file_id" file.toText.toList) fun id =>
          respond 200 FileMetadata.codec (c.getFile id) := rfl
    exact hperform.trans (by rw [readId_toText]; rfl)
  | deleteFile file =>
    cases hcodec
    have hperform : perform c now r "DELETE" (.file file.toText.toList) =
        withRead c (readId "file_id" file.toText.toList) fun id => acknowledge (c.deleteFile id) := rfl
    exact hperform.trans (by rw [readId_toText]; rfl)
  | failNode node =>
    cases hcodec
    have hperform : perform c now r "POST" (.failure (rawName node)) =
        withRead c (readName (rawName node)) fun node => acknowledge (c.failNode node) := rfl
    exact hperform.trans (by rw [readName_rawName (hplain node rfl)]; rfl)
  | restoreNode node =>
    cases hcodec
    have hperform : perform c now r "POST" (.restoration (rawName node)) =
        withRead c (readName (rawName node)) fun node => acknowledge (c.restoreNode node now) := rfl
    exact hperform.trans (by rw [readName_rawName (hplain node rfl)]; rfl)
  | removeNode node force =>
    cases hcodec
    have hread : readForce r.target.query = .ok force := by
      rw [htarget]
      cases force <;> rfl
    have hperform : perform c now r "DELETE" (.member (rawName node)) =
        withRead c (readName (rawName node)) fun node =>
          withRead c (readForce r.target.query) fun force => acknowledge (c.removeNode node force) :=
      rfl
    exact hperform.trans (by rw [readName_rawName (hplain node rfl), hread]; rfl)
  | metricsText => cases hcodec

/-- The answer is read back by the caller if the numbers of things in it are words. -/
theorem faithful_of_countable (hcodec : call.codec? = some codec) {value : α}
    (h : call.Countable value) : codec.Faithful value := by
  cases call <;> cases hcodec
  case health => exact HealthStatus.faithful_codec value
  case registerNode => exact Node.faithful_codec value
  case heartbeat => exact HeartbeatResponse.faithful_codec value
  case planUpload => exact UploadPlan.faithful_codec value
  case reportStored => exact ReportResponse.faithful_codec h
  case fileMetadata => exact FileMetadata.faithful_codec h
  case listFiles => exact .list fun s hs => FileSummary.faithful_codec (h s hs)
  case listNodes => exact .list fun n _ => Node.faithful_codec n
  case listRebalances => exact RebalanceListing.faithful_codec value
  case triggerSweep => exact SweepReport.faithful_codec h
  case clusterStatus => exact ClusterStatus.faithful_codec h
  all_goals exact Ack.faithful_codec value

theorem decode?_eq (hcodec : call.codec? = some codec) (body : Received) :
    call.decode? body = (codec.read body).toOption := by
  cases call <;> cases hcodec <;> rfl

/-- A reason for a refusal is told as it was given. -/
theorem refusal_text (status : Nat) (why : ServiceError) :
    refusal status (.ofString (ErrorBody.codec.text ⟨why.code, why.message⟩)) =
      .answered status why.code why.message := by
  rw [refusal, (ErrorBody.faithful_codec _).read_text]

theorem status_refused (why : ServiceError) : ¬(200 ≤ why.status ∧ why.status < 300) := by
  cases why <;> simp [ServiceError.status]

theorem success_ok (call : Call α) : 200 ≤ call.success ∧ call.success < 300 := by
  cases call <;> simp [success]

/-- The caller is told what the server responds with. -/
theorem told_of_respond (hcodec : call.codec? = some codec) {address : String}
    (hrequest : call.request? address = some r) {reply : Reply α}
    (hhandle : handle c now r = respond call.success codec reply)
    (h : ∀ value, reply.result = .ok value → call.Countable value) :
    call.send (.server now) address c = reply.told := by
  obtain ⟨result, c'⟩ := reply
  rw [send, hrequest]
  dsimp only [Transport.server]
  rw [hhandle, respond]
  match result, h with
  | .ok value, h =>
    have hread := (faithful_of_countable hcodec (h value rfl)).read_text
    dsimp only [Response.json, interpret]
    rw [if_pos call.success_ok, decode?_eq hcodec, hread]
    rfl
  | .error (.refused why), _ =>
    dsimp only [Response.refusal, Response.json, interpret]
    rw [if_neg (status_refused why), refusal_text]
    rfl
  | .error .overflow, _ => rfl

theorem method_ne_head (call : Call α) : call.method ≠ "HEAD" := by
  cases call <;> simp [method]

/-- The metrics are told as they are. -/
theorem metricsText_send {address : String} (hrequest : metricsText.request? address = some r)
    (hhandle : handle c now r = respondMetrics c) :
    metricsText.send (.server now) address c = c.readMetrics.told := by
  rw [send, hrequest]
  dsimp only [Transport.server]
  rw [hhandle, respondMetrics, Cluster.readMetrics, Cluster.status]
  cases c.currentStatus? with
  | none => rfl
  | some status =>
    dsimp only [Cluster.answer, Response.metrics, interpret, decode?]
    rw [if_pos (by decide), Received.lossy_ofString]
    rfl

/-- A call to a server tells the caller what the server makes of the cluster's reply, and changes the
cluster just so, if the name in its path is plain, where there is one. -/
theorem send_of_isPlain {call : Call α} {address : String} (haddress : IsOrigin address)
    (hplain : ∀ node ∈ call.node?, IsPlain node.toList) (hne : ∀ node ∈ call.node?, node ≠ "")
    (hlimit : ∀ body ∈ call.body?, body.utf8ByteSize ≤ bodyLimit)
    (h : ∀ value, (call.direct now c).result = .ok value → call.Countable value) :
    call.send (.server now) address c = (call.served (call.direct now c)).told := by
  have hrequest := call.request?_of_isOrigin haddress
  rw [ofBehind_behind hplain] at hrequest
  have hhandle : ∀ r : Request, r.method = call.method → r.target = call.target →
      handle c now r = perform c now r call.method call.resource := by
    intro r hmethod htarget
    rw [handle, htarget, ofPath?_target hplain hne]
    dsimp only
    rw [hmethod, if_neg call.method_ne_head]
  cases hcodec : call.codec? with
  | some codec =>
    refine told_of_respond hcodec hrequest ((hhandle _ rfl rfl).trans ?_) fun value hvalue =>
      h value (result_of_served hvalue)
    exact perform_resource hcodec hplain hlimit rfl rfl rfl
  | none =>
    cases call <;> cases hcodec
    exact metricsText_send hrequest (hhandle _ rfl rfl)

end Call

end ChunkCoordinator
