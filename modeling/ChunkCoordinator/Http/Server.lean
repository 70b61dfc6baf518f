import ChunkCoordinator.Http.Exchange
import ChunkCoordinator.Http.MediaType
import ChunkCoordinator.Http.Resource

/-!
# The coordinator as a server

`Server.handle` answers a request to a cluster. What the path names and the method asks for is
looked up first; then the name in the path is read, then the query, then the body. The first that
cannot be read decides how the request is rejected.

There is no response if a number becomes too large on the way. Only a sweep is answered even then: it
runs as a task of its own, and that the task has failed is told like any other error.
-/

namespace ChunkCoordinator.Http.Server

open Text (Received splitOn splitAtFirst)

/-- The response to a request, if there is one, and the cluster afterwards. -/
structure Outcome where
  response : Option Response
  cluster : Cluster

/-! ## Reading requests -/

/-- The text of a parameter in a path. -/
def readParameter (parameter : String) (raw : List Char) : Except Response String :=
  match (Text.Utf8.decode (Text.Percent.decode raw)).whole? with
  | some text => .ok text
  | none => .error (.rejection 400 s!"Invalid URL: Invalid UTF-8 in `{parameter}`")

/-- The name of a node in a path. -/
def readName (raw : List Char) : Except Response NodeId := readParameter "node_id" raw

/-- An identifier in a path. -/
def readId (parameter : String) (raw : List Char) : Except Response Uuid := do
  match Uuid.parse? (← readParameter parameter raw) with
  | some id => .ok id
  | none => .error (.rejection 400 "Invalid URL: UUID parsing failed")

/-- The part of a form that a list of characters stands for. -/
def formText (cs : List Char) : String :=
  (Text.Utf8.decode (Text.Percent.decode (cs.map fun c => if c = '+' then ' ' else c))).lossy

/-- The names and values in a query. -/
def formPairs (query : List Char) : List (String × String) :=
  ((splitOn (· = '&') query).filter (!·.isEmpty)).map fun part =>
    let (name, value) := splitAtFirst '=' part
    (formText name, formText (value.getD []))

/-- Whether a removal is to be forced. Without a word on it, it is not. -/
def readForce (query : Option (List Char)) : Except Response Bool :=
  match ((formPairs (query.getD [])).filter fun p => p.1 = "force").map Prod.snd with
  | [] => .ok false
  | ["true"] => .ok true
  | ["false"] => .ok false
  | [_] => .error (.rejection 400
      "Failed to deserialize query string: force: provided string was not `true` or `false`")
  | _ => .error (.rejection 400 "Failed to deserialize query string: duplicate field `force`")

/-- The largest number of bytes that a body may have. -/
def bodyLimit : Nat := 2097152

/-- The value in a body. -/
def readBody {α : Type} (codec : Codec α) (r : Request) : Except Response α :=
  if !r.contentType.any MediaType.isJson then
    .error (.rejection 415 "Expected request with `Content-Type: application/json`")
  else if bodyLimit < r.body.utf8ByteSize then
    .error (.rejection 413 "Failed to buffer the request body: length limit exceeded")
  else
    match codec.read (.ofString r.body) with
    | .ok value => .ok value
    | .error .malformed =>
      .error (.rejection 400 "Failed to parse the request body as JSON")
    | .error .mismatch =>
      .error (.rejection 422 "Failed to deserialize the JSON body into the target type")

/-! ## Answering -/

/-- Responds with the answer of the cluster. -/
def respond {α : Type} (status : Nat) (codec : Codec α) (reply : Reply α) : Outcome :=
  match reply.result with
  | .ok value => ⟨some (.json status codec value), reply.cluster⟩
  | .error (.refused why) => ⟨some (.refusal why), reply.cluster⟩
  | .error .overflow => ⟨none, reply.cluster⟩

/-- Responds that all went well, whatever the answer of the cluster. -/
def acknowledge {α : Type} (reply : Reply α) : Outcome :=
  respond 200 Ack.codec ⟨reply.result.map fun _ => ⟨true⟩, reply.cluster⟩

/-- What is told of a sweep that has given up. The number of its task and the last words of it, which
differ from run to run, are left out. -/
def sweepFailure : ServiceError := .internal "replication sweep task failed: task panicked"

/-- What becomes of the reply of a sweep that runs as a task of its own. -/
def ofTask (reply : Reply SweepReport) : Reply SweepReport :=
  match reply.result with
  | .error .overflow => reply.cluster.refuse sweepFailure
  | _ => reply

/-- Goes on with what has been read of a request, or rejects it. -/
def withRead {α : Type} (c : Cluster) (read : Except Response α) (next : α → Outcome) : Outcome :=
  match read with
  | .error response => ⟨some response, c⟩
  | .ok value => next value

/-- The answer to a caller who asks whether anybody is there. -/
def health : HealthStatus := ⟨"master", true⟩

/-- Refreshes the gauges and responds with the metrics. -/
def respondMetrics (c : Cluster) : Outcome :=
  match c.status with
  | ⟨.ok _, c⟩ => ⟨some (.metrics c.metrics.text), c⟩
  | ⟨.error _, c⟩ => ⟨none, c⟩

/-- Does what a method asks for with a resource. -/
def perform (c : Cluster) (now : UInt64) (r : Request) (method : String) (resource : Resource) :
    Outcome :=
  match resource, method with
  | .health, "GET" => respond 200 HealthStatus.codec (c.answer health)
  | .metrics, "GET" => respondMetrics c
  | .status, "GET" => respond 200 ClusterStatus.codec c.status
  | .nodes, "POST" =>
    withRead c (readBody RegisterRequest.codec r) fun request =>
      respond 201 Node.codec (c.register request now)
  | .heartbeat raw, "POST" =>
    withRead c (readName raw) fun node =>
      withRead c (readBody HeartbeatRequest.codec r) fun request =>
        respond 200 HeartbeatResponse.codec (c.heartbeat node request.free now)
  | .files, "GET" => respond 200 FileSummary.codec.list (c.answer c.listFiles)
  | .files, "POST" =>
    withRead c (readBody UploadRequest.codec r) fun request =>
      respond 201 UploadPlan.codec (c.upload request now)
  | .file raw, "GET" =>
    withRead c (readId "file_id" raw) fun id => respond 200 FileMetadata.codec (c.getFile id)
  | .file raw, "DELETE" =>
    withRead c (readId "file_id" raw) fun id => acknowledge (c.deleteFile id)
  | .replicas raw, "POST" =>
    withRead c (readId "chunk_id" raw) fun chunk =>
      withRead c (readBody ReportRequest.codec r) fun request =>
        respond 200 ReportResponse.codec (c.report chunk request.node)
  | .roster, "GET" => respond 200 Node.codec.list (c.answer c.listNodes)
  | .member raw, "DELETE" =>
    withRead c (readName raw) fun node =>
      withRead c (readForce r.target.query) fun force => acknowledge (c.removeNode node force)
  | .failure raw, "POST" => withRead c (readName raw) fun node => acknowledge (c.failNode node)
  | .restoration raw, "POST" =>
    withRead c (readName raw) fun node => acknowledge (c.restoreNode node now)
  | .rebalances, "GET" => respond 200 RebalanceListing.codec (c.answer c.listRebalances)
  | .sweep, "POST" => respond 200 SweepReport.codec (ofTask (c.sweep now))
  | _, _ => ⟨some (.bare 405), c⟩

/-- Answers a request. A request for the head of a resource gets the response without its body. -/
def handle (c : Cluster) (now : UInt64) (r : Request) : Outcome :=
  match Resource.ofPath? r.target.path with
  | none => ⟨some (.bare 404), c⟩
  | some resource =>
    if r.method = "HEAD" then
      let outcome := perform c now r "GET" resource
      { outcome with response := outcome.response.map Response.withoutBody }
    else perform c now r r.method resource

end ChunkCoordinator.Http.Server
