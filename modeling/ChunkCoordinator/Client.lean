import ChunkCoordinator.Http.Server

/-!
# Calls to a coordinator

A `Call α` asks a coordinator for an `α`. It becomes a request (`Call.request?`), a `Transport`
delivers it, and `Call.interpret` reads the answer. `Call.send` does all three. The transport
`Transport.server` hands requests to a cluster directly; `Transport.constant` stands for a server
that always says the same, or is not there.

Names go into paths as they are, so a name that has a meaning in addresses of the web may lead
elsewhere.
-/

namespace ChunkCoordinator

open Text (Received)

/-! ## Calls -/

/-- A call that is answered with a value of some type. -/
inductive Call : Type → Type where
  | health : Call HealthStatus
  | registerNode (request : RegisterRequest) : Call Node
  | heartbeat (node : NodeId) (free : UInt64) : Call HeartbeatResponse
  | planUpload (request : UploadRequest) : Call UploadPlan
  | reportStored (chunk : ChunkId) (node : NodeId) : Call ReportResponse
  | fileMetadata (file : FileId) : Call FileMetadata
  | listFiles : Call (List FileSummary)
  | deleteFile (file : FileId) : Call Ack
  | listNodes : Call (List Node)
  | failNode (node : NodeId) : Call Ack
  | restoreNode (node : NodeId) : Call Ack
  | removeNode (node : NodeId) (force : Bool) : Call Ack
  | listRebalances : Call RebalanceListing
  | triggerSweep : Call SweepReport
  | clusterStatus : Call ClusterStatus
  | metricsText : Call String

namespace Call

/-- The method of the request. -/
def method {α : Type} : Call α → String
  | registerNode _ | heartbeat .. | planUpload _ | reportStored .. | failNode _ | restoreNode _
  | triggerSweep => "POST"
  | deleteFile _ | removeNode .. => "DELETE"
  | _ => "GET"

/-- The path of the request, with names as they are. -/
def path {α : Type} : Call α → String
  | health => "/health"
  | registerNode _ => "/nodes"
  | heartbeat node _ => "/nodes/" ++ node ++ "/heartbeat"
  | planUpload _ | listFiles => "/files"
  | reportStored chunk _ => "/chunks/" ++ chunk.toText ++ "/replicas"
  | fileMetadata file | deleteFile file => "/files/" ++ file.toText
  | listNodes => "/admin/nodes"
  | failNode node => "/admin/nodes/" ++ node ++ "/fail"
  | restoreNode node => "/admin/nodes/" ++ node ++ "/restore"
  | removeNode node force =>
    "/admin/nodes/" ++ node ++ "?force=" ++ (if force then "true" else "false")
  | listRebalances => "/admin/rebalances"
  | triggerSweep => "/admin/rebalances/sweep"
  | clusterStatus => "/cluster/status"
  | metricsText => "/metrics"

/-- The body of the request, if it has one. -/
def body? {α : Type} : Call α → Option String
  | registerNode request => some (RegisterRequest.codec.text request)
  | heartbeat _ free => some (HeartbeatRequest.codec.text ⟨free⟩)
  | planUpload request => some (UploadRequest.codec.text request)
  | reportStored _ node => some (ReportRequest.codec.text ⟨node⟩)
  | _ => none

/-- Reads the value in an answer. Metrics are taken as they come. -/
def decode? {α : Type} : Call α → Received → Option α
  | health, text => (HealthStatus.codec.read text).toOption
  | registerNode _, text => (Node.codec.read text).toOption
  | heartbeat .., text => (HeartbeatResponse.codec.read text).toOption
  | planUpload _, text => (UploadPlan.codec.read text).toOption
  | reportStored .., text => (ReportResponse.codec.read text).toOption
  | fileMetadata _, text => (FileMetadata.codec.read text).toOption
  | listFiles, text => (FileSummary.codec.list.read text).toOption
  | deleteFile _, text | failNode _, text | restoreNode _, text | removeNode .., text =>
    (Ack.codec.read text).toOption
  | listNodes, text => (Node.codec.list.read text).toOption
  | listRebalances, text => (RebalanceListing.codec.read text).toOption
  | triggerSweep, text => (SweepReport.codec.read text).toOption
  | clusterStatus, text => (ClusterStatus.codec.read text).toOption
  | metricsText, text => some text.lossy

/-! ## Requests -/

/-- The address of a server without the slashes at its end. -/
def baseUrl (address : String) : String :=
  .ofList (address.toList.reverse.dropWhile (· = '/')).reverse

/-- The request of a call to the server at an address, if that is an address of the web. -/
def request? {α : Type} (call : Call α) (address : String) : Option Http.Request :=
  (Http.Target.ofUrl? (baseUrl address ++ call.path)).map fun target =>
    { method := call.method, target
      contentType := call.body?.map fun _ => Http.Response.jsonType
      body := call.body?.getD "" }

/-! ## Answers -/

/-- What became of a request: an answer came, or nobody is there, or the server gave up. -/
inductive Delivery where
  | answered (status : Nat) (body : Received)
  | unreachable
  | abandoned

/-- Why a call gives no value. -/
inductive Failure where
  | answered (status : Nat) (code message : String)
  | unreachable (method path : String)
  | unreadable (method path : String)
  | abandoned
  deriving DecidableEq

/-- The explanation of a failure. -/
def Failure.message : Failure → String
  | answered status code message => s!"master returned {status} ({code}): {message}"
  | unreachable method path => s!"failed to {method} {path}"
  | unreadable method path => s!"unexpected response body for {method} {path}"
  | abandoned => ""

/-- The failure that an answer tells of: what the server says, or else the text of the answer. -/
def refusal (status : Nat) (body : Received) : Failure :=
  match ErrorBody.codec.read body with
  | .ok error => .answered status error.code error.message
  | .error _ => .answered status "http_error" (Text.trim body.lossy)

/-- What a delivery means for a call. -/
def interpret {α : Type} (call : Call α) : Delivery → Except Failure α
  | .unreachable => .error (.unreachable call.method call.path)
  | .abandoned => .error .abandoned
  | .answered status body =>
    if 200 ≤ status ∧ status < 300 then
      match call.decode? body with
      | some value => .ok value
      | none => .error (.unreadable call.method call.path)
    else .error (refusal status body)

end Call

/-! ## Transports -/

/-- A way to deliver requests to something that may change with each of them. -/
abbrev Transport (σ : Type) := Http.Request → σ → Call.Delivery × σ

/-- A server of which the same becomes of every request. -/
def Transport.constant {σ : Type} (delivery : Call.Delivery) : Transport σ :=
  fun _ s => (delivery, s)

/-- A cluster as a server, at a given time. -/
def Transport.server (now : UInt64) : Transport Cluster := fun request c =>
  match Http.Server.handle c now request with
  | ⟨some response, c⟩ => (.answered response.status (.ofString response.body), c)
  | ⟨none, c⟩ => (.abandoned, c)

/-- Makes a call to the server at an address. -/
def Call.send {α σ : Type} (call : Call α) (transport : Transport σ) (address : String) (s : σ) :
    Except Failure α × σ :=
  match call.request? address with
  | none => (.error (.unreachable call.method call.path), s)
  | some request =>
    let (delivery, s) := transport request s
    (call.interpret delivery, s)

end ChunkCoordinator
