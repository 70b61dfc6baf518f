import ChunkCoordinator.Http.Target
import ChunkCoordinator.Wire

/-!
# Requests and responses

A `Request` and the `Response` to it, and the responses that the server gives: a value as JSON
(`Response.json`), a refusal with its reason (`Response.refusal`), the metrics, and rejections of
requests that name nothing or cannot be read.
-/

namespace ChunkCoordinator.Http

/-- A request. -/
structure Request where
  method : String
  target : Target
  contentType : Option String
  body : String
  deriving DecidableEq

/-- A response. One without a body has no content type either. -/
structure Response where
  status : Nat
  contentType : Option String
  body : String
  deriving DecidableEq

namespace Response

/-- The content type of JSON. -/
def jsonType : String := "application/json"

/-- The content type of metrics. -/
def metricsType : String := "text/plain; version=0.0.4"

/-- A value as JSON. -/
def json {α : Type} (status : Nat) (codec : Codec α) (value : α) : Response :=
  ⟨status, some jsonType, codec.text value⟩

/-- The refusal of a request. -/
def refusal (why : ServiceError) : Response :=
  json why.status ErrorBody.codec ⟨why.code, why.message⟩

/-- The metrics. -/
def metrics (text : String) : Response := ⟨200, some metricsType, text⟩

/-- The rejection of a request that cannot be read. -/
def rejection (status : Nat) (text : String) : Response :=
  ⟨status, some "text/plain; charset=utf-8", text⟩

/-- Nothing but a status. -/
def bare (status : Nat) : Response := ⟨status, none, ""⟩

/-- The response without its body. -/
def withoutBody (r : Response) : Response := { r with body := "" }

end Response

end ChunkCoordinator.Http
