/-
The HTTP interface of a service.

There are three paths.  The first takes requests, either in its query or as a JSON document; the
others tell whether the service is running and export its metrics.  A request that cannot be read
from a document is answered by an envelope like any other; one that cannot be read from a query is
answered in plain text.  Neither comes to the service, and so neither is counted.
-/
import SenderPolicy.Metrics.Exposition
import SenderPolicy.Service
import SenderPolicy.Web.MediaType
import SenderPolicy.Web.Message
import SenderPolicy.Web.Percent

namespace SenderPolicy

open Web

/-- A path of the interface. -/
inductive Endpoint where
  /-- Takes requests for a validation. -/
  | check
  /-- Tells whether the service is running. -/
  | health
  /-- Exports the metrics. -/
  | metrics
  deriving DecidableEq, Repr

namespace Endpoint

/-- The path of an endpoint. -/
def path : Endpoint → String
  | check => "/api/spf"
  | health => "/health"
  | metrics => "/metrics"

/-- The endpoint of a path, which must be spelled exactly. -/
def ofPath? (path : String) : Option Endpoint :=
  [check, health, metrics].find? fun e => e.path == path

/-- The methods that an endpoint allows. -/
def allowed : Endpoint → List Method
  | check => [.get, .head, .post]
  | health | metrics => [.get, .head]

end Endpoint

namespace CheckRequest

/-- The request that the fields of a form make, or the name of a field that is repeated.  Other
fields than those of a request do not matter. -/
def ofForm (form : List (String × String)) : Except String CheckRequest :=
  form.foldlM (fun r (name, value) =>
    if name = "domain" then
      if r.domain.isSome then .error name else .ok { r with domain := some value }
    else if name = "resolver" then
      if r.resolver.isSome then .error name else .ok { r with resolver := some value }
    else .ok r) {}

/-- The form of a request; what is missing is left out. -/
def toForm (r : CheckRequest) : List (String × String) :=
  (r.domain.map fun s => ("domain", s)).toList ++ (r.resolver.map fun s => ("resolver", s)).toList

/-- Whether the body of an HTTP request is said to be JSON. -/
def saysJson (r : Web.Request) : Bool :=
  (((r.header? "content-type").bind Request.visibleText?).bind fun s =>
    MediaType.read? s.toList).any MediaType.isJson

/-- Why a document is no request, with the words of the library that has read it. -/
def describeFault (words : String) : Json.Fault → String
  | .notJson => "Failed to parse the request body as JSON: " ++ words
  | .otherShape => "Failed to deserialize the JSON body into the target type: " ++ words

/-- The largest number of bytes that a body may have. -/
def maxBodyBytes : Nat := 2097152

/-- The request in the body of an HTTP request. -/
def ofBody (w : Wording) (r : Web.Request) : Except RequestError CheckRequest :=
  if saysJson r then
    if r.body.length > maxBodyBytes then
      .error (.invalidBody "Failed to buffer the request body: length limit exceeded")
    else (Json.decodeBytes decode r.body).mapError fun fault =>
      .invalidBody (describeFault (w.notRequest r.body) fault)
  else .error (.invalidBody "Expected request with \x60Content-Type: application/json\x60")

end CheckRequest

namespace Service

/-- The HTTP response with an envelope. -/
def envelopeResponse (answer : Nat × Envelope) : Response :=
  .json answer.1 answer.2.toJson.compact

/-- The response to a form in which a field is repeated. -/
def repeatedField (name : String) : Response :=
  .plain 400 ("Failed to deserialize query string: duplicate field \x60" ++ name ++ "\x60")

/-- The response that tells for how long the service has been running. -/
def healthResponse (uptimeSeconds : Nat) : Response :=
  .json 200 (Json.object [.named "status" (.string "healthy"),
    .named "uptime_seconds" (.natural uptimeSeconds)]).compact

section Handle

variable (s : Service) (uptimeSeconds task : Nat)

/-- Answers a request for a validation. -/
def answer (request : CheckRequest) (state : State) : Response × State :=
  let (answer, state) := s.check task request state
  (envelopeResponse answer, state)

/-- Answers a request to read from an endpoint. -/
def get (e : Endpoint) (r : Web.Request) (state : State) : Response × State :=
  match e with
  | .health => (healthResponse uptimeSeconds, state)
  | .metrics => (.plain 200 state.metrics.exportText, state)
  | .check =>
    match CheckRequest.ofForm (Form.decode r.query) with
    | .error name => (repeatedField name, state)
    | .ok request => s.answer task request state

/-- Answers a request with a body. -/
def post (r : Web.Request) (state : State) : Response × State :=
  match CheckRequest.ofBody s.wording r with
  | .error e => (envelopeResponse (respond (.error e)), state)
  | .ok request => s.answer task request state

/-- Answers an HTTP request when the service has been running for the given number of seconds.  If
it is a request for a validation, it is carried out in the task with the given number. -/
def handle (r : Web.Request) (state : State) : Response × State :=
  match Endpoint.ofPath? r.path, r.method with
  | none, .options => ({ status := 200 }, state)
  | none, _ => ({ status := 404 }, state)
  | some e, .options => ({ status := 200, allow := e.allowed }, state)
  | some e, .get => s.get uptimeSeconds task e r state
  | some e, .head =>
    let (response, state) := s.get uptimeSeconds task e r state
    (response.withoutBody, state)
  | some .check, .post => s.post task r state
  | some e, _ => ({ status := 405, allow := e.allowed }, state)

end Handle

end Service

end SenderPolicy
