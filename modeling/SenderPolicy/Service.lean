/-
The service that answers requests.

A request is checked, its backends are chosen, and the domain is validated within a time limit, in
a task of its own, which the runtime numbers as it likes.  What a request leaves behind is its share
in the metrics and in the count of questions to each backend.

The libraries under a service have words of their own for what goes wrong in them; these are taken
as they come.
-/
import SenderPolicy.Envelope
import SenderPolicy.Lookup
import SenderPolicy.Metrics
import SenderPolicy.Resolution.Resolvers
import SenderPolicy.Resolution.Timeline

namespace SenderPolicy

open Resolution

/-- The words of the libraries under a service. -/
structure Wording where
  /-- What is said of a task that broke down, by its number and by what it left behind. -/
  brokenTask : Nat → Payload → String
  /-- What is found wrong with the bytes of a body that is no request. -/
  notRequest : List UInt8 → String

/-- A service: its backends, the milliseconds that a validation may take, and the words of the
libraries under it. -/
structure Service where
  resolvers : Resolvers
  requestTimeoutMs : Nat
  wording : Wording

namespace Service

/-- What a service remembers of the requests that it answered. -/
structure State where
  metrics : Metrics := {}
  /-- The questions that were put to each backend. -/
  queries : Tally Backend := {}

/-- What became of a request that was accepted. -/
structure Run where
  /-- The attempts that were started. -/
  started : List Attempt
  /-- The attempts that ended before the request was answered. -/
  finished : List Attempt
  elapsedMs : Nat
  outcome : Except RequestError Report

/-- The error of a validation that took too long. -/
def timedOut (limitMs : Nat) : RequestError :=
  .internal ("validation timed out after " ++ toString limitMs ++ "ms")

/-- The error of a validation during which a backend broke down. -/
def brokeDown (w : Wording) (task : Nat) (payload : Payload) : RequestError :=
  .internal (w.brokenTask task payload)

/-- Validates a domain with a chain of backends, in the task with the given number. -/
def run (s : Service) (task : Nat) (domain : String) (first : Option Backend) : Run :=
  let chain := s.resolvers.chain first
  let attempts domain := Chain.attempts s.resolvers.timeoutMs domain chain
  let (made, result) := (validate domain).runAttempts attempts
  let total := Resolution.elapsedMs made
  let limit := s.requestTimeoutMs
  if total > limit then
    { started := startedBefore limit 0 made
      finished := finishedBy limit 0 made
      elapsedMs := limit
      outcome := .error (timedOut limit) }
  else
    { started := made
      finished := made
      elapsedMs := total
      outcome := result.mapError (brokeDown s.wording task) }

/-- The name under which the outcome of a request is counted. -/
def label : Except RequestError Report → String
  | .ok report => if report.hasErrorsInTree then "issues" else "ok"
  | .error e => if e.status ≥ 500 then "failed" else "rejected"

/-- A number of milliseconds in seconds: the whole seconds and the nanoseconds beyond them are
converted each on their own. -/
def seconds (ms : Nat) : Float :=
  Float.ofNat (ms / 1000) + Float.ofNat (ms % 1000 * 1000000) / Float.ofNat 1000000000

/-- Counts an answered request and the lookups that were made for it. -/
def State.record (state : State) (started finished : List Attempt) (elapsedMs : Nat)
    (outcome : Except RequestError Report) : State :=
  let metrics := { state.metrics with
    lookups := state.metrics.lookups.addAll (finished.filterMap Attempt.counter?) }
  { metrics := metrics.recordValidation (label outcome) (seconds elapsedMs)
    queries := state.queries.addAll (started.map Attempt.backend) }

/-- The HTTP status and the envelope of an outcome. -/
def respond : Except RequestError Report → Nat × Envelope
  | .ok report => (200, .ok report)
  | .error e => (e.status, .failure e)

/-- Answers a request.  The number is that of the task in which it is carried out. -/
def check (s : Service) (task : Nat) (request : CheckRequest) (state : State) :
    (Nat × Envelope) × State :=
  match request.check with
  | .error e => (respond (.error e), state.record [] [] 0 (.error e))
  | .ok (domain, first) =>
    let r := s.run task domain first
    (respond r.outcome, state.record r.started r.finished r.elapsedMs r.outcome)

end Service

end SenderPolicy
