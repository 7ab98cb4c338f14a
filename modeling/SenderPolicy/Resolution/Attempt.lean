/-
Asking one backend after the other.

A chain of backends is asked for the TXT records of a domain until one of them has an answer that is
no error.  Only the first backend of the chain is cut off after a timeout; the others are trusted to
keep to limits of their own.  The outcome is told by the attempts that were made.
-/
import SenderPolicy.LookupError

namespace SenderPolicy.Resolution

/-- What a backend leaves behind when it breaks down. -/
inductive Payload where
  | text (message : String)
  /-- Something that is no text. -/
  | other
  deriving DecidableEq, Repr

/-- What a backend does when it is asked. -/
inductive Reaction where
  /-- It answers after some milliseconds. -/
  | answers (afterMs : Nat) (answer : TxtAnswer)
  /-- It breaks down. -/
  | panics (payload : Payload)

/-- A backend as it appears to those who ask it. -/
abbrev Source := String → Reaction

/-- How an attempt with one backend ended. -/
inductive AttemptOutcome where
  | success (records : List String)
  | failure (error : LookupError)
  /-- The backend was cut off. -/
  | timeout (afterMs : Nat)
  | panic (payload : Payload)
  deriving DecidableEq

/-- One backend asked once. -/
structure Attempt where
  backend : Backend
  /-- How many milliseconds the attempt took. -/
  durationMs : Nat
  outcome : AttemptOutcome
  deriving DecidableEq

namespace AttemptOutcome

/-- The outcome of an answer. -/
def ofAnswer : TxtAnswer → AttemptOutcome
  | .ok records => success records
  | .error e => failure e

/-- Whether no further backend is asked. -/
def isFinal : AttemptOutcome → Bool
  | success _ | panic _ => true
  | failure _ | timeout _ => false

/-- The name under which an outcome is counted. -/
def label? : AttemptOutcome → Option String
  | success _ => some "success"
  | failure _ => some "error"
  | timeout _ => some "timeout"
  | panic _ => none

end AttemptOutcome

namespace Attempt

/-- The attempt with a backend that may take the given time, if there is a limit. -/
def make (limitMs : Option Nat) (backend : Backend) (source : Source) (domain : String) : Attempt :=
  match source domain with
  | .panics payload => { backend, durationMs := 0, outcome := .panic payload }
  | .answers afterMs answer =>
    match limitMs with
    | some limit =>
      if afterMs > limit then { backend, durationMs := limit, outcome := .timeout limit }
      else { backend, durationMs := afterMs, outcome := .ofAnswer answer }
    | none => { backend, durationMs := afterMs, outcome := .ofAnswer answer }

/-- The error of an attempt that did not succeed. -/
def error? (a : Attempt) : Option LookupError :=
  match a.outcome with
  | .failure e => some e
  | .timeout ms => some (.timeout a.backend (UInt64.ofNat ms))
  | .success _ | .panic _ => none

/-- The counter of an attempt: its backend and the name of its outcome. -/
def counter? (a : Attempt) : Option (Backend × String) :=
  a.outcome.label?.map fun label => (a.backend, label)

end Attempt

/-- A chain of backends. -/
abbrev Chain := List (Backend × Source)

namespace Chain

/-- The attempts with backends of which none has a limit. -/
def attemptsFrom (domain : String) : Chain → List Attempt
  | [] => []
  | (backend, source) :: rest =>
    let a := Attempt.make none backend source domain
    if a.outcome.isFinal then [a] else a :: attemptsFrom domain rest

/-- The attempts that are made to look up a domain. -/
def attempts (timeoutMs : Nat) (domain : String) : Chain → List Attempt
  | [] => []
  | (backend, source) :: rest =>
    let a := Attempt.make (some timeoutMs) backend source domain
    if a.outcome.isFinal then [a] else a :: attemptsFrom domain rest

end Chain

/-- What a number of attempts comes to: an answer, or what a backend left that broke down. -/
def outcomeOf (attempts : List Attempt) : Except Payload TxtAnswer :=
  match attempts.getLast? with
  | none => .ok (.error .noBackends)
  | some a =>
    match a.outcome, a.error? with
    | .success records, _ => .ok (.ok records)
    | .panic payload, _ => .error payload
    | _, some e => .ok (.error (.allFailed e))
    | _, none => .ok (.error .noBackends)

/-- How many milliseconds a number of attempts took. -/
def elapsedMs : List Attempt → Nat
  | [] => 0
  | a :: rest => a.durationMs + elapsedMs rest

end SenderPolicy.Resolution
