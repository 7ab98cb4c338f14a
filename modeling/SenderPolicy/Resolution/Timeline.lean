/-
An inquiry in time.

When an inquiry is run against chains of backends, its questions are answered one after the other
by attempts, each of which starts where the one before it ends.  A deadline cuts such a run off:
the attempts that start before it are made, the ones that end by it are finished.
-/
import SenderPolicy.Inquiry
import SenderPolicy.Resolution.Attempt

namespace SenderPolicy

/-- Runs an inquiry whose questions are answered by attempts.  The result is missing if a backend
breaks down; then what it leaves stands in its place. -/
def Inquiry.runAttempts {α : Type} (attempts : String → List Resolution.Attempt) :
    Inquiry α → List Resolution.Attempt × Except Resolution.Payload α
  | .done a => ([], .ok a)
  | .ask domain next =>
    let made := attempts domain
    match Resolution.outcomeOf made with
    | .error payload => (made, .error payload)
    | .ok answer =>
      let (later, result) := (next answer).runAttempts attempts
      (made ++ later, result)

namespace Resolution

/-- The attempts of a run that start before the deadline, when the first one starts at `start`. -/
def startedBefore (deadline : Nat) (start : Nat) : List Attempt → List Attempt
  | [] => []
  | a :: rest =>
    if start < deadline then a :: startedBefore deadline (start + a.durationMs) rest else []

/-- The attempts of a run that end by the deadline, when the first one starts at `start`. -/
def finishedBy (deadline : Nat) (start : Nat) : List Attempt → List Attempt
  | [] => []
  | a :: rest =>
    if start + a.durationMs ≤ deadline then
      a :: finishedBy deadline (start + a.durationMs) rest
    else []

end Resolution

end SenderPolicy
