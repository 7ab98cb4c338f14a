/-
Metrics: what is counted while requests are answered.

Every TXT lookup is counted by its backend and its outcome, and every validation by its outcome.
For validations a histogram also counts how long they took.
-/
import SenderPolicy.Backend
import SenderPolicy.Tally

namespace SenderPolicy

/-- How many observations there were, how many of them up to each bound, and their sum. -/
structure Histogram where
  upTo : List Nat
  sum : Float := 0
  count : Nat := 0

namespace Histogram

/-- The bounds of the durations, in seconds. -/
def bounds : List Float := [0.01, 0.05, 0.1, 0.25, 0.5, 1, 2.5, 5, 10, 30]

/-- A histogram without observations. -/
def empty : Histogram := { upTo := bounds.map fun _ => 0 }

/-- Takes one more observation into account. -/
def observe (h : Histogram) (value : Float) : Histogram :=
  { upTo := List.zipWith (fun bound n => if value ≤ bound then n + 1 else n) bounds h.upTo
    sum := h.sum + value
    count := h.count + 1 }

end Histogram

/-- The metrics. -/
structure Metrics where
  /-- The lookups by backend and outcome. -/
  lookups : Tally (Backend × String) := {}
  /-- The validations by outcome. -/
  validations : Tally String := {}
  /-- The durations of validations by outcome, each outcome once. -/
  durations : List (String × Histogram) := []

namespace Metrics

/-- Counts a lookup. -/
def recordLookup (m : Metrics) (backend : Backend) (outcome : String) : Metrics :=
  { m with lookups := m.lookups.add (backend, outcome) }

/-- Adds an observation to the histogram of an outcome. -/
def observe (outcome : String) (seconds : Float) :
    List (String × Histogram) → List (String × Histogram)
  | [] => [(outcome, Histogram.empty.observe seconds)]
  | (name, h) :: rest =>
    if name = outcome then (name, h.observe seconds) :: rest
    else (name, h) :: observe outcome seconds rest

/-- Counts a validation. -/
def recordValidation (m : Metrics) (outcome : String) (seconds : Float) : Metrics :=
  { m with
    validations := m.validations.add outcome
    durations := observe outcome seconds m.durations }

end Metrics

end SenderPolicy
