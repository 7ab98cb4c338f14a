/-
The text format in which metrics are exported.

Metrics come in families, ordered by name.  A family without samples is left out; another one has a
line with its purpose, a line with its type, and its samples, ordered by their labels.
-/
import SenderPolicy.Metrics
import SenderPolicy.Text.Decimal

namespace SenderPolicy.Metrics

/-- A character of a label as it is written between quotes. -/
def escapeChar : Char → List Char
  | '\\' => ['\\', '\\']
  | '"' => ['\\', '"']
  | '\n' => ['\\', 'n']
  | c => [c]

/-- A label with its value. -/
def label (name value : String) : String :=
  name ++ "=\"" ++ String.ofList (value.toList.flatMap escapeChar) ++ "\""

/-- A sample: a name, labels and a value. -/
def sample (name : String) (labels : List String) (value : String) : String :=
  name ++ "\x7b" ++ ",".intercalate labels ++ "\x7d " ++ value

/-- The lines of a family, given those of its samples. -/
def family (name help type : String) (samples : List String) : List String :=
  if samples.isEmpty then []
  else ("# HELP " ++ name ++ " " ++ help) :: ("# TYPE " ++ name ++ " " ++ type) :: samples

/-- Whether one list of labels stands before another or is the same. -/
def labelsLe : List String → List String → Bool
  | [], _ => true
  | _ :: _, [] => false
  | a :: as, b :: bs => if a = b then labelsLe as bs else decide (a < b)

/-- Values in the order of their labels. -/
def byLabels {α : Type} (labels : α → List String) (values : List α) : List α :=
  values.mergeSort fun a b => labelsLe (labels a) (labels b)

/-- The labels of a lookup. -/
def lookupLabels (key : Backend × String) : List String := [key.1.name, key.2]

/-- The family of the lookups. -/
def lookupLines (m : Metrics) : List String :=
  family "spf_dns_queries_total" "TXT lookups attempted per resolver backend and outcome" "counter"
    ((byLabels (fun e => lookupLabels e.1) m.lookups.entries).map fun e =>
      sample "spf_dns_queries_total" [label "backend" e.1.1.name, label "outcome" e.1.2]
        (toString e.2))

/-- The family of the validations. -/
def validationLines (m : Metrics) : List String :=
  family "spf_validations_total" "Total number of SPF validation requests by outcome" "counter"
    ((byLabels (fun e => [e.1]) m.validations.entries).map fun e =>
      sample "spf_validations_total" [label "outcome" e.1] (toString e.2))

/-- The samples of one histogram. -/
def histogramLines (name outcome : String) (h : Histogram) : List String :=
  let bucket (bound : String) (n : Nat) :=
    sample (name ++ "_bucket") [label "outcome" outcome, label "le" bound] (toString n)
  List.zipWith (fun bound n => bucket (Text.Decimal.ofFloat bound) n) Histogram.bounds h.upTo ++
    [bucket "+Inf" h.count,
     sample (name ++ "_sum") [label "outcome" outcome] (Text.Decimal.ofFloat h.sum),
     sample (name ++ "_count") [label "outcome" outcome] (toString h.count)]

/-- The family of the durations. -/
def durationLines (m : Metrics) : List String :=
  family "spf_validation_duration_seconds"
    "Wall-clock time of a full validation, recursion included" "histogram"
    ((byLabels (fun e => [e.1]) m.durations).flatMap fun e =>
      histogramLines "spf_validation_duration_seconds" e.1 e.2)

/-- The lines of the export. -/
def exportLines (m : Metrics) : List String := lookupLines m ++ durationLines m ++ validationLines m

/-- The export.  Every line ends with a line feed. -/
def exportText (m : Metrics) : String := String.join (m.exportLines.map (· ++ "\n"))

end SenderPolicy.Metrics
