/-
The outline of a report: an indented text that a person can read.

A node takes a line with its domain, a line with its record if it has one, and a line per issue.
Every term that carries a report takes a line with an arrow, after which that report follows two
levels deeper.
-/
import SenderPolicy.Report

namespace SenderPolicy.Report

/-- The blanks at the start of a line at the given level. -/
def indent (level : Nat) : String := String.ofList (List.replicate (2 * level) ' ')

/-- The lines on a node itself. -/
def findingLines (level : Nat) (f : Finding) : List String :=
  let header := match f.record with
    | some record =>
      [indent level ++ f.domain ++ " (" ++ toString f.lookupCount.toNat ++ " lookups, " ++
        toString f.queryTimeMs.toNat ++ "ms)", indent (level + 1) ++ record]
    | none => [indent level ++ f.domain ++ " (no SPF record)"]
  header ++ f.issues.map fun i => indent (level + 1) ++ "[" ++ i.display ++ "]"

mutual

/-- The lines of a report whose root stands at the given level. -/
def outlineLines (level : Nat) : Report → List String
  | node f es => findingLines level f ++ entriesLines level es

/-- The lines of the entries of a node at the given level. -/
def entriesLines (level : Nat) : List Entry → List String
  | [] => []
  | e :: es => entryLines level e ++ entriesLines level es

/-- The lines of one entry of a node at the given level. -/
def entryLines (level : Nat) : Entry → List String
  | .plain _ => []
  | .expanded t r => (indent (level + 1) ++ "-> " ++ t.display) :: outlineLines (level + 2) r

end

/-- The outline of a report.  Every line ends with a line feed. -/
def outline (r : Report) : String :=
  String.join ((outlineLines 0 r).map (· ++ "\n"))

end SenderPolicy.Report
