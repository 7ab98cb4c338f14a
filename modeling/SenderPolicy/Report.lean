/-
Reports: the outcome of a validation as a tree.

A report has one node per domain.  A node holds what was found out about its domain and one entry
per term of its record; the entry of a term that refers to another domain carries the report on
that domain.
-/
import SenderPolicy.Issue
import SenderPolicy.Term

namespace SenderPolicy

/-- What was found out about one domain, apart from the terms of its record.  Without a record
there is no usable policy. -/
structure Finding where
  domain : String
  record : Option String
  version : Option String
  /-- How many DNS lookups the whole validation had taken when this node was finished. -/
  lookupCount : UInt32
  issues : List Issue
  /-- The milliseconds that fetching this node took. -/
  queryTimeMs : UInt64
  deriving DecidableEq, Repr

namespace Finding

/-- A finding without a record, with one error. -/
def failed (domain : String) (lookupCount : UInt32) (message : String) : Finding :=
  { domain, record := none, version := none, lookupCount, issues := [.error message]
    queryTimeMs := 0 }

/-- Whether one of the issues is an error. -/
def hasErrors (f : Finding) : Bool := f.issues.any Issue.isError

/-- The finding without its time. -/
def withoutTiming (f : Finding) : Finding := { f with queryTimeMs := 0 }

end Finding

mutual

/-- The report on a domain. -/
inductive Report where
  | node (finding : Finding) (entries : List Entry)

/-- A term of a record in a report. -/
inductive Entry where
  /-- A term that was not followed. -/
  | plain (term : Term)
  /-- A term with the report on the domain that it refers to. -/
  | expanded (term : Term) (report : Report)

end

namespace Entry

/-- The term of an entry. -/
def term : Entry → Term
  | plain t => t
  | expanded t _ => t

/-- The report that an entry carries. -/
def report? : Entry → Option Report
  | plain _ => none
  | expanded _ r => some r

/-- The entry of a term with the given report, if any. -/
def of (t : Term) : Option Report → Entry
  | none => plain t
  | some r => expanded t r

@[simp] theorem term_of (t : Term) (r : Option Report) : (of t r).term = t := by
  cases r <;> rfl

@[simp] theorem report?_of (t : Term) (r : Option Report) : (of t r).report? = r := by
  cases r <;> rfl

end Entry

namespace Report

/-- What the root of a report says. -/
def finding : Report → Finding
  | node f _ => f

/-- The entries of the root of a report. -/
def entries : Report → List Entry
  | node _ es => es

/-- The report of a domain that has no usable policy, with one error. -/
def failed (domain : String) (lookupCount : UInt32) (message : String) : Report :=
  node (.failed domain lookupCount message) []

/-- The reports that the entries of the root carry, in order. -/
def children (r : Report) : List Report := r.entries.filterMap Entry.report?

mutual

/-- All nodes of a report as reports of their own, each before those below it. -/
def nodes : Report → List Report
  | node f es => node f es :: nodesOfEntries es

/-- All nodes below the given entries. -/
def nodesOfEntries : List Entry → List Report
  | [] => []
  | e :: es => nodesOfEntry e ++ nodesOfEntries es

/-- All nodes below an entry. -/
def nodesOfEntry : Entry → List Report
  | .plain _ => []
  | .expanded _ r => nodes r

end

mutual

/-- The report with every finding replaced by its image. -/
def map (g : Finding → Finding) : Report → Report
  | node f es => node (g f) (mapEntries g es)

/-- The entries with every finding below them replaced by its image. -/
def mapEntries (g : Finding → Finding) : List Entry → List Entry
  | [] => []
  | e :: es => mapEntry g e :: mapEntries g es

/-- The entry with every finding below it replaced by its image. -/
def mapEntry (g : Finding → Finding) : Entry → Entry
  | .plain t => .plain t
  | .expanded t r => .expanded t (map g r)

end

/-- Whether the root of a report has an error. -/
def hasErrors (r : Report) : Bool := r.finding.hasErrors

/-- Whether any node of a report has an error. -/
def hasErrorsInTree (r : Report) : Bool := r.nodes.any hasErrors

/-- The report with all times set to zero. -/
def withoutTiming (r : Report) : Report := r.map Finding.withoutTiming

/-- The report with one more issue at its root. -/
def addIssue (r : Report) (i : Issue) : Report :=
  node { r.finding with issues := r.finding.issues ++ [i] } r.entries

@[simp] theorem finding_node (f : Finding) (es : List Entry) : (node f es).finding = f := rfl

@[simp] theorem entries_node (f : Finding) (es : List Entry) : (node f es).entries = es := rfl

@[simp] theorem node_finding_entries (r : Report) : node r.finding r.entries = r := by
  cases r; rfl

end Report

end SenderPolicy
