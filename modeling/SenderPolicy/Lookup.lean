/-
Following a sender policy through the domains that it refers to.

A validation fetches the record of a domain, reads it, applies the rules to it, and then goes
through its terms in order.  A term that takes a DNS lookup is charged to a budget of ten lookups
for the whole validation.  A term that refers to another domain is followed there, unless it
names no domain, the domain was fetched before, or the budget is spent.

The budget also bounds the depth: every domain that is followed has been charged for, so the
number of lookups that are left is smaller below a reference than above it.
-/
import SenderPolicy.Domain
import SenderPolicy.Inquiry
import SenderPolicy.Record
import SenderPolicy.Report
import SenderPolicy.Rules

namespace SenderPolicy

/-- The greatest number of DNS lookups that RFC 7208 allows a validation. -/
def maxLookups : Nat := 10

/-- What the parts of one validation share: how many lookups were charged, and which domains were
fetched.  The count stops one above the limit. -/
structure Context where
  count : Nat := 0
  visited : List String := []
  deriving DecidableEq, Repr

namespace Context

/-- The context of a validation that has not started. -/
def empty : Context := {}

/-- Whether a domain was fetched. -/
def isVisited (ctx : Context) (domain : String) : Bool := ctx.visited.contains domain

/-- Notes that a domain is fetched. -/
def mark (ctx : Context) (domain : String) : Context :=
  if ctx.isVisited domain then ctx else { ctx with visited := domain :: ctx.visited }

/-- Charges one lookup. -/
def charge (ctx : Context) : Context :=
  if ctx.count > maxLookups then ctx else { ctx with count := ctx.count + 1 }

/-- Whether the lookups charged so far are within the limit. -/
def isWithinLimit (ctx : Context) : Bool := ctx.count ≤ maxLookups

/-- The number of lookups that can still be charged without passing the limit. -/
def remaining (ctx : Context) : Nat := maxLookups - ctx.count

/-- The count as a report shows it. -/
def lookupCount (ctx : Context) : UInt32 := UInt32.ofNat ctx.count

end Context

namespace Lookup

/-- The error of a domain whose records could not be fetched. -/
def fetchFailed (e : LookupError) : String := "DNS lookup failed: " ++ e.message

/-- The error of a domain without TXT records. -/
def noTxt : String := "No TXT records found"

/-- The error of a domain that has TXT records but no policy among them. -/
def noPolicy (checked : Nat) : String :=
  "No SPF record found (" ++ toString checked ++ " TXT records checked)"

/-- The error of a domain with more than one policy. -/
def severalPolicies (found : Nat) : String :=
  "Multiple SPF records found (" ++ toString found ++
    "); RFC 7208 requires exactly one, using the first"

/-- The error of a reference that names no domain. -/
def noTarget (kind : Kind) : String := "'" ++ kind.name ++ "' has no target domain"

/-- The error of a reference to a domain that was fetched before. -/
def circular (target : String) : String :=
  "Circular reference detected: " ++ target ++ " was already visited"

/-- The error of a reference that the budget does not allow to follow. -/
def overLimit (target : String) : String :=
  "DNS lookup limit exceeded (max " ++ toString maxLookups ++ "); " ++ target ++
    " was not evaluated"

/-- The error of a validation that took more lookups than allowed. -/
def tooMany (count : Nat) : String :=
  "Too many DNS lookups: " ++ toString count ++ " (RFC 7208 allows at most " ++
    toString maxLookups ++ ")"

/-- The policies among the TXT strings of an answer. -/
def policies (txt : List String) : List String := txt.filter Record.isPolicy

/-- The policy that an answer gives and the issue that there are others, or why it gives none. -/
def policyOfAnswer : TxtAnswer → Except String (String × List Issue)
  | .error e => .error (fetchFailed e)
  | .ok [] => .error noTxt
  | .ok txt =>
    match policies txt with
    | [] => .error (noPolicy txt.length)
    | [record] => .ok (record, [])
    | record :: others => .ok (record, [.error (severalPolicies (others.length + 1))])

/-- The finding on a domain whose policy was read, before its terms are followed. -/
def findingOf (domain record : String) (issues : List Issue) : Finding :=
  let reading := Record.read record
  { domain
    record := some record
    version := reading.version
    lookupCount := 0
    issues := issues ++ reading.issues ++ Rules.check record reading.terms
    queryTimeMs := 0 }

/-- A way of continuing with a domain in a given context. -/
abbrev Visit := String → Context → Inquiry (Report × Context)

/-- Follows a reference.  A domain that may be followed is charged, noted and visited. -/
def follow (visit : Visit) (t : Term) (ctx : Context) : Inquiry (Report × Context) :=
  let target := Domain.normalize t.value
  if target = "" then
    .done (.failed target ctx.lookupCount (noTarget t.kind), ctx)
  else if ctx.isVisited target then
    .done (.failed target ctx.lookupCount (circular target), ctx)
  else
    let ctx := ctx.charge
    if ctx.isWithinLimit then visit target (ctx.mark target)
    else .done (.failed target ctx.lookupCount (overLimit target), ctx)

/-- Goes through the terms of a record in order. -/
def walk (visit : Visit) : List Term → Context → Inquiry (List Entry × Context)
  | [], ctx => .done ([], ctx)
  | t :: ts, ctx =>
    if t.kind.isReference then do
      let (report, ctx) ← follow visit t ctx
      let (entries, ctx) ← walk visit ts ctx
      return (.expanded t report :: entries, ctx)
    else do
      let ctx := if t.kind.takesLookup then ctx.charge else ctx
      let (entries, ctx) ← walk visit ts ctx
      return (.plain t :: entries, ctx)

/-- Continues with a domain whose TXT records were asked for. -/
def examine (visit : Visit) (domain : String) (answer : TxtAnswer) (ctx : Context) :
    Inquiry (Report × Context) :=
  match policyOfAnswer answer with
  | .error message => .done (.failed domain ctx.lookupCount message, ctx)
  | .ok (record, issues) => do
    let (entries, ctx) ← walk visit (Record.read record).terms ctx
    let finding := { findingOf domain record issues with lookupCount := ctx.lookupCount }
    return (.node finding entries, ctx)

/-- Visits a domain when references may be followed to the given depth only.  A reference at a
greater depth is refused like one over the limit. -/
def visitWithin : Nat → Visit
  | 0, domain, ctx =>
    .ask domain fun answer =>
      examine (fun target ctx => .done (.failed target ctx.lookupCount (overLimit target), ctx))
        domain answer ctx
  | depth + 1, domain, ctx =>
    .ask domain fun answer => examine (visitWithin depth) domain answer ctx

end Lookup

/-- Visits a domain in a context.  The depth that the remaining lookups allow is never reached
without spending them, so it restricts nothing. -/
def lookup (domain : String) (ctx : Context) : Inquiry (Report × Context) :=
  Lookup.visitWithin ctx.remaining domain ctx

/-- Validates the policy of a domain.  The root of the report says so if the whole validation took
more lookups than allowed. -/
def validate (domain : String) : Inquiry Report := do
  let domain := Domain.normalize domain
  let (report, ctx) ← lookup domain (Context.empty.mark domain)
  if ctx.isWithinLimit then return report
  else return report.addIssue (.error (Lookup.tooMany ctx.count))

end SenderPolicy
