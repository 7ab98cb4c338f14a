/-
Rules on a record as a whole.

Four rules look at which terms a record has and in which order: a record should have an `all`
term, nothing that matches should stand after the first one, there is at most one redirect, and a
redirect is pointless beside an `all`.  A fifth rule looks at the length of the record, because
DNS stores text in strings of at most 255 bytes.
-/
import SenderPolicy.Issue
import SenderPolicy.Term

namespace SenderPolicy.Rules

/-- The greatest number of bytes of one DNS character-string. -/
def maxStringLength : Nat := 255

/-- The number of character-strings that hold the given number of bytes. -/
def stringsNeeded (length : Nat) : Nat := (length + (maxStringLength - 1)) / maxStringLength

/-- The place of the first `all` term. -/
def firstAll? (terms : List Term) : Option Nat := terms.findIdx? fun t => t.kind == .all

/-- The place of the last term that is no modifier. -/
def lastMechanism? (terms : List Term) : Option Nat :=
  (terms.reverse.findIdx? fun t => !t.kind.isModifier).map fun i => terms.length - 1 - i

/-- Whether a record has an `all` term. -/
def hasAll (terms : List Term) : Bool := (firstAll? terms).isSome

/-- The number of redirects of a record. -/
def redirectCount (terms : List Term) : Nat := terms.countP fun t => t.kind == .redirect

/-- The rule that every record ends with an `all` term. -/
def allIssue (terms : List Term) : Option Issue :=
  match firstAll? terms with
  | none => some (.warning "No 'all' mechanism found; end the record with -all or ~all")
  | some place =>
    if lastMechanism? terms ≠ some place then
      some (.warning
        "The 'all' mechanism is not the last mechanism; anything after it is never evaluated")
    else none

/-- The rule that a record has at most one redirect. -/
def redirectsIssue (terms : List Term) : Option Issue :=
  let n := redirectCount terms
  if n > 1 then
    some (.error ("Multiple redirect modifiers found (" ++ toString n ++
      "); at most one is allowed"))
  else none

/-- The rule that a redirect does not stand beside an `all` term. -/
def pointlessRedirectIssue (terms : List Term) : Option Issue :=
  if redirectCount terms > 0 && hasAll terms then
    some (.warning
      "The redirect modifier is ignored because an 'all' mechanism is present")
  else none

/-- The rule that a record fits one character-string. -/
def lengthIssue (record : String) : Option Issue :=
  let length := record.utf8ByteSize
  if length > maxStringLength then
    some (.warning ("Record is " ++ toString length ++
      " characters long; DNS will split it into " ++ toString (stringsNeeded length) ++
      " strings of at most " ++ toString maxStringLength ++ " bytes"))
  else none

/-- The issues that the rules find in a record with the given terms. -/
def check (record : String) (terms : List Term) : List Issue :=
  (allIssue terms).toList ++ (redirectsIssue terms).toList ++
    (pointlessRedirectIssue terms).toList ++ (lengthIssue record).toList

end SenderPolicy.Rules
