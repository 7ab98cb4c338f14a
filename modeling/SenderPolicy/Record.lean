/-
Reading a sender policy record.

A record is a text of blank-separated tokens.  The first one is the version tag: it starts with
`v=spf1` in any case, and whatever follows these six characters belongs to the version.  Each
further token is a term: an optional qualifier, a name, and after a separator a value.  The
separator is the first colon, or else the first slash, or else the first equals sign; one that
stands before any other character of the name is not a separator.
-/
import SenderPolicy.Issue
import SenderPolicy.Term
import SenderPolicy.Text.Split

namespace SenderPolicy.Record

open Text

/-- The tag at the start of every sender policy record. -/
def versionTag : String := "v=spf1"

/-- Whether a text starts with the version tag in any case. -/
def startsWithTag (s : List Char) : Bool :=
  (s.take versionTag.length).map Char.toLower == versionTag.toList

/-- Whether a TXT string is a sender policy record. -/
def isPolicy (txt : String) : Bool := startsWithTag txt.toList

/-- The separators between the name and the value of a term, the preferred one first. -/
def separators : List Char := [':', '/', '=']

/-- Cuts a text at the first occurrence of a separator, unless the text has none or starts with
it. -/
def cutAt? (sep : Char) (s : List Char) : Option (List Char × List Char) :=
  match s.takeWhile (· != sep), s.dropWhile (· != sep) with
  | [], _ => none
  | _ :: _, [] => none
  | c :: name, _ :: value => some (c :: name, value)

/-- The qualifier of a token and the text after it. -/
def takeQualifier : List Char → Qualifier × List Char
  | [] => (.pass, [])
  | c :: rest =>
    match Qualifier.ofChar? c with
    | some q => (q, rest)
    | none => (.pass, c :: rest)

/-- The name and the value of a term without its qualifier. -/
def nameAndValue (s : List Char) : List Char × List Char :=
  (separators.findSome? (cutAt? · s)).getD (s, [])

/-- The term that a token stands for. -/
def termOfToken (token : List Char) : Term :=
  let (qualifier, rest) := takeQualifier token
  let (name, value) := nameAndValue rest
  ⟨qualifier, .ofName (String.ofList name), String.ofList value⟩

/-- The warning about a term that should no longer be used. -/
def deprecation (t : Term) : Option Issue :=
  if t.kind = .pointer then
    some (.warning
      "The 'ptr' mechanism is deprecated (RFC 7208 section 5.5) and should not be used")
  else none

/-- The error about a text whose first token is not a version tag. -/
def invalidVersion (found : List Char) : Issue :=
  .error ("Invalid SPF version: expected \"" ++ versionTag ++ "\" but found \"" ++
    String.ofList found ++ "\"")

/-- What reading a record yields.  Without a version there are no terms. -/
structure Reading where
  version : Option String
  terms : List Term
  issues : List Issue
  deriving DecidableEq, Repr

/-- Reads the tokens of a record, given the first one and the others. -/
def readTokens (first : List Char) (tokens : List (List Char)) : Reading :=
  if startsWithTag first then
    let terms := tokens.map termOfToken
    { version := some (String.ofList ((first.drop 2).map Char.toLower))
      terms := terms
      issues := terms.filterMap deprecation }
  else
    { version := none, terms := [], issues := [invalidVersion first] }

/-- Reads a record. -/
def read (record : String) : Reading :=
  match words record.toList with
  | [] => readTokens [] []
  | first :: tokens => readTokens first tokens

end SenderPolicy.Record
