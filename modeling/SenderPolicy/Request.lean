/-
Requests for a validation.

A request names a domain and may name the backend to ask first.  The domain is brought into the
form in which domains are looked up, and must then be a host name: letters, digits, dots and
hyphens, with a letter or a digit at both ends.  A name of a single byte is let through as it is.
-/
import SenderPolicy.Backend
import SenderPolicy.Domain
import SenderPolicy.Json.Decoder
import SenderPolicy.Json.Printer

namespace SenderPolicy

/-- Why a request has no result. -/
inductive RequestError where
  | missingDomain
  /-- The domain is longer than a domain name can be. -/
  | domainTooLong (domain : String)
  /-- The domain is no host name. -/
  | invalidDomain (domain : String)
  | unknownResolver (selector : String)
  | invalidBody (reason : String)
  | internal (reason : String)
  deriving DecidableEq, Repr

/-- The greatest number of bytes of a domain name in its written form, without the dot of the
root. -/
def maxDomainLength : Nat := 253

namespace RequestError

/-- A request error as one line of text. -/
def message : RequestError → String
  | missingDomain => "Domain is required"
  | domainTooLong domain =>
    "Invalid domain format: " ++ domain ++ " is " ++ toString domain.utf8ByteSize ++
      " characters long (max " ++ toString maxDomainLength ++ ")"
  | invalidDomain domain => "Invalid domain format: " ++ domain
  | unknownResolver selector => "Unknown resolver: " ++ selector
  | invalidBody reason => "Invalid request body: " ++ reason
  | internal reason => "Internal error: " ++ reason

/-- The HTTP status of a request error: only an internal one is the server's fault. -/
def status : RequestError → Nat
  | internal _ => 500
  | _ => 400

end RequestError

/-- A request as it comes in. -/
structure CheckRequest where
  domain : Option String := none
  resolver : Option String := none
  deriving DecidableEq, Repr

namespace CheckRequest

/-- A lower-case letter or a digit. -/
def isHostEnd (c : Char) : Bool := ('a' ≤ c && c ≤ 'z') || ('0' ≤ c && c ≤ '9')

/-- A character of a host name. -/
def isHostChar (c : Char) : Bool := isHostEnd c || c == '.' || c == '-'

/-- Whether a text of at least two characters is a host name. -/
def isHostName (s : List Char) : Bool :=
  match s, s.getLast? with
  | first :: _ :: _, some last => isHostEnd first && isHostEnd last && s.all isHostChar
  | _, _ => false

/-- The domain of a request, checked and in the form in which domains are looked up. -/
def checkDomain (domain : Option String) : Except RequestError String :=
  match domain.map Domain.normalize with
  | none => .error .missingDomain
  | some domain =>
    if domain = "" then .error .missingDomain
    else if domain.utf8ByteSize > maxDomainLength then .error (.domainTooLong domain)
    else if domain.utf8ByteSize > 1 && !isHostName domain.toList then .error (.invalidDomain domain)
    else .ok domain

/-- The backend that a request wants to be asked first.  A blank selector is none. -/
def checkResolver (resolver : Option String) : Except RequestError (Option Backend) :=
  match resolver.map Text.trim with
  | none => .ok none
  | some selector =>
    if selector = "" then .ok none
    else match Backend.ofSelector? selector with
      | some backend => .ok (some backend)
      | none => .error (.unknownResolver selector)

/-- A request that may be answered: the domain and the backend to ask first. -/
def check (r : CheckRequest) : Except RequestError (String × Option Backend) := do
  let domain ← checkDomain r.domain
  let backend ← checkResolver r.resolver
  return (domain, backend)

/-- The document of a request. -/
def toJson (r : CheckRequest) : Json :=
  .object [.named "domain" (.ofText? r.domain), .named "resolver" (.ofText? r.resolver)]

/-- The fields of a request that were met. -/
structure Draft where
  domain : Option (Option String) := none
  resolver : Option (Option String) := none

/-- How a request is decoded. -/
def shape (depth : Nat) : Json.Shape Draft where
  fields := [("domain", true), ("resolver", true)]
  start := {}
  put draft name value :=
    match name with
    | "domain" =>
      return { draft with
        domain := ← Json.fill draft.domain (Json.decodeOption Json.decodeString depth value) }
    | "resolver" =>
      return { draft with
        resolver := ← Json.fill draft.resolver (Json.decodeOption Json.decodeString depth value) }
    | _ => .ok draft

/-- Decodes a request. -/
def decode : Json.Decoder CheckRequest :=
  Json.Shape.decode shape fun draft =>
    .ok { domain := draft.domain.getD none, resolver := draft.resolver.getD none }

end CheckRequest

end SenderPolicy
