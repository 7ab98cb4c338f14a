/-
HTTP requests and responses, as far as an interface with fixed paths needs them.

The target of a request is a path with an optional query; a scheme and a host in front of the path
do not matter, and neither does a fragment.  The body of a request and the values of its header
fields are bytes, which need not be text.
-/
import SenderPolicy.Web.Url.Basic

namespace SenderPolicy.Web

/-- What a request wants. -/
inductive Method where
  | get
  | head
  | post
  | options
  | other (name : String)
  deriving DecidableEq, Repr

namespace Method

/-- The name of a method. -/
def name : Method → String
  | get => "GET"
  | head => "HEAD"
  | post => "POST"
  | options => "OPTIONS"
  | other name => name

/-- The method of a name; the case of its letters matters. -/
def ofName (s : String) : Method :=
  if s = "GET" then get
  else if s = "HEAD" then head
  else if s = "POST" then post
  else if s = "OPTIONS" then options
  else other s

end Method

/-- A request. -/
structure Request where
  method : Method
  target : String
  /-- The header fields in order. -/
  headers : List (String × List UInt8) := []
  body : List UInt8 := []
  deriving DecidableEq, Repr

namespace Request

/-- The value of the first header field with the given name.  The case of letters does not
matter. -/
def header? (r : Request) (name : String) : Option (List UInt8) :=
  (r.headers.find? fun h => h.1.toLower == name.toLower).map (·.2)

/-- A visible character of ASCII, a blank or a tabulator. -/
def isVisible (b : UInt8) : Bool := (0x20 ≤ b && b < 0x7F) || b == 0x09

/-- The value of a header field as a text, if all of it is visible. -/
def visibleText? (value : List UInt8) : Option String :=
  if value.all isVisible then some (String.ofList (value.map fun b => Char.ofNat b.toNat)) else none

/-- What follows a scheme and a host in front of a path. -/
def withoutHost (s : List Char) : List Char :=
  match s.dropWhile Url.isSchemeChar with
  | ':' :: '/' :: '/' :: rest =>
    match rest.dropWhile fun c => c != '/' && c != '?' && c != '#' with
    | '/' :: path => '/' :: path
    | path => '/' :: path
  | _ => s

/-- The target without its scheme, its host and its fragment. -/
def origin (r : Request) : List Char := (withoutHost r.target.toList).takeWhile (· != '#')

/-- The path of the target. -/
def path (r : Request) : String := String.ofList (r.origin.takeWhile (· != '?'))

/-- The query of the target; a missing one is empty. -/
def query (r : Request) : String := String.ofList ((r.origin.dropWhile (· != '?')).drop 1)

end Request

/-- A response. -/
structure Response where
  status : Nat
  contentType : Option String := none
  /-- The methods that the path of the request allows, where the response tells them. -/
  allow : List Method := []
  body : String := ""
  deriving DecidableEq, Repr

namespace Response

/-- The origins whose scripts may read a response: all of them. -/
def allowOrigin : String := "*"

/-- The header fields of a response. -/
def headers (r : Response) : List (String × String) :=
  (r.contentType.map fun t => ("content-type", t)).toList ++
    (if r.allow = [] then [] else [("allow", ",".intercalate (r.allow.map Method.name))]) ++
    [("access-control-allow-origin", allowOrigin)]

/-- The response to a request that wants to know all about a document but its content. -/
def withoutBody (r : Response) : Response := { r with body := "" }

/-- A response with a JSON document. -/
def json (status : Nat) (text : String) : Response where
  status
  contentType := some "application/json"
  body := text

/-- A response with plain text. -/
def plain (status : Nat) (text : String) : Response where
  status
  contentType := some "text/plain; charset=utf-8"
  body := text

end Response

end SenderPolicy.Web
