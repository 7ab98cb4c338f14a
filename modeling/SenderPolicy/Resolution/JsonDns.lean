/-
Looking up TXT records through a JSON interface.

The name is added to the query of a fixed URL, and the response is a JSON object with the response
code of DNS and the answers.  The data of a TXT answer is in presentation format.
-/
import SenderPolicy.Dns.CharacterString
import SenderPolicy.Dns.Code
import SenderPolicy.Json.Decoder
import SenderPolicy.LookupError
import SenderPolicy.Web.Status
import SenderPolicy.Web.Url.Reader

namespace SenderPolicy.Resolution.JsonDns

/-- An answer in a response: its record type and its data. -/
structure Answer where
  type : Nat
  data : String
  deriving DecidableEq, Repr

/-- A response. -/
structure Response where
  status : UInt8
  answers : List Answer
  deriving DecidableEq, Repr

/-- The fields of an answer that were met. -/
structure AnswerDraft where
  type : Option Nat := none
  data : Option String := none

/-- How an answer is decoded. -/
def answerShape (depth : Nat) : Json.Shape AnswerDraft where
  fields := [("type", false), ("data", false)]
  start := {}
  put draft name value :=
    match name with
    | "type" =>
      return { draft with
        type := ← Json.fill draft.type (Json.decodeNatural UInt16.size depth value) }
    | "data" => return { draft with data := ← Json.fill draft.data (Json.decodeString depth value) }
    | _ => .ok draft

/-- Decodes an answer. -/
def decodeAnswer : Json.Decoder Answer :=
  Json.Shape.decode answerShape fun draft => do
    return { type := ← Json.required draft.type, data := ← Json.required draft.data }

/-- The fields of a response that were met. -/
structure Draft where
  status : Option Nat := none
  answers : Option (List Answer) := none

/-- How a response is decoded. -/
def shape (depth : Nat) : Json.Shape Draft where
  fields := [("Status", false), ("Answer", true)]
  start := {}
  put draft name value :=
    match name with
    | "Status" =>
      return { draft with
        status := ← Json.fill draft.status (Json.decodeNatural UInt8.size depth value) }
    | "Answer" =>
      return { draft with
        answers := ← Json.fill draft.answers (Json.decodeList decodeAnswer depth value) }
    | _ => .ok draft

/-- Decodes a response. -/
def decode : Json.Decoder Response :=
  Json.Shape.decode shape fun draft => do
    return {
      status := UInt8.ofNat (← Json.required draft.status)
      answers := draft.answers.getD [] }

/-- The TXT strings of a response. -/
def recordsOf (r : Response) : TxtAnswer :=
  if r.status = Dns.ResponseCode.noError then
    .ok ((r.answers.filter fun a => a.type == Dns.RecordType.txt.code.toNat).map fun a =>
      Dns.CharacterString.ofPresentation a.data)
  else .error (.responseCode r.status (Dns.ResponseCode.describe r.status))

/-- What comes of sending a request. -/
inductive Exchange where
  /-- No response came back. -/
  | none
  /-- A response came back; its body is missing if it did not arrive in full. -/
  | response (status : Nat) (body : Option (List UInt8))
  deriving DecidableEq, Repr

/-- The error of a response that cannot be read. -/
def unreadable : LookupError :=
  .unreadable "Invalid DoH response: error decoding response body"

/-- The TXT strings of the body of a response. -/
def recordsOfBody (body : Option (List UInt8)) : TxtAnswer :=
  match body.map (Json.decodeBytes decode) with
  | some (.ok response) => recordsOf response
  | _ => .error unreadable

/-- The error of a URL to which no request can be sent. -/
def unusable (url : Web.Url) : LookupError := .http ("builder error for url (" ++ url.text ++ ")")

/-- The URL that asks the interface at a base URL for the TXT records of a domain, or the error that
there can be none.  Credentials in the base URL do not belong to what is asked for. -/
def requestUrl (base domain : String) : Except LookupError Web.Url :=
  match Web.Url.read? base with
  | none => .error (.http "builder error")
  | some url =>
    if !url.hasHost then .error (unusable url)
    else
      let url := url.withoutCredentials.addQuery [("name", domain), ("type", "TXT")]
      if ["http", "https"].contains url.scheme && url.isRequestable then .ok url
      else .error (unusable url)

/-- What the interface gets: the target of the request, and what is said about the client. -/
structure Request where
  target : String
  accept : String := "application/dns-json"
  userAgent : String := "spf-validator/0.1.0"
  deriving DecidableEq, Repr

/-- The request for a URL. -/
def Request.ofUrl (url : Web.Url) : Request where
  target := url.path ++ (url.query.elim "" ("?" ++ ·))

/-- Looks up the TXT records of a domain, given what comes of sending a request to a URL. -/
def resolve (send : Web.Url → Exchange) (base domain : String) : TxtAnswer := do
  let url ← requestUrl base domain
  match send url with
  | .none => .error (.http ("error sending request for url (" ++ url.text ++ ")"))
  | .response status body =>
    if Web.Status.isSuccess status then recordsOfBody body
    else .error (.http (base ++ " returned HTTP " ++ Web.Status.text status))

/-- How many milliseconds that takes, given how many it takes to send a request to a URL. -/
def lookupMs (sendMs : Web.Url → Nat) (base domain : String) : Nat :=
  match requestUrl base domain with
  | .error _ => 0
  | .ok url => sendMs url

end SenderPolicy.Resolution.JsonDns
