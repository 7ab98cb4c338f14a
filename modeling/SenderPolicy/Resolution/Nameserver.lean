/-
Looking up TXT records by the DNS protocol.

The nameservers are asked in turn.  Each gets the question in a datagram, and if its answer says
that it was cut short, the same question over a stream.  An answer with records and the answer that
the name does not exist end the search; any other failure leads to the next server.

What a nameserver sends back, if anything, is a function of the octets that it is sent.
-/
import SenderPolicy.Dns.Message
import SenderPolicy.LookupError

namespace SenderPolicy.Resolution

/-- Why a socket cannot be used. -/
inductive SocketError where
  /-- Nothing listens at the address. -/
  | refused
  /-- There is no route to the address. -/
  | unreachable
  /-- A datagram cannot be as long as this. -/
  | tooLong
  /-- The stream ends too early. -/
  | endOfStream
  deriving DecidableEq, Repr

/-- A socket error as one line of text. -/
def SocketError.message : SocketError → String
  | refused => "Connection refused (os error 111)"
  | unreachable => "Network is unreachable (os error 101)"
  | tooLong => "Message too long (os error 90)"
  | endOfStream => "early eof"

/-- What arrives at a socket. -/
inductive Arrival where
  | failure (error : SocketError)
  /-- Nothing arrives in time. -/
  | silence
  /-- A datagram, or all that a stream carries before it is closed. -/
  | octets (bytes : List UInt8)
  deriving DecidableEq, Repr

/-- The two ways of talking to a nameserver. -/
inductive Transport where
  | datagram
  | stream
  deriving DecidableEq, Repr

/-- A nameserver, by its address and by what it sends back. -/
structure Nameserver where
  address : String
  receive : Transport → List UInt8 → Arrival

namespace Nameserver

/-- The nameserver as seen from a place without a route to it. -/
def withoutRoute (s : Nameserver) : Nameserver :=
  { s with receive := fun _ _ => .failure .unreachable }

/-- The greatest number of octets that is taken from a datagram. -/
def receiveBuffer : Nat := 4096

/-- The error of a server that did not answer in time. -/
def noAnswer (s : Nameserver) : LookupError :=
  .io ("Upstream " ++ s.address ++ " did not answer in time")

/-- Reads a response. -/
def readResponse (bytes : List UInt8) : Except LookupError Dns.Message :=
  match Dns.Message.read bytes with
  | .ok m => .ok m
  | .error e => .error (.unreadable ("Failed to parse response: " ++ e.message))

/-- The message that a stream carries after a word with its length. -/
def unframe (bytes : List UInt8) : Except LookupError (List UInt8) :=
  match bytes with
  | a :: b :: rest =>
    let n := a.toNat * 256 + b.toNat
    if rest.length < n then .error (.io SocketError.endOfStream.message) else .ok (rest.take n)
  | _ => .error (.io SocketError.endOfStream.message)

/-- Asks by a datagram. -/
def askDatagram (s : Nameserver) (query : List UInt8) : Except LookupError Dns.Message :=
  match s.receive .datagram query with
  | .failure e => .error (.io e.message)
  | .silence => .error s.noAnswer
  | .octets bytes => readResponse (bytes.take receiveBuffer)

/-- Asks over a stream. -/
def askStream (s : Nameserver) (query : List UInt8) : Except LookupError Dns.Message :=
  match s.receive .stream query with
  | .failure e => .error (.io e.message)
  | .silence => .error s.noAnswer
  | .octets bytes => do readResponse (← unframe bytes)

/-- Asks by a datagram, and over a stream if the answer to it was cut short. -/
def ask (s : Nameserver) (query : List UInt8) : Except LookupError Dns.Message := do
  let response ← s.askDatagram query
  if response.header.flags.truncated then s.askStream query else return response

/-- What a response to the question with the given identifier says. -/
def answerOf (id : UInt16) (response : Dns.Message) : TxtAnswer :=
  if response.header.id ≠ id then
    .error (.unreadable ("Response ID " ++ toString response.header.id.toNat ++
      " does not match query ID " ++ toString id.toNat))
  else if response.header.flags.responseCode = Dns.ResponseCode.noError then
    .ok response.txtRecords
  else
    .error (.responseCode response.header.flags.responseCode
      (Dns.ResponseCode.describe response.header.flags.responseCode))

/-- The octets of the question for a domain. -/
def queryOctets (id : UInt16) (domain : String) : Except LookupError (List UInt8) :=
  match (Dns.Message.txtQuery id domain).write with
  | .ok bytes => .ok bytes
  | .error e => .error (.unreadable ("Failed to serialize query: " ++ e.message))

/-- Asks one nameserver for the TXT records of a domain. -/
def resolve (s : Nameserver) (id : UInt16) (domain : String) : TxtAnswer := do
  let query ← queryOctets id domain
  answerOf id (← s.ask query)

/-- Whether an answer says that the name does not exist. -/
def isNameError : TxtAnswer → Bool
  | .error (.responseCode code _) => code == Dns.ResponseCode.nameError
  | _ => false

/-- Whether an answer ends the search. -/
def isFinal (answer : TxtAnswer) : Bool :=
  match answer with
  | .ok _ => true
  | .error _ => isNameError answer

/-- Asks nameservers in turn, each with an identifier of its own, when the ones before them gave the
answer `last`. -/
def resolveFrom (ids : Nat → UInt16) (domain : String) (last : TxtAnswer) (index : Nat) :
    List Nameserver → TxtAnswer
  | [] => last
  | s :: rest =>
    let answer := s.resolve (ids index) domain
    if isFinal answer then answer else resolveFrom ids domain answer (index + 1) rest

/-- The answer where there is no nameserver to ask. -/
def noServers : TxtAnswer := .error (.io "No upstream servers available")

/-- Asks nameservers in turn, each with an identifier of its own. -/
def resolveAll (servers : List Nameserver) (ids : Nat → UInt16) (domain : String) : TxtAnswer :=
  resolveFrom ids domain noServers 0 servers

/-- The transports over which a server gets a question. -/
def transportsUsed (s : Nameserver) (query : List UInt8) : List Transport :=
  let reached (t : Transport) : Bool :=
    match s.receive t query with
    | .failure _ => false
    | _ => true
  let retried := match s.askDatagram query with
    | .ok response => response.header.flags.truncated
    | .error _ => false
  (if reached .datagram then [.datagram] else []) ++
    (if retried && reached .stream then [.stream] else [])

/-- What each nameserver gets when they are asked in turn. -/
def contactsFrom (ids : Nat → UInt16) (domain : String) (index : Nat) :
    List Nameserver → List (List (Transport × List UInt8))
  | [] => []
  | s :: rest =>
    match queryOctets (ids index) domain with
    | .error _ => [] :: contactsFrom ids domain (index + 1) rest
    | .ok query =>
      let got := (s.transportsUsed query).map fun t => (t, query)
      if isFinal (s.resolve (ids index) domain) then got :: rest.map fun _ => []
      else got :: contactsFrom ids domain (index + 1) rest

/-- What each nameserver gets when they are asked for the TXT records of a domain. -/
def contacts (servers : List Nameserver) (ids : Nat → UInt16) (domain : String) :
    List (List (Transport × List UInt8)) :=
  contactsFrom ids domain 0 servers

/-- The nameserver that serves the given records and response codes. -/
def serving (address : String) (records : String → List String) (code : String → UInt8) :
    Nameserver where
  address
  receive transport query :=
    match Dns.Message.read query with
    | .error _ => .silence
    | .ok m =>
      let name := ".".intercalate ((m.questions.head?.map Dns.Question.labels).getD [])
      let flags := { m.header.flags with response := true, responseCode := code name }
      let response := { m with
        header := { m.header with flags }
        answers := (records name).map fun text => .txt name 300 text }
      match response.write, transport with
      | .error _, _ => .silence
      | .ok bytes, .datagram => .octets bytes
      | .ok bytes, .stream => .octets (Dns.writeWord (UInt16.ofNat bytes.length) ++ bytes)

end Nameserver

end SenderPolicy.Resolution
