/-
How long it takes to ask nameservers.

The time for a lookup is shared among the nameservers, but none of them has less than a fifth of a
second.  A server has to send its answer within its share, the stream and the datagram in front of
it together.  What would arrive later does not arrive.
-/
import SenderPolicy.Resolution.Attempt
import SenderPolicy.Resolution.Nameserver

namespace SenderPolicy.Resolution

/-- A nameserver with the times that it takes. -/
structure Upstream where
  address : String
  /-- What it sends back. -/
  receive : Transport → List UInt8 → Arrival
  /-- How many milliseconds after the question that arrives. -/
  delayMs : Transport → List UInt8 → Nat

namespace Upstream

/-- The smallest share of a server. -/
def minShareMs : Nat := 200

/-- The share of each of a number of servers in the time for all of them. -/
def shareMs (budgetMs count : Nat) : Nat := max (budgetMs / max count 1) minShareMs

/-- When something arrives, counted from the question in the datagram. -/
def arrivalMs (u : Upstream) (query : List UInt8) : Transport → Nat
  | .datagram => u.delayMs .datagram query
  | .stream => u.delayMs .datagram query + u.delayMs .stream query

/-- The server as it appears to someone who waits for some milliseconds. -/
def within (u : Upstream) (limitMs : Nat) : Nameserver where
  address := u.address
  receive t query := if u.arrivalMs query t > limitMs then .silence else u.receive t query

/-- How long something is waited for. -/
def waitMs (u : Upstream) (limitMs : Nat) (query : List UInt8) (t : Transport) : Nat :=
  match (u.within limitMs).receive t query with
  | .silence => limitMs
  | _ => u.arrivalMs query t

/-- How long it takes to ask. -/
def askMs (u : Upstream) (limitMs : Nat) (query : List UInt8) : Nat :=
  match (u.within limitMs).askDatagram query with
  | .error _ => u.waitMs limitMs query .datagram
  | .ok response =>
    u.waitMs limitMs query (if response.header.flags.truncated then .stream else .datagram)

/-- How long it takes to ask servers in turn, each with an identifier of its own. -/
def lookupMsFrom (limitMs : Nat) (ids : Nat → UInt16) (domain : String) (index : Nat) :
    List Upstream → Nat
  | [] => 0
  | u :: rest =>
    let later := lookupMsFrom limitMs ids domain (index + 1) rest
    match Nameserver.queryOctets (ids index) domain with
    | .error _ => later
    | .ok query =>
      if Nameserver.isFinal ((u.within limitMs).resolve (ids index) domain) then
        u.askMs limitMs query
      else u.askMs limitMs query + later

end Upstream

/-- The backend that asks nameservers in turn, and has some milliseconds for all of them. -/
def Source.ofUpstreams (budgetMs : Nat) (ids : Nat → UInt16) (servers : List Upstream) : Source :=
  fun domain =>
    let limit := Upstream.shareMs budgetMs servers.length
    .answers (Upstream.lookupMsFrom limit ids domain 0 servers)
      (Nameserver.resolveAll (servers.map fun u => u.within limit) ids domain)

end SenderPolicy.Resolution
