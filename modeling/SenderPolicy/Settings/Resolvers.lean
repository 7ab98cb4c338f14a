/-
The backends that settings describe.

Every backend is always there, so a request may ask for any of them first.  The native one asks the
nameservers that are set, the others the JSON interfaces at their URLs.  Each of them has as much
time for a lookup as the first backend of a chain has.
-/
import SenderPolicy.Resolution.JsonDns
import SenderPolicy.Resolution.Resolvers
import SenderPolicy.Resolution.Waiting
import SenderPolicy.Service
import SenderPolicy.Settings.Values

namespace SenderPolicy

open Resolution

/-- What surrounds a service. -/
structure Network where
  /-- The nameservers of the system. -/
  nameservers : List Net.SocketAddress
  /-- What the nameserver at an address sends back. -/
  receive : Net.SocketAddress → Transport → List UInt8 → Arrival
  /-- How many milliseconds after the question that arrives. -/
  delayMs : Net.SocketAddress → Transport → List UInt8 → Nat
  /-- What comes of sending an HTTP request to a URL and waiting for some milliseconds. -/
  send : Nat → Web.Url → JsonDns.Exchange
  /-- How many milliseconds that takes. -/
  sendMs : Nat → Web.Url → Nat
  /-- The identifiers of questions to nameservers. -/
  identifiers : Nat → UInt16
  /-- The number of the task in which a request is carried out. -/
  task : Nat
  wording : Wording

namespace Network

/-- The nameserver at an address. -/
def upstream (n : Network) (address : Net.SocketAddress) : Upstream where
  address := address.text
  receive := n.receive address
  delayMs := n.delayMs address

/-- The backend that asks nameservers in turn. -/
def nativeSource (n : Network) (timeoutMs : Nat) (servers : List Net.SocketAddress) : Source :=
  .ofUpstreams timeoutMs n.identifiers (servers.map n.upstream)

/-- The backend that asks the JSON interface at a URL. -/
def jsonSource (n : Network) (timeoutMs : Nat) (url : String) : Source := fun domain =>
  .answers (JsonDns.lookupMs (n.sendMs timeoutMs) url domain)
    (JsonDns.resolve (n.send timeoutMs) url domain)

end Network

/-- The backends that settings describe. -/
def Settings.resolvers (s : Settings) (n : Network) : Resolvers where
  sources :=
    [(.native, n.nativeSource s.timeoutMs (s.nameserversIn n.nameservers)),
      (.google, n.jsonSource s.timeoutMs s.googleUrl),
      (.cloudflare, n.jsonSource s.timeoutMs s.cloudflareUrl)]
  default := s.backend
  fallbackOrder := s.fallbackOrder
  timeoutMs := s.timeoutMs

end SenderPolicy
