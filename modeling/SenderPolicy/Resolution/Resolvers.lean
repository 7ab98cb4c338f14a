/-
The backends of a service, and the chain that a request makes of them.
-/
import SenderPolicy.Resolution.Attempt
import SenderPolicy.Zone

namespace SenderPolicy.Resolution

namespace Source

/-- A zone that answers after a delay. -/
def ofZone (zone : Zone) (delayMs : Nat) : Source := fun domain =>
  .answers delayMs (zone.answer domain)

/-- A backend that breaks down whenever it is asked. -/
def broken (payload : Payload) : Source := fun _ => .panics payload

end Source

/-- The backends that can be asked, and how a request chooses among them. -/
structure Resolvers where
  /-- The backends that are there. -/
  sources : Chain
  /-- The backend to ask first unless the request wants another one. -/
  default : Backend
  /-- The backends to ask after the first one, in order. -/
  fallbackOrder : List Backend
  /-- How many milliseconds the first backend may take. -/
  timeoutMs : Nat

namespace Resolvers

/-- The source of a backend, if it is there. -/
def source? (r : Resolvers) (b : Backend) : Option Source := r.sources.lookup b

/-- The backends to ask in order, each once, whether they are there or not. -/
def order (r : Resolvers) (first : Option Backend) : List Backend :=
  (first.getD r.default :: r.fallbackOrder).eraseDups

/-- The chain of a request. -/
def chain (r : Resolvers) (first : Option Backend) : Chain :=
  (r.order first).filterMap fun b => (r.source? b).map fun source => (b, source)

end Resolvers

end SenderPolicy.Resolution
