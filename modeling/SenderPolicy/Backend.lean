/-
The backends that TXT records can be asked from.

A backend has one name, which is written everywhere, and a short name that is also understood.
-/
import SenderPolicy.Text.Split

namespace SenderPolicy

/-- A way of looking up TXT records. -/
inductive Backend where
  /-- The DNS protocol, spoken to the configured nameservers. -/
  | native
  /-- The JSON interface of Google's public resolver. -/
  | google
  /-- The JSON interface of Cloudflare's public resolver. -/
  | cloudflare
  deriving DecidableEq, Repr

namespace Backend

/-- The name of a backend. -/
def name : Backend → String
  | native => "native"
  | google => "google-doh"
  | cloudflare => "cloudflare-doh"

/-- The backend of a name or a short name, which must be spelled exactly. -/
def ofName? (s : String) : Option Backend :=
  if s = "native" ∨ s = "system" then some native
  else if s = "google-doh" ∨ s = "google" then some google
  else if s = "cloudflare-doh" ∨ s = "cloudflare" then some cloudflare
  else none

/-- The backend that a user's selector stands for: blanks around it and the case of its letters do
not matter. -/
def ofSelector? (s : String) : Option Backend := ofName? (Text.trim s).toLower

@[simp] theorem ofName?_name (b : Backend) : ofName? b.name = some b := by
  cases b <;> decide

end Backend

end SenderPolicy
