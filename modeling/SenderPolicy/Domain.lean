/-
Domain names as this library compares them.
-/
import SenderPolicy.Text.LowerCase
import SenderPolicy.Text.Split

namespace SenderPolicy.Domain

/-- The form of a domain name in which names are compared and looked up: without blanks around it
and in lower case. -/
def normalize (s : String) : String := Text.lower (Text.trim s)

end SenderPolicy.Domain
