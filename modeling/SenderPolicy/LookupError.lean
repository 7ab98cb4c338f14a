/-
Why a TXT lookup can fail, and what a lookup answers.
-/
import SenderPolicy.Backend

namespace SenderPolicy

/-- The reason of a failed TXT lookup. -/
inductive LookupError where
  /-- A socket could not be used. -/
  | io (message : String)
  /-- An HTTP request did not come through. -/
  | http (message : String)
  /-- A response could not be read. -/
  | unreadable (message : String)
  /-- A backend did not answer in time. -/
  | timeout (backend : Backend) (afterMs : UInt64)
  /-- A server answered with a response code other than zero. -/
  | responseCode (code : UInt8) (message : String)
  /-- Every backend failed, the last one with the given error. -/
  | allFailed (last : LookupError)
  /-- There was no backend to ask. -/
  | noBackends
  deriving DecidableEq, Repr

/-- A lookup error as one line of text. -/
def LookupError.message : LookupError → String
  | io m => "IO error: " ++ m
  | http m => "HTTP error: " ++ m
  | unreadable m => "Parse error: " ++ m
  | timeout b ms => b.name ++ " lookup timed out after " ++ toString ms.toNat ++ "ms"
  | responseCode _ m => "DNS query failed: " ++ m
  | allFailed last => "All resolvers failed, last error: " ++ last.message
  | noBackends => "No resolver backends configured"

/-- What asking for the TXT records of a name yields: the text of each record, or the reason of the
failure.  A name without TXT records has the empty list. -/
abbrev TxtAnswer := Except LookupError (List String)

end SenderPolicy
