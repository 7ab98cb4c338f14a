/-
Settings from a file and from environment variables.

The settings in a file replace the defaults, and those in environment variables replace both.  Only
what comes of all three is checked.
-/
import SenderPolicy.Settings.Document
import SenderPolicy.Text.Utf8

namespace SenderPolicy

/-- The values of environment variables. -/
abbrev Environment := String → Option String

namespace Settings

/-- The environment variables that hold settings. -/
def variableNames : List String :=
  ["SPF_HTTP_BIND_ADDR", "SPF_BACKEND", "SPF_FALLBACK_ORDER", "SPF_TIMEOUT_MS",
    "SPF_UPSTREAM_SERVERS", "SPF_REQUEST_TIMEOUT_SECS"]

/-- Takes over the settings in environment variables. -/
def takeEnvironment (env : Environment) : SettingsUpdate := do
  readWith readBindAddress (env "SPF_HTTP_BIND_ADDR") fun s a => { s with bindAddress := a }
  readWith readBackend (env "SPF_BACKEND") fun s b => { s with backend := b }
  readWith readBackends (env "SPF_FALLBACK_ORDER") fun s order => { s with fallbackOrder := order }
  readWith readTime (env "SPF_TIMEOUT_MS") fun s ms => { s with timeoutMs := ms }
  readWith readNameservers (env "SPF_UPSTREAM_SERVERS") fun s servers =>
    { s with nameservers := some servers }
  readWith readTime (env "SPF_REQUEST_TIMEOUT_SECS") fun s secs =>
    { s with requestTimeoutMs := secs * 1000 }

/-- The settings that changes of the defaults lead to, if they are valid. -/
def ofUpdate (u : SettingsUpdate) : Except SettingsError Settings := do
  let (outcome, s) := u.apply {}
  outcome
  s.validate
  return s

/-- The settings in environment variables. -/
def ofEnvironment (env : Environment) : Except SettingsError Settings :=
  ofUpdate (takeEnvironment env)

/-- The text in a file of which the bytes, or a fault, are given. -/
def textOfFile (path : String) (content : Except FileFault (List UInt8)) :
    Except SettingsError String :=
  match content with
  | .error fault => .error (.unreadableFile path fault)
  | .ok bytes =>
    match Text.Utf8.decode? bytes with
    | none => .error (.unreadableFile path .notText)
    | some text => .ok text

/-- The settings in a file and in environment variables. -/
def ofFile (path : String) (content : Except FileFault (List UInt8)) (env : Environment) :
    Except SettingsError Settings := do
  let text ← textOfFile path content
  ofUpdate do
    takeText text
    takeEnvironment env

end Settings

end SenderPolicy
