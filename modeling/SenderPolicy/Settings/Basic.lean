/-
Settings: where the service listens, how long things may take, and which backends are asked.

Settings are valid if their times are within bounds and, where the DNS protocol is spoken by
default, there is a nameserver to speak it to.
-/
import SenderPolicy.Backend
import SenderPolicy.Net.Address

namespace SenderPolicy

/-- The settings of the service. -/
structure Settings where
  /-- The address at which the HTTP interface listens. -/
  bindAddress : Net.SocketAddress := { ip := .v4 ⟨[127, 0, 0, 1]⟩, port := 8080 }
  /-- How many milliseconds a validation may take. -/
  requestTimeoutMs : Nat := 30000
  /-- The backend that is asked first. -/
  backend : Backend := .native
  /-- The backends that are asked after the first one, in order. -/
  fallbackOrder : List Backend := [.google, .cloudflare]
  /-- How many milliseconds the first backend may take. -/
  timeoutMs : Nat := 2000
  /-- The nameservers that were set; the system's nameservers serve if none were. -/
  nameservers : Option (List Net.SocketAddress) := none
  /-- The JSON interface of Google's resolver. -/
  googleUrl : String := "https://dns.google/resolve"
  /-- The JSON interface of Cloudflare's resolver. -/
  cloudflareUrl : String := "https://cloudflare-dns.com/dns-query"
  deriving DecidableEq, Repr

/-- Why a file cannot be read. -/
inductive FileFault where
  /-- There is no such file. -/
  | missing
  /-- A directory is no file. -/
  | directory
  /-- The bytes of the file are no text. -/
  | notText
  | other (message : String)
  deriving DecidableEq, Repr

/-- A file fault as one line of text. -/
def FileFault.message : FileFault → String
  | missing => "No such file or directory (os error 2)"
  | directory => "Is a directory (os error 21)"
  | notText => "stream did not contain valid UTF-8"
  | other message => message

/-- What is wrong with settings. -/
inductive SettingsError where
  | invalidBindAddress (s : String)
  | invalidNameserver (s : String)
  | invalidTimeout (s : String)
  | unknownBackend (name : String)
  | invalidFallbackOrder (reason : String)
  | unreadableFile (path : String) (fault : FileFault)
  /-- A settings file is not TOML, or TOML of another shape. -/
  | invalidDocument
  deriving DecidableEq, Repr

/-- A settings error as one line of text. -/
def SettingsError.message : SettingsError → String
  | invalidBindAddress s => "Invalid bind address: " ++ s
  | invalidNameserver s => "Invalid upstream server: " ++ s
  | invalidTimeout s => "Invalid timeout: " ++ s
  | unknownBackend name => "Unknown resolver backend: " ++ name
  | invalidFallbackOrder reason => "Invalid fallback order: " ++ reason
  | unreadableFile path fault => "Failed to read config file " ++ path ++ ": " ++ fault.message
  | invalidDocument => "Configuration parse error"

namespace Settings

/-- The greatest number of milliseconds that the first backend may be given. -/
def maxTimeoutMs : Nat := 60000

/-- The greatest number of milliseconds that a validation may be given. -/
def maxRequestTimeoutMs : Nat := 300000

/-- Whether the native backend is asked unless a request chooses another one. -/
def usesNative (s : Settings) : Bool := s.backend == .native || s.fallbackOrder.contains .native

/-- Checks settings.  The first fault that is met is reported. -/
def validate (s : Settings) : Except SettingsError Unit :=
  if s.timeoutMs = 0 then .error (.invalidTimeout "Resolver timeout must be greater than 0")
  else if s.timeoutMs > maxTimeoutMs then
    .error (.invalidTimeout "Resolver timeout too large (max 60 seconds)")
  else if s.requestTimeoutMs = 0 ∨ s.requestTimeoutMs > maxRequestTimeoutMs then
    .error (.invalidTimeout "Request timeout must be between 1 and 300 seconds")
  else if s.usesNative ∧ s.nameservers = some [] then
    .error (.invalidNameserver "Native backend requires at least one upstream server")
  else .ok ()

end Settings

/-- A change of settings.  A change that fails half-way leaves what it has already set. -/
abbrev SettingsUpdate := ExceptT SettingsError (StateM Settings) Unit

/-- The settings after a change, and how the change ended. -/
def SettingsUpdate.apply (u : SettingsUpdate) (s : Settings) :
    Except SettingsError Unit × Settings :=
  (ExceptT.run u).run s

end SenderPolicy
