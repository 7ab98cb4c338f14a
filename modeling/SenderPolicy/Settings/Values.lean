/-
The texts in which single settings are written.
-/
import SenderPolicy.Settings.Basic
import SenderPolicy.Text.Split

namespace SenderPolicy.Settings

open Text Net

/-- The port of DNS. -/
def dnsPort : UInt16 := 53

/-- Reads the address at which to listen. -/
def readBindAddress (s : String) : Except SettingsError SocketAddress :=
  match SocketAddress.read? (trim s) with
  | some a => .ok a
  | none => .error (.invalidBindAddress s)

/-- Reads the address of a nameserver; without a port, the port is that of DNS. -/
def readNameserver (s : String) : Except SettingsError SocketAddress :=
  let s := trim s
  match SocketAddress.read? s, Ip.read? s.toList with
  | some a, _ => .ok a
  | none, some ip => .ok { ip, port := dnsPort }
  | none, none => .error (.invalidNameserver s)

/-- Reads the name of a backend. -/
def readBackend (s : String) : Except SettingsError Backend :=
  match Backend.ofSelector? s with
  | some b => .ok b
  | none => .error (.unknownBackend s)

/-- The first item of a list that also stands before it. -/
def firstRepeated? {α : Type} [BEq α] (before : List α) : List α → Option α
  | [] => none
  | a :: rest => if before.contains a then some a else firstRepeated? (before ++ [a]) rest

/-- The items of a list with commas between them.  Blank items do not count. -/
def items (s : String) : List String := (fields (· == ',') s).filter fun item => trim item != ""

/-- Reads a list of backends, each at most once. -/
def readBackends (s : String) : Except SettingsError (List Backend) := do
  let backends ← (items s).mapM fun item => readBackend (trim item)
  match firstRepeated? [] backends with
  | some b => .error (.invalidFallbackOrder (b.name ++ " listed more than once"))
  | none => return backends

/-- Reads a list of nameservers, which must not be empty. -/
def readNameservers (s : String) : Except SettingsError (List SocketAddress) := do
  match ← (items s).mapM readNameserver with
  | [] => .error (.invalidNameserver "No valid upstream servers provided")
  | servers => return servers

/-- Reads a time: decimal digits, below `2 ^ 64`, with an optional plus sign. -/
def readTime (s : String) : Except SettingsError Nat :=
  let digits := match s.toList with
    | '+' :: rest => rest
    | digits => digits
  match decimalValue? digits with
  | some n => if n < UInt64.size then .ok n else .error (.invalidTimeout s)
  | none => .error (.invalidTimeout s)

/-- The nameserver that a line of the system's resolver file names.  Lines that name none, or none
that can be read, do not count. -/
def nameserverOfLine? (line : List Char) : Option SocketAddress :=
  match (words line).map String.ofList with
  | keyword :: address :: _ =>
    if keyword = "nameserver" then (readNameserver address).toOption else none
  | _ => none

/-- The nameservers in the system's resolver file. -/
def nameserversOfFile (content : String) : List SocketAddress :=
  (split (· == '\n') content.toList).filterMap nameserverOfLine?

/-- The public nameservers that serve where the system has none. -/
def publicNameservers : List SocketAddress :=
  [{ ip := .v4 ⟨[1, 1, 1, 1]⟩, port := dnsPort }, { ip := .v4 ⟨[8, 8, 8, 8]⟩, port := dnsPort }]

/-- The nameservers of a system whose resolver file, if it can be read, has the given content. -/
def systemNameservers (content : Option String) : List SocketAddress :=
  match nameserversOfFile (content.getD "") with
  | [] => publicNameservers
  | servers => servers

/-- The nameservers that the native backend asks. -/
def nameserversIn (s : Settings) (system : List SocketAddress) : List SocketAddress :=
  s.nameservers.getD system

end SenderPolicy.Settings
