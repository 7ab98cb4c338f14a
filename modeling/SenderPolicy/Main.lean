/-
The command line program.

It reads the environment, the settings file and the file with the system's nameservers, and leaves
everything else to the library.  It opens no sockets: seen from it, no nameserver and no web server
can be reached.  Its backends never break down and it takes no bodies, so nothing has to be said of
either.
-/
import SenderPolicy.CommandLine.Run

namespace SenderPolicy.CommandLine

/-- Reads a file. -/
def readBytes (path : String) : IO (Except FileFault (List UInt8)) := do
  try
    return .ok (← IO.FS.readBinFile path).toList
  catch
    | .noFileOrDirectory .. => return .error .missing
    | e => return .error (.other e.toString)

/-- Reads the environment variables that hold settings. -/
def readEnvironment : IO Environment := do
  let values ← Settings.variableNames.mapM fun name => do return (name, ← IO.getEnv name)
  return fun name => (values.lookup name).join

/-- Reads the nameservers of the system. -/
def readNameservers : IO (List Net.SocketAddress) := do
  let content ← readBytes "/etc/resolv.conf"
  return Settings.systemNameservers (content.toOption.bind Text.Utf8.decode?)

/-- Reads the settings file that a command line names. -/
def readSettingsFile (args : List String) : IO (Except FileFault (List UInt8)) :=
  match (Invocation.read args).toOption.bind Invocation.config with
  | none => return .error .missing
  | some path => readBytes path

end SenderPolicy.CommandLine

open SenderPolicy SenderPolicy.CommandLine

def main (args : List String) : IO UInt32 := do
  let network : Network := {
    nameservers := ← readNameservers
    receive := fun _ _ _ => .failure .unreachable
    delayMs := fun _ _ _ => 0
    send := fun _ _ => .none
    sendMs := fun _ _ => 0
    identifiers := fun _ => 0
    task := 0
    wording := { brokenTask := fun _ _ => "", notRequest := fun _ => "" } }
  let content ← readSettingsFile args
  let outcome := run (← readEnvironment) (fun _ => content) network args
  IO.print outcome.output
  (outcome.complaint.toList ++ outcome.log).forM IO.eprintln
  return UInt32.ofNat outcome.exitStatus
