/-
Running the program: from a command line to what is printed and the exit status.

The exit status tells what became of a check.  It is 0 if the policy is fine, 1 if there is an error
anywhere in the report, and 2 if there is no report; a command line or settings that are wrong end
with 2 as well.
-/
import SenderPolicy.CommandLine.Help
import SenderPolicy.CommandLine.Invocation
import SenderPolicy.Report.Outline
import SenderPolicy.Service
import SenderPolicy.Settings.Environment
import SenderPolicy.Settings.Resolvers

namespace SenderPolicy.CommandLine

/-- What a run of the program leaves. -/
structure Outcome where
  exitStatus : Nat
  /-- What is printed. -/
  output : String := ""
  /-- Why there is nothing to print. -/
  complaint : Option String := none
  /-- What is logged. -/
  log : List String := []
  deriving DecidableEq, Repr

/-- The exit status after an answer with the given HTTP status. -/
def exitStatus (status : Nat) (e : Envelope) : Nat :=
  if Web.Status.isSuccess status then
    if e.result.any Report.hasErrorsInTree then 1 else 0
  else 2

/-- What is printed of an answer. -/
def present (json : Bool) (status : Nat) (e : Envelope) : Outcome :=
  let exitStatus := exitStatus status e
  if json then { exitStatus, output := e.toJson.indented ++ "\n" }
  else match e.result, e.error with
    | some r, _ => { exitStatus, output := r.outline }
    | none, some message => { exitStatus, complaint := some ("error: " ++ message) }
    | none, none => { exitStatus }

/-- The service that settings describe. -/
def serviceOf (n : Network) (s : Settings) : Service where
  resolvers := s.resolvers n
  requestTimeoutMs := s.requestTimeoutMs
  wording := n.wording

/-- Checks a domain. -/
def check (n : Network) (s : Settings) (domain : String) (resolver : Option String)
    (json : Bool) : Outcome :=
  let request : CheckRequest := { domain := some domain, resolver }
  let ((status, envelope), _) := (serviceOf n s).check n.task request {}
  present json status envelope

/-- The settings of an invocation, given how its settings file reads. -/
def Invocation.settings (i : Invocation) (env : Environment)
    (readFile : String → Except FileFault (List UInt8)) : Except SettingsError Settings :=
  match i.config with
  | some path => Settings.ofFile path (readFile path) env
  | none => Settings.ofEnvironment env

/-- The outcome of an invocation whose settings are known.  The HTTP interface is served by what
surrounds the program, so nothing is left to print. -/
def Invocation.run (i : Invocation) (n : Network) (s : Settings) : Outcome :=
  match i.command with
  | .check domain resolver json => check n s domain resolver json
  | .serve _ => { exitStatus := 0 }

/-- Runs the program. -/
def run (env : Environment) (readFile : String → Except FileFault (List UInt8)) (n : Network)
    (args : List String) : Outcome :=
  match Invocation.read args with
  | .error .usage => { exitStatus := 2 }
  | .error (.help topic) => { exitStatus := 0, output := helpText topic }
  | .error .version => { exitStatus := 0, output := versionText }
  | .ok invocation =>
    match invocation.settings env readFile with
    | .error e => { exitStatus := 2, log := ["Invalid configuration: " ++ e.message] }
    | .ok s => invocation.run n s

end SenderPolicy.CommandLine
