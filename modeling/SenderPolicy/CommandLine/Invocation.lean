/-
What a command line asks the program to do.

There are two commands: one checks a domain, the other serves the HTTP interface.  Arguments are
taken from left to right, and the first one that is wrong, or that asks for help or the version,
ends the reading.  A switch is given at most once in front of the command and once after it; what
comes after the command counts.
-/
import SenderPolicy.CommandLine.Switch
import SenderPolicy.Net.Address

namespace SenderPolicy.CommandLine

/-- A command. -/
inductive Command where
  /-- Checks a domain. -/
  | check (domain : String) (resolver : Option String) (json : Bool)
  /-- Serves the HTTP interface, at an address other than the settings say if one is given. -/
  | serve (bind : Option Net.SocketAddress)
  deriving DecidableEq, Repr

/-- A command and what applies to all commands. -/
structure Invocation where
  verbose : Bool
  config : Option String
  command : Command
  deriving DecidableEq, Repr

/-- What help may be asked for: on the program or on one of its commands. -/
inductive Topic where
  | program
  | check
  | serve
  | help
  deriving DecidableEq, Repr

/-- What help that is asked for in a scope is about. -/
def Scope.topic : Scope → Topic
  | .program => .program
  | .check => .check
  | .serve => .serve

/-- Why a command line asks for no command. -/
inductive Stop where
  /-- It is wrong. -/
  | usage
  /-- It asks for help. -/
  | help (topic : Topic)
  /-- It asks for the version of the program. -/
  | version
  deriving DecidableEq, Repr

/-- What the arguments in a scope have said so far. -/
structure Draft where
  verbose : Bool := false
  config : Option String := none
  resolver : Option String := none
  json : Bool := false
  bind : Option Net.SocketAddress := none
  domain : Option String := none
  deriving DecidableEq, Repr

namespace Draft

/-- Takes a switch into a draft. -/
def put (scope : Scope) (d : Draft) (given : Switch × Option String) : Except Stop Draft :=
  match given with
  | (.help, _) => .error (.help scope.topic)
  | (.version, _) => .error .version
  | (.verbose, _) => if d.verbose then .error .usage else .ok { d with verbose := true }
  | (.json, _) => if d.json then .error .usage else .ok { d with json := true }
  | (.config, value) =>
    if d.config.isSome ∨ value = some "" then .error .usage else .ok { d with config := value }
  | (.resolver, value) =>
    if d.resolver.isSome then .error .usage else .ok { d with resolver := value }
  | (.bind, value) =>
    match d.bind, value.bind Net.SocketAddress.read? with
    | none, some a => .ok { d with bind := some a }
    | _, _ => .error .usage

/-- Takes an operand into a draft. -/
def putOperand (scope : Scope) (d : Draft) (s : String) : Except Stop Draft :=
  match scope, d.domain with
  | .check, none => .ok { d with domain := some s }
  | _, _ => .error .usage

end Draft

/-- Reads arguments into a draft.  In front of the command, reading ends at the first operand, which
is the name of the command; the name is returned with the arguments after it. -/
def scan (scope : Scope) : Draft → List String → Except Stop (Draft × Option (String × List String))
  | d, [] => .ok (d, none)
  | d, arg :: rest =>
    match Argument.read scope arg with
    | .operand s =>
      if scope = .program then .ok (d, some (s, rest))
      else do scan scope (← d.putOperand scope s) rest
    | .separator => do return (← rest.foldlM (Draft.putOperand scope) d, none)
    | .switches given ending => do
      let d ← given.foldlM (Draft.put scope) d
      match ending, rest with
      | .complete, rest => scan scope d rest
      | .awaits s, value :: rest =>
        if Argument.isDashed value then .error .usage
        else scan scope (← d.put scope (s, some value)) rest
      | .awaits _, [] => .error .usage
      | .unknown, _ => .error .usage

namespace Invocation

/-- What the arguments after the help command ask for. -/
def helpTopic : List String → Stop
  | [] => .help .program
  | ["check"] => .help .check
  | ["serve"] => .help .serve
  | ["help"] => .help .help
  | _ => .usage

/-- The command that the arguments after its name make. -/
def readCommand (name : String) (args : List String) : Except Stop (Draft × Command) := do
  if name = "check" then
    let (d, _) ← scan .check {} args
    match d.domain with
    | some domain => return (d, .check domain d.resolver d.json)
    | none => throw .usage
  else if name = "serve" then
    let (d, _) ← scan .serve {} args
    return (d, .serve d.bind)
  else if name = "help" then throw (helpTopic args)
  else throw .usage

/-- Reads a command line. -/
def read (args : List String) : Except Stop Invocation := do
  match ← scan .program {} args with
  | (_, none) => throw .usage
  | (front, some (name, rest)) =>
    let (d, command) ← readCommand name rest
    return { verbose := front.verbose || d.verbose, config := d.config.or front.config, command }

end Invocation

end SenderPolicy.CommandLine
