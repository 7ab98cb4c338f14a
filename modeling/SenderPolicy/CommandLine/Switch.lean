/-
The switches of the command line.

A switch has a long name after two dashes, and most have a letter after one dash.  Letters may be
written together.  A switch that takes a value has it after an equals sign, right after its letter,
or as the next argument.  A command knows the switches of the program and its own.
-/
namespace SenderPolicy.CommandLine

/-- A switch. -/
inductive Switch where
  /-- Log more. -/
  | verbose
  /-- The settings file. -/
  | config
  /-- The backend to ask first. -/
  | resolver
  /-- Print JSON. -/
  | json
  /-- The address at which to listen. -/
  | bind
  | help
  | version
  deriving DecidableEq, Repr

namespace Switch

/-- The long name of a switch. -/
def long : Switch → String
  | verbose => "verbose"
  | config => "config"
  | resolver => "resolver"
  | json => "json"
  | bind => "bind"
  | help => "help"
  | version => "version"

/-- The letter of a switch. -/
def letter? : Switch → Option Char
  | verbose => some 'v'
  | config => some 'c'
  | resolver => some 'r'
  | json => none
  | bind => some 'b'
  | help => some 'h'
  | version => some 'V'

/-- Whether a switch takes a value. -/
def takesValue : Switch → Bool
  | config | resolver | bind => true
  | verbose | json | help | version => false

end Switch

/-- Where in the command line a switch stands. -/
inductive Scope where
  /-- In front of the command. -/
  | program
  | check
  | serve
  deriving DecidableEq, Repr

namespace Scope

/-- The switches that are known in a scope. -/
def switches : Scope → List Switch
  | program => [.verbose, .config, .help, .version]
  | check => [.verbose, .config, .resolver, .json, .help]
  | serve => [.verbose, .config, .bind, .help]

/-- The switch with a long name. -/
def ofLong? (scope : Scope) (name : String) : Option Switch :=
  scope.switches.find? fun s => s.long == name

/-- The switch with a letter. -/
def ofLetter? (scope : Scope) (c : Char) : Option Switch :=
  scope.switches.find? fun s => s.letter? == some c

end Scope

/-- How an argument with switches ends. -/
inductive Ending where
  | complete
  /-- The value of a switch is to follow. -/
  | awaits (s : Switch)
  /-- Something is no switch here. -/
  | unknown
  deriving DecidableEq, Repr

/-- What an argument is. -/
inductive Argument where
  | operand (s : String)
  /-- Two dashes: all arguments after it are operands. -/
  | separator
  /-- Switches with their values. -/
  | switches (given : List (Switch × Option String)) (ending : Ending)
  deriving DecidableEq, Repr

namespace Argument

/-- Whether an argument is meant to be anything else than an operand or a value. -/
def isDashed (s : String) : Bool := s.toList.head? == some '-' && s != "-"

/-- Reads letters that are written together. -/
def ofLetters (scope : Scope) : List Char → List (Switch × Option String) × Ending
  | [] => ([], .complete)
  | c :: rest =>
    match scope.ofLetter? c with
    | none => ([], .unknown)
    | some s =>
      if s.takesValue then
        match rest with
        | [] => ([], .awaits s)
        | '=' :: value => ([(s, some (String.ofList value))], .complete)
        | value => ([(s, some (String.ofList value))], .complete)
      else
        let (given, ending) := ofLetters scope rest
        ((s, none) :: given, ending)

/-- Reads what follows two dashes. -/
def ofLong (scope : Scope) (s : List Char) : List (Switch × Option String) × Ending :=
  match scope.ofLong? (String.ofList (s.takeWhile (· != '='))), s.dropWhile (· != '=') with
  | none, _ => ([], .unknown)
  | some s, [] => if s.takesValue then ([], .awaits s) else ([(s, none)], .complete)
  | some s, _ :: value =>
    if s.takesValue then ([(s, some (String.ofList value))], .complete) else ([], .unknown)

/-- Reads an argument. -/
def read (scope : Scope) (s : String) : Argument :=
  match s.toList with
  | ['-', '-'] => separator
  | '-' :: '-' :: rest =>
    let (given, ending) := ofLong scope rest
    switches given ending
  | '-' :: c :: rest =>
    let (given, ending) := ofLetters scope (c :: rest)
    switches given ending
  | _ => operand s

end Argument

end SenderPolicy.CommandLine
