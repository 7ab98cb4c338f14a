/-
The texts that tell how to use the program.
-/
import SenderPolicy.CommandLine.Invocation

namespace SenderPolicy.CommandLine

/-- The version of the program as one line of text. -/
def versionText : String := "spf-validator 0.1.0\n"

/-- A line on a switch: its names, filled up to the given width, and what it does. -/
def helpLine (width : Nat) (names about : String) : String :=
  "  " ++ names ++ "".pushn ' ' (width - names.length) ++ "  " ++ about ++ "\n"

/-- The lines on some switches, of which the names are aligned. -/
def helpLines (entries : List (String × String)) : String :=
  let width := (entries.map fun e => e.1.length).foldl max 0
  String.join (entries.map fun e => helpLine width e.1 e.2)

/-- The line on the switch for more logging. -/
def verboseHelp : String × String :=
  ("-v, --verbose", "Log at debug level regardless of RUST_LOG")

/-- The line on the switch for the settings file. -/
def configHelp : String × String :=
  ("-c, --config <CONFIG>", "TOML configuration file; environment variables still override it")

/-- The line on the switch for help. -/
def helpHelp : String × String := ("-h, --help", "Print help")

/-- What the command for help does. -/
def helpAbout : String := "Print this message or the help of the given subcommand(s)"

/-- How to use the program or one of its commands. -/
def helpText : Topic → String
  | .program =>
    "Validate SPF records and their include/redirect chains\n\n" ++
    "Usage: spf-validator [OPTIONS] <COMMAND>\n\n" ++
    "Commands:\n" ++
    helpLines [("check", "Validate one domain and print the report"),
      ("serve", "Run the HTTP API"),
      ("help", helpAbout)] ++
    "\nOptions:\n" ++
    helpLines [verboseHelp, configHelp, helpHelp, ("-V, --version", "Print version")]
  | .check =>
    "Validate one domain and print the report\n\n" ++
    "Usage: spf-validator check [OPTIONS] <DOMAIN>\n\n" ++
    "Arguments:\n" ++
    helpLines [("<DOMAIN>", "")] ++
    "\nOptions:\n" ++
    helpLines [("-r, --resolver <RESOLVER>", "Primary resolver: native, google or cloudflare"),
      verboseHelp, configHelp, ("    --json", "Print the JSON envelope instead of the tree"),
      helpHelp]
  | .serve =>
    "Run the HTTP API\n\n" ++
    "Usage: spf-validator serve [OPTIONS]\n\n" ++
    "Options:\n" ++
    helpLines [("-b, --bind <BIND>", "Listen address, overrides the configured one"),
      verboseHelp, configHelp, helpHelp]
  | .help =>
    helpAbout ++ "\n\n" ++
    "Usage: spf-validator help [COMMAND]...\n\n" ++
    "Arguments:\n" ++
    helpLines [("[COMMAND]...", "Print help for the subcommand(s)")]

end SenderPolicy.CommandLine
