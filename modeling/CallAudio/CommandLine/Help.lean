import CallAudio.CommandLine.Request

/-! # Help

What is shown to those who ask how to use the tool, a verb, or the word for help itself.
-/

namespace CallAudio.CommandLine

def commandHelp : List String :=
  ["Commands:",
    "  simulate      Run a scripted session against the simulated platform",
    "  check-config  Validate the configuration file",
    "  show-order    Show the effective device priority order",
    "  version       Print the library version",
    "  help          Print this message or the help of the given subcommand(s)"]

/-- The options that are known on both sides of the verb. -/
def optionHelp : List String :=
  ["Options:",
    "  -v, --verbose          Enable verbose logging",
    "  -c, --config <CONFIG>  Configuration file path",
    "      --json-logs        Emit logs as JSON",
    "  -h, --help             Print help"]

/-- What a verb does, and how to write it with what follows it. -/
def Verb.usage : Verb → String × String
  | simulate => ("Run a scripted session against the simulated platform",
      "simulate [OPTIONS] <SCENARIO>")
  | checkSettings => ("Validate the configuration file", "check-config [OPTIONS]")
  | showOrder => ("Show the effective device priority order", "show-order [OPTIONS]")
  | showVersion => ("Print the library version", "version [OPTIONS]")

def Verb.operandHelp : Verb → List String
  | simulate => ["Arguments:", "  <SCENARIO>  Scenario file (TOML)", ""]
  | _ => []

def helpHead (purpose use : String) : List String :=
  [purpose, "", "Usage: audio-route-switch " ++ use, ""]

def Topic.lines : Topic → List String
  | .tool =>
    helpHead "Audio route manager with priority-based device selection" "[OPTIONS] <COMMAND>" ++
      commandHelp ++ [""] ++ optionHelp ++ ["  -V, --version          Print version"]
  | .verb asked => helpHead asked.usage.1 asked.usage.2 ++ asked.operandHelp ++ optionHelp
  | .help =>
    helpHead "Print this message or the help of the given subcommand(s)" "help [COMMAND]..." ++
      ["Arguments:", "  [COMMAND]...  Print help for the subcommand(s)"]

end CallAudio.CommandLine
