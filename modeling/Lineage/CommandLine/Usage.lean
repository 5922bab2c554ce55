import Lineage.CommandLine.Arguments

/-!
# The usage of the command line

The texts that are shown where the arguments lead to no command.
-/

namespace Lineage.CommandLine

/-- The lines that explain the usage. -/
def usageLines : List String := [
  "Usage: scaffold [OPTIONS] <COMMAND>",
  "",
  "Commands:",
  "  introspect <TEMPLATE>                 Show variables, blocks, metadata and warnings",
  "  validate <TEMPLATE> [--content FILE]  Evaluate the rules of a template",
  "  chain <TEMPLATE>                      Print the inheritance chain",
  "  list [--check]                        List the available templates",
  "",
  "Options:",
  "  -v, --verbose              Enable debug logging",
  "  -q, --quiet                Only log errors",
  "  -c, --config <PATH>        Path to scaffold.toml",
  "      --templates-dir <DIR>  Directory containing templates",
  "      --format <FORMAT>      Output format: text or json",
  "  -h, --help                 Print help",
  "  -V, --version              Print version"]

/-- The text that explains the usage. -/
def usage : String :=
  String.join (usageLines.map (· ++ "\n"))

/-- The text that names the program and its version. -/
def versionLine : String :=
  "scaffold 0.1.0\n"

/-- What is wrong with the arguments. -/
def Refusal.reason? : Refusal → Option String
  | .help | .version | .nothingGiven => none
  | .missingSubcommand => some "a command is required"
  | .unknownSubcommand => some "there is no such command"
  | .unknownArgument => some "an argument is not known"
  | .missingArgument => some "a template is required"
  | .invalidValue => some "the value of an option is missing or not allowed"
  | .unwantedValue => some "an option takes no value"
  | .conflict => some "an option is given twice or excludes another one"

/-- The text that is shown for a refusal. -/
def Refusal.message (refusal : Refusal) : String :=
  match refusal.reason? with
  | some reason => "error: " ++ reason ++ "\n\n" ++ usage
  | none => if refusal == .version then versionLine else usage

end Lineage.CommandLine
