/-!
# Help, version and usage texts

The program `cfgsel` has two subcommands, `select` and `validate`, and a `help` subcommand.
Each has a short help (`-h`) and a long help (`--help`, `help NAME`); the long help of a
subcommand gives its description and every option on lines of their own. The top level has
nothing more to say in its long help, so there both are the same.

A usage line is either the full one (`cfgsel select [OPTIONS] <FILE>`) or, in some errors,
one that lists the options that were given, then the required arguments.
-/

namespace Isel.Cli

/-- The two commands that do work. -/
inductive Subcommand where
  | select
  | validate
deriving Repr, DecidableEq, Inhabited

def Subcommand.name : Subcommand → String
  | .select => "select"
  | .validate => "validate"

def versionText : String := "cfgsel 0.1.0\n"

def Subcommand.versionText (s : Subcommand) : String := "cfgsel-" ++ s.name ++ " 0.1.0\n"

def topUsage : String := "cfgsel [OPTIONS] <COMMAND>"

def Subcommand.usage (s : Subcommand) : String := "cfgsel " ++ s.name ++ " [OPTIONS] <FILE>"

def helpUsage : String := "cfgsel help [COMMAND]..."

def topHelp : String :=
  "Lower typed HIR modules to a control-flow graph\n\n" ++
  "Usage: cfgsel [OPTIONS] <COMMAND>\n\n" ++
  "Commands:\n" ++
  "  select    Lower a module and print the resulting CFG\n" ++
  "  validate  Lower a module and check the CFG for well-formedness\n" ++
  "  help      Print this message or the help of the given subcommand(s)\n\n" ++
  "Options:\n" ++
  "  -v, --verbose...  Increase verbosity (can be repeated: -v, -vv, -vvv)\n" ++
  "  -q, --quiet       Suppress non-error output\n" ++
  "  -h, --help        Print help\n" ++
  "  -V, --version     Print version\n"

def helpHelp : String :=
  "Print this message or the help of the given subcommand(s)\n\n" ++
  "Usage: cfgsel help [COMMAND]...\n\n" ++
  "Arguments:\n" ++
  "  [COMMAND]...  Print help for the subcommand(s)\n"

def Subcommand.shortHelp : Subcommand → String
  | .select =>
    "Lower a module and print the resulting CFG\n\n" ++
    "Usage: cfgsel select [OPTIONS] <FILE>\n\n" ++
    "Arguments:\n" ++
    "  <FILE>  HIR module to process (JSON)\n\n" ++
    "Options:\n" ++
    "      --config <PATH>  Configuration file (cfgsel.toml)\n" ++
    "      --emit <EMIT>    Output format [default: text] [possible values: text, json]\n" ++
    "  -v, --verbose...     Increase verbosity (can be repeated: -v, -vv, -vvv)\n" ++
    "  -q, --quiet          Suppress non-error output\n" ++
    "  -h, --help           Print help (see more with '--help')\n" ++
    "  -V, --version        Print version\n"
  | .validate =>
    "Lower a module and check the CFG for well-formedness\n\n" ++
    "Usage: cfgsel validate [OPTIONS] <FILE>\n\n" ++
    "Arguments:\n" ++
    "  <FILE>  HIR module to process (JSON)\n\n" ++
    "Options:\n" ++
    "      --config <PATH>  Configuration file (cfgsel.toml)\n" ++
    "  -v, --verbose...     Increase verbosity (can be repeated: -v, -vv, -vvv)\n" ++
    "  -q, --quiet          Suppress non-error output\n" ++
    "  -h, --help           Print help (see more with '--help')\n" ++
    "  -V, --version        Print version\n"

def commonLongOptions : String :=
  "      --config <PATH>\n" ++
  "          Configuration file (cfgsel.toml)\n\n"

def globalLongOptions : String :=
  "  -v, --verbose...\n" ++
  "          Increase verbosity (can be repeated: -v, -vv, -vvv)\n\n" ++
  "  -q, --quiet\n" ++
  "          Suppress non-error output\n\n" ++
  "  -h, --help\n" ++
  "          Print help (see a summary with '-h')\n\n" ++
  "  -V, --version\n" ++
  "          Print version\n"

def Subcommand.longHelp : Subcommand → String
  | .select =>
    "Lower a module and print the resulting CFG\n\n" ++
    "Reads a JSON-serialized HIR module, runs instruction selection, validates the result " ++
    "(unless disabled in the config) and prints it.\n\n" ++
    "Usage: cfgsel select [OPTIONS] <FILE>\n\n" ++
    "Arguments:\n" ++
    "  <FILE>\n" ++
    "          HIR module to process (JSON)\n\n" ++
    "Options:\n" ++ commonLongOptions ++
    "      --emit <EMIT>\n" ++
    "          Output format\n\n" ++
    "          Possible values:\n" ++
    "          - text: Human-readable listing\n" ++
    "          - json: Pretty-printed JSON\n" ++
    "          \n" ++
    "          [default: text]\n\n" ++ globalLongOptions
  | .validate =>
    "Lower a module and check the CFG for well-formedness\n\n" ++
    "Exits with status 1 if selection fails or validation finds errors.\n\n" ++
    "Usage: cfgsel validate [OPTIONS] <FILE>\n\n" ++
    "Arguments:\n" ++
    "  <FILE>\n" ++
    "          HIR module to process (JSON)\n\n" ++
    "Options:\n" ++ commonLongOptions ++ globalLongOptions

end Isel.Cli
