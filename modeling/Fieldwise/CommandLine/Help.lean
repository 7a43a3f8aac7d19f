import Fieldwise.CommandLine.Argument

/-! # Help

The usage lines and the help texts, laid out for 80 columns. -/

namespace Fieldwise.CommandLine

def textOfLines (lines : List String) : String :=
  String.join (lines.map (· ++ "\n"))

def programHelp : List String := [
  "usage: corresponding [-h] \x7bgenerate,report\x7d ...",
  "",
  "Generate field-synchronization functions.",
  "",
  "positional arguments:",
  "  \x7bgenerate,report\x7d",
  "",
  "options:",
  "  -h, --help         show this help message and exit"]

namespace Command

def usage : Command → List String
  | generate => [
    "usage: generate [-h] [--config CONFIG] [--marker MARKER] [--strict]",
    "                [--verbose] [--out OUT] [--import-from IMPORT_FROM]",
    "                source"]
  | report => [
    "usage: report [-h] [--config CONFIG] [--marker MARKER] [--strict] [--verbose]",
    "              [--n N] [--summary] [--kind KIND]",
    "              source"]

/-- What a command says about itself and its arguments. -/
def description : Command → List String
  | generate => [
    "Render move-corresponding and conversion functions as Python source.",
    "",
    "positional arguments:",
    "  source                Schema source: .py module or .json/.yaml manifest.",
    "",
    "options:",
    "  -h, --help            show this help message and exit",
    "  --config CONFIG       Explicit TOML config path.",
    "  --marker MARKER       Optional wrapper name override.",
    "  --strict              Fail on the first invalid schema.",
    "  --verbose             Enable debug logging.",
    "  --out OUT             Output file (default: stdout).",
    "  --import-from IMPORT_FROM",
    "                        Module to import schema classes from in the rendered",
    "                        code."]
  | report => [
    "Show the correspondence table.",
    "",
    "positional arguments:",
    "  source           Schema source: .py module or .json/.yaml manifest.",
    "",
    "options:",
    "  -h, --help       show this help message and exit",
    "  --config CONFIG  Explicit TOML config path.",
    "  --marker MARKER  Optional wrapper name override.",
    "  --strict         Fail on the first invalid schema.",
    "  --verbose        Enable debug logging.",
    "  --n N            Rows to display.",
    "  --summary        Show per-pair counts only.",
    "  --kind KIND      Only show operations of this kind (move or convert)."]

def help (command : Command) : List String :=
  command.usage ++ [""] ++ command.description

/-- The lines that refuse a command line. -/
def refusal (command : Command) (error : UsageError) : List String :=
  command.usage ++ [command.name ++ ": error: " ++ error.message]

end Command

end Fieldwise.CommandLine
