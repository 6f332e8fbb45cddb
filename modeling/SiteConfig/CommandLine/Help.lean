import SiteConfig.CommandLine.Completion

/-!
# Help

- `usage`: how the program is used.
- `Misuse.message`: why arguments do not make an invocation.
-/

namespace SiteConfig.CommandLine

/-- The version of the program. -/
def releaseName : String := "0.1.0"

/-- How the program is used. -/
def usage : String :=
  "\n".intercalate [
    "Translate App Service site configuration between user and wire form",
    "",
    "Usage: " ++ programName ++ " [OPTIONS] <COMMAND>",
    "",
    "Commands:",
    "  expand <FILE>                 The API request body for a site_config document",
    "  flatten <FILE>                The site_config document for an API body",
    "  schema [--block <BLOCK>]      The fields of site_config",
    "  cidr encode <IP> [MASK]       An address and a mask in CIDR notation",
    "  cidr decode <CIDR>            CIDR notation as address and mask",
    "  completions <SHELL>           A script that completes words in a shell",
    "",
    "Options:",
    "  -o, --output <OUTPUT>         " ++ ", ".intercalate (Format.all.map Format.name),
    "  -v, --verbose                 More messages; can be given more than once",
    "  -q, --quiet                   No output unless something is wrong",
    "  -h, --help                    This help",
    "  -V, --version                 The version"]

/-- The wording. -/
def Misuse.message : Misuse → String
  | .help | .empty => usage
  | .version => programName ++ " " ++ releaseName
  | .missingCommand => "error: a command is missing"
  | .unknownCommand => "error: unknown command"
  | .unknownArgument => "error: unexpected argument"
  | .missingArgument => "error: a required argument is missing"
  | .invalidValue => "error: invalid value"
  | .unwantedValue => "error: a value for an option that has none"
  | .repeated => "error: an option is given more than once"

end SiteConfig.CommandLine
