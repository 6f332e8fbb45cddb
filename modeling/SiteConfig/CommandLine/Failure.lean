import SiteConfig.Body.Read
import SiteConfig.Fault
import SiteConfig.Format

/-!
# Failures of a command

- `Failure`: why a command does not give its output.
- `Failure.ofFault`: a fault in a configuration as a failure, by its cause and its path.
- `Failure.message`, `Failure.help?`, `Failure.code?`: what the user is told.
- `Failure.exitCode`: what the process returns.
-/

namespace SiteConfig.CommandLine

/-- Why a file cannot be read. -/
inductive ReadTrouble
  | missing
  | directory
  /-- A part of the path other than the last is no directory. -/
  | notDirectory
  /-- The bytes are no UTF-8. -/
  | notText
  | denied
  | other
  deriving DecidableEq, Repr, Inhabited

/-- Why a command fails. -/
inductive Failure
  /-- A value is refused. -/
  | refused (field reason : String)
  /-- A text is no address and no network. -/
  | network (literal field : String)
  /-- A mask has a zero in front of a one. -/
  | mask (text field : String)
  /-- The format of a file is not known. -/
  | unsupported (path extension : String)
  /-- A payload has a value of the wrong type. -/
  | payload (misfit : Misfit)
  /-- A file cannot be read. -/
  | unreadable (path : String) (trouble : ReadTrouble)
  /-- A file does not follow its format. -/
  | malformed (path : String) (format : Format)
  /-- The format of the output cannot hold a value. -/
  | unrenderable (format : Format)
  /-- The output cannot be written. -/
  | unwritable
  deriving DecidableEq, Repr

namespace Failure

/-- The place of a fault that is not attributed to any. -/
def somewhere : String := "input"

/-- A fault in a configuration as a failure. -/
def ofFault (fault : Fault) : Failure :=
  let place := fault.path?.getD somewhere
  match fault.root with
  | .network literal => .network literal place
  | .mask text => .mask text place
  | .field _ reason => .refused place reason.message
  | .within _ _ => .refused place fault.message

/-- The name of a format in messages. -/
def formatTitle : Format → String
  | .json => "JSON"
  | .yaml => "YAML"
  | .toml => "TOML"

/-- The wording. -/
def message : Failure → String
  | .refused field reason => "Invalid value for " ++ field ++ ": " ++ reason
  | .network literal _ => "'" ++ literal ++ "' is not a valid IPv4 address or CIDR block"
  | .mask text _ => "'" ++ text ++ "' is not a contiguous subnet mask"
  | .unsupported path extension => "Unsupported document type '" ++ extension ++ "' for " ++ path
  | .payload misfit => "Invalid API payload: " ++ misfit.message
  | .unreadable path _ => "Cannot read " ++ path
  | .malformed path format => "invalid " ++ formatTitle format ++ " in " ++ path
  | .unrenderable format => "Failed to render " ++ format.name ++ " output"
  | .unwritable => "Cannot write the output"

/-- The name under which a kind of failure is documented. -/
def code? : Failure → Option String
  | .refused _ _ => some "appsvc::validation"
  | .network _ _ => some "appsvc::invalid_network"
  | .mask _ _ => some "appsvc::invalid_mask"
  | .unsupported _ _ => some "appsvc::unsupported_format"
  | .payload _ => some "appsvc::payload"
  | .unreadable _ _ => some "appsvc::io"
  | .malformed _ _ => some "appsvc::config"
  | .unrenderable _ => some "appsvc::render"
  | .unwritable => none

/-- What the user can do about it. -/
def help? : Failure → Option String
  | .refused _ _ => some "Run: appsvc schema to see field types and allowed values"
  | .network _ field =>
    some ("Use a dotted-quad IPv4 address such as 10.0.0.0, optionally with a /0-/32 prefix.\n"
      ++ "Field: " ++ field)
  | .mask _ field =>
    some ("Subnet masks must be leading ones followed by zeros, e.g. 255.255.255.0.\n"
      ++ "Field: " ++ field)
  | .unsupported _ _ =>
    some "Use a .json, .yaml, .yml, or .toml file, or - to read JSON from stdin."
  | .payload _ =>
    some "Expected a SiteConfig JSON object, an ARM resource with `properties`, or null."
  | _ => none

/-- The exit code: 2 for what the user asked for, 65 for the data, 74 for input and output, and 1
for the rest. -/
def exitCode : Failure → Nat
  | .refused _ _ | .unsupported _ _ => 2
  | .network _ _ | .mask _ _ | .payload _ | .malformed _ _ => 65
  | .unreadable _ _ | .unwritable => 74
  | .unrenderable _ => 1

end Failure

end SiteConfig.CommandLine
