import SiteConfig.CommandLine.Help
import SiteConfig.CommandLine.Run

/-!
# The program

Reads the arguments, the environment and at most two files, leaves all decisions to
`Invocation.ofArguments` and `Invocation.outcome`, and prints what they answer.
-/

namespace SiteConfig.Program

open CommandLine

/-- Why a file could not be read. -/
def troubleOf : IO.Error → ReadTrouble
  | .noFileOrDirectory _ _ _ => .missing
  | .permissionDenied _ _ _ => .denied
  | .inappropriateType _ _ _ => .directory
  | _ => .other

/-- The text of a file, or of the standard input. -/
def readFile (path : String) : IO (Except ReadTrouble String) := do
  try
    let bytes ←
      if path = Format.standardInput then (← IO.getStdin).readBinToEnd
      else IO.FS.readBinFile path
    match String.fromUTF8? bytes with
    | some s => return .ok s
    | none => return .error .notText
  catch e => return .error (troubleOf e)

/-- The text of the file of preferences, if there is one. One that cannot be read counts as one that
is no TOML. -/
def preferencesOf : Except ReadTrouble String → Option String
  | .ok s => some s
  | .error .missing | .error .directory | .error .notDirectory => none
  | .error _ => some "\x00"

/-- The environment variables of the process. -/
def environment : IO (List (String × String)) := do
  match ← readFile "/proc/self/environ" with
  | .ok s =>
    return (Path.split '\x00' s.toList).filterMap fun entry =>
      match entry.dropWhile (· ≠ '=') with
      | _ :: value => some (String.ofList (entry.takeWhile (· ≠ '=')), String.ofList value)
      | [] => none
  | .error _ => return []

/-- Runs the program and gives its exit code. -/
def run (args : List String) : IO UInt32 := do
  let environment ← environment
  match Invocation.ofArguments (environment.lookup outputVariable) args with
  | .error misuse =>
    if misuse.exitCode = 0 then IO.println misuse.message else IO.eprintln misuse.message
    return misuse.exitCode.toUInt32
  | .ok invocation =>
    let home := (environment.lookup "HOME").getD "."
    let preferences ← readFile (Preferences.path home (environment.lookup "XDG_CONFIG_HOME"))
    let text ←
      match invocation.file? with
      | some path => readFile path
      | none => pure (.error .missing)
    let around : Surroundings :=
      { file := fun _ => text, preferences := preferencesOf preferences, environment }
    if let some warning := invocation.warning? around then IO.eprintln warning
    let outcome := invocation.outcome around
    IO.print outcome.output
    if let some failure := outcome.failure? then
      if let some code := failure.code? then IO.eprintln code
      IO.eprintln failure.message
      if let some help := failure.help? then IO.eprintln help
    return outcome.exitCode.toUInt32

end SiteConfig.Program

/-- The program. -/
def main (args : List String) : IO UInt32 :=
  SiteConfig.Program.run args
