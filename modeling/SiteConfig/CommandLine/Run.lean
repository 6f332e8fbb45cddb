import SiteConfig.Block.Decode
import SiteConfig.CommandLine.Arguments
import SiteConfig.CommandLine.Completion
import SiteConfig.CommandLine.Failure
import SiteConfig.Mapping.Flatten
import SiteConfig.Network.Cidr
import SiteConfig.Preferences
import SiteConfig.Schema.Listing

/-!
# The commands

- `blocksOf`, `bodyOf`: the configuration that a document holds.
- `expanded`, `flattened`: what the two mapping commands make of a document.
- `Invocation.run`: the text that an invocation prints, or why it fails.
- `Invocation.warning?`: what it says of preferences that it passes over.
- `Invocation.outcome`: what the process leaves behind.

Nothing here reads or writes. What surrounds the program is a value, `Surroundings`, in which files
are texts or reasons why they cannot be read.
-/

namespace SiteConfig.CommandLine

/-- What surrounds the program. -/
structure Surroundings where
  /-- The text of a file by its path; the standard input is one of the paths. -/
  file : String → Except ReadTrouble String
  /-- The text of the file of preferences, if there is one. -/
  preferences : Option String
  /-- The environment variables. -/
  environment : List (String × String)

/-- The variable that names a format of output. -/
def outputVariable : String := "APPSVC_OUTPUT"

/-! ## Documents -/

/-- The document in a file. -/
def load (around : Surroundings) (path : String) : Except Failure Value :=
  match Format.ofPath? path with
  | none => .error (.unsupported path (Path.extension path))
  | some format =>
    match around.file path with
    | .error trouble => .error (.unreadable path trouble)
    | .ok text =>
      match format.read text with
      | some v => .ok v
      | none => .error (.malformed path format)

/-- The key of a document that the configuration is under. -/
def configurationKey : String := "site_config"

/-- The key of a resource that its body is under. -/
def bodyKey : String := "properties"

/-- The configuration in a document; an absent key counts as `null`. -/
def configurationOf : Value → Except Failure Value
  | .null => .ok .null
  | .object fields => .ok ((Fields.get? fields configurationKey).getD .null)
  | _ =>
    .error (.refused "document" ("expected a table with a `" ++ configurationKey ++ "` key"))

/-- The blocks in a document. -/
def blocksOf (document : Value) : Except Failure (List Block) := do
  let configuration ← configurationOf document
  match Block.decode configuration with
  | .ok blocks => return blocks
  | .error fault => throw (.ofFault fault)

/-- The body in a document: the properties, if the document is a resource. -/
def payloadOf (document : Value) : Value :=
  match document with
  | .object fields =>
    match Fields.get? fields bodyKey with
    | some (.object properties) => .object properties
    | _ => document
  | _ => document

/-- The body in a document, read; `null` is none. -/
def bodyOf (document : Value) : Except Failure (Option Body) :=
  match Body.read (payloadOf document) with
  | .ok body => .ok body
  | .error misfit => .error (.payload misfit)

/-! ## Commands -/

/-- The body for the blocks of a document. -/
def expanded (document : Value) : Except Failure Value := do
  let blocks ← blocksOf document
  match Block.expandFirst blocks with
  | .ok body => return body.document
  | .error fault => throw (.ofFault fault)

/-- The document for the body in a document. -/
def flattened (document : Value) : Except Failure Value := do
  let body ← bodyOf document
  match Body.flattenOption body with
  | .ok blocks => return .object [(configurationKey, .list (blocks.map Block.document))]
  | .error fault => throw (.ofFault fault)

/-- An address and a mask as the access rule that the service takes. -/
def encoded (address : String) (mask : Option String) : Except Failure Value :=
  match Cidr.encode address (mask.getD "") with
  | .ok cidr => .ok (Rule.document ⟨some cidr, some ""⟩)
  | .error fault => .error (.ofFault fault)

/-- A network as the entry that a user writes. -/
def decoded (cidr : String) (legacyMask : Option String) : Except Failure Value :=
  match Cidr.decode cidr legacyMask with
  | .ok pair => .ok (Restriction.document ⟨pair.address, Setting.ofOption pair.mask⟩)
  | .error fault => .error (.ofFault fault)

/-- The listing of a block. -/
def listed (block : Option String) : Except Failure Schema.Listing :=
  match Schema.Listing.ofBlock? block with
  | some listing => .ok listing
  | none =>
    .error (.refused "--block"
      ("'" ++ block.getD "" ++ "' is not a nested block of " ++ Schema.Listing.rootBlock))

/-! ## Output -/

/-- A value as a text in a format. -/
def rendered (format : Format) (v : Value) : Except Failure String :=
  match format.render v with
  | some text => .ok text
  | none => .error (.unrenderable format)

/-- What is printed of a text: nothing if it is unwanted or empty, else a line break is added. -/
def printed (quiet : Bool) (text : String) : String :=
  if quiet || text.isEmpty then "" else text ++ "\n"

namespace Invocation

/-- The format of the output: the one that is asked for, or else the preferred one. -/
def format (invocation : Invocation) (around : Surroundings) : Format :=
  invocation.output.getD (Preferences.format around.preferences around.environment)

/-- The text that an invocation gives. -/
def text (invocation : Invocation) (around : Surroundings) : Except Failure String := do
  let format := invocation.format around
  match invocation.task with
  | .expand file => rendered format (← expanded (← load around file))
  | .flatten file => rendered format (← flattened (← load around file))
  | .encode address mask => rendered format (← encoded address mask)
  | .decode cidr legacyMask => rendered format (← decoded cidr legacyMask)
  | .schema block =>
    let listing ← listed block
    -- A table unless a format is asked for: preferences do not count here.
    match invocation.output with
    | some format => rendered format listing.document
    | none => return listing.table
  | .completions shell => return shell.script

/-- What an invocation prints. A completion script is printed as it is. -/
def run (invocation : Invocation) (around : Surroundings) : Except Failure String := do
  let text ← invocation.text around
  match invocation.task with
  | .completions _ => return text
  | _ => return printed invocation.quiet text

/-- Whether an invocation looks up the preferred format. A document is mapped before that, while an
address or a network is only read afterwards. -/
def prefers (invocation : Invocation) (around : Surroundings) : Bool :=
  invocation.output.isNone &&
    match invocation.task with
    | .expand file => (load around file >>= expanded).isOk
    | .flatten file => (load around file >>= flattened).isOk
    | .encode _ _ | .decode _ _ => true
    | .schema _ | .completions _ => false

/-- What a user is told whose preferences are looked up and cannot be understood. -/
def warning? (invocation : Invocation) (around : Surroundings) : Option String :=
  if invocation.prefers around then
    match Preferences.load around.preferences around.environment with
    | .ok _ => none
    | .error trouble => some ("WARN ignoring unreadable config error=" ++ trouble.message)
  else none

/-- The file that an invocation reads. -/
def file? (invocation : Invocation) : Option String :=
  match invocation.task with
  | .expand file | .flatten file => some file
  | _ => none

end Invocation

/-! ## Outcomes -/

/-- What a run leaves behind: its exit code, what it prints, and why it failed, if it did. -/
structure Outcome where
  exitCode : Nat
  output : String
  failure? : Option Failure
  deriving DecidableEq, Repr

/-- A run that fails prints nothing. -/
def Outcome.ofRun : Except Failure String → Outcome
  | .ok text => ⟨0, text, none⟩
  | .error failure => ⟨failure.exitCode, "", some failure⟩

/-- What an invocation leaves behind. -/
def Invocation.outcome (invocation : Invocation) (around : Surroundings) : Outcome :=
  .ofRun (invocation.run around)

end SiteConfig.CommandLine
