import SiteConfig.Body
import SiteConfig.Number.Shortest
import SiteConfig.Text.Quoted

/-!
# Bodies from documents

A body is read key by key, in the order of its document, and the first value of the wrong type
counts. Keys that the service added later are skipped, `null` is the same as an absent key. A body
can also be a list of its values in the order of `Body.keys`, and an access rule likewise.

- `Misfit`: what can be wrong with the types of a payload, with its wording.
- `Body.read`: an optional body; `null` is none.
-/

namespace SiteConfig

/-- What a place of a payload expects. -/
inductive Expected
  | bool
  | text
  | list
  | body
  | rule
  deriving DecidableEq, Repr, Inhabited

/-- The expectation in words. -/
def Expected.name : Expected → String
  | .bool => "a boolean"
  | .text => "a string"
  | .list => "a sequence"
  | .body => "struct SiteConfig"
  | .rule => "struct IpSecurityRestriction"

/-- What is wrong with the types of a payload. -/
inductive Misfit
  /-- A value has another type than its place expects. -/
  | type (found : Value) (expected : Expected)
  /-- A list in the place of a body or a rule has too many values. -/
  | length (count : Nat)
  deriving DecidableEq, Repr

namespace Misfit

/-- A value in words. -/
def describe : Value → String
  | .null => "null"
  | .bool true => "boolean `true`"
  | .bool false => "boolean `false`"
  | .int n => "integer `" ++ toString n ++ "`"
  | .float x => "floating point `" ++ x.text ++ "`"
  | .text s => "string " ++ Text.quote s
  | .list _ => "sequence"
  | .object _ => "map"

/-- The wording. -/
def message : Misfit → String
  | .type found expected => "invalid type: " ++ describe found ++ ", expected " ++ expected.name
  | .length count =>
    "invalid length " ++ toString count ++ ", expected fewer elements in array"

end Misfit

namespace Body

/-- An optional truth value. -/
def readFlag : Value → Except Misfit (Option Bool)
  | .null => .ok none
  | .bool b => .ok (some b)
  | v => .error (.type v .bool)

/-- A text. -/
def readListedText : Value → Except Misfit String
  | .text s => .ok s
  | v => .error (.type v .text)

/-- An optional text. -/
def readText : Value → Except Misfit (Option String)
  | .null => .ok none
  | v => (readListedText v).map some

/-- A list, each item read in order. -/
def readList {α : Type} (read : Value → Except Misfit α) : List Value → Except Misfit (List α)
  | [] => .ok []
  | v :: rest => do
    let a ← read v
    let more ← readList read rest
    return a :: more

/-- An optional list. -/
def readListOption {α : Type} (read : Value → Except Misfit α) :
    Value → Except Misfit (Option (List α))
  | .null => .ok none
  | .list vs => (readList read vs).map some
  | v => .error (.type v .list)

/-- Takes the fields of a record one after the other. -/
def readFields {α : Type} (step : α → String → Value → Except Misfit α) :
    α → Fields → Except Misfit α
  | a, [] => .ok a
  | a, (key, v) :: rest => do
    let a ← step a key v
    readFields step a rest

/-- Takes a record from an object, or from a list of its values in the order of its keys. -/
def readRecord {α : Type} (expected : Expected) (keys : List String) (start : α)
    (step : α → String → Value → Except Misfit α) : Value → Except Misfit α
  | .object fields => readFields step start fields
  | .list vs => do
    let a ← readFields step start (keys.zip vs)
    if keys.length < vs.length then .error (.length vs.length) else .ok a
  | v => .error (.type v expected)

/-- Takes one field of an access rule. -/
def readRuleField (rule : Rule) (key : String) (v : Value) : Except Misfit Rule :=
  if key = "ipAddress" then (readText v).map fun x => { rule with ipAddress := x }
  else if key = "subnetMask" then (readText v).map fun x => { rule with subnetMask := x }
  else .ok rule

/-- An access rule. -/
def readRule (v : Value) : Except Misfit Rule :=
  readRecord .rule ["ipAddress", "subnetMask"] {} readRuleField v

/-- Takes one field of a body. -/
def readField (body : Body) (key : String) (v : Value) : Except Misfit Body :=
  match key with
  | "alwaysOn" => (readFlag v).map fun x => { body with alwaysOn := x }
  | "defaultDocuments" =>
    (readListOption readListedText v).map fun x => { body with defaultDocuments := x }
  | "netFrameworkVersion" => (readText v).map fun x => { body with netFrameworkVersion := x }
  | "javaVersion" => (readText v).map fun x => { body with javaVersion := x }
  | "javaContainer" => (readText v).map fun x => { body with javaContainer := x }
  | "javaContainerVersion" => (readText v).map fun x => { body with javaContainerVersion := x }
  | "linuxFxVersion" => (readText v).map fun x => { body with linuxFxVersion := x }
  | "http20Enabled" => (readFlag v).map fun x => { body with http20Enabled := x }
  | "ipSecurityRestrictions" =>
    (readListOption readRule v).map fun x => { body with ipSecurityRestrictions := x }
  | "localMySqlEnabled" => (readFlag v).map fun x => { body with localMySqlEnabled := x }
  | "managedPipelineMode" =>
    (readText v).map fun x => { body with managedPipelineMode := .readOption x }
  | "phpVersion" => (readText v).map fun x => { body with phpVersion := x }
  | "pythonVersion" => (readText v).map fun x => { body with pythonVersion := x }
  | "remoteDebuggingEnabled" =>
    (readFlag v).map fun x => { body with remoteDebuggingEnabled := x }
  | "remoteDebuggingVersion" =>
    (readText v).map fun x => { body with remoteDebuggingVersion := x }
  | "use32BitWorkerProcess" => (readFlag v).map fun x => { body with use32BitWorkerProcess := x }
  | "webSocketsEnabled" => (readFlag v).map fun x => { body with webSocketsEnabled := x }
  | "scmType" => (readText v).map fun x => { body with scmType := .readOption x }
  | "ftpsState" => (readText v).map fun x => { body with ftpsState := .readOption x }
  | "minTlsVersion" => (readText v).map fun x => { body with minTlsVersion := .readOption x }
  | "vnetName" => (readText v).map fun x => { body with vnetName := x }
  | _ => .ok body

/-- A body that is there. -/
def readOne (v : Value) : Except Misfit Body :=
  readRecord .body keys {} readField v

/-- An optional body. -/
def read (v : Value) : Except Misfit (Option Body) :=
  match v with
  | .null => .ok none
  | v => (readOne v).map some

end Body

end SiteConfig
