import SiteConfig.Body.Vocabulary
import SiteConfig.Value

/-!
# The configuration as the service takes it

- `Rule`: an access rule of the service.
- `Body`: the body of a request or a response.
- `Body.document`: the body as a document value. What is absent is left out, and so are the zero
  values of the four enumerations.
-/

namespace SiteConfig

/-- An access rule of the service: a network, or in older records an address and a mask. -/
structure Rule where
  ipAddress : Option String := none
  subnetMask : Option String := none
  deriving DecidableEq, Repr, Inhabited

/-- The body of a request or a response. Absent is not the same as a zero value, save for the
enumerations, which are never absent. -/
structure Body where
  alwaysOn : Option Bool := none
  defaultDocuments : Option (List String) := none
  netFrameworkVersion : Option String := none
  javaVersion : Option String := none
  javaContainer : Option String := none
  javaContainerVersion : Option String := none
  linuxFxVersion : Option String := none
  http20Enabled : Option Bool := none
  ipSecurityRestrictions : Option (List Rule) := none
  localMySqlEnabled : Option Bool := none
  managedPipelineMode : Reported PipelineMode := .zero
  phpVersion : Option String := none
  pythonVersion : Option String := none
  remoteDebuggingEnabled : Option Bool := none
  remoteDebuggingVersion : Option String := none
  use32BitWorkerProcess : Option Bool := none
  webSocketsEnabled : Option Bool := none
  scmType : Reported SourceControl := .zero
  ftpsState : Reported FtpsState := .zero
  minTlsVersion : Reported TlsVersion := .zero
  vnetName : Option String := none
  deriving DecidableEq, Repr, Inhabited

/-- A truth value as a field, if it is there. -/
def Body.flagField (key : String) : Option Bool → Fields
  | some b => [(key, .bool b)]
  | none => []

/-- A text as a field, if it is there. -/
def Body.textField (key : String) : Option String → Fields
  | some s => [(key, .text s)]
  | none => []

/-- An enumeration as a field, unless it has its zero value. -/
def Body.enumField {E : Type} [Vocabulary E] [DecidableEq E] (key : String) (x : Reported E) :
    Fields :=
  if x = .zero then [] else [(key, .text x.text)]

/-- The rule as a document value. -/
def Rule.document (rule : Rule) : Value :=
  .object (Body.textField "ipAddress" rule.ipAddress ++ Body.textField "subnetMask" rule.subnetMask)

namespace Body

/-- The keys of a body, in the order in which it is written. -/
def keys : List String :=
  ["alwaysOn", "defaultDocuments", "netFrameworkVersion", "javaVersion", "javaContainer",
    "javaContainerVersion", "linuxFxVersion", "http20Enabled", "ipSecurityRestrictions",
    "localMySqlEnabled", "managedPipelineMode", "phpVersion", "pythonVersion",
    "remoteDebuggingEnabled", "remoteDebuggingVersion", "use32BitWorkerProcess",
    "webSocketsEnabled", "scmType", "ftpsState", "minTlsVersion", "vnetName"]

/-- The fields of the body's document. -/
def fields (body : Body) : Fields :=
  flagField "alwaysOn" body.alwaysOn
    ++ (match body.defaultDocuments with
      | some ds => [("defaultDocuments", .list (ds.map .text))]
      | none => [])
    ++ textField "netFrameworkVersion" body.netFrameworkVersion
    ++ textField "javaVersion" body.javaVersion
    ++ textField "javaContainer" body.javaContainer
    ++ textField "javaContainerVersion" body.javaContainerVersion
    ++ textField "linuxFxVersion" body.linuxFxVersion
    ++ flagField "http20Enabled" body.http20Enabled
    ++ (match body.ipSecurityRestrictions with
      | some rules => [("ipSecurityRestrictions", .list (rules.map Rule.document))]
      | none => [])
    ++ flagField "localMySqlEnabled" body.localMySqlEnabled
    ++ enumField "managedPipelineMode" body.managedPipelineMode
    ++ textField "phpVersion" body.phpVersion
    ++ textField "pythonVersion" body.pythonVersion
    ++ flagField "remoteDebuggingEnabled" body.remoteDebuggingEnabled
    ++ textField "remoteDebuggingVersion" body.remoteDebuggingVersion
    ++ flagField "use32BitWorkerProcess" body.use32BitWorkerProcess
    ++ flagField "webSocketsEnabled" body.webSocketsEnabled
    ++ enumField "scmType" body.scmType
    ++ enumField "ftpsState" body.ftpsState
    ++ enumField "minTlsVersion" body.minTlsVersion
    ++ textField "vnetName" body.vnetName

/-- The body as a document value. -/
def document (body : Body) : Value :=
  .object body.fields

/-- An optional body as a document value, `null` when it is absent. -/
def documentOption : Option Body → Value
  | some body => body.document
  | none => .null

end Body

end SiteConfig
