import SiteConfig.Fault
import SiteConfig.Text.Caseless

/-!
# The fields that a configuration can have

- `FieldSpec`: what is declared of a field: its type, its default, its closed set of values and
  how case counts in it.
- `Schema.siteConfig`: the fields of the `site_config` block, in the order in which they are read.
- `Schema.ipRestriction`: the fields of an entry of its `ip_restriction` list.
- `FieldSpec.accepts`, `FieldSpec.equivalent`: which texts a field takes, and which two of them
  count as no change.
-/

namespace SiteConfig

/-- The value that an omitted field gets. -/
inductive Preset
  | bool (b : Bool)
  | text (s : String)
  deriving DecidableEq, Repr, Inhabited

/-- A default as a text. -/
def Preset.shown : Preset → String
  | .bool true => "true"
  | .bool false => "false"
  | .text s => s

/-- What is declared of one field. -/
structure FieldSpec where
  name : String
  kind : Kind
  /-- Leaving the field out is a fault. -/
  required : Bool := false
  /-- The service fills the value in when the user leaves it out. -/
  computed : Bool := false
  /-- The value of an omitted field. -/
  preset : Option Preset := none
  /-- The closed set of values; none at all means that every text will do. -/
  allowed : List String := []
  /-- Membership in the closed set ignores the case of ASCII letters. -/
  ignoresCase : Bool := false
  /-- Values that differ only in the case of ASCII letters count as unchanged. -/
  suppressesCase : Bool := false
  /-- The empty text counts as leaving the field out. -/
  blankIsUnset : Bool := false
  deriving DecidableEq, Repr, Inhabited

namespace FieldSpec

/-- The text that an omitted field gets. -/
def presetText? (spec : FieldSpec) : Option String :=
  match spec.preset with
  | some (.text s) => some s
  | _ => none

/-- The truth value that an omitted field gets. -/
def presetBool? (spec : FieldSpec) : Option Bool :=
  match spec.preset with
  | some (.bool b) => some b
  | _ => none

/-- Whether a text is in the closed set of values, if there is one. -/
def accepts (spec : FieldSpec) (value : String) : Bool :=
  spec.allowed.isEmpty || spec.allowed.any fun member =>
    if spec.ignoresCase then Text.sameUpToCase member value else member == value

/-- Whether an old and a new text are the same configuration. -/
def equivalent (spec : FieldSpec) (old new : String) : Bool :=
  if spec.suppressesCase then Text.sameUpToCase old new else old == new

end FieldSpec

namespace Schema

/-- The mask of an entry that leaves its mask out: a single host. -/
def hostMask : String := "255.255.255.255"

def ipAddress : FieldSpec := { name := "ip_address", kind := .string, required := true }

def subnetMask : FieldSpec :=
  { name := "subnet_mask", kind := .string, preset := some (.text hostMask) }

/-- The fields of an entry of the list `ip_restriction`. -/
def ipRestriction : List FieldSpec :=
  [ipAddress, subnetMask]

def alwaysOn : FieldSpec := { name := "always_on", kind := .bool, preset := some (.bool false) }

def defaultDocuments : FieldSpec := { name := "default_documents", kind := .strings }

def dotnetFrameworkVersion : FieldSpec :=
  { name := "dotnet_framework_version", kind := .string, preset := some (.text "v4.0"),
    allowed := ["v2.0", "v4.0"], ignoresCase := true, suppressesCase := true }

def http2Enabled : FieldSpec :=
  { name := "http2_enabled", kind := .bool, preset := some (.bool false) }

def ipRestrictions : FieldSpec := { name := "ip_restriction", kind := .blocks, computed := true }

def javaVersion : FieldSpec :=
  { name := "java_version", kind := .string, allowed := ["1.7", "1.8"] }

def javaContainer : FieldSpec :=
  { name := "java_container", kind := .string, allowed := ["JETTY", "TOMCAT"],
    ignoresCase := true, suppressesCase := true }

def javaContainerVersion : FieldSpec := { name := "java_container_version", kind := .string }

def localMysqlEnabled : FieldSpec :=
  { name := "local_mysql_enabled", kind := .bool, computed := true }

def managedPipelineMode : FieldSpec :=
  { name := "managed_pipeline_mode", kind := .string, computed := true,
    allowed := ["Classic", "Integrated"], ignoresCase := true, suppressesCase := true,
    blankIsUnset := true }

def phpVersion : FieldSpec :=
  { name := "php_version", kind := .string, allowed := ["5.5", "5.6", "7.0", "7.1"] }

def pythonVersion : FieldSpec :=
  { name := "python_version", kind := .string, allowed := ["2.7", "3.4"] }

def remoteDebuggingEnabled : FieldSpec :=
  { name := "remote_debugging_enabled", kind := .bool, preset := some (.bool false) }

def remoteDebuggingVersion : FieldSpec :=
  { name := "remote_debugging_version", kind := .string, computed := true,
    allowed := ["VS2012", "VS2013", "VS2015", "VS2017"], ignoresCase := true,
    suppressesCase := true }

def scmType : FieldSpec :=
  { name := "scm_type", kind := .string, preset := some (.text "None"),
    allowed := ["None", "LocalGit"], suppressesCase := true, blankIsUnset := true }

def use32BitWorkerProcess : FieldSpec :=
  { name := "use_32_bit_worker_process", kind := .bool, computed := true }

def websocketsEnabled : FieldSpec :=
  { name := "websockets_enabled", kind := .bool, computed := true }

def ftpsState : FieldSpec :=
  { name := "ftps_state", kind := .string, computed := true,
    allowed := ["AllAllowed", "Disabled", "FtpsOnly"], suppressesCase := true,
    blankIsUnset := true }

def linuxFxVersion : FieldSpec :=
  { name := "linux_fx_version", kind := .string, computed := true }

def minTlsVersion : FieldSpec :=
  { name := "min_tls_version", kind := .string, computed := true,
    allowed := ["1.0", "1.1", "1.2"], blankIsUnset := true }

def virtualNetworkName : FieldSpec := { name := "virtual_network_name", kind := .string }

/-- The fields of the `site_config` block. -/
def siteConfig : List FieldSpec :=
  [alwaysOn, defaultDocuments, dotnetFrameworkVersion, http2Enabled, ipRestrictions, javaVersion,
    javaContainer, javaContainerVersion, localMysqlEnabled, managedPipelineMode, phpVersion,
    pythonVersion, remoteDebuggingEnabled, remoteDebuggingVersion, scmType, use32BitWorkerProcess,
    websocketsEnabled, ftpsState, linuxFxVersion, minTlsVersion, virtualNetworkName]

/-- A field of a table, by name. -/
def find? (specs : List FieldSpec) (name : String) : Option FieldSpec :=
  specs.find? fun spec => spec.name == name

/-- The fields of the entries of a field, if it is a list of blocks. -/
def entries? (spec : FieldSpec) : Option (List FieldSpec) :=
  if spec.kind = .blocks then some ipRestriction else none

end Schema

end SiteConfig
