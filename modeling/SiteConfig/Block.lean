import SiteConfig.Network.Cidr
import SiteConfig.Schema
import SiteConfig.Setting

/-!
# The configuration as a user writes it

- `Restriction`: an access rule: an address, with a mask or a prefix.
- `Block`: the `site_config` block.
- `Block.document`: the block as a document value. Settings that are unset are left out, the two
  lists are always there.
-/

namespace SiteConfig

/-- An access rule. -/
structure Restriction where
  ipAddress : String := ""
  subnetMask : Setting String := .unset
  deriving DecidableEq, Repr, Inhabited

namespace Restriction

/-- The mask as a text, empty when it is unset. -/
def maskText (rule : Restriction) : String :=
  rule.subnetMask.value?.getD ""

/-- The mask that counts: a mask that only the schema filled in does not override a prefix that is
written behind the address. -/
def effectiveMask (rule : Restriction) : String :=
  match rule.subnetMask with
  | .filled _ => if '/' ∈ rule.ipAddress.toList then "" else rule.maskText
  | _ => rule.maskText

/-- The rule's network in CIDR notation. -/
def cidr (rule : Restriction) : Except Fault String :=
  Cidr.encode rule.ipAddress rule.effectiveMask

/-- The rule as a document value. -/
def document (rule : Restriction) : Value :=
  .object ((Schema.ipAddress.name, .text rule.ipAddress) ::
    match rule.subnetMask.value? with
    | some m => [(Schema.subnetMask.name, .text m)]
    | none => [])

end Restriction

/-- The `site_config` block. Every scalar is a setting, so that a default, an authored value and
a value left to the service stay apart. -/
structure Block where
  alwaysOn : Setting Bool := .unset
  defaultDocuments : List String := []
  dotnetFrameworkVersion : Setting String := .unset
  http2Enabled : Setting Bool := .unset
  ipRestriction : List Restriction := []
  javaVersion : Setting String := .unset
  javaContainer : Setting String := .unset
  javaContainerVersion : Setting String := .unset
  localMysqlEnabled : Setting Bool := .unset
  managedPipelineMode : Setting String := .unset
  phpVersion : Setting String := .unset
  pythonVersion : Setting String := .unset
  remoteDebuggingEnabled : Setting Bool := .unset
  remoteDebuggingVersion : Setting String := .unset
  scmType : Setting String := .unset
  use32BitWorkerProcess : Setting Bool := .unset
  websocketsEnabled : Setting Bool := .unset
  ftpsState : Setting String := .unset
  linuxFxVersion : Setting String := .unset
  minTlsVersion : Setting String := .unset
  virtualNetworkName : Setting String := .unset
  deriving DecidableEq, Repr, Inhabited

namespace Block

/-- The field of a truth value, if it is set. -/
def flagField (spec : FieldSpec) (setting : Setting Bool) : Fields :=
  match setting.value? with
  | some b => [(spec.name, .bool b)]
  | none => []

/-- The field of a text, if it is set. -/
def textField (spec : FieldSpec) (setting : Setting String) : Fields :=
  match setting.value? with
  | some s => [(spec.name, .text s)]
  | none => []

/-- The fields of the block's document, in the order of the schema. -/
def fields (block : Block) : Fields :=
  flagField Schema.alwaysOn block.alwaysOn
    ++ [(Schema.defaultDocuments.name, .list (block.defaultDocuments.map .text))]
    ++ textField Schema.dotnetFrameworkVersion block.dotnetFrameworkVersion
    ++ flagField Schema.http2Enabled block.http2Enabled
    ++ [(Schema.ipRestrictions.name, .list (block.ipRestriction.map Restriction.document))]
    ++ textField Schema.javaVersion block.javaVersion
    ++ textField Schema.javaContainer block.javaContainer
    ++ textField Schema.javaContainerVersion block.javaContainerVersion
    ++ flagField Schema.localMysqlEnabled block.localMysqlEnabled
    ++ textField Schema.managedPipelineMode block.managedPipelineMode
    ++ textField Schema.phpVersion block.phpVersion
    ++ textField Schema.pythonVersion block.pythonVersion
    ++ flagField Schema.remoteDebuggingEnabled block.remoteDebuggingEnabled
    ++ textField Schema.remoteDebuggingVersion block.remoteDebuggingVersion
    ++ textField Schema.scmType block.scmType
    ++ flagField Schema.use32BitWorkerProcess block.use32BitWorkerProcess
    ++ flagField Schema.websocketsEnabled block.websocketsEnabled
    ++ textField Schema.ftpsState block.ftpsState
    ++ textField Schema.linuxFxVersion block.linuxFxVersion
    ++ textField Schema.minTlsVersion block.minTlsVersion
    ++ textField Schema.virtualNetworkName block.virtualNetworkName

/-- The block as a document value. -/
def document (block : Block) : Value :=
  .object block.fields

/-- A list of blocks as a document value. -/
def documents (blocks : List Block) : Value :=
  .list (blocks.map document)

end Block

end SiteConfig
