import SiteConfig.Block
import SiteConfig.Body
import SiteConfig.Indexed

/-!
# From a block to a body

- `Block.expand`: the body that a block asks for. It fails only on a network that cannot be sent
  and on a text that names no value of a service enumeration.
- `Block.expandFirst`: the body for a list of blocks. Without a block, only the two lists are sent,
  empty, and the service decides everything else.
-/

namespace SiteConfig

namespace Block

/-- The value of a service enumeration that a setting names; unset is the zero value. -/
def expandEnum {E : Type} [Vocabulary E] (spec : FieldSpec) (setting : Setting String) :
    Except Fault (Reported E) :=
  match setting.value? with
  | none => .ok .zero
  | some s =>
    match Vocabulary.parse? s with
    | some e => .ok (.known e)
    | none => .error (.field spec.name (.unrecognised s))

/-- The path to an access rule. -/
def rulePath (i : Nat) : String :=
  Schema.ipRestrictions.name ++ "." ++ String.ofList (Text.decimal i)

/-- An access rule as the service takes it: one network, and a blank mask. -/
def expandRule (i : Nat) (rule : Restriction) : Except Fault Rule :=
  match rule.cidr with
  | .ok cidr => .ok ⟨some cidr, some ""⟩
  | .error fault => .error (.within (rulePath i) fault)

/-- The body that a block asks for. -/
def expand (block : Block) : Except Fault Body := do
  -- The rules come first, so that a fault in one of them counts before the enumerations.
  let rules ← Indexed.traverse expandRule block.ipRestriction
  let managedPipelineMode ← expandEnum Schema.managedPipelineMode block.managedPipelineMode
  let scmType ← expandEnum Schema.scmType block.scmType
  let ftpsState ← expandEnum Schema.ftpsState block.ftpsState
  let minTlsVersion ← expandEnum Schema.minTlsVersion block.minTlsVersion
  return {
    alwaysOn := block.alwaysOn.value?
    defaultDocuments := some block.defaultDocuments
    netFrameworkVersion := block.dotnetFrameworkVersion.value?
    javaVersion := block.javaVersion.value?
    javaContainer := block.javaContainer.value?
    javaContainerVersion := block.javaContainerVersion.value?
    linuxFxVersion := block.linuxFxVersion.value?
    http20Enabled := block.http2Enabled.value?
    ipSecurityRestrictions := some rules
    localMySqlEnabled := block.localMysqlEnabled.value?
    managedPipelineMode
    phpVersion := block.phpVersion.value?
    pythonVersion := block.pythonVersion.value?
    remoteDebuggingEnabled := block.remoteDebuggingEnabled.value?
    remoteDebuggingVersion := block.remoteDebuggingVersion.value?
    use32BitWorkerProcess := block.use32BitWorkerProcess.value?
    webSocketsEnabled := block.websocketsEnabled.value?
    scmType
    ftpsState
    minTlsVersion
    vnetName := block.virtualNetworkName.value? }

/-- The body of a request that leaves everything to the service. -/
def serviceDefaults : Body :=
  { defaultDocuments := some [], ipSecurityRestrictions := some [] }

/-- The body for the first of a list of blocks. -/
def expandFirst (blocks : List Block) : Except Fault Body :=
  match blocks with
  | [] => .ok serviceDefaults
  | block :: _ => block.expand

end Block

end SiteConfig
