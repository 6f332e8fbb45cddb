import SiteConfig.Mapping.Expand

/-!
# From a body to a block

- `Body.flatten`: the block that a body amounts to. It fails only on a malformed network.
- `Body.flattenOption`: the blocks of an optional body; an absent body gives none.
-/

namespace SiteConfig

namespace Body

/-- An access rule as a user would write it. A rule without a network keeps only its mask. -/
def flattenRule (i : Nat) (rule : Rule) : Except Fault Restriction :=
  match rule.ipAddress with
  | none => .ok ⟨"", .ofOption (rule.subnetMask.filter (· ≠ ""))⟩
  | some ip =>
    match Cidr.decode ip rule.subnetMask with
    | .ok pair => .ok ⟨pair.address, .ofOption pair.mask⟩
    | .error fault => .error (.within (Block.rulePath i) fault)

/-- The block that a body amounts to. The enumerations are never absent, so their texts are always
given, the zero value as the empty text. -/
def flatten (body : Body) : Except Fault Block := do
  let rules ← Indexed.traverse flattenRule (body.ipSecurityRestrictions.getD [])
  return {
    alwaysOn := .ofOption body.alwaysOn
    defaultDocuments := body.defaultDocuments.getD []
    dotnetFrameworkVersion := .ofOption body.netFrameworkVersion
    http2Enabled := .ofOption body.http20Enabled
    ipRestriction := rules
    javaVersion := .ofOption body.javaVersion
    javaContainer := .ofOption body.javaContainer
    javaContainerVersion := .ofOption body.javaContainerVersion
    localMysqlEnabled := .ofOption body.localMySqlEnabled
    managedPipelineMode := .given body.managedPipelineMode.text
    phpVersion := .ofOption body.phpVersion
    pythonVersion := .ofOption body.pythonVersion
    remoteDebuggingEnabled := .ofOption body.remoteDebuggingEnabled
    remoteDebuggingVersion := .ofOption body.remoteDebuggingVersion
    scmType := .given body.scmType.text
    use32BitWorkerProcess := .ofOption body.use32BitWorkerProcess
    websocketsEnabled := .ofOption body.webSocketsEnabled
    ftpsState := .given body.ftpsState.text
    linuxFxVersion := .ofOption body.linuxFxVersion
    minTlsVersion := .given body.minTlsVersion.text
    virtualNetworkName := .ofOption body.vnetName }

/-- The blocks of an optional body. -/
def flattenOption : Option Body → Except Fault (List Block)
  | none => .ok []
  | some body => (flatten body).map fun block => [block]

end Body

end SiteConfig
