import SiteConfig.Block.Decode

/-!
# Fields looked up by their names

Every field that a block is read from is declared in the table of the schema under its own name. A
reader that only knows the names, and looks each of them up in the table, finds what it needs: the
faults that stand for a name without a declaration never come up.

- `Form.declared`: the field of a table that has a name, or else a fault of its own.
- `Restriction.decodeByName`, `Block.decodeOneByName`, `Block.decodeByName`: the readers that know
  only names.
- `Block.decodeByName_eq`: they read every document as the readers that know the fields.
-/

namespace SiteConfig

/-- The field that a table declares under a name. -/
def Form.declared (form : Form) (specs : List FieldSpec) (name : String) :
    Except Fault FieldSpec :=
  match Schema.find? specs name with
  | some spec => .ok spec
  | none => .error (.field (form.pathOf name) (.stated "field is not declared"))

/-- The fields of the entries of a field that is a list of blocks. -/
def Form.declaredEntries (form : Form) (spec : FieldSpec) : Except Fault (List FieldSpec) :=
  match Schema.entries? spec with
  | some specs => .ok specs
  | none => .error (.field (form.pathOf spec.name) (.stated "field is not a block list"))

/-- Reads an access rule against a table, by names. -/
def Restriction.decodeByName (specs : List FieldSpec) (path : String) (v : Value) :
    Except Fault Restriction := do
  let form ← Form.ofValue specs path v
  let address ← form.requiredText (← form.declared specs "ip_address")
  let mask ← form.text (← form.declared specs "subnet_mask")
  let rule : Restriction := ⟨address, mask⟩
  match rule.cidr with
  | .ok _ => return rule
  | .error fault => throw (.within path fault)

/-- Both names of an access rule are in its table. -/
theorem Restriction.decodeByName_eq :
    Restriction.decodeByName Schema.ipRestriction = Restriction.decode := by
  funext path v
  rfl

namespace Block

/-- Reads a block, by names. -/
def decodeOneByName (v : Value) : Except Fault Block := do
  let specs := Schema.siteConfig
  let form ← Form.ofValue specs rootPath v
  let alwaysOn ← form.flag (← form.declared specs "always_on")
  let defaultDocuments ←
    form.items (← form.declared specs "default_documents") Form.listedText
  let dotnetFrameworkVersion ← form.text (← form.declared specs "dotnet_framework_version")
  let http2Enabled ← form.flag (← form.declared specs "http2_enabled")
  let rules ← form.declared specs "ip_restriction"
  let entries ← form.declaredEntries rules
  let ipRestriction ← form.items rules (Restriction.decodeByName entries)
  let javaVersion ← form.text (← form.declared specs "java_version")
  let javaContainer ← form.text (← form.declared specs "java_container")
  let javaContainerVersion ← form.text (← form.declared specs "java_container_version")
  let localMysqlEnabled ← form.flag (← form.declared specs "local_mysql_enabled")
  let managedPipelineMode ← form.text (← form.declared specs "managed_pipeline_mode")
  let phpVersion ← form.text (← form.declared specs "php_version")
  let pythonVersion ← form.text (← form.declared specs "python_version")
  let remoteDebuggingEnabled ← form.flag (← form.declared specs "remote_debugging_enabled")
  let remoteDebuggingVersion ← form.text (← form.declared specs "remote_debugging_version")
  let scmType ← form.text (← form.declared specs "scm_type")
  let use32BitWorkerProcess ← form.flag (← form.declared specs "use_32_bit_worker_process")
  let websocketsEnabled ← form.flag (← form.declared specs "websockets_enabled")
  let ftpsState ← form.text (← form.declared specs "ftps_state")
  let linuxFxVersion ← form.text (← form.declared specs "linux_fx_version")
  let minTlsVersion ← form.text (← form.declared specs "min_tls_version")
  let virtualNetworkName ← form.text (← form.declared specs "virtual_network_name")
  return {
    alwaysOn, defaultDocuments, dotnetFrameworkVersion, http2Enabled, ipRestriction, javaVersion,
    javaContainer, javaContainerVersion, localMysqlEnabled, managedPipelineMode, phpVersion,
    pythonVersion, remoteDebuggingEnabled, remoteDebuggingVersion, scmType, use32BitWorkerProcess,
    websocketsEnabled, ftpsState, linuxFxVersion, minTlsVersion, virtualNetworkName }

/-- The blocks of a `site_config` value, by names. -/
def decodeByName (v : Value) : Except Fault (List Block) :=
  match v with
  | .null => .ok []
  | .list [] => .ok []
  | .list [v] => (decodeOneByName v).map fun block => [block]
  | .list vs => .error (.field rootPath (.tooMany Schema.maxBlocks vs.length))
  | .object fields => (decodeOneByName (.object fields)).map fun block => [block]
  | v => .error (.field rootPath (.notBlocks v.shape))

theorem decodeOneByName_eq : decodeOneByName = decodeOne := by
  -- Each of the lookups can be evaluated, as the table and the name are both given.
  funext v
  unfold decodeOne
  rw [← Restriction.decodeByName_eq]
  rfl

/-- **No name is looked up in vain**: every document is read by names as it is read by fields. -/
theorem decodeByName_eq : decodeByName = decode := by
  funext v
  unfold decodeByName
  rw [decodeOneByName_eq]
  rfl

end Block

end SiteConfig
