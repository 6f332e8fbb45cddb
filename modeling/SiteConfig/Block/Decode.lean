import SiteConfig.Block
import SiteConfig.Indexed

/-!
# Blocks from documents

Reading a document checks it against the schema, once and completely: what comes out can be
expanded. The first fault counts: an undeclared key before all else, then the fields in the order
of the schema.

- `Form`: an object whose keys are all declared, with the path it stands at.
- `Block.decode`: the blocks of a document's `site_config` value.
-/

namespace SiteConfig

/-- How many blocks a site can carry. -/
def Schema.maxBlocks : Nat := 1

/-- An object of a document, and the path to it. -/
structure Form where
  path : String
  fields : Fields

namespace Form

/-- The path to a field. -/
def pathOf (form : Form) (name : String) : String :=
  form.path ++ "." ++ name

/-- The lower of two texts. -/
def lower (a b : String) : String :=
  if b < a then b else a

/-- The first key, in the order of keys, that no field of a table declares. -/
def undeclared? (specs : List FieldSpec) (fields : Fields) : Option String :=
  match fields.keys.filter fun key => !specs.any fun spec => spec.name == key with
  | [] => none
  | key :: rest => some (rest.foldl lower key)

/-- Takes an object whose keys are all in a table. -/
def ofValue (specs : List FieldSpec) (path : String) (v : Value) : Except Fault Form :=
  match v with
  | .object fields =>
    match undeclared? specs fields with
    | some key => .error (.field (path ++ "." ++ key) .unsupported)
    | none => .ok ⟨path, fields⟩
  | v => .error (.field path (.notBlock v.shape))

/-- The value that is supplied for a field; `null` counts as leaving it out. -/
def supplied (form : Form) (spec : FieldSpec) : Except Fault (Option Value) :=
  let v? :=
    match form.fields.get? spec.name with
    | some .null => none
    | found => found
  match v? with
  | some v => .ok (some v)
  | none => if spec.required then .error (.field (form.pathOf spec.name) .missing) else .ok none

/-- A value of the wrong type. -/
def mismatch (form : Form) (spec : FieldSpec) (v : Value) : Fault :=
  .field (form.pathOf spec.name) (.mismatch spec.kind v.shape)

/-- The truth value of a field. -/
def flag (form : Form) (spec : FieldSpec) : Except Fault (Setting Bool) :=
  match form.supplied spec with
  | .error e => .error e
  | .ok none => .ok (.resolve none spec.presetBool?)
  | .ok (some (.bool b)) => .ok (.resolve (some b) spec.presetBool?)
  | .ok (some v) => .error (form.mismatch spec v)

/-- The text of a field. -/
def text (form : Form) (spec : FieldSpec) : Except Fault (Setting String) :=
  match form.supplied spec with
  | .error e => .error e
  | .ok none => .ok (.resolve none spec.presetText?)
  | .ok (some (.text s)) =>
    -- The empty text is not held against the closed set.
    if s = "" ∧ spec.blankIsUnset then .ok (.resolve none spec.presetText?)
    else if spec.accepts s then .ok (.resolve (some s) spec.presetText?)
    else .error (.field (form.pathOf spec.name) (.notAllowed spec.allowed s))
  | .ok (some v) => .error (form.mismatch spec v)

/-- The text of a field that has to be there. -/
def requiredText (form : Form) (spec : FieldSpec) : Except Fault String :=
  match form.text spec with
  | .error e => .error e
  | .ok setting =>
    match setting.value? with
    | some s => .ok s
    | none => .error (.field (form.pathOf spec.name) .missing)

/-- The path to an item of a field that is a list. -/
def itemPath (form : Form) (spec : FieldSpec) (i : Nat) : String :=
  form.pathOf spec.name ++ "." ++ String.ofList (Text.decimal i)

/-- The items of a field that is a list, each read with its path. -/
def items {α : Type} (form : Form) (spec : FieldSpec)
    (read : String → Value → Except Fault α) : Except Fault (List α) :=
  match form.supplied spec with
  | .error e => .error e
  | .ok none => .ok []
  | .ok (some (.list vs)) => Indexed.traverse (fun i v => read (form.itemPath spec i) v) vs
  | .ok (some v) => .error (form.mismatch spec v)

/-- A text in a list of texts. -/
def listedText (path : String) : Value → Except Fault String
  | .text s => .ok s
  | v => .error (.field path (.mismatch .string v.shape))

end Form

/-- Reads an access rule. Its network has to be one that can be sent. -/
def Restriction.decode (path : String) (v : Value) : Except Fault Restriction := do
  let form ← Form.ofValue Schema.ipRestriction path v
  let address ← form.requiredText Schema.ipAddress
  let mask ← form.text Schema.subnetMask
  let rule : Restriction := ⟨address, mask⟩
  -- What could not be sent is refused here, before anything else is done with it.
  match rule.cidr with
  | .ok _ => return rule
  | .error fault => throw (.within path fault)

namespace Block

/-- The path of the block. -/
def rootPath : String := "site_config"

/-- Reads a block. -/
def decodeOne (v : Value) : Except Fault Block := do
  let form ← Form.ofValue Schema.siteConfig rootPath v
  let alwaysOn ← form.flag Schema.alwaysOn
  let defaultDocuments ← form.items Schema.defaultDocuments Form.listedText
  let dotnetFrameworkVersion ← form.text Schema.dotnetFrameworkVersion
  let http2Enabled ← form.flag Schema.http2Enabled
  let ipRestriction ← form.items Schema.ipRestrictions Restriction.decode
  let javaVersion ← form.text Schema.javaVersion
  let javaContainer ← form.text Schema.javaContainer
  let javaContainerVersion ← form.text Schema.javaContainerVersion
  let localMysqlEnabled ← form.flag Schema.localMysqlEnabled
  let managedPipelineMode ← form.text Schema.managedPipelineMode
  let phpVersion ← form.text Schema.phpVersion
  let pythonVersion ← form.text Schema.pythonVersion
  let remoteDebuggingEnabled ← form.flag Schema.remoteDebuggingEnabled
  let remoteDebuggingVersion ← form.text Schema.remoteDebuggingVersion
  let scmType ← form.text Schema.scmType
  let use32BitWorkerProcess ← form.flag Schema.use32BitWorkerProcess
  let websocketsEnabled ← form.flag Schema.websocketsEnabled
  let ftpsState ← form.text Schema.ftpsState
  let linuxFxVersion ← form.text Schema.linuxFxVersion
  let minTlsVersion ← form.text Schema.minTlsVersion
  let virtualNetworkName ← form.text Schema.virtualNetworkName
  return {
    alwaysOn, defaultDocuments, dotnetFrameworkVersion, http2Enabled, ipRestriction, javaVersion,
    javaContainer, javaContainerVersion, localMysqlEnabled, managedPipelineMode, phpVersion,
    pythonVersion, remoteDebuggingEnabled, remoteDebuggingVersion, scmType, use32BitWorkerProcess,
    websocketsEnabled, ftpsState, linuxFxVersion, minTlsVersion, virtualNetworkName }

/-- The blocks of a `site_config` value: none for `null`, one for an object, and for a list its
items, of which there can be one at most. -/
def decode (v : Value) : Except Fault (List Block) :=
  match v with
  | .null => .ok []
  | .list [] => .ok []
  | .list [v] => (decodeOne v).map fun block => [block]
  | .list vs => .error (.field rootPath (.tooMany Schema.maxBlocks vs.length))
  | .object fields => (decodeOne (.object fields)).map fun block => [block]
  | v => .error (.field rootPath (.notBlocks v.shape))

end Block

end SiteConfig
