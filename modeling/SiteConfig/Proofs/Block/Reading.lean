import SiteConfig.Block.Decode
import SiteConfig.Proofs.Steps

/-!
# What reading a block establishes

Reading is a chain of checks; a block that comes out of it satisfies all of them. This file turns
the chain into two views that later proofs use in its place.

- `Block.ReadFrom form block`: each field of the block is what its reader takes from the form;
  `Block.decodeOne_eq_ok_iff` says that reading succeeds exactly then.
- `Block.Valid block`: the block on its own, without the document: every setting is one that its
  field can hold, and every access rule can be sent. `Block.valid_of_decodeOne` is the step from
  the first view to the second.
-/

namespace SiteConfig

/-! ## One field -/

/-- The fields that hold values of the enumerations of the service. -/
def Schema.enumerations : List FieldSpec :=
  [managedPipelineMode, scmType, ftpsState, minTlsVersion]

/-- The enumerations are the fields where a blank text counts as leaving the field out. -/
theorem Schema.mem_enumerations_iff :
    ∀ spec ∈ siteConfig, spec ∈ enumerations ↔ spec.blankIsUnset = true := by
  decide +kernel

namespace FieldSpec

/-- What reading a field of texts can give: unset and filled in as the schema says, and any text
that the closed set has, short of a blank one that counts as left out. -/
def HoldsText (spec : FieldSpec) : Setting String → Prop
  | .unset => spec.presetText? = none
  | .filled s => spec.presetText? = some s
  | .given s => spec.accepts s = true ∧ ¬ (s = "" ∧ spec.blankIsUnset = true)

instance decidableHoldsText (spec : FieldSpec) :
    (setting : Setting String) → Decidable (spec.HoldsText setting)
  | .unset => inferInstanceAs (Decidable (spec.presetText? = none))
  | .filled s => inferInstanceAs (Decidable (spec.presetText? = some s))
  | .given s =>
    inferInstanceAs (Decidable (spec.accepts s = true ∧ ¬ (s = "" ∧ spec.blankIsUnset = true)))

/-- What reading a field of truth values can give. -/
def HoldsFlag (spec : FieldSpec) : Setting Bool → Prop
  | .unset => spec.presetBool? = none
  | .filled b => spec.presetBool? = some b
  | .given _ => True

theorem holdsText_resolve_none (spec : FieldSpec) :
    spec.HoldsText (.resolve none spec.presetText?) := by
  cases h : spec.presetText? with
  | none => exact h
  | some s => exact h

theorem holdsFlag_resolve (spec : FieldSpec) (supplied : Option Bool) :
    spec.HoldsFlag (.resolve supplied spec.presetBool?) := by
  cases supplied with
  | some b => trivial
  | none =>
    cases h : spec.presetBool? with
    | none => exact h
    | some b => exact h

/-- A field is unset for want of a default. -/
theorem HoldsText.presetText?_eq_none {spec : FieldSpec} {setting : Setting String}
    (h : spec.HoldsText setting) (hnone : setting.value? = none) : spec.presetText? = none := by
  cases setting with
  | unset => exact h
  | filled t => cases hnone
  | given t => cases hnone

/-- A field with a default always has a value. -/
theorem HoldsText.isSome {spec : FieldSpec} {setting : Setting String} {s : String}
    (h : spec.HoldsText setting) (hpreset : spec.presetText? = some s) :
    ∃ t, setting.value? = some t := by
  cases hvalue : setting.value? with
  | none =>
    rw [h.presetText?_eq_none hvalue] at hpreset
    cases hpreset
  | some t => exact ⟨t, rfl⟩

theorem HoldsFlag.isSome {spec : FieldSpec} {setting : Setting Bool} {b : Bool}
    (h : spec.HoldsFlag setting) (hpreset : spec.presetBool? = some b) :
    ∃ t, setting.value? = some t := by
  cases setting with
  | unset =>
    rw [HoldsFlag, hpreset] at h
    cases h
  | filled t => exact ⟨t, rfl⟩
  | given t => exact ⟨t, rfl⟩

end FieldSpec

namespace Form

variable {form : Form} {spec : FieldSpec}

/-- A form is an object whose keys are all declared. -/
theorem ofValue_eq_ok_iff {specs : List FieldSpec} {path : String} {v : Value} :
    ofValue specs path v = .ok form ↔
      ∃ fields, v = .object fields ∧ undeclared? specs fields = none ∧ form = ⟨path, fields⟩ := by
  cases v with
  | object fields =>
    simp only [ofValue]
    cases hkey : undeclared? specs fields with
    | none => simp [hkey, eq_comm]
    | some key => simp [hkey]
  | _ => simp [ofValue]

/-- What is supplied is what stands under the field's name, unless that is `null`. -/
theorem supplied_of_get? {v : Value} (h : form.fields.get? spec.name = some v)
    (hnull : v ≠ .null) : form.supplied spec = .ok (some v) := by
  unfold supplied
  rw [h]
  cases v with
  | null => exact absurd rfl hnull
  | _ => rfl

theorem supplied_of_left_out
    (h : form.fields.get? spec.name = none ∨ form.fields.get? spec.name = some .null) :
    form.supplied spec =
      if spec.required then .error (.field (form.pathOf spec.name) .missing) else .ok none := by
  unfold supplied
  rcases h with h | h
  · rw [h]
  · rw [h]

/-- A field is left out, or something is supplied for it. -/
theorem left_out_or_supplied (form : Form) (spec : FieldSpec) :
    (form.fields.get? spec.name = none ∨ form.fields.get? spec.name = some .null) ∨
      ∃ v, form.fields.get? spec.name = some v ∧ v ≠ .null ∧
        form.supplied spec = .ok (some v) := by
  cases hget : form.fields.get? spec.name with
  | none => exact .inl (.inl rfl)
  | some v =>
    by_cases hnull : v = .null
    · exact .inl (.inr (hnull ▸ rfl))
    · exact .inr ⟨v, rfl, hnull, supplied_of_get? hget hnull⟩

theorem holdsText_of_text {setting : Setting String} (h : form.text spec = .ok setting) :
    spec.HoldsText setting := by
  unfold text at h
  split at h
  · cases h
  · cases h
    exact spec.holdsText_resolve_none
  · next s _ =>
    by_cases hblank : s = "" ∧ spec.blankIsUnset = true
    · rw [if_pos hblank] at h
      cases h
      exact spec.holdsText_resolve_none
    · rw [if_neg hblank] at h
      split at h
      · next hacc =>
        cases h
        exact ⟨hacc, hblank⟩
      · cases h
  · cases h

theorem holdsFlag_of_flag {setting : Setting Bool} (h : form.flag spec = .ok setting) :
    spec.HoldsFlag setting := by
  unfold flag at h
  split at h
  · cases h
  · cases h
    exact spec.holdsFlag_resolve none
  · cases h
    exact spec.holdsFlag_resolve _
  · cases h

/-- The items that a form lists under a field: none if the field is left out. -/
def listed (form : Form) (spec : FieldSpec) : List Value :=
  match form.fields.get? spec.name with
  | some (.list vs) => vs
  | _ => []

/-- A field that is a list and can be read is left out, or its items are read. -/
theorem items_eq_ok {α : Type} {read : String → Value → Except Fault α} {items : List α}
    (h : form.items spec read = .ok items) :
    ((form.fields.get? spec.name = none ∨ form.fields.get? spec.name = some .null) ∧ items = []) ∨
      ∃ vs, form.fields.get? spec.name = some (.list vs) ∧
        Indexed.traverse (fun i v => read (form.itemPath spec i) v) vs = .ok items := by
  unfold Form.items at h
  rcases form.left_out_or_supplied spec with hout | ⟨v, hget, -, hsupplied⟩
  · rw [supplied_of_left_out hout] at h
    by_cases hreq : spec.required = true
    · rw [if_pos hreq] at h
      cases h
    · rw [if_neg hreq] at h
      cases h
      exact .inl ⟨hout, rfl⟩
  · rw [hsupplied] at h
    cases v with
    | list vs => exact .inr ⟨vs, hget, h⟩
    | _ => cases h

/-- Reading a field that is a list reads what the form lists under it. -/
theorem traverse_listed {α : Type} {read : String → Value → Except Fault α} {items : List α}
    (h : form.items spec read = .ok items) :
    Indexed.traverse (fun i v => read (form.itemPath spec i) v) (form.listed spec) = .ok items := by
  unfold listed
  rcases items_eq_ok h with ⟨hnone | hnull, rfl⟩ | ⟨vs, hget, hread⟩
  · rw [hnone]
    rfl
  · rw [hnull]
    rfl
  · rw [hget]
    exact hread

end Form

/-! ## Access rules -/

namespace Restriction

/-- An access rule as reading leaves it: its mask is one that the field can hold, and its network
can be sent. -/
structure Valid (rule : Restriction) : Prop where
  subnetMask : Schema.subnetMask.HoldsText rule.subnetMask
  cidr : ∃ c, rule.cidr = .ok c

theorem decode_eq_ok_iff {path : String} {v : Value} {rule : Restriction} :
    decode path v = .ok rule ↔
      ∃ form, Form.ofValue Schema.ipRestriction path v = .ok form ∧
        form.requiredText Schema.ipAddress = .ok rule.ipAddress ∧
        form.text Schema.subnetMask = .ok rule.subnetMask ∧ ∃ c, rule.cidr = .ok c := by
  unfold decode
  simp only [Steps.bind_eq_ok]
  constructor
  · rintro ⟨form, hform, address, haddress, mask, hmask, h⟩
    refine ⟨form, hform, ?_⟩
    cases hcidr : Restriction.cidr ⟨address, mask⟩ with
    | error fault =>
      rw [hcidr] at h
      cases h
    | ok c =>
      rw [hcidr] at h
      cases h
      exact ⟨haddress, hmask, c, hcidr⟩
  · rintro ⟨form, hform, haddress, hmask, c, hcidr⟩
    refine ⟨form, hform, rule.ipAddress, haddress, rule.subnetMask, hmask, ?_⟩
    have h : Restriction.cidr ⟨rule.ipAddress, rule.subnetMask⟩ = .ok c := hcidr
    rw [h]
    rfl

theorem valid_of_decode {path : String} {v : Value} {rule : Restriction}
    (h : decode path v = .ok rule) : rule.Valid := by
  obtain ⟨form, -, -, hmask, hcidr⟩ := decode_eq_ok_iff.mp h
  exact ⟨Form.holdsText_of_text hmask, hcidr⟩

end Restriction

/-! ## Blocks -/

namespace Block

/-- Each field of the block is what its reader takes from the form. -/
structure ReadFrom (form : Form) (block : Block) : Prop where
  alwaysOn : form.flag Schema.alwaysOn = .ok block.alwaysOn
  defaultDocuments :
    form.items Schema.defaultDocuments Form.listedText = .ok block.defaultDocuments
  dotnetFrameworkVersion :
    form.text Schema.dotnetFrameworkVersion = .ok block.dotnetFrameworkVersion
  http2Enabled : form.flag Schema.http2Enabled = .ok block.http2Enabled
  ipRestriction : form.items Schema.ipRestrictions Restriction.decode = .ok block.ipRestriction
  javaVersion : form.text Schema.javaVersion = .ok block.javaVersion
  javaContainer : form.text Schema.javaContainer = .ok block.javaContainer
  javaContainerVersion : form.text Schema.javaContainerVersion = .ok block.javaContainerVersion
  localMysqlEnabled : form.flag Schema.localMysqlEnabled = .ok block.localMysqlEnabled
  managedPipelineMode : form.text Schema.managedPipelineMode = .ok block.managedPipelineMode
  phpVersion : form.text Schema.phpVersion = .ok block.phpVersion
  pythonVersion : form.text Schema.pythonVersion = .ok block.pythonVersion
  remoteDebuggingEnabled :
    form.flag Schema.remoteDebuggingEnabled = .ok block.remoteDebuggingEnabled
  remoteDebuggingVersion :
    form.text Schema.remoteDebuggingVersion = .ok block.remoteDebuggingVersion
  scmType : form.text Schema.scmType = .ok block.scmType
  use32BitWorkerProcess :
    form.flag Schema.use32BitWorkerProcess = .ok block.use32BitWorkerProcess
  websocketsEnabled : form.flag Schema.websocketsEnabled = .ok block.websocketsEnabled
  ftpsState : form.text Schema.ftpsState = .ok block.ftpsState
  linuxFxVersion : form.text Schema.linuxFxVersion = .ok block.linuxFxVersion
  minTlsVersion : form.text Schema.minTlsVersion = .ok block.minTlsVersion
  virtualNetworkName : form.text Schema.virtualNetworkName = .ok block.virtualNetworkName

/-- **Reading a block succeeds exactly with what its fields' readers take.** -/
theorem decodeOne_eq_ok_iff {v : Value} {block : Block} :
    decodeOne v = .ok block ↔
      ∃ fields, v = .object fields ∧ Form.undeclared? Schema.siteConfig fields = none ∧
        ReadFrom ⟨rootPath, fields⟩ block := by
  unfold decodeOne
  simp only [Steps.bind_eq_ok, Steps.pure_eq_ok, Form.ofValue_eq_ok_iff]
  constructor
  · rintro ⟨_, ⟨fields, hv, hdeclared, rfl⟩, _, h₁, _, h₂, _, h₃, _, h₄, _, h₅, _, h₆, _, h₇, _,
      h₈, _, h₉, _, h₁₀, _, h₁₁, _, h₁₂, _, h₁₃, _, h₁₄, _, h₁₅, _, h₁₆, _, h₁₇, _, h₁₈, _, h₁₉, _,
      h₂₀, _, h₂₁, rfl⟩
    exact ⟨fields, hv, hdeclared, h₁, h₂, h₃, h₄, h₅, h₆, h₇, h₈, h₉, h₁₀, h₁₁, h₁₂, h₁₃, h₁₄, h₁₅,
      h₁₆, h₁₇, h₁₈, h₁₉, h₂₀, h₂₁⟩
  · rintro ⟨fields, hv, hdeclared, h⟩
    exact ⟨_, ⟨fields, hv, hdeclared, rfl⟩, _, h.alwaysOn, _, h.defaultDocuments, _,
      h.dotnetFrameworkVersion, _, h.http2Enabled, _, h.ipRestriction, _, h.javaVersion, _,
      h.javaContainer, _, h.javaContainerVersion, _, h.localMysqlEnabled, _, h.managedPipelineMode,
      _, h.phpVersion, _, h.pythonVersion, _, h.remoteDebuggingEnabled, _,
      h.remoteDebuggingVersion, _, h.scmType, _, h.use32BitWorkerProcess, _, h.websocketsEnabled,
      _, h.ftpsState, _, h.linuxFxVersion, _, h.minTlsVersion, _, h.virtualNetworkName, rfl⟩

/-- A fault in the access rules is the block's fault if the fields in front of them can be read. -/
theorem decodeOne_eq_error {v : Value} {form : Form} {fault : Fault} {on http2 : Setting Bool}
    {names : List String} {version : Setting String}
    (hform : Form.ofValue Schema.siteConfig rootPath v = .ok form)
    (hon : form.flag Schema.alwaysOn = .ok on)
    (hnames : form.items Schema.defaultDocuments Form.listedText = .ok names)
    (hversion : form.text Schema.dotnetFrameworkVersion = .ok version)
    (hhttp2 : form.flag Schema.http2Enabled = .ok http2)
    (hrules : form.items Schema.ipRestrictions Restriction.decode = .error fault) :
    decodeOne v = .error fault := by
  unfold decodeOne
  simp only [bind, Except.bind, hform, hon, hnames, hversion, hhttp2, hrules]

/-- A block as reading leaves it: its settings are ones that their fields can hold, and its access
rules can be sent. -/
structure Valid (block : Block) : Prop where
  alwaysOn : Schema.alwaysOn.HoldsFlag block.alwaysOn
  dotnetFrameworkVersion : Schema.dotnetFrameworkVersion.HoldsText block.dotnetFrameworkVersion
  http2Enabled : Schema.http2Enabled.HoldsFlag block.http2Enabled
  ipRestriction : ∀ rule ∈ block.ipRestriction, rule.Valid
  javaVersion : Schema.javaVersion.HoldsText block.javaVersion
  javaContainer : Schema.javaContainer.HoldsText block.javaContainer
  javaContainerVersion : Schema.javaContainerVersion.HoldsText block.javaContainerVersion
  localMysqlEnabled : Schema.localMysqlEnabled.HoldsFlag block.localMysqlEnabled
  managedPipelineMode : Schema.managedPipelineMode.HoldsText block.managedPipelineMode
  phpVersion : Schema.phpVersion.HoldsText block.phpVersion
  pythonVersion : Schema.pythonVersion.HoldsText block.pythonVersion
  remoteDebuggingEnabled : Schema.remoteDebuggingEnabled.HoldsFlag block.remoteDebuggingEnabled
  remoteDebuggingVersion : Schema.remoteDebuggingVersion.HoldsText block.remoteDebuggingVersion
  scmType : Schema.scmType.HoldsText block.scmType
  use32BitWorkerProcess : Schema.use32BitWorkerProcess.HoldsFlag block.use32BitWorkerProcess
  websocketsEnabled : Schema.websocketsEnabled.HoldsFlag block.websocketsEnabled
  ftpsState : Schema.ftpsState.HoldsText block.ftpsState
  linuxFxVersion : Schema.linuxFxVersion.HoldsText block.linuxFxVersion
  minTlsVersion : Schema.minTlsVersion.HoldsText block.minTlsVersion
  virtualNetworkName : Schema.virtualNetworkName.HoldsText block.virtualNetworkName

theorem ReadFrom.valid {form : Form} {block : Block} (h : ReadFrom form block) : block.Valid where
  alwaysOn := Form.holdsFlag_of_flag h.alwaysOn
  dotnetFrameworkVersion := Form.holdsText_of_text h.dotnetFrameworkVersion
  http2Enabled := Form.holdsFlag_of_flag h.http2Enabled
  ipRestriction := by
    intro rule hrule
    obtain ⟨i, v, -, hv⟩ :=
      Indexed.exists_of_mem_traverse (Form.traverse_listed h.ipRestriction) hrule
    exact Restriction.valid_of_decode hv
  javaVersion := Form.holdsText_of_text h.javaVersion
  javaContainer := Form.holdsText_of_text h.javaContainer
  javaContainerVersion := Form.holdsText_of_text h.javaContainerVersion
  localMysqlEnabled := Form.holdsFlag_of_flag h.localMysqlEnabled
  managedPipelineMode := Form.holdsText_of_text h.managedPipelineMode
  phpVersion := Form.holdsText_of_text h.phpVersion
  pythonVersion := Form.holdsText_of_text h.pythonVersion
  remoteDebuggingEnabled := Form.holdsFlag_of_flag h.remoteDebuggingEnabled
  remoteDebuggingVersion := Form.holdsText_of_text h.remoteDebuggingVersion
  scmType := Form.holdsText_of_text h.scmType
  use32BitWorkerProcess := Form.holdsFlag_of_flag h.use32BitWorkerProcess
  websocketsEnabled := Form.holdsFlag_of_flag h.websocketsEnabled
  ftpsState := Form.holdsText_of_text h.ftpsState
  linuxFxVersion := Form.holdsText_of_text h.linuxFxVersion
  minTlsVersion := Form.holdsText_of_text h.minTlsVersion
  virtualNetworkName := Form.holdsText_of_text h.virtualNetworkName

theorem valid_of_decodeOne {v : Value} {block : Block} (h : decodeOne v = .ok block) :
    block.Valid := by
  obtain ⟨fields, -, -, hread⟩ := decodeOne_eq_ok_iff.mp h
  exact hread.valid

/-- A `site_config` value that is accepted has no block, or one, on its own or in a list. -/
theorem decode_cases {v : Value} {blocks : List Block} (h : decode v = .ok blocks) :
    blocks = [] ∨ ∃ block one, blocks = [block] ∧ decodeOne one = .ok block ∧
      (v = one ∨ v = .list [one]) := by
  unfold decode at h
  split at h
  · cases h
    exact .inl rfl
  · cases h
    exact .inl rfl
  · next one =>
    obtain ⟨block, hone, rfl⟩ := Steps.map_eq_ok.mp h
    exact .inr ⟨block, one, rfl, hone, .inr rfl⟩
  · cases h
  · next fields =>
    obtain ⟨block, hone, rfl⟩ := Steps.map_eq_ok.mp h
    exact .inr ⟨block, _, rfl, hone, .inl rfl⟩
  · cases h

/-! ## A document -/

/-- A document with an entry for each way to write a network: with a mask, with a prefix behind the
address, and on its own. -/
def sampleDocument : Value :=
  .object [
    (Schema.ipRestrictions.name, .list [
      .object [(Schema.ipAddress.name, .text " 10.1.0.0 "),
        (Schema.subnetMask.name, .text "255.255.0.0")],
      .object [(Schema.ipAddress.name, .text "192.168.0.0/+16")],
      .object [(Schema.ipAddress.name, .text "10.0.0.1"), (Schema.subnetMask.name, .null)]]),
    (Schema.managedPipelineMode.name, .text "INTEGRATED"),
    (Schema.scmType.name, .text "")]

/-- The block of the document. -/
def sampleBlock : Block where
  alwaysOn := .filled false
  dotnetFrameworkVersion := .filled "v4.0"
  http2Enabled := .filled false
  ipRestriction := [⟨" 10.1.0.0 ", .given "255.255.0.0"⟩,
    ⟨"192.168.0.0/+16", .filled Schema.hostMask⟩, ⟨"10.0.0.1", .filled Schema.hostMask⟩]
  managedPipelineMode := .given "INTEGRATED"
  remoteDebuggingEnabled := .filled false
  scmType := .filled "None"

theorem decode_sampleDocument : decode sampleDocument = .ok [sampleBlock] := rfl

end Block

end SiteConfig
