import SiteConfig.Proofs.Body.Written
import SiteConfig.Proofs.Block.Written
import SiteConfig.Proofs.Mapping.Expansion

/-!
# The keys of documents and of bodies

A configuration has a key for each of its fields in a document and another one in a body. This file
puts the two side by side, for the fields of one value, and says what stands under each of them in
what is read and in what is written.

- `Scalar.all`: the fields of one value, with both keys and the spelling of their texts.
- `Vocabulary.canonical E s`: the spelling of the enumeration `E` for a text.
- `FieldSpec.supplied?`: what a document supplies for a field.
  `Form.map_value?_of_flag`, `Form.map_value?_of_text`: the value that a field is read with.
- `Body.get?_fields`: what stands under a key of a body that is written, and
  `Body.exists_slot_of_mem_keys`: there are no other keys.
-/

namespace SiteConfig

/-! ## Spellings -/

namespace Vocabulary

/-- The spelling of an enumeration that a text is, up to the case of ASCII letters. A text that is
none of them is left as it is. -/
def canonical (E : Type) [Vocabulary E] (s : String) : String :=
  (((members : List E).map spelling).find? fun t => Text.sameUpToCase t s).getD s

variable {E : Type} [Vocabulary E]

theorem canonical_eq (s : String) :
    canonical E s = ((parse? s : Option E).map spelling).getD s := by
  rw [canonical, List.find?_map]
  rfl

theorem canonical_of_parse? {s : String} {e : E} (h : parse? s = some e) :
    canonical E s = spelling e := by
  rw [canonical_eq, h]
  rfl

end Vocabulary

/-- What is read is written in its canonical spelling. -/
theorem Reported.text_read {E : Type} [Vocabulary E] (s : String) :
    (read s : Reported E).text = Vocabulary.canonical E s := by
  rw [Vocabulary.canonical_eq]
  unfold read
  cases (Vocabulary.parse? s : Option E) with
  | none => rfl
  | some e => rfl

/-! ## Fields of one value -/

/-- A field of one value: what the schema declares of it, its key in a body, and the spelling that
the service has for its texts. -/
structure Scalar where
  spec : FieldSpec
  key : String
  spell : String → String := id

namespace Scalar

/-- All fields of one value. The spelling matters only for the enumerations of the service. -/
def all : List Scalar :=
  [{ spec := Schema.alwaysOn, key := "alwaysOn" },
    { spec := Schema.dotnetFrameworkVersion, key := "netFrameworkVersion" },
    { spec := Schema.http2Enabled, key := "http20Enabled" },
    { spec := Schema.javaVersion, key := "javaVersion" },
    { spec := Schema.javaContainer, key := "javaContainer" },
    { spec := Schema.javaContainerVersion, key := "javaContainerVersion" },
    { spec := Schema.localMysqlEnabled, key := "localMySqlEnabled" },
    { spec := Schema.managedPipelineMode, key := "managedPipelineMode",
      spell := Vocabulary.canonical PipelineMode },
    { spec := Schema.phpVersion, key := "phpVersion" },
    { spec := Schema.pythonVersion, key := "pythonVersion" },
    { spec := Schema.remoteDebuggingEnabled, key := "remoteDebuggingEnabled" },
    { spec := Schema.remoteDebuggingVersion, key := "remoteDebuggingVersion" },
    { spec := Schema.scmType, key := "scmType", spell := Vocabulary.canonical SourceControl },
    { spec := Schema.use32BitWorkerProcess, key := "use32BitWorkerProcess" },
    { spec := Schema.websocketsEnabled, key := "webSocketsEnabled" },
    { spec := Schema.ftpsState, key := "ftpsState", spell := Vocabulary.canonical FtpsState },
    { spec := Schema.linuxFxVersion, key := "linuxFxVersion" },
    { spec := Schema.minTlsVersion, key := "minTlsVersion",
      spell := Vocabulary.canonical TlsVersion },
    { spec := Schema.virtualNetworkName, key := "vnetName" }]

/-- A value of the field in the spelling of the service. -/
def respelled (scalar : Scalar) : Value → Value
  | .text s => .text (scalar.spell s)
  | v => v

/-- Without a spelling of its own, a field keeps its values as they are. -/
theorem map_respelled_id (spec : FieldSpec) (key : String) (v? : Option Value) :
    v?.map (Scalar.mk spec key id).respelled = v? := by
  have hsame : (Scalar.mk spec key id).respelled = id := by
    funext v
    cases v <;> rfl
  rw [hsame, Option.map_id_fun, id]

theorem spec_mem_siteConfig : ∀ scalar ∈ all, scalar.spec ∈ Schema.siteConfig := by
  have hspecs : ∀ spec ∈ all.map Scalar.spec, spec ∈ Schema.siteConfig := by
    decide +kernel
  exact fun scalar hscalar => hspecs _ (List.mem_map_of_mem hscalar)

/-- The two lists and the fields of one value are all fields of the schema. -/
theorem exists_of_mem_siteConfig {spec : FieldSpec} (h : spec ∈ Schema.siteConfig) :
    spec = Schema.defaultDocuments ∨ spec = Schema.ipRestrictions ∨
      ∃ scalar ∈ all, scalar.spec = spec := by
  have hspecs : ∀ spec ∈ Schema.siteConfig, spec = Schema.defaultDocuments ∨
      spec = Schema.ipRestrictions ∨ spec ∈ all.map Scalar.spec := by
    decide +kernel
  rcases hspecs spec h with hnames | hrules | hmem
  · exact .inl hnames
  · exact .inr (.inl hrules)
  · exact .inr (.inr (List.mem_map.mp hmem))

end Scalar

/-! ## What a document supplies -/

/-- A default as a value of a document. -/
def Preset.value : Preset → Value
  | .bool b => .bool b
  | .text s => .text s

/-- The items that an object lists under a key. -/
def Fields.listed (fields : Fields) (key : String) : List Value :=
  match fields.get? key with
  | some (.list vs) => vs
  | _ => []

theorem Value.KeysOnce.of_mem_listed {fields : Fields} (h : (Value.object fields).KeysOnce)
    {key : String} : ∀ v ∈ fields.listed key, v.KeysOnce := by
  intro v hv
  unfold Fields.listed at hv
  split at hv
  · next vs hget => exact (h.of_get? hget).of_mem hv
  · cases hv

/-- The texts that a list of values consists of. -/
theorem Value.map_text_of_forall₂ {vs : List Value} {names : List String}
    (h : List.Forall₂ (fun v s => v = .text s) vs names) : names.map .text = vs := by
  have hmap : List.Forall₂ Eq vs (names.map .text) := List.forall₂_map_right_iff.mpr h
  rw [List.forall₂_eq_eq_eq] at hmap
  exact hmap.symm

/-- What the object supplies for a field: what stands under the field's name. Neither `null` counts,
nor the blank text of an enumeration. -/
def FieldSpec.supplied? (spec : FieldSpec) (fields : Fields) : Option Value :=
  (fields.get? spec.name).filter fun v =>
    v ≠ .null ∧ ¬ (v = .text "" ∧ spec ∈ Schema.enumerations)

theorem FieldSpec.supplied?_of_left_out {spec : FieldSpec} {fields : Fields}
    (h : fields.get? spec.name = none ∨ fields.get? spec.name = some .null) :
    spec.supplied? fields = none := by
  unfold supplied?
  rcases h with h | h
  · rw [h]
    rfl
  · rw [h, Option.filter_eq_none_iff]
    intro v hv
    cases hv
    simp

theorem FieldSpec.supplied?_of_get? {spec : FieldSpec} {fields : Fields} {v : Value}
    (h : fields.get? spec.name = some v) (hnull : v ≠ .null)
    (hblank : ¬ (v = .text "" ∧ spec ∈ Schema.enumerations)) :
    spec.supplied? fields = some v := by
  rw [supplied?, h, Option.filter_some, if_pos]
  exact decide_eq_true ⟨hnull, hblank⟩

/-- A text that was taken for a field has the value that is supplied for it, or else the default. -/
theorem FieldSpec.map_value?_rereadText {spec : FieldSpec} (hspec : spec ∈ Schema.siteConfig)
    {fields : Fields} {s : String} (hget : fields.get? spec.name = some (.text s))
    (hpreset : spec.preset.map Preset.value = spec.presetText?.map .text) :
    (spec.rereadText (some s)).value?.map .text
      = (spec.supplied? fields).or (spec.preset.map Preset.value) := by
  rw [rereadText]
  -- A blank enumeration counts as left out: it is not supplied, and its default is filled in.
  by_cases hblank : s = "" ∧ spec.blankIsUnset = true
  · have henum : spec ∈ Schema.enumerations :=
      (Schema.mem_enumerations_iff spec hspec).mpr hblank.2
    have hnone : spec.supplied? fields = none := by
      rw [supplied?, hget, hblank.1, Option.filter_some, if_neg]
      simp [henum]
    rw [if_pos hblank, hnone, hpreset, Setting.value?_resolve]
    rfl
  · have hsome : spec.supplied? fields = some (.text s) := by
      refine supplied?_of_get? hget Value.noConfusion fun hb => hblank ⟨Value.text.inj hb.1, ?_⟩
      exact (Schema.mem_enumerations_iff spec hspec).mp hb.2
    rw [if_neg hblank, hsome]
    rfl

namespace Form

variable {form : Form} {spec : FieldSpec}

/-- A truth value is read as what is supplied, or else as the default. -/
theorem map_value?_of_flag (hspec : spec ∈ Schema.siteConfig) {setting : Setting Bool}
    (h : form.flag spec = .ok setting)
    (hpreset : spec.preset.map Preset.value = spec.presetBool?.map .bool) :
    setting.value?.map .bool
      = (spec.supplied? form.fields).or (spec.preset.map Preset.value) := by
  rcases form.left_out_or_supplied spec with hout | ⟨v, hget, hnull, hsupplied⟩
  · rw [flag_of_left_out (Schema.required_eq_false spec hspec) hout] at h
    cases h
    rw [FieldSpec.supplied?_of_left_out hout, hpreset, Setting.value?_resolve]
    rfl
  · unfold flag at h
    rw [hsupplied] at h
    cases v with
    | bool b =>
      cases h
      rw [FieldSpec.supplied?_of_get? hget hnull fun hblank => Value.noConfusion hblank.1,
        Setting.value?_resolve]
      rfl
    | _ => cases h

/-- A text is read as what is supplied, or else as the default. -/
theorem map_value?_of_text (hspec : spec ∈ Schema.siteConfig) {setting : Setting String}
    (h : form.text spec = .ok setting)
    (hpreset : spec.preset.map Preset.value = spec.presetText?.map .text) :
    setting.value?.map .text
      = (spec.supplied? form.fields).or (spec.preset.map Preset.value) := by
  rcases form.left_out_or_supplied spec with hout | ⟨v, hget, -, hsupplied⟩
  · rw [text_of_left_out (Schema.required_eq_false spec hspec) hout] at h
    cases h
    rw [FieldSpec.supplied?_of_left_out hout, hpreset, FieldSpec.rereadText,
      Setting.value?_resolve]
    rfl
  · cases v with
    | text s =>
      rw [text_of_get? hget] at h
      by_cases htakes : spec.TakesText (some s)
      · rw [if_pos htakes] at h
        cases h
        exact FieldSpec.map_value?_rereadText hspec hget hpreset
      · rw [if_neg htakes] at h
        cases h
    | _ =>
      unfold text at h
      rw [hsupplied] at h
      cases h

end Form

/-! ## Bodies that are written -/

namespace Body

theorem get?_fields (body : Body) (s : Slot) : body.fields.get? s.key = body.written s := by
  rw [fields_eq]
  exact Fields.get?_ofItems (Slot.nodup_all.map fun s t => Slot.key_injective s t) (Slot.mem_all s)

theorem keys_fields_nodup (body : Body) : body.fields.keys.Nodup := by
  rw [fields_eq]
  exact (Slot.nodup_all.map fun s t => Slot.key_injective s t).sublist
    (Fields.keys_ofItems_sublist Slot.all)

theorem exists_slot_of_mem_keys {body : Body} {key : String} (h : key ∈ body.fields.keys) :
    ∃ s : Slot, s.key = key := by
  rw [fields_eq] at h
  obtain ⟨s, -, hs⟩ := List.mem_map.mp ((Fields.keys_ofItems_sublist Slot.all).subset h)
  exact ⟨s, hs⟩

/-- The keys of a body are those of the two lists and those of the fields of one value. -/
theorem Slot.exists_scalar (s : Slot) :
    s.key = "defaultDocuments" ∨ s.key = "ipSecurityRestrictions" ∨
      ∃ scalar ∈ Scalar.all, scalar.key = s.key := by
  have hkeys : s.key = "defaultDocuments" ∨ s.key = "ipSecurityRestrictions" ∨
      s.key ∈ Scalar.all.map Scalar.key := by
    cases s <;> decide
  rcases hkeys with hnames | hrules | hmem
  · exact .inl hnames
  · exact .inr (.inl hrules)
  · exact .inr (.inr (List.mem_map.mp hmem))

end Body

end SiteConfig
