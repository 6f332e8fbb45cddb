import SiteConfig.Mapping.Expand
import SiteConfig.Proofs.Block.Reading
import SiteConfig.Proofs.Body.Reading

/-!
# What expanding a block establishes

- `FieldSpec.Names E spec`: the closed set of a field holds spellings of the enumeration `E`. Four
  fields of the schema are of this kind (`Schema.managedPipelineMode_names` and so on), which is
  what lets the checks of the schema stand in for those of the mapping.
- `Block.expandEnum_eq_ok_iff`: what an enumeration expands to.
- `Block.expand_eq_ok_iff`: expanding succeeds exactly when the access rules and the four
  enumerations do, and then everything else is copied.
- `Block.allKnown_of_expandFirst`: only known values of the enumerations are sent.
- `Block.exists_expand_eq_ok`: a valid block expands.
-/

namespace SiteConfig

/-! ## Fields that name values of an enumeration -/

namespace Vocabulary

variable {E : Type} [Vocabulary E]

theorem parse?_congr {s t : String} (h : Text.sameUpToCase s t = true) :
    (parse? s : Option E) = parse? t := by
  rw [Text.sameUpToCase_iff] at h
  simp only [parse?, Text.sameUpToCase, h]

/-- A text stands for the value that it spells. -/
theorem sameUpToCase_of_parse? {s : String} {e : E} (h : parse? s = some e) :
    Text.sameUpToCase (spelling e) s = true :=
  List.find?_some (p := fun e => Text.sameUpToCase (spelling e) s) h

end Vocabulary

namespace FieldSpec

/-- The closed set of the field holds spellings of the enumeration, and a blank text, which is the
spelling of the zero value, counts as leaving the field out. -/
structure Names (E : Type) [Vocabulary E] (spec : FieldSpec) : Prop where
  closed : spec.allowed ≠ []
  blank : spec.blankIsUnset = true
  spelled : ∀ s ∈ spec.allowed,
    s ≠ "" ∧ (Vocabulary.parse? s : Option E).map Vocabulary.spelling = some s
  preset : ∀ s, spec.presetText? = some s → s ∈ spec.allowed
  zero : Vocabulary.spelling (Vocabulary.zero : E) = ""

/-- A text that a closed set accepts is one of its members up to case. -/
theorem exists_of_accepts {spec : FieldSpec} {t : String} (hclosed : spec.allowed ≠ [])
    (h : spec.accepts t = true) : ∃ s ∈ spec.allowed, Text.sameUpToCase s t = true := by
  simp only [accepts, Bool.or_eq_true, List.isEmpty_iff, List.any_eq_true] at h
  rcases h with h | ⟨s, hs, h⟩
  · exact absurd h hclosed
  · refine ⟨s, hs, ?_⟩
    by_cases hcase : spec.ignoresCase = true
    · rwa [if_pos hcase] at h
    · rw [if_neg hcase, beq_iff_eq] at h
      rw [h, Text.sameUpToCase_refl]

/-- A closed set accepts its members. -/
theorem accepts_of_mem {spec : FieldSpec} {s : String} (h : s ∈ spec.allowed) :
    spec.accepts s = true := by
  simp only [accepts, Bool.or_eq_true, List.any_eq_true]
  refine .inr ⟨s, h, ?_⟩
  by_cases hcase : spec.ignoresCase = true
  · rw [if_pos hcase, Text.sameUpToCase_refl]
  · rw [if_neg hcase, beq_self_eq_true]

namespace Names

variable {E : Type} [Vocabulary E] {spec : FieldSpec}

/-- Whatever value the field holds names a value of the enumeration, whose spelling is in the
closed set. -/
theorem exists_parse? (h : spec.Names E) {setting : Setting String}
    (hholds : spec.HoldsText setting) {t : String} (ht : setting.value? = some t) :
    ∃ e : E, Vocabulary.parse? t = some e ∧ Vocabulary.spelling e ∈ spec.allowed := by
  have hmember : ∃ s ∈ spec.allowed, Text.sameUpToCase s t = true := by
    cases setting with
    | unset => cases ht
    | filled d =>
      cases ht
      exact ⟨t, h.preset t hholds, Text.sameUpToCase_refl t⟩
    | given d =>
      cases ht
      exact exists_of_accepts h.closed hholds.1
  obtain ⟨s, hs, hcase⟩ := hmember
  obtain ⟨e, he, hspell⟩ := Option.map_eq_some_iff.mp (h.spelled s hs).2
  refine ⟨e, ?_, hspell ▸ hs⟩
  rw [← Vocabulary.parse?_congr hcase, he]

end Names

end FieldSpec

namespace Schema

theorem managedPipelineMode_names : managedPipelineMode.Names PipelineMode where
  closed := by decide
  blank := rfl
  spelled := by decide +kernel
  preset := by simp [FieldSpec.presetText?, managedPipelineMode]
  zero := rfl

theorem scmType_names : scmType.Names SourceControl where
  closed := by decide
  blank := rfl
  spelled := by decide +kernel
  preset := by simp [FieldSpec.presetText?, scmType]
  zero := rfl

theorem ftpsState_names : ftpsState.Names FtpsState where
  closed := by decide
  blank := rfl
  spelled := by decide +kernel
  preset := by simp [FieldSpec.presetText?, ftpsState]
  zero := rfl

theorem minTlsVersion_names : minTlsVersion.Names TlsVersion where
  closed := by decide
  blank := rfl
  spelled := by decide +kernel
  preset := by simp [FieldSpec.presetText?, minTlsVersion]
  zero := rfl

end Schema

/-! ## Expanding -/

namespace Block

/-- An enumeration expands to the zero value if it is unset, and otherwise to the value that its
text stands for. -/
theorem expandEnum_eq_ok_iff {E : Type} [Vocabulary E] {spec : FieldSpec}
    {setting : Setting String} {x : Reported E} :
    expandEnum spec setting = .ok x ↔
      (setting.value? = none ∧ x = .zero) ∨
        ∃ t e, setting.value? = some t ∧ Vocabulary.parse? t = some e ∧ x = .known e := by
  unfold expandEnum
  cases hvalue : setting.value? with
  | none => simp [eq_comm]
  | some t =>
    cases hparse : (Vocabulary.parse? t : Option E) with
    | none => simp [hparse]
    | some e => simp [hparse, eq_comm]

theorem exists_known_of_expandEnum {E : Type} [Vocabulary E] {spec : FieldSpec}
    {setting : Setting String} {x : Reported E} (h : expandEnum spec setting = .ok x) :
    ∃ e, x = .known e := by
  rcases expandEnum_eq_ok_iff.mp h with ⟨-, rfl⟩ | ⟨t, e, -, -, rfl⟩
  · exact ⟨Vocabulary.zero, rfl⟩
  · exact ⟨e, rfl⟩

/-- The value of an enumeration that a field of its names expands to: the zero value if the field
is unset, and otherwise one whose spelling the field accepts. -/
theorem exists_expandEnum {E : Type} [Vocabulary E] {spec : FieldSpec} (hnames : spec.Names E)
    {setting : Setting String} (hholds : spec.HoldsText setting) :
    ∃ e : E, expandEnum spec setting = .ok (.known e) ∧
      ((setting.value? = none ∧ e = Vocabulary.zero) ∨
        ((∃ t, setting.value? = some t) ∧ Vocabulary.spelling e ∈ spec.allowed)) := by
  unfold expandEnum
  cases hvalue : setting.value? with
  | none => exact ⟨Vocabulary.zero, rfl, .inl ⟨rfl, rfl⟩⟩
  | some t =>
    obtain ⟨e, he, hspell⟩ := hnames.exists_parse? hholds hvalue
    refine ⟨e, ?_, .inr ⟨⟨t, rfl⟩, hspell⟩⟩
    simp only [he]

/-- The body with a block's values, for given access rules and values of the enumerations. -/
def bodyWith (block : Block) (rules : List Rule) (mode : Reported PipelineMode)
    (scm : Reported SourceControl) (ftps : Reported FtpsState) (tls : Reported TlsVersion) :
    Body where
  alwaysOn := block.alwaysOn.value?
  defaultDocuments := some block.defaultDocuments
  netFrameworkVersion := block.dotnetFrameworkVersion.value?
  javaVersion := block.javaVersion.value?
  javaContainer := block.javaContainer.value?
  javaContainerVersion := block.javaContainerVersion.value?
  linuxFxVersion := block.linuxFxVersion.value?
  http20Enabled := block.http2Enabled.value?
  ipSecurityRestrictions := some rules
  localMySqlEnabled := block.localMysqlEnabled.value?
  managedPipelineMode := mode
  phpVersion := block.phpVersion.value?
  pythonVersion := block.pythonVersion.value?
  remoteDebuggingEnabled := block.remoteDebuggingEnabled.value?
  remoteDebuggingVersion := block.remoteDebuggingVersion.value?
  use32BitWorkerProcess := block.use32BitWorkerProcess.value?
  webSocketsEnabled := block.websocketsEnabled.value?
  scmType := scm
  ftpsState := ftps
  minTlsVersion := tls
  vnetName := block.virtualNetworkName.value?

theorem expand_eq_ok_iff {block : Block} {body : Body} :
    block.expand = .ok body ↔
      ∃ rules mode scm ftps tls,
        Indexed.traverse expandRule block.ipRestriction = .ok rules ∧
        expandEnum Schema.managedPipelineMode block.managedPipelineMode = .ok mode ∧
        expandEnum Schema.scmType block.scmType = .ok scm ∧
        expandEnum Schema.ftpsState block.ftpsState = .ok ftps ∧
        expandEnum Schema.minTlsVersion block.minTlsVersion = .ok tls ∧
        body = block.bodyWith rules mode scm ftps tls := by
  unfold expand
  simp only [Steps.bind_eq_ok, Steps.pure_eq_ok]
  constructor
  · rintro ⟨rules, hrules, mode, hmode, scm, hscm, ftps, hftps, tls, htls, rfl⟩
    exact ⟨rules, mode, scm, ftps, tls, hrules, hmode, hscm, hftps, htls, rfl⟩
  · rintro ⟨rules, mode, scm, ftps, tls, hrules, hmode, hscm, hftps, htls, rfl⟩
    exact ⟨rules, hrules, mode, hmode, scm, hscm, ftps, hftps, tls, htls, rfl⟩

/-- **Only known values are sent.** -/
theorem allKnown_of_expandFirst {blocks : List Block} {body : Body}
    (h : expandFirst blocks = .ok body) : body.AllKnown := by
  cases blocks with
  | nil =>
    cases h
    exact ⟨⟨_, rfl⟩, ⟨_, rfl⟩, ⟨_, rfl⟩, ⟨_, rfl⟩⟩
  | cons block rest =>
    obtain ⟨rules, mode, scm, ftps, tls, -, hmode, hscm, hftps, htls, rfl⟩ := expand_eq_ok_iff.mp h
    exact ⟨exists_known_of_expandEnum hmode, exists_known_of_expandEnum hscm,
      exists_known_of_expandEnum hftps, exists_known_of_expandEnum htls⟩

theorem expandRule_eq_ok_iff {i : Nat} {rule : Restriction} {sent : Rule} :
    expandRule i rule = .ok sent ↔ ∃ c, rule.cidr = .ok c ∧ sent = ⟨some c, some ""⟩ := by
  unfold expandRule
  cases rule.cidr with
  | error fault => simp
  | ok c => simp [eq_comm]

theorem exists_expandRule_iff {i : Nat} {rule : Restriction} :
    (∃ sent, expandRule i rule = .ok sent) ↔ ∃ c, rule.cidr = .ok c := by
  simp only [expandRule_eq_ok_iff]
  constructor
  · rintro ⟨sent, c, hc, -⟩
    exact ⟨c, hc⟩
  · rintro ⟨c, hc⟩
    exact ⟨_, c, hc, rfl⟩

/-- Access rules expand if each of them can be encoded. -/
theorem exists_traverse_expandRule_iff {rules : List Restriction} :
    (∃ sent, Indexed.traverse expandRule rules = .ok sent) ↔
      ∀ rule ∈ rules, ∃ c, rule.cidr = .ok c :=
  Indexed.exists_traverse_iff_forall (f := expandRule) fun _ _ => exists_expandRule_iff

/-- Access rules expand to what other ones do, if the same is sent for them. -/
theorem traverse_expandRule_map {rules : List Restriction} {f : Restriction → Restriction}
    (h : ∀ rule ∈ rules, (f rule).cidr = rule.cidr) :
    Indexed.traverse expandRule (rules.map f) = Indexed.traverse expandRule rules := by
  rw [Indexed.traverse_map]
  refine Indexed.traverse_congr fun i rule hrule => ?_
  rw [expandRule, h rule (List.mem_of_getElem? hrule), expandRule]

/-- **A valid block expands**, with one access rule for each of its own and known values for the
enumerations. -/
theorem exists_expand_eq_ok {block : Block} (h : block.Valid) :
    ∃ rules mode scm ftps tls,
      Indexed.traverse expandRule block.ipRestriction = .ok rules ∧
      block.expand = .ok
        (block.bodyWith rules (.known mode) (.known scm) (.known ftps) (.known tls)) ∧
      Vocabulary.spelling scm ∈ Schema.scmType.allowed := by
  obtain ⟨rules, hrules⟩ :=
    exists_traverse_expandRule_iff.mpr fun rule hrule => (h.ipRestriction rule hrule).cidr
  obtain ⟨mode, hmode, -⟩ :=
    exists_expandEnum Schema.managedPipelineMode_names h.managedPipelineMode
  obtain ⟨scm, hscm, hspell⟩ := exists_expandEnum Schema.scmType_names h.scmType
  obtain ⟨ftps, hftps, -⟩ := exists_expandEnum Schema.ftpsState_names h.ftpsState
  obtain ⟨tls, htls, -⟩ := exists_expandEnum Schema.minTlsVersion_names h.minTlsVersion
  refine ⟨rules, mode, scm, ftps, tls, hrules,
    expand_eq_ok_iff.mpr ⟨_, _, _, _, _, hrules, hmode, hscm, hftps, htls, rfl⟩, ?_⟩
  -- The field has a default, so that it is never unset.
  obtain ⟨t, ht⟩ := h.scmType.isSome (s := "None") rfl
  rcases hspell with ⟨hunset, -⟩ | ⟨-, hspell⟩
  · rw [hunset] at ht
    cases ht
  · exact hspell

theorem exists_expandFirst_eq_ok {v : Value} {blocks : List Block} (h : decode v = .ok blocks) :
    ∃ body, expandFirst blocks = .ok body := by
  rcases decode_cases h with rfl | ⟨block, one, rfl, hone, -⟩
  · exact ⟨serviceDefaults, rfl⟩
  · obtain ⟨rules, mode, scm, ftps, tls, -, hexpand, -⟩ :=
      exists_expand_eq_ok (valid_of_decodeOne hone)
    exact ⟨_, hexpand⟩

end Block

end SiteConfig
