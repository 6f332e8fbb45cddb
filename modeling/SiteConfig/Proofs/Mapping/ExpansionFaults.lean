import SiteConfig.Proofs.Mapping.Expansion

/-!
# What keeps a block from being expanded

Any number of access rules and enumerations of a block can be at fault, and one of them is reported.
Which one that is, is said here of the block, whether or not a document was read for it.

- `Block.enumerations`: the settings that have to name a value of the service, in their order.
- `Block.ExpansionFault block fault`: the first access rule that cannot be encoded, or else the first
  enumeration whose text names no value.
- `Body.Spells body block`: every enumeration of the body has the text of the block's, up to case.
- `Block.Recased block other`: the blocks differ in the case of their enumerations only.
- `Block.expandFirst_faults`: the main statement, for all blocks: when expanding fails and how, and
  what it makes of the enumerations otherwise.
-/

namespace SiteConfig

/-! ## The statement -/

/-- The spellings of an enumeration. -/
def Vocabulary.spellings (E : Type) [Vocabulary E] : List String :=
  (members : List E).map spelling

namespace Block

/-- A setting of a block that has to name a value of an enumeration: the name of its field, and the
spellings of the values. -/
structure Enumeration where
  name : String
  setting : Setting String
  spellings : List String

/-- The text is the enumeration's, and in whatever case it spells none of the values. -/
def Enumeration.Unrecognised (x : Enumeration) (s : String) : Prop :=
  x.setting.value? = some s ∧ ∀ t ∈ x.spellings, Text.sameUpToCase t s = false

/-- The enumerations of a block, in the order in which they are looked at. -/
def enumerations (block : Block) : List Enumeration :=
  [⟨"managed_pipeline_mode", block.managedPipelineMode, Vocabulary.spellings PipelineMode⟩,
    ⟨"scm_type", block.scmType, Vocabulary.spellings SourceControl⟩,
    ⟨"ftps_state", block.ftpsState, Vocabulary.spellings FtpsState⟩,
    ⟨"min_tls_version", block.minTlsVersion, Vocabulary.spellings TlsVersion⟩]

/-- The fault that is reported of a block that cannot be expanded. -/
inductive ExpansionFault (block : Block) : Fault → Prop
  /-- The first access rule that cannot be encoded, with the encoder's own fault. -/
  | rule {i : Nat} {rule : Restriction} {fault : Fault} (hi : block.ipRestriction[i]? = some rule)
      (hfault : rule.cidr = .error fault)
      (hbefore : ∀ (j : Nat) (earlier : Restriction), j < i →
        block.ipRestriction[j]? = some earlier → ∃ c, earlier.cidr = .ok c) :
      ExpansionFault block (.within ("ip_restriction." ++ String.ofList (Text.decimal i)) fault)
  /-- If all access rules can be encoded, the first enumeration whose text names no value. -/
  | enumeration {i : Nat} {x : Enumeration} {s : String}
      (hrules : ∀ rule ∈ block.ipRestriction, ∃ c, rule.cidr = .ok c)
      (hi : block.enumerations[i]? = some x) (hs : x.Unrecognised s)
      (hbefore : ∀ (j : Nat) (earlier : Enumeration), j < i →
        block.enumerations[j]? = some earlier → ∀ t, ¬ earlier.Unrecognised t) :
      ExpansionFault block (.field x.name (.unrecognised s))

/-- The two settings are both unset, or have the same text up to case. -/
def SameText (a b : Setting String) : Prop :=
  a.value?.map Text.fold = b.value?.map Text.fold

/-- The other block is the block with its enumerations in other letters. -/
structure Recased (block other : Block) : Prop where
  managedPipelineMode : SameText block.managedPipelineMode other.managedPipelineMode
  scmType : SameText block.scmType other.scmType
  ftpsState : SameText block.ftpsState other.ftpsState
  minTlsVersion : SameText block.minTlsVersion other.minTlsVersion
  rest : other = { block with
    managedPipelineMode := other.managedPipelineMode
    scmType := other.scmType
    ftpsState := other.ftpsState
    minTlsVersion := other.minTlsVersion }

end Block

/-- The value has the text of the setting, up to case; where the setting is unset, the empty text.
It is the zero value only where there is no text. -/
structure Reported.Spells {E : Type} [Vocabulary E] (x : Reported E) (setting : Setting String) :
    Prop where
  text : Text.sameUpToCase x.text (setting.value?.getD "") = true
  zero : x = .zero → setting.value?.getD "" = ""

/-- Every enumeration of the body has the text of the block's. -/
structure Body.Spells (body : Body) (block : Block) : Prop where
  managedPipelineMode : body.managedPipelineMode.Spells block.managedPipelineMode
  scmType : body.scmType.Spells block.scmType
  ftpsState : body.ftpsState.Spells block.ftpsState
  minTlsVersion : body.minTlsVersion.Spells block.minTlsVersion

/-! ## Enumerations -/

/-- A text stands for a value if it spells one. -/
theorem Vocabulary.exists_parse?_iff {E : Type} [Vocabulary E] {s : String} :
    (∃ e : E, parse? s = some e) ↔ ∃ t ∈ spellings E, Text.sameUpToCase t s = true := by
  rw [← Option.isSome_iff_exists, parse?, List.find?_isSome, spellings]
  simp

namespace Block

namespace Enumeration

/-- The check of an enumeration: its text, if it has one, has to spell a value. -/
def check (x : Enumeration) : Except Fault Unit :=
  match x.setting.value? with
  | none => .ok ()
  | some s =>
    if ∃ t ∈ x.spellings, Text.sameUpToCase t s = true then .ok ()
    else .error (.field x.name (.unrecognised s))

variable {x : Enumeration}

theorem unrecognised_iff {s : String} :
    x.Unrecognised s ↔ x.setting.value? = some s ∧
      ¬ ∃ t ∈ x.spellings, Text.sameUpToCase t s = true := by
  simp [Unrecognised]

theorem check_eq_error_iff {fault : Fault} :
    x.check = .error fault ↔ ∃ s, x.Unrecognised s ∧ fault = .field x.name (.unrecognised s) := by
  simp only [unrecognised_iff]
  unfold check
  cases x.setting.value? with
  | none => simp
  | some s =>
    by_cases hspelled : ∃ t ∈ x.spellings, Text.sameUpToCase t s = true
    · simp only [if_pos hspelled, Option.some.injEq, reduceCtorEq, false_iff]
      rintro ⟨_, ⟨rfl, hnone⟩, -⟩
      exact hnone hspelled
    · simp only [if_neg hspelled, Except.error.injEq, Option.some.injEq]
      constructor
      · rintro rfl
        exact ⟨s, ⟨rfl, hspelled⟩, rfl⟩
      · rintro ⟨_, ⟨rfl, -⟩, rfl⟩
        rfl

theorem exists_check_iff : (∃ u, x.check = .ok u) ↔ ∀ s, ¬ x.Unrecognised s := by
  constructor
  · rintro ⟨u, hok⟩ s hs
    rw [check_eq_error_iff.mpr ⟨s, hs, rfl⟩] at hok
    cases hok
  · intro hnone
    cases hrun : x.check with
    | ok u => exact ⟨u, rfl⟩
    | error fault =>
      obtain ⟨s, hs, -⟩ := check_eq_error_iff.mp hrun
      exact absurd hs (hnone s)

end Enumeration

/-- Expanding an enumeration fails and succeeds as its check does. -/
theorem checked_expandEnum (E : Type) [Vocabulary E] (spec : FieldSpec) (setting : Setting String) :
    Steps.checked (expandEnum spec setting : Except Fault (Reported E))
      = Enumeration.check ⟨spec.name, setting, Vocabulary.spellings E⟩ := by
  unfold expandEnum Enumeration.check
  cases setting.value? with
  | none => rfl
  | some s =>
    cases hparse : (Vocabulary.parse? s : Option E) with
    | none =>
      have hnone : ¬ ∃ t ∈ Vocabulary.spellings E, Text.sameUpToCase t s = true := by
        rw [← Vocabulary.exists_parse?_iff, hparse]
        rintro ⟨e, he⟩
        cases he
      simp only [hparse, if_neg hnone]
      rfl
    | some e =>
      simp only [hparse, if_pos (Vocabulary.exists_parse?_iff.mp ⟨e, hparse⟩)]
      rfl

/-! ## The checks of a block -/

theorem expandRule_eq_error_iff {i : Nat} {rule : Restriction} {fault : Fault} :
    expandRule i rule = .error fault ↔
      ∃ inner, rule.cidr = .error inner ∧
        fault = .within ("ip_restriction." ++ String.ofList (Text.decimal i)) inner := by
  have hpath : rulePath i = "ip_restriction." ++ String.ofList (Text.decimal i) := rfl
  unfold expandRule
  rw [hpath]
  cases rule.cidr with
  | ok c => simp
  | error inner => simp [eq_comm]

/-- **Expanding checks the access rules, and then the enumerations in their order**, and does nothing
else that can fail. -/
theorem checked_expand (block : Block) :
    Steps.checked block.expand
      = Steps.checked (Indexed.traverse expandRule block.ipRestriction >>= fun _ =>
          Indexed.traverse (fun _ x => x.check) block.enumerations) := by
  unfold expand
  cases Indexed.traverse expandRule block.ipRestriction with
  | error fault => rfl
  | ok rules =>
    show Steps.checked (expandEnum Schema.managedPipelineMode block.managedPipelineMode >>= _)
      = Steps.checked (Indexed.traverse (fun _ x => x.check) block.enumerations)
    unfold enumerations Indexed.traverse
    refine Indexed.checked_bind
      (checked_expandEnum PipelineMode Schema.managedPipelineMode _).symm fun _ => ?_
    refine Indexed.checked_bind (checked_expandEnum SourceControl Schema.scmType _).symm fun _ => ?_
    refine Indexed.checked_bind (checked_expandEnum FtpsState Schema.ftpsState _).symm fun _ => ?_
    refine Indexed.checked_bind
      (checked_expandEnum TlsVersion Schema.minTlsVersion _).symm fun _ => ?_
    rfl

/-! ## When expanding fails, and how -/

variable {block : Block}

theorem exists_expand_iff :
    (∃ body, block.expand = .ok body) ↔
      (∀ rule ∈ block.ipRestriction, ∃ c, rule.cidr = .ok c) ∧
        ∀ x ∈ block.enumerations, ∀ s, ¬ x.Unrecognised s := by
  rw [← Steps.checked_eq_ok_iff, checked_expand, Steps.checked_eq_ok_iff]
  have hnames : (∃ units, Indexed.traverse (fun _ x => x.check) block.enumerations = .ok units) ↔
      ∀ x ∈ block.enumerations, ∀ s, ¬ x.Unrecognised s :=
    Indexed.exists_traverse_iff_forall fun _ x => Enumeration.exists_check_iff (x := x)
  rw [← exists_traverse_expandRule_iff, ← hnames]
  simp only [Steps.bind_eq_ok]
  constructor
  · rintro ⟨units, sent, hsent, hunits⟩
    exact ⟨⟨sent, hsent⟩, units, hunits⟩
  · rintro ⟨⟨sent, hsent⟩, units, hunits⟩
    exact ⟨units, sent, hsent, hunits⟩

theorem expand_eq_error_iff {fault : Fault} :
    block.expand = .error fault ↔ block.ExpansionFault fault := by
  rw [← Steps.checked_eq_error_iff, checked_expand, Steps.checked_eq_error_iff, Steps.bind_eq_error]
  simp only [Indexed.traverse_eq_error_iff, exists_expandRule_iff, expandRule_eq_error_iff,
    Enumeration.check_eq_error_iff, Enumeration.exists_check_iff]
  constructor
  · rintro (⟨i, rule, hi, ⟨inner, hinner, rfl⟩, hbefore⟩ |
      ⟨sent, hsent, i, x, hi, ⟨s, hs, rfl⟩, hbefore⟩)
    · exact .rule hi hinner hbefore
    · exact .enumeration (exists_traverse_expandRule_iff.mp ⟨sent, hsent⟩) hi hs hbefore
  · rintro (⟨hi, hinner, hbefore⟩ | ⟨hrules, hi, hs, hbefore⟩)
    · exact .inl ⟨_, _, hi, ⟨_, hinner, rfl⟩, hbefore⟩
    · obtain ⟨sent, hsent⟩ := exists_traverse_expandRule_iff.mpr hrules
      exact .inr ⟨sent, hsent, _, _, hi, ⟨_, hs, rfl⟩, hbefore⟩

/-- If expanding fails, an access rule or an enumeration is at fault. -/
theorem exists_expand_eq_error_iff :
    (∃ fault, block.expand = .error fault) ↔
      (∃ rule ∈ block.ipRestriction, ∃ fault, rule.cidr = .error fault) ∨
        ∃ x ∈ block.enumerations, ∃ s, x.Unrecognised s := by
  rw [Steps.exists_error_iff, exists_expand_iff, not_and_or]
  simp only [Steps.exists_error_iff, not_forall, not_not, exists_prop]

/-! ## What the enumerations become -/

/-- An enumeration that can be expanded keeps its text. -/
theorem spells_of_expandEnum {E : Type} [Vocabulary E] {spec : FieldSpec}
    (hnames : spec.Names E) {setting : Setting String} {x : Reported E}
    (h : expandEnum spec setting = .ok x) : x.Spells setting := by
  have htext : Text.sameUpToCase x.text (setting.value?.getD "") = true := by
    rcases expandEnum_eq_ok_iff.mp h with ⟨hunset, rfl⟩ | ⟨t, e, ht, he, rfl⟩
    · rw [hunset, Reported.zero, Reported.text, hnames.zero]
      rfl
    · rw [ht]
      exact Vocabulary.sameUpToCase_of_parse? he
  refine ⟨htext, ?_⟩
  rintro rfl
  rw [Reported.zero, Reported.text, hnames.zero, Text.sameUpToCase_comm] at htext
  exact Text.sameUpToCase_empty_iff.mp htext

/-- An enumeration expands in any case to the same value. -/
theorem expandEnum_of_sameText {E : Type} [Vocabulary E] {spec : FieldSpec} {a b : Setting String}
    {x : Reported E} (hsame : SameText a b) (h : expandEnum spec a = .ok x) :
    expandEnum spec b = .ok x := by
  rw [expandEnum_eq_ok_iff] at h ⊢
  rw [SameText] at hsame
  rcases h with ⟨hunset, rfl⟩ | ⟨t, e, ht, he, rfl⟩
  · rw [hunset, Option.map_none, eq_comm, Option.map_eq_none_iff] at hsame
    exact .inl ⟨hsame, rfl⟩
  · rw [ht, Option.map_some, eq_comm, Option.map_eq_some_iff] at hsame
    obtain ⟨u, hu, hfold⟩ := hsame
    refine .inr ⟨u, e, hu, ?_, rfl⟩
    rw [Vocabulary.parse?_congr (Text.sameUpToCase_iff.mpr hfold), he]

theorem spells_of_expand {body : Body} (h : block.expand = .ok body) : body.Spells block := by
  obtain ⟨rules, mode, scm, ftps, tls, -, hmode, hscm, hftps, htls, rfl⟩ := expand_eq_ok_iff.mp h
  exact ⟨spells_of_expandEnum Schema.managedPipelineMode_names hmode,
    spells_of_expandEnum Schema.scmType_names hscm,
    spells_of_expandEnum Schema.ftpsState_names hftps,
    spells_of_expandEnum Schema.minTlsVersion_names htls⟩

/-- The case of the enumerations does not matter. -/
theorem Recased.expand {other : Block} (hcase : block.Recased other) {body : Body}
    (h : block.expand = .ok body) : other.expand = .ok body := by
  obtain ⟨rules, mode, scm, ftps, tls, hrules, hmode, hscm, hftps, htls, rfl⟩ :=
    expand_eq_ok_iff.mp h
  rw [expand_eq_ok_iff]
  refine ⟨rules, mode, scm, ftps, tls, ?_, expandEnum_of_sameText hcase.managedPipelineMode hmode,
    expandEnum_of_sameText hcase.scmType hscm, expandEnum_of_sameText hcase.ftpsState hftps,
    expandEnum_of_sameText hcase.minTlsVersion htls, ?_⟩
  · rw [hcase.rest]
    exact hrules
  · rw [hcase.rest]
    rfl

/-- **Expanding fails for a reason, and reports the first.** For every block, whether or not a
document was read for it: it is not expanded exactly if an access rule cannot be encoded or the text
of an enumeration names no value, and then the fault is that of the first rule, under its path, or,
if all rules can be encoded, of the first enumeration. A body has the texts of the block's
enumerations, and is the same in whatever case they are written. -/
theorem expandFirst_faults (block : Block) (rest : List Block) :
    ((∃ fault, expandFirst (block :: rest) = .error fault) ↔
      (∃ rule ∈ block.ipRestriction, ∃ fault, rule.cidr = .error fault) ∨
        ∃ x ∈ block.enumerations, ∃ s, x.Unrecognised s) ∧
    (∀ fault, expandFirst (block :: rest) = .error fault ↔ block.ExpansionFault fault) ∧
    ∀ body, expandFirst (block :: rest) = .ok body →
      body.Spells block ∧
        ∀ other others, block.Recased other → expandFirst (other :: others) = .ok body :=
  ⟨exists_expand_eq_error_iff, fun _ => expand_eq_error_iff, fun _ hbody =>
    ⟨spells_of_expand hbody, fun _ _ hcase => hcase.expand hbody⟩⟩

/-- A text in lower case names a value, which is also sent for the text in upper case. -/
theorem expandFirst_localGit :
    ∃ body, expandFirst [{ scmType := .given "localgit" }] = .ok body ∧
      body.scmType = .known .localGit ∧
      body.Spells { scmType := .given "localgit" } ∧
      expandFirst [{ scmType := .given "LOCALGIT" }] = .ok body := by
  obtain ⟨-, -, hok⟩ := expandFirst_faults { scmType := .given "localgit" } []
  have hbody : expandFirst [{ scmType := .given "localgit" }]
      = .ok (bodyWith { scmType := .given "localgit" } [] .zero (.known .localGit) .zero .zero) := by
    rfl
  obtain ⟨hspells, hcase⟩ := hok _ hbody
  refine ⟨_, hbody, rfl, hspells, hcase _ [] ⟨rfl, ?_, rfl, rfl, rfl⟩⟩
  show some (Text.fold "localgit") = some (Text.fold "LOCALGIT")
  decide +kernel

/-- Of two rules and two enumerations that are at fault, the first rule is reported. -/
example :
    ExpansionFault { ipRestriction := [⟨"10.0.0.0", .unset⟩, ⟨"10.0.0.0/33", .unset⟩, ⟨"", .unset⟩]
                     scmType := .given "Git", ftpsState := .given "Off" }
      (.within "ip_restriction.1" (.network "10.0.0.0/33")) := by
  rw [← expand_eq_error_iff]
  rfl

end Block

end SiteConfig
