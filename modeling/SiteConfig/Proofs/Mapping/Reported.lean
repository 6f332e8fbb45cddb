import SiteConfig.Proofs.Mapping.Acceptance
import SiteConfig.Proofs.Mapping.Keys

/-!
# What a payload is shown as

A payload is read as a body, the body is flattened, and its block is written. This file says, key by
key, what is written for a payload, whatever keys it has, without a body or a block in between:
absent is told from a zero value for every field of one value, except that an enumeration is always
there, with a blank text for want of another.

- `Scalar.shown?`: what is shown for a field of one value.
- `Rule.ofEntry entry`: the access rule that an entry of a payload holds, and `Rule.ShownAs rule v`:
  what is shown for it.
- `Fields.ShownFor shown payload`: the object `shown` is the block for a payload.
- `Body.shownFor_of_flattenOption`: the main statement, for all payloads that can be flattened.
-/

namespace SiteConfig

/-- The text that stands somewhere, if it is one. -/
def Value.textOf? : Option Value → Option String
  | some (.text s) => some s
  | _ => none

/-- What is shown for a field of one value: the value of the payload as it is, unless it is `null`.
An enumeration always has a text, in its canonical spelling or blank. -/
def Scalar.shown? (scalar : Scalar) (payload : Fields) : Option Value :=
  if scalar.spec ∈ Schema.enumerations then
    some (.text (((Value.textOf? (payload.get? scalar.key)).map scalar.spell).getD ""))
  else (payload.get? scalar.key).filter (· ≠ .null)

/-- The access rule that an entry of a payload holds: an object, or a list of its texts in the order
of their keys. -/
def Rule.ofEntry : Value → Rule
  | .object fields =>
    ⟨Value.textOf? (Fields.get? fields "ipAddress"),
      Value.textOf? (Fields.get? fields "subnetMask")⟩
  | .list vs => ⟨Value.textOf? vs[0]?, Value.textOf? vs[1]?⟩
  | _ => {}

/-- What is shown for an access rule. -/
structure Rule.ShownAs (rule : Rule) (v : Value) : Prop where
  flattensTo : ∃ flat, rule.FlattensTo flat ∧ v = flat.document
  /-- A mask is shown if the rule has one or its address has a prefix, and only then. -/
  subnetMask_iff :
    (∃ fields : Fields, v = .object fields ∧ "subnet_mask" ∈ fields.keys) ↔
      (∃ mask, rule.subnetMask = some mask ∧ mask ≠ "") ∨
        ∃ ip, rule.ipAddress = some ip ∧ '/' ∈ ip.toList

/-- The object is what is shown for a payload. -/
structure Fields.ShownFor (shown payload : Fields) : Prop where
  nodup : shown.keys.Nodup
  scalars : ∀ scalar ∈ Scalar.all, shown.get? scalar.spec.name = scalar.shown? payload
  defaultDocuments :
    shown.get? "default_documents" = some (.list (payload.listed "defaultDocuments"))
  /-- One entry for each access rule, in the order of the payload. -/
  ipRestriction : ∃ entries,
    shown.get? "ip_restriction" = some (.list entries) ∧
      List.Forall₂ (fun entry v => (Rule.ofEntry entry).ShownAs v)
        (payload.listed "ipSecurityRestrictions") entries
  noOther : ∀ key ∈ shown.keys, key = "default_documents" ∨ key = "ip_restriction" ∨
    ∃ scalar ∈ Scalar.all, scalar.spec.name = key

/-! ## What a slot takes -/

namespace Body

variable {v? : Option Value}

/-- A truth value that was taken is the one that is there, unless that is `null`. -/
theorem Takes.map_bool {b? : Option Bool} (h : Takes readFlag v? none b?) :
    b?.map .bool = v?.filter (· ≠ .null) := by
  rcases v? with _ | v
  · cases h
    rfl
  · cases v with
    | null | bool b =>
      cases h
      rfl
    | _ => cases h

theorem Takes.map_text {s? : Option String} (h : Takes readText v? none s?) :
    s?.map .text = v?.filter (· ≠ .null) := by
  rcases v? with _ | v
  · cases h
    rfl
  · cases v with
    | null | text s =>
      cases h
      rfl
    | _ => cases h

theorem Takes.eq_textOf? {s? : Option String} (h : Takes readText v? none s?) :
    s? = Value.textOf? v? := by
  rcases v? with _ | v
  · cases h
    rfl
  · cases v with
    | null | text s =>
      cases h
      rfl
    | _ => cases h

/-- An enumeration has the canonical spelling of the text that is there. -/
theorem Takes.text_eq {E : Type} [Vocabulary E]
    (hzero : Vocabulary.spelling (Vocabulary.zero : E) = "") {x : Reported E}
    (h : Takes (Slot.readEnum E) v? .zero x) :
    x.text = ((Value.textOf? v?).map (Vocabulary.canonical E)).getD "" := by
  rcases v? with _ | v
  · cases h
    exact hzero
  · obtain ⟨s?, hs, rfl⟩ := Steps.map_eq_ok.mp h
    have htext : s? = Value.textOf? (some v) := Takes.eq_textOf? hs
    rw [← htext]
    cases s? with
    | none => exact hzero
    | some s => exact Reported.text_read s

theorem readList_eq_ok_iff {α : Type} {read : Value → Except Misfit α} {vs : List Value}
    {as : List α} :
    readList read vs = .ok as ↔ List.Forall₂ (fun v a => read v = .ok a) vs as := by
  induction vs generalizing as with
  | nil => simp [readList, eq_comm]
  | cons v rest ih =>
    rw [readList, List.forall₂_cons_left_iff]
    simp only [Steps.bind_eq_ok, Steps.pure_eq_ok, ih]
    constructor
    · rintro ⟨a, ha, more, hmore, rfl⟩
      exact ⟨a, more, ha, hmore, rfl⟩
    · rintro ⟨a, more, ha, hmore, rfl⟩
      exact ⟨a, ha, more, hmore, rfl⟩

/-- The items of a list were taken from the items that are there. -/
theorem Takes.forall₂_listed {α : Type} {read : Value → Except Misfit α} {payload : Fields}
    {key : String} {as? : Option (List α)}
    (h : Takes (readListOption read) (payload.get? key) none as?) :
    List.Forall₂ (fun v a => read v = .ok a) (payload.listed key) (as?.getD []) := by
  unfold Fields.listed
  rcases hget : payload.get? key with _ | v
  · rw [hget] at h
    cases h
    exact .nil
  · rw [hget] at h
    cases v with
    | null =>
      cases h
      exact .nil
    | list vs =>
      obtain ⟨as, has, rfl⟩ := Steps.map_eq_ok.mp h
      exact readList_eq_ok_iff.mp has
    | _ => cases h

end Body

/-! ## Access rules -/

namespace Rule

/-- Where no key comes twice, a rule has the texts that are under its keys. -/
theorem eq_of_readFields {fields : Fields} (hnodup : fields.keys.Nodup) {rule : Rule}
    (h : Body.readFields Body.readRuleField {} fields = .ok rule) :
    rule = ⟨Value.textOf? (fields.get? "ipAddress"), Value.textOf? (fields.get? "subnetMask")⟩ := by
  have htakes := (layout.readFields_eq_ok_iff hnodup).mp h
  have hip : rule.ipAddress = Value.textOf? (fields.get? "ipAddress") :=
    Body.Takes.eq_textOf? (htakes .ipAddress)
  have hmask : rule.subnetMask = Value.textOf? (fields.get? "subnetMask") :=
    Body.Takes.eq_textOf? (htakes .subnetMask)
  rw [← hip, ← hmask]

/-- **An access rule that was read is the one that its entry holds.** -/
theorem eq_ofEntry {entry : Value} (hkeys : entry.KeysOnce) {rule : Rule}
    (h : Body.readRule entry = .ok rule) : rule = ofEntry entry := by
  cases entry with
  | object fields => exact eq_of_readFields hkeys.nodup h
  | list vs =>
    obtain ⟨after, hread, h⟩ := Steps.bind_eq_ok.mp h
    split at h
    · cases h
    · cases h
      -- The values stand under the two keys one after the other.
      match vs with
      | [] =>
        refine eq_of_readFields ?_ hread
        exact List.nodup_nil
      | [v] =>
        refine eq_of_readFields ?_ hread
        exact List.nodup_singleton "ipAddress"
      | v :: w :: rest =>
        refine eq_of_readFields ?_ hread
        show ["ipAddress", "subnetMask"].Nodup
        decide
  | _ => cases h

theorem exists_mask?_iff {rule : Rule} :
    (∃ mask, rule.mask? = some mask) ↔ ∃ mask, rule.subnetMask = some mask ∧ mask ≠ "" := by
  simp only [mask?, Option.filter_eq_some_iff, decide_eq_true_eq]

/-- A mask is written for an access rule that flattens to one that has a mask. -/
theorem exists_value?_iff {rule : Rule} {flat : Restriction} (h : rule.FlattensTo flat) :
    (∃ mask, flat.subnetMask.value? = some mask) ↔
      (∃ mask, rule.subnetMask = some mask ∧ mask ≠ "") ∨
        ∃ ip, rule.ipAddress = some ip ∧ '/' ∈ ip.toList := by
  cases h with
  | absent hip => simp [hip, Setting.value?_ofOption, exists_mask?_iff]
  | bare hip hslash => simp [hip, hslash, Setting.value?_ofOption, exists_mask?_iff]
  | @network ip net hip hnet =>
    have hslash : '/' ∈ ip.toList := Network.slash_mem_of_parse? hnet
    simp [hip, hslash, Setting.value?_ofOption]

/-- What is shown for an access rule is what it flattens to. -/
theorem FlattensTo.shownAs {rule : Rule} {flat : Restriction} (h : rule.FlattensTo flat) :
    rule.ShownAs flat.document := by
  refine ⟨⟨flat, h, rfl⟩, ?_⟩
  rw [← exists_value?_iff h]
  unfold Restriction.document
  cases flat.subnetMask.value? with
  | none => simp [Fields.keys, Schema.ipAddress]
  | some mask => simp [Fields.keys, Schema.subnetMask]

end Rule

/-! ## Fields of one value -/

namespace Scalar

variable {spec : FieldSpec} {shown payload : Fields} {key : String}

theorem shown?_of_not_enumeration (hspec : spec ∈ Schema.siteConfig)
    (hplain : spec.blankIsUnset = false) (spell : String → String) :
    (Scalar.mk spec key spell).shown? payload = (payload.get? key).filter (· ≠ .null) := by
  have hnot : spec ∉ Schema.enumerations := by
    rw [Schema.mem_enumerations_iff spec hspec, hplain]
    exact Bool.false_ne_true
  rw [shown?, if_neg hnot]

/-- A truth value is shown as it was taken. -/
theorem get?_eq_shown?_of_flag (hspec : spec ∈ Schema.siteConfig)
    (hplain : spec.blankIsUnset = false) {b? : Option Bool}
    (htakes : Body.Takes Body.readFlag (payload.get? key) none b?)
    (hget : shown.get? spec.name = (Setting.ofOption b?).value?.map .bool) :
    shown.get? spec.name = (Scalar.mk spec key id).shown? payload := by
  rw [shown?_of_not_enumeration hspec hplain, hget, Setting.value?_ofOption]
  exact htakes.map_bool

/-- A text is shown as it was taken, unless it names a value of an enumeration. -/
theorem get?_eq_shown?_of_text (hspec : spec ∈ Schema.siteConfig)
    (hplain : spec.blankIsUnset = false) {s? : Option String}
    (htakes : Body.Takes Body.readText (payload.get? key) none s?)
    (hget : shown.get? spec.name = (Setting.ofOption s?).value?.map .text) :
    shown.get? spec.name = (Scalar.mk spec key id).shown? payload := by
  rw [shown?_of_not_enumeration hspec hplain, hget, Setting.value?_ofOption]
  exact htakes.map_text

/-- An enumeration is shown in its canonical spelling. -/
theorem get?_eq_shown?_of_enum {E : Type} [Vocabulary E] (hnames : spec.Names E)
    (hspec : spec ∈ Schema.siteConfig) {x : Reported E}
    (htakes : Body.Takes (Body.Slot.readEnum E) (payload.get? key) .zero x)
    (hget : shown.get? spec.name = (Setting.given x.text).value?.map .text) :
    shown.get? spec.name = (Scalar.mk spec key (Vocabulary.canonical E)).shown? payload := by
  have henum : spec ∈ Schema.enumerations :=
    (Schema.mem_enumerations_iff spec hspec).mpr hnames.blank
  rw [shown?, if_pos henum, hget, Setting.value?_given, Option.map_some,
    htakes.text_eq hnames.zero]

end Scalar

/-! ## Blocks -/

namespace Body

/-- Each field of one value is shown as the payload has it. -/
theorem get?_blockWith_scalar {payload : Fields} {body : Body} {flats : List Restriction}
    (htakes : ∀ s : Slot, layout.Takes s (payload.get? s.key) {} body) :
    ∀ scalar ∈ Scalar.all,
      (body.blockWith flats).fields.get? scalar.spec.name = scalar.shown? payload := by
  intro scalar hscalar
  have hspec : scalar.spec ∈ Schema.siteConfig := Scalar.spec_mem_siteConfig scalar hscalar
  have hholds := Block.holds_fields (body.blockWith flats)
  -- One case for each field: the slot it was taken for, and its place among the fields of a block.
  simp only [Scalar.all, List.mem_cons, List.not_mem_nil, or_false] at hscalar
  rcases hscalar with rfl | rfl | rfl | rfl | rfl | rfl | rfl | rfl | rfl | rfl | rfl | rfl | rfl |
    rfl | rfl | rfl | rfl | rfl | rfl
  · exact Scalar.get?_eq_shown?_of_flag hspec rfl (htakes .alwaysOn) (hholds.at 0 rfl)
  · exact Scalar.get?_eq_shown?_of_text hspec rfl (htakes .netFrameworkVersion) (hholds.at 2 rfl)
  · exact Scalar.get?_eq_shown?_of_flag hspec rfl (htakes .http20Enabled) (hholds.at 3 rfl)
  · exact Scalar.get?_eq_shown?_of_text hspec rfl (htakes .javaVersion) (hholds.at 5 rfl)
  · exact Scalar.get?_eq_shown?_of_text hspec rfl (htakes .javaContainer) (hholds.at 6 rfl)
  · exact Scalar.get?_eq_shown?_of_text hspec rfl (htakes .javaContainerVersion) (hholds.at 7 rfl)
  · exact Scalar.get?_eq_shown?_of_flag hspec rfl (htakes .localMySqlEnabled) (hholds.at 8 rfl)
  · exact Scalar.get?_eq_shown?_of_enum Schema.managedPipelineMode_names hspec
      (htakes .managedPipelineMode) (hholds.at 9 rfl)
  · exact Scalar.get?_eq_shown?_of_text hspec rfl (htakes .phpVersion) (hholds.at 10 rfl)
  · exact Scalar.get?_eq_shown?_of_text hspec rfl (htakes .pythonVersion) (hholds.at 11 rfl)
  · exact Scalar.get?_eq_shown?_of_flag hspec rfl (htakes .remoteDebuggingEnabled)
      (hholds.at 12 rfl)
  · exact Scalar.get?_eq_shown?_of_text hspec rfl (htakes .remoteDebuggingVersion)
      (hholds.at 13 rfl)
  · exact Scalar.get?_eq_shown?_of_enum Schema.scmType_names hspec (htakes .scmType)
      (hholds.at 14 rfl)
  · exact Scalar.get?_eq_shown?_of_flag hspec rfl (htakes .use32BitWorkerProcess)
      (hholds.at 15 rfl)
  · exact Scalar.get?_eq_shown?_of_flag hspec rfl (htakes .webSocketsEnabled) (hholds.at 16 rfl)
  · exact Scalar.get?_eq_shown?_of_enum Schema.ftpsState_names hspec (htakes .ftpsState)
      (hholds.at 17 rfl)
  · exact Scalar.get?_eq_shown?_of_text hspec rfl (htakes .linuxFxVersion) (hholds.at 18 rfl)
  · exact Scalar.get?_eq_shown?_of_enum Schema.minTlsVersion_names hspec (htakes .minTlsVersion)
      (hholds.at 19 rfl)
  · exact Scalar.get?_eq_shown?_of_text hspec rfl (htakes .vnetName) (hholds.at 20 rfl)

/-- The access rules that were taken from a payload are shown one by one. -/
theorem forall₂_shownAs {entries : List Value} (hkeys : ∀ entry ∈ entries, entry.KeysOnce)
    {rules : List Rule} (hread : List.Forall₂ (fun v rule => readRule v = .ok rule) entries rules)
    {flats : List Restriction} (hflat : List.Forall₂ Rule.FlattensTo rules flats) :
    List.Forall₂ (fun entry v => (Rule.ofEntry entry).ShownAs v) entries
      (flats.map Restriction.document) := by
  induction hread generalizing flats with
  | nil =>
    cases hflat
    exact .nil
  | cons hrule _ ih =>
    cases hflat with
    | cons hfirst hrest =>
      obtain ⟨hentry, hentries⟩ := List.forall_mem_cons.mp hkeys
      have heq := Rule.eq_ofEntry hentry hrule
      exact .cons (heq ▸ hfirst.shownAs) (ih hentries hrest)

/-- **What is shown for a payload that can be flattened**: under its own key in the block, each
value that the payload has; the two lists and the four enumerations in any case; and nothing
else. -/
theorem shownFor_of_flattenOption {payload : Fields} (hkeys : (Value.object payload).KeysOnce)
    {body : Body} (hread : read (.object payload) = .ok (some body)) {blocks : List Block}
    (hflat : flattenOption (some body) = .ok blocks) :
    ∃ (block : Block) (shown : Fields), blocks = [block] ∧ block.document = .object shown ∧
      shown.ShownFor payload := by
  obtain ⟨one, hone, heq⟩ := Steps.map_eq_ok.mp hread
  cases heq
  have htakes := (layout.readFields_eq_ok_iff hkeys.nodup).mp hone
  obtain ⟨flats, hrules, rfl⟩ := flattenOption_eq_ok_iff.mp hflat
  rw [traverse_flattenRule_eq_ok_iff] at hrules
  have hholds := Block.holds_fields (body.blockWith flats)
  refine ⟨_, _, rfl, rfl, ?_⟩
  constructor
  case nodup =>
    rw [Block.fields_eq]
    exact (Block.slotNames_nodup _).sublist (Fields.keys_ofSlots_sublist _)
  case scalars => exact get?_blockWith_scalar htakes
  case defaultDocuments =>
    have hnames := Takes.forall₂_listed (htakes .defaultDocuments)
    have htexts : List.Forall₂ (fun v s => v = .text s) (payload.listed "defaultDocuments")
        (body.defaultDocuments.getD []) := by
      refine hnames.imp fun v s hs => ?_
      cases v with
      | text t =>
        cases hs
        rfl
      | _ => cases hs
    have hget : Fields.get? (body.blockWith flats).fields Schema.defaultDocuments.name
        = some (.list ((body.defaultDocuments.getD []).map .text)) := hholds.at 1 rfl
    rw [Value.map_text_of_forall₂ htexts] at hget
    exact hget
  case ipRestriction =>
    have hlisted := Takes.forall₂_listed (htakes .ipSecurityRestrictions)
    have hget : Fields.get? (body.blockWith flats).fields Schema.ipRestrictions.name
        = some (.list (flats.map Restriction.document)) := hholds.at 4 rfl
    exact ⟨_, hget, forall₂_shownAs hkeys.of_mem_listed hlisted hrules⟩
  case noOther =>
    intro key hkey
    obtain ⟨slot, hslot, rfl⟩ := hholds.declared key hkey
    have hspecs : (body.blockWith flats).slots.map Prod.fst = Schema.siteConfig := rfl
    have hspec : slot.1 ∈ Schema.siteConfig := hspecs ▸ List.mem_map_of_mem hslot
    rcases Scalar.exists_of_mem_siteConfig hspec with hnames | hrules | ⟨scalar, hmem, hscalar⟩
    · exact .inl (congrArg FieldSpec.name hnames)
    · exact .inr (.inl (congrArg FieldSpec.name hrules))
    · exact .inr (.inr ⟨scalar, hmem, congrArg FieldSpec.name hscalar⟩)

/-- A payload with a value that is `null`, a blank one, a text in another case and one that is not
known. -/
def samplePayload : Fields :=
  [("alwaysOn", .null), ("ftpsState", .text "ftpsonly"),
    ("ipSecurityRestrictions", .list [.object [("ipAddress", .text "10.0.0.0/24")],
      .list [.text "10.0.0.1"]]),
    ("minTlsVersion", .text "1.3"), ("phpVersion", .text "")]

theorem keysOnce_samplePayload : (Value.object samplePayload).KeysOnce := by
  have hordered : (Value.object samplePayload).ordered = .object samplePayload := by
    decide +kernel
  exact hordered ▸ Value.keysOnce_ordered _

/-- Each of the values is shown for what it is. -/
theorem shownFor_samplePayload :
    ∃ (body : Body) (block : Block) (shown : Fields),
      read (.object samplePayload) = .ok (some body) ∧ flattenOption (some body) = .ok [block] ∧
      block.document = .object shown ∧ shown.get? "always_on" = none ∧
      shown.get? "ftps_state" = some (.text "FtpsOnly") ∧
      shown.get? "min_tls_version" = some (.text "1.3") ∧
      shown.get? "php_version" = some (.text "") ∧ shown.get? "scm_type" = some (.text "") := by
  obtain ⟨body, blocks, hread, hflat⟩ : ∃ body blocks,
      read (.object samplePayload) = .ok (some body) ∧ flattenOption (some body) = .ok blocks :=
    ⟨_, _, rfl, rfl⟩
  obtain ⟨block, shown, rfl, hdocument, hfor⟩ :=
    shownFor_of_flattenOption keysOnce_samplePayload hread hflat
  have hget : ∀ (i : Nat) (scalar : Scalar), Scalar.all[i]? = some scalar →
      shown.get? scalar.spec.name = scalar.shown? samplePayload :=
    fun i scalar hi => hfor.scalars scalar (List.mem_of_getElem? hi)
  refine ⟨body, block, shown, hread, hflat, hdocument, ?_, ?_, ?_, ?_, ?_⟩
  · exact (hget 0 _ rfl).trans (by decide +kernel)
  · exact (hget 15 _ rfl).trans (by decide +kernel)
  · exact (hget 17 _ rfl).trans (by decide +kernel)
  · exact (hget 8 _ rfl).trans (by decide +kernel)
  · exact (hget 12 _ rfl).trans (by decide +kernel)

end Body

end SiteConfig
