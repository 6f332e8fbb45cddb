import SiteConfig.Proofs.Block.Reading
import SiteConfig.Proofs.Fields

/-!
# Blocks that are written and read again

A block's document forgets where a value comes from, and reading the document decides it anew.

- `Block.reread`: the block that comes back, field by field; `Block.Takes`: when one comes back.
- `Block.decodeOne_document_ordered`: reading what was written gives exactly that, for every block,
  whether it was read from a document or not.
- `Block.settled`: the block with all its values given. For a block that was read,
  `Block.Valid.reread_eq` says that this is what comes back.
-/

namespace SiteConfig

/-- The same value, given by whoever wrote it. -/
def Setting.settled {α : Type} (setting : Setting α) : Setting α :=
  .ofOption setting.value?

@[simp] theorem Setting.value?_settled {α : Type} (setting : Setting α) :
    setting.settled.value? = setting.value? :=
  Setting.value?_ofOption _

/-! ## One field -/

namespace FieldSpec

/-- The setting that a field of texts has once a text, or nothing, was written for it. -/
def rereadText (spec : FieldSpec) : Option String → Setting String
  | none => .resolve none spec.presetText?
  | some s => if s = "" ∧ spec.blankIsUnset then .resolve none spec.presetText? else .given s

/-- A text, or nothing, that can be written for a field. -/
def TakesText (spec : FieldSpec) : Option String → Prop
  | none => True
  | some s => (s = "" ∧ spec.blankIsUnset = true) ∨ spec.accepts s = true

instance decidableTakesText (spec : FieldSpec) : (s : Option String) → Decidable (spec.TakesText s)
  | none => inferInstanceAs (Decidable True)
  | some s =>
    inferInstanceAs (Decidable ((s = "" ∧ spec.blankIsUnset = true) ∨ spec.accepts s = true))

theorem takesText_of_open {spec : FieldSpec} (h : spec.allowed = []) (s : Option String) :
    spec.TakesText s := by
  cases s with
  | none => trivial
  | some s =>
    refine .inr ?_
    rw [accepts, h]
    rfl

end FieldSpec

/-- **Every default passes the check of its own field.** -/
theorem Schema.holdsText_preset :
    ∀ spec ∈ siteConfig ++ ipRestriction, ∀ s ∈ spec.presetText?, spec.HoldsText (.given s) := by
  decide +kernel

/-- Every field of a block can be left out. -/
theorem Schema.required_eq_false : ∀ spec ∈ siteConfig, spec.required = false := by
  decide +kernel

namespace FieldSpec

variable {spec : FieldSpec} {setting : Setting String}

/-- Whatever value a field holds could as well be given. -/
theorem HoldsText.given (h : spec.HoldsText setting)
    (hspec : spec ∈ Schema.siteConfig ++ Schema.ipRestriction) {s : String}
    (hs : setting.value? = some s) : spec.HoldsText (.given s) := by
  cases setting with
  | unset => cases hs
  | filled t =>
    cases hs
    exact Schema.holdsText_preset spec hspec s h
  | given t =>
    cases hs
    exact h

theorem HoldsText.takesText (h : spec.HoldsText setting)
    (hspec : spec ∈ Schema.siteConfig ++ Schema.ipRestriction) :
    spec.TakesText setting.value? := by
  cases hs : setting.value? with
  | none => trivial
  | some s => exact .inr (h.given hspec hs).1

theorem HoldsText.rereadText_eq (h : spec.HoldsText setting)
    (hspec : spec ∈ Schema.siteConfig ++ Schema.ipRestriction) :
    spec.rereadText setting.value? = setting.settled := by
  cases hs : setting.value? with
  | none =>
    -- Nothing is filled in now, as nothing was filled in before.
    rw [rereadText, h.presetText?_eq_none hs, Setting.settled, hs]
    rfl
  | some s =>
    rw [rereadText, if_neg (h.given hspec hs).2, Setting.settled, hs]
    rfl

theorem HoldsFlag.resolve_eq {setting : Setting Bool} (h : spec.HoldsFlag setting) :
    Setting.resolve setting.value? spec.presetBool? = setting.settled := by
  cases setting with
  | unset =>
    have hnone : spec.presetBool? = none := h
    rw [hnone]
    rfl
  | filled b => rfl
  | given b => rfl

end FieldSpec

namespace Form

variable {form : Form} {spec : FieldSpec}

theorem flag_of_left_out (hreq : spec.required = false)
    (h : form.fields.get? spec.name = none ∨ form.fields.get? spec.name = some .null) :
    form.flag spec = .ok (.resolve none spec.presetBool?) := by
  unfold flag
  rw [supplied_of_left_out h, hreq]
  rfl

theorem flag_of_written (hreq : spec.required = false) {b : Option Bool}
    (h : form.fields.get? spec.name = b.map .bool) :
    form.flag spec = .ok (.resolve b spec.presetBool?) := by
  cases b with
  | none => exact flag_of_left_out hreq (.inl h)
  | some b =>
    unfold flag
    rw [supplied_of_get? h Value.noConfusion]

/-- What a field of texts makes of a text that is supplied for it. -/
theorem text_of_get? {s : String} (h : form.fields.get? spec.name = some (.text s)) :
    form.text spec =
      if spec.TakesText (some s) then .ok (spec.rereadText (some s))
      else .error (.field (form.pathOf spec.name) (.notAllowed spec.allowed s)) := by
  unfold text
  simp only [supplied_of_get? h Value.noConfusion]
  by_cases hblank : s = "" ∧ spec.blankIsUnset = true
  · have htakes : spec.TakesText (some s) := Or.inl hblank
    rw [if_pos htakes, FieldSpec.rereadText, if_pos hblank, if_pos hblank]
  · by_cases hacc : spec.accepts s = true
    · have htakes : spec.TakesText (some s) := Or.inr hacc
      rw [if_neg hblank, if_pos hacc, if_pos htakes, FieldSpec.rereadText, if_neg hblank]
      rfl
    · have htakes : ¬ spec.TakesText (some s) := not_or.mpr ⟨hblank, hacc⟩
      rw [if_neg hblank, if_neg hacc, if_neg htakes]

theorem text_of_left_out (hreq : spec.required = false)
    (h : form.fields.get? spec.name = none ∨ form.fields.get? spec.name = some .null) :
    form.text spec = .ok (spec.rereadText none) := by
  unfold text
  rw [supplied_of_left_out h, hreq]
  rfl

theorem text_rereadText (hreq : spec.required = false) {s : Option String}
    (h : form.fields.get? spec.name = s.map .text) (htakes : spec.TakesText s) :
    form.text spec = .ok (spec.rereadText s) := by
  cases s with
  | none => exact text_of_left_out hreq (.inl h)
  | some s => rw [text_of_get? h, if_pos htakes]

theorem takesText_of_text {s : Option String}
    (h : form.fields.get? spec.name = s.map .text) {setting : Setting String}
    (htext : form.text spec = .ok setting) : spec.TakesText s := by
  cases s with
  | none => trivial
  | some s =>
    by_cases htakes : spec.TakesText (some s)
    · exact htakes
    · rw [text_of_get? h, if_neg htakes] at htext
      cases htext

theorem items_of_written {α : Type} {read : String → Value → Except Fault α} {vs : List Value}
    (h : form.fields.get? spec.name = some (.list vs)) :
    form.items spec read = Indexed.traverse (fun i v => read (form.itemPath spec i) v) vs := by
  rw [items, supplied_of_get? h Value.noConfusion]

end Form

/-! ## Access rules -/

namespace Restriction

/-- What is written for an access rule. -/
def slots (rule : Restriction) : List (FieldSpec × Option Value) :=
  [(Schema.ipAddress, some (.text rule.ipAddress)),
    (Schema.subnetMask, rule.subnetMask.value?.map .text)]

/-- The access rule that comes back. -/
def reread (rule : Restriction) : Restriction :=
  ⟨rule.ipAddress, Schema.subnetMask.rereadText rule.subnetMask.value?⟩

/-- A mask is read back as it is, a blank one too. -/
theorem reread_of_value? {rule : Restriction} {m : String} (h : rule.subnetMask.value? = some m) :
    rule.reread = ⟨rule.ipAddress, .given m⟩ := by
  have hkept : ¬ (m = "" ∧ Schema.subnetMask.blankIsUnset = true) := fun h => by cases h.2
  rw [reread, h, FieldSpec.rereadText, if_neg hkept]

theorem document_eq (rule : Restriction) : rule.document = .object (Fields.ofSlots rule.slots) := by
  unfold document slots
  cases rule.subnetMask.value? with
  | none => rfl
  | some m => rfl

/-- The keys of an access rule are in order as they are written. -/
theorem document_ordered (rule : Restriction) : rule.document.ordered = rule.document := by
  have hlt : ¬ Schema.subnetMask.name < Schema.ipAddress.name := by decide
  have hne : ¬ Schema.subnetMask.name = Schema.ipAddress.name := by decide
  unfold document
  cases rule.subnetMask.value? with
  | none => simp [Value.ordered, Value.orderedFields, Fields.ofAssignments, Fields.insert]
  | some m =>
    simp [Value.ordered, Value.orderedFields, Fields.ofAssignments, Fields.insert, hlt, hne]

theorem slotNames_nodup (rule : Restriction) : (Fields.slotNames rule.slots).Nodup := by
  show [Schema.ipAddress.name, Schema.subnetMask.name].Nodup
  decide

/-- **Reading a written access rule** gives it back as `reread`, unless that cannot be sent. -/
theorem decode_document (path : String) (rule : Restriction) :
    decode path rule.document =
      match rule.reread.cidr with
      | .ok _ => .ok rule.reread
      | .error fault => .error (.within path fault) := by
  have hholds := Fields.holds_ofSlots rule.slotNames_nodup
  have hdeclared : Form.undeclared? Schema.ipRestriction _ = none :=
    Form.undeclared?_of_holds hholds
  have hform := Form.ofValue_eq_ok_iff.mpr
    ⟨_, rule.document_eq, hdeclared, (rfl : _ = Form.mk path (Fields.ofSlots rule.slots))⟩
  have hip : Form.requiredText ⟨path, Fields.ofSlots rule.slots⟩ Schema.ipAddress
      = .ok rule.ipAddress := by
    unfold Form.requiredText
    rw [Form.text_of_get? (hholds.at 0 rfl), if_pos (FieldSpec.takesText_of_open rfl _)]
    simp [FieldSpec.rereadText, Schema.ipAddress]
  have hmask : Form.text ⟨path, Fields.ofSlots rule.slots⟩ Schema.subnetMask
      = .ok rule.reread.subnetMask :=
    Form.text_rereadText rfl (hholds.at 1 rfl) (FieldSpec.takesText_of_open rfl _)
  have hreread : rule.reread = ⟨rule.ipAddress, rule.reread.subnetMask⟩ := rfl
  unfold decode
  simp only [bind, Except.bind, hform, hip, hmask, ← hreread]
  cases rule.reread.cidr with
  | ok c => rfl
  | error fault => rfl

end Restriction

/-! ## Blocks -/

namespace Block

/-- What is written for a block. -/
def slots (block : Block) : List (FieldSpec × Option Value) :=
  [(Schema.alwaysOn, block.alwaysOn.value?.map .bool),
    (Schema.defaultDocuments, some (.list (block.defaultDocuments.map .text))),
    (Schema.dotnetFrameworkVersion, block.dotnetFrameworkVersion.value?.map .text),
    (Schema.http2Enabled, block.http2Enabled.value?.map .bool),
    (Schema.ipRestrictions, some (.list (block.ipRestriction.map Restriction.document))),
    (Schema.javaVersion, block.javaVersion.value?.map .text),
    (Schema.javaContainer, block.javaContainer.value?.map .text),
    (Schema.javaContainerVersion, block.javaContainerVersion.value?.map .text),
    (Schema.localMysqlEnabled, block.localMysqlEnabled.value?.map .bool),
    (Schema.managedPipelineMode, block.managedPipelineMode.value?.map .text),
    (Schema.phpVersion, block.phpVersion.value?.map .text),
    (Schema.pythonVersion, block.pythonVersion.value?.map .text),
    (Schema.remoteDebuggingEnabled, block.remoteDebuggingEnabled.value?.map .bool),
    (Schema.remoteDebuggingVersion, block.remoteDebuggingVersion.value?.map .text),
    (Schema.scmType, block.scmType.value?.map .text),
    (Schema.use32BitWorkerProcess, block.use32BitWorkerProcess.value?.map .bool),
    (Schema.websocketsEnabled, block.websocketsEnabled.value?.map .bool),
    (Schema.ftpsState, block.ftpsState.value?.map .text),
    (Schema.linuxFxVersion, block.linuxFxVersion.value?.map .text),
    (Schema.minTlsVersion, block.minTlsVersion.value?.map .text),
    (Schema.virtualNetworkName, block.virtualNetworkName.value?.map .text)]

theorem slotNames_nodup (block : Block) : (Fields.slotNames block.slots).Nodup := by
  show (Schema.siteConfig.map FieldSpec.name).Nodup
  decide

theorem flagField_eq (spec : FieldSpec) (setting : Setting Bool) :
    flagField spec setting = Fields.ofSlots [(spec, setting.value?.map .bool)] := by
  unfold flagField
  cases setting.value? with
  | none => rfl
  | some b => rfl

theorem textField_eq (spec : FieldSpec) (setting : Setting String) :
    textField spec setting = Fields.ofSlots [(spec, setting.value?.map .text)] := by
  unfold textField
  cases setting.value? with
  | none => rfl
  | some s => rfl

theorem fields_eq (block : Block) : block.fields = Fields.ofSlots block.slots := by
  have hlist : ∀ (spec : FieldSpec) (vs : List Value),
      [(spec.name, Value.list vs)] = Fields.ofSlots [(spec, some (.list vs))] := fun _ _ => rfl
  unfold fields slots
  simp only [flagField_eq, textField_eq, hlist, Fields.ofSlots, ← List.filterMap_append,
    List.cons_append, List.nil_append]

/-- The block that comes back. -/
def reread (block : Block) : Block where
  alwaysOn := .resolve block.alwaysOn.value? Schema.alwaysOn.presetBool?
  defaultDocuments := block.defaultDocuments
  dotnetFrameworkVersion :=
    Schema.dotnetFrameworkVersion.rereadText block.dotnetFrameworkVersion.value?
  http2Enabled := .resolve block.http2Enabled.value? Schema.http2Enabled.presetBool?
  ipRestriction := block.ipRestriction.map Restriction.reread
  javaVersion := Schema.javaVersion.rereadText block.javaVersion.value?
  javaContainer := Schema.javaContainer.rereadText block.javaContainer.value?
  javaContainerVersion := Schema.javaContainerVersion.rereadText block.javaContainerVersion.value?
  localMysqlEnabled := .resolve block.localMysqlEnabled.value? Schema.localMysqlEnabled.presetBool?
  managedPipelineMode := Schema.managedPipelineMode.rereadText block.managedPipelineMode.value?
  phpVersion := Schema.phpVersion.rereadText block.phpVersion.value?
  pythonVersion := Schema.pythonVersion.rereadText block.pythonVersion.value?
  remoteDebuggingEnabled :=
    .resolve block.remoteDebuggingEnabled.value? Schema.remoteDebuggingEnabled.presetBool?
  remoteDebuggingVersion :=
    Schema.remoteDebuggingVersion.rereadText block.remoteDebuggingVersion.value?
  scmType := Schema.scmType.rereadText block.scmType.value?
  use32BitWorkerProcess :=
    .resolve block.use32BitWorkerProcess.value? Schema.use32BitWorkerProcess.presetBool?
  websocketsEnabled := .resolve block.websocketsEnabled.value? Schema.websocketsEnabled.presetBool?
  ftpsState := Schema.ftpsState.rereadText block.ftpsState.value?
  linuxFxVersion := Schema.linuxFxVersion.rereadText block.linuxFxVersion.value?
  minTlsVersion := Schema.minTlsVersion.rereadText block.minTlsVersion.value?
  virtualNetworkName := Schema.virtualNetworkName.rereadText block.virtualNetworkName.value?

/-- Every value that the block has can be written, and every access rule that comes back can be
sent. -/
structure Takes (block : Block) : Prop where
  dotnetFrameworkVersion :
    Schema.dotnetFrameworkVersion.TakesText block.dotnetFrameworkVersion.value?
  ipRestriction : ∀ rule ∈ block.ipRestriction, ∃ c, rule.reread.cidr = .ok c
  javaVersion : Schema.javaVersion.TakesText block.javaVersion.value?
  javaContainer : Schema.javaContainer.TakesText block.javaContainer.value?
  javaContainerVersion : Schema.javaContainerVersion.TakesText block.javaContainerVersion.value?
  managedPipelineMode : Schema.managedPipelineMode.TakesText block.managedPipelineMode.value?
  phpVersion : Schema.phpVersion.TakesText block.phpVersion.value?
  pythonVersion : Schema.pythonVersion.TakesText block.pythonVersion.value?
  remoteDebuggingVersion :
    Schema.remoteDebuggingVersion.TakesText block.remoteDebuggingVersion.value?
  scmType : Schema.scmType.TakesText block.scmType.value?
  ftpsState : Schema.ftpsState.TakesText block.ftpsState.value?
  linuxFxVersion : Schema.linuxFxVersion.TakesText block.linuxFxVersion.value?
  minTlsVersion : Schema.minTlsVersion.TakesText block.minTlsVersion.value?
  virtualNetworkName : Schema.virtualNetworkName.TakesText block.virtualNetworkName.value?

theorem traverse_listedText {path : Nat → String} {names : List String} :
    Indexed.traverse (fun i v => Form.listedText (path i) v) (names.map .text) = .ok names := by
  rw [Indexed.traverse_map]
  refine (Indexed.traverse_eq_map (g := id) fun _ _ _ => rfl).trans ?_
  rw [List.map_id]

theorem traverse_documents {path : Nat → String} {rules : List Restriction}
    (h : ∀ rule ∈ rules, ∃ c, rule.reread.cidr = .ok c) :
    Indexed.traverse (fun i v => Restriction.decode (path i) v) (rules.map Restriction.document)
      = .ok (rules.map Restriction.reread) := by
  rw [Indexed.traverse_map]
  refine Indexed.traverse_eq_map fun i rule hrule => ?_
  obtain ⟨c, hc⟩ := h rule (List.mem_of_getElem? hrule)
  rw [Restriction.decode_document, hc]

theorem cidr_of_traverse {path : Nat → String} {rules read : List Restriction}
    (h : Indexed.traverse (fun i v => Restriction.decode (path i) v)
      (rules.map Restriction.document) = .ok read) :
    ∀ rule ∈ rules, ∃ c, rule.reread.cidr = .ok c := by
  intro rule hrule
  rw [Indexed.traverse_map] at h
  obtain ⟨i, hi⟩ := List.mem_iff_getElem?.mp hrule
  obtain ⟨rule', -, hdecode⟩ := ((Indexed.traverse_eq_ok_iff _ _ _).mp h).2 i rule hi
  rw [Restriction.decode_document] at hdecode
  cases hcidr : rule.reread.cidr with
  | ok c => exact ⟨c, rfl⟩
  | error fault =>
    rw [hcidr] at hdecode
    cases hdecode

theorem Takes.readFrom {path : String} {fields : Fields} {block : Block} (h : block.Takes)
    (hholds : fields.Holds block.slots) : ReadFrom ⟨path, fields⟩ block.reread where
  alwaysOn := Form.flag_of_written rfl (hholds.at 0 rfl)
  defaultDocuments := (Form.items_of_written (hholds.at 1 rfl)).trans traverse_listedText
  dotnetFrameworkVersion := Form.text_rereadText rfl (hholds.at 2 rfl) h.dotnetFrameworkVersion
  http2Enabled := Form.flag_of_written rfl (hholds.at 3 rfl)
  ipRestriction :=
    (Form.items_of_written (hholds.at 4 rfl)).trans (traverse_documents h.ipRestriction)
  javaVersion := Form.text_rereadText rfl (hholds.at 5 rfl) h.javaVersion
  javaContainer := Form.text_rereadText rfl (hholds.at 6 rfl) h.javaContainer
  javaContainerVersion := Form.text_rereadText rfl (hholds.at 7 rfl) h.javaContainerVersion
  localMysqlEnabled := Form.flag_of_written rfl (hholds.at 8 rfl)
  managedPipelineMode := Form.text_rereadText rfl (hholds.at 9 rfl) h.managedPipelineMode
  phpVersion := Form.text_rereadText rfl (hholds.at 10 rfl) h.phpVersion
  pythonVersion := Form.text_rereadText rfl (hholds.at 11 rfl) h.pythonVersion
  remoteDebuggingEnabled := Form.flag_of_written rfl (hholds.at 12 rfl)
  remoteDebuggingVersion := Form.text_rereadText rfl (hholds.at 13 rfl) h.remoteDebuggingVersion
  scmType := Form.text_rereadText rfl (hholds.at 14 rfl) h.scmType
  use32BitWorkerProcess := Form.flag_of_written rfl (hholds.at 15 rfl)
  websocketsEnabled := Form.flag_of_written rfl (hholds.at 16 rfl)
  ftpsState := Form.text_rereadText rfl (hholds.at 17 rfl) h.ftpsState
  linuxFxVersion := Form.text_rereadText rfl (hholds.at 18 rfl) h.linuxFxVersion
  minTlsVersion := Form.text_rereadText rfl (hholds.at 19 rfl) h.minTlsVersion
  virtualNetworkName := Form.text_rereadText rfl (hholds.at 20 rfl) h.virtualNetworkName

theorem ReadFrom.takes {path : String} {fields : Fields} {block again : Block}
    (h : ReadFrom ⟨path, fields⟩ again) (hholds : fields.Holds block.slots) : block.Takes where
  dotnetFrameworkVersion := Form.takesText_of_text (hholds.at 2 rfl) h.dotnetFrameworkVersion
  ipRestriction :=
    cidr_of_traverse ((Form.items_of_written (hholds.at 4 rfl)).symm.trans h.ipRestriction)
  javaVersion := Form.takesText_of_text (hholds.at 5 rfl) h.javaVersion
  javaContainer := Form.takesText_of_text (hholds.at 6 rfl) h.javaContainer
  javaContainerVersion := Form.takesText_of_text (hholds.at 7 rfl) h.javaContainerVersion
  managedPipelineMode := Form.takesText_of_text (hholds.at 9 rfl) h.managedPipelineMode
  phpVersion := Form.takesText_of_text (hholds.at 10 rfl) h.phpVersion
  pythonVersion := Form.takesText_of_text (hholds.at 11 rfl) h.pythonVersion
  remoteDebuggingVersion := Form.takesText_of_text (hholds.at 13 rfl) h.remoteDebuggingVersion
  scmType := Form.takesText_of_text (hholds.at 14 rfl) h.scmType
  ftpsState := Form.takesText_of_text (hholds.at 17 rfl) h.ftpsState
  linuxFxVersion := Form.takesText_of_text (hholds.at 18 rfl) h.linuxFxVersion
  minTlsVersion := Form.takesText_of_text (hholds.at 19 rfl) h.minTlsVersion
  virtualNetworkName := Form.takesText_of_text (hholds.at 20 rfl) h.virtualNetworkName

/-- Only the block's own keys are put in order, what stands under them is in order already. -/
theorem ordered_of_mem_slots (block : Block) :
    ∀ slot ∈ block.slots, ∀ v ∈ slot.2, v.ordered = v := by
  have hplain : ∀ s, (Value.text s).ordered = .text s := fun s => by simp only [Value.ordered]
  have hflag : ∀ b? : Option Bool, ∀ v ∈ b?.map Value.bool, v.ordered = v :=
    Value.ordered_optional fun b => by simp only [Value.ordered]
  have htext : ∀ s? : Option String, ∀ v ∈ s?.map Value.text, v.ordered = v :=
    Value.ordered_optional hplain
  unfold slots
  simp only [List.forall_mem_cons]
  exact ⟨hflag _, Value.ordered_listed hplain _, htext _, hflag _,
    Value.ordered_listed Restriction.document_ordered _, htext _, htext _, htext _, hflag _,
    htext _, htext _, htext _, hflag _, htext _, htext _, hflag _, hflag _, htext _, htext _,
    htext _, htext _, fun _ h => absurd h List.not_mem_nil⟩

/-- A written block is an object that holds what is written for its slots. -/
theorem exists_holds_slots (block : Block) :
    ∃ fields : Fields, block.document.ordered = .object fields ∧ fields.Holds block.slots := by
  refine ⟨_, ?_, Fields.holds_ordered block.slotNames_nodup block.ordered_of_mem_slots⟩
  rw [document, Value.ordered, fields_eq]

/-- **Reading a written block** gives it back as `reread`, if all that it has can be written. -/
theorem decodeOne_document_ordered {block again : Block} :
    decodeOne block.document.ordered = .ok again ↔ block.Takes ∧ again = block.reread := by
  obtain ⟨fields, hdocument, hholds⟩ := block.exists_holds_slots
  have hdeclared : Form.undeclared? Schema.siteConfig fields = none :=
    Form.undeclared?_of_holds hholds
  have hback : block.Takes → decodeOne block.document.ordered = .ok block.reread := fun htakes =>
    decodeOne_eq_ok_iff.mpr ⟨fields, hdocument, hdeclared, htakes.readFrom hholds⟩
  constructor
  · intro h
    obtain ⟨fields', hfields, -, hread⟩ := decodeOne_eq_ok_iff.mp h
    cases hdocument.symm.trans hfields
    have htakes := hread.takes hholds
    refine ⟨htakes, ?_⟩
    rw [hback htakes] at h
    exact (Except.ok.inj h).symm
  · rintro ⟨htakes, rfl⟩
    exact hback htakes

theorem decode_documents_singleton (block : Block) :
    decode (documents [block]).ordered
      = (decodeOne block.document.ordered).map fun again => [again] := by
  rw [documents, Value.ordered_list]
  rfl

/-- The block of a document with one block comes back as `reread`. -/
theorem decode_documents_singleton_eq_ok_iff {block : Block} {again : List Block} :
    decode (documents [block]).ordered = .ok again ↔ block.Takes ∧ again = [block.reread] := by
  rw [decode_documents_singleton, Steps.map_eq_ok]
  simp only [decodeOne_document_ordered]
  constructor
  · rintro ⟨one, ⟨htakes, rfl⟩, rfl⟩
    exact ⟨htakes, rfl⟩
  · rintro ⟨htakes, rfl⟩
    exact ⟨_, ⟨htakes, rfl⟩, rfl⟩

/-- The path to an entry of the list of access rules. -/
def entryPath (i : Nat) : String :=
  Form.itemPath ⟨rootPath, []⟩ Schema.ipRestrictions i

/-- A fault in an access rule is reported before those in the fields behind the list. -/
theorem decodeOne_document_eq_error {block : Block} {fault : Fault}
    (hversion : Schema.dotnetFrameworkVersion.TakesText block.dotnetFrameworkVersion.value?)
    (hrules : Indexed.traverse (fun i v => Restriction.decode (entryPath i) v)
      (block.ipRestriction.map Restriction.document) = .error fault) :
    decodeOne block.document.ordered = .error fault := by
  obtain ⟨fields, hdocument, hholds⟩ := block.exists_holds_slots
  have hdeclared : Form.undeclared? Schema.siteConfig fields = none :=
    Form.undeclared?_of_holds hholds
  exact decodeOne_eq_error (Form.ofValue_eq_ok_iff.mpr ⟨fields, hdocument, hdeclared, rfl⟩)
    (Form.flag_of_written rfl (hholds.at 0 rfl))
    ((Form.items_of_written (hholds.at 1 rfl)).trans traverse_listedText)
    (Form.text_rereadText rfl (hholds.at 2 rfl) hversion)
    (Form.flag_of_written rfl (hholds.at 3 rfl))
    ((Form.items_of_written (hholds.at 4 rfl)).trans hrules)

end Block

/-! ## Settings that are given -/

/-- The access rule with its mask given. -/
def Restriction.settled (rule : Restriction) : Restriction :=
  ⟨rule.ipAddress, rule.subnetMask.settled⟩

/-- The block with all its values given. -/
def Block.settled (block : Block) : Block where
  alwaysOn := block.alwaysOn.settled
  defaultDocuments := block.defaultDocuments
  dotnetFrameworkVersion := block.dotnetFrameworkVersion.settled
  http2Enabled := block.http2Enabled.settled
  ipRestriction := block.ipRestriction.map Restriction.settled
  javaVersion := block.javaVersion.settled
  javaContainer := block.javaContainer.settled
  javaContainerVersion := block.javaContainerVersion.settled
  localMysqlEnabled := block.localMysqlEnabled.settled
  managedPipelineMode := block.managedPipelineMode.settled
  phpVersion := block.phpVersion.settled
  pythonVersion := block.pythonVersion.settled
  remoteDebuggingEnabled := block.remoteDebuggingEnabled.settled
  remoteDebuggingVersion := block.remoteDebuggingVersion.settled
  scmType := block.scmType.settled
  use32BitWorkerProcess := block.use32BitWorkerProcess.settled
  websocketsEnabled := block.websocketsEnabled.settled
  ftpsState := block.ftpsState.settled
  linuxFxVersion := block.linuxFxVersion.settled
  minTlsVersion := block.minTlsVersion.settled
  virtualNetworkName := block.virtualNetworkName.settled

end SiteConfig
