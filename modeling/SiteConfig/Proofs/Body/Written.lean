import SiteConfig.Proofs.Body.Reading

/-!
# Bodies that are written and read again

A body in normal form comes back from its document unchanged: what is absent stays absent, a zero
value stays a zero value, and an absent body is not confused with an empty one. Without the normal
form this fails: a text that its vocabulary knows comes back as the value it stands for.

- `Body.written`: what is written for a slot.
- `Body.read_document_eq_iff`: a body is read back exactly if it is in normal form.
- `Body.read_documentOption`: the main statement, for every optional body in normal form.
-/

namespace SiteConfig

/-! ## One slot -/

namespace Body

theorem takes_flag (b? : Option Bool) : Takes readFlag (b?.map .bool) none b? := by
  cases b? with
  | none => rfl
  | some b => rfl

theorem takes_text (s? : Option String) : Takes readText (s?.map .text) none s? := by
  cases s? with
  | none => rfl
  | some s => rfl

theorem readList_map {α : Type} {f : α → Value} {read : Value → Except Misfit α}
    (h : ∀ a, read (f a) = .ok a) (as : List α) : readList read (as.map f) = .ok as := by
  induction as with
  | nil => rfl
  | cons a rest ih =>
    rw [List.map_cons, readList, h a, ih]
    rfl

theorem takes_list {α : Type} {f : α → Value} {read : Value → Except Misfit α}
    (h : ∀ a, read (f a) = .ok a) (as? : Option (List α)) :
    Takes (readListOption read) (as?.map fun as => .list (as.map f)) none as? := by
  cases as? with
  | none => rfl
  | some as =>
    show (readList read (as.map f)).map some = .ok (some as)
    rw [readList_map h]
    rfl

/-- What is written for an enumeration: nothing for the zero value. -/
def writtenEnum {E : Type} [Vocabulary E] [DecidableEq E] (x : Reported E) : Option Value :=
  if x = .zero then none else some (.text x.text)

theorem takes_enum {E : Type} [Vocabulary E] [Vocabulary.Lawful E] [DecidableEq E]
    {x : Reported E} (h : x.IsNormal) : Takes (Slot.readEnum E) (writtenEnum x) .zero x := by
  unfold writtenEnum
  by_cases hzero : x = .zero
  · rw [if_pos hzero]
    exact hzero
  · rw [if_neg hzero]
    exact congrArg Except.ok (Reported.read_text h)

end Body

/-! ## Access rules -/

namespace Rule

/-- What is written for a slot of an access rule. -/
def written (rule : Rule) : Slot → Option Value
  | .ipAddress => rule.ipAddress.map .text
  | .subnetMask => rule.subnetMask.map .text

theorem document_eq (rule : Rule) :
    rule.document = .object (Fields.ofItems layout.key rule.written [.ipAddress, .subnetMask]) := by
  obtain ⟨ip, mask⟩ := rule
  cases ip with
  | none => cases mask <;> rfl
  | some ip => cases mask <;> rfl

/-- The keys of an access rule are in order as they are written. -/
theorem document_ordered (rule : Rule) : rule.document.ordered = rule.document := by
  have hlt : ¬ "subnetMask" < "ipAddress" := by decide
  obtain ⟨ip, mask⟩ := rule
  unfold document
  cases ip <;> cases mask <;>
    simp [Body.textField, Value.ordered, Value.orderedFields, Fields.ofAssignments, Fields.insert,
      hlt]

theorem takes_written (rule : Rule) (s : Slot) : layout.Takes s (rule.written s) {} rule := by
  cases s with
  | ipAddress => exact Body.takes_text rule.ipAddress
  | subnetMask => exact Body.takes_text rule.subnetMask

/-- **A written access rule is read back.** -/
theorem readRule_document (rule : Rule) : Body.readRule rule.document = .ok rule := by
  rw [document_eq]
  exact (Layout.readFields_ofItems (fun s => by cases s <;> decide) (by decide)
    rule.takes_written).1

end Rule

/-! ## Bodies -/

namespace Body

/-- All slots, in the order in which they are written. -/
def Slot.all : List Slot :=
  [.alwaysOn, .defaultDocuments, .netFrameworkVersion, .javaVersion, .javaContainer,
    .javaContainerVersion, .linuxFxVersion, .http20Enabled, .ipSecurityRestrictions,
    .localMySqlEnabled, .managedPipelineMode, .phpVersion, .pythonVersion,
    .remoteDebuggingEnabled, .remoteDebuggingVersion, .use32BitWorkerProcess,
    .webSocketsEnabled, .scmType, .ftpsState, .minTlsVersion, .vnetName]

theorem Slot.mem_all (s : Slot) : s ∈ all := by
  cases s <;> decide

theorem Slot.nodup_all : all.Nodup := by
  decide

/-- What is written for a slot. -/
def written (body : Body) : Slot → Option Value
  | .alwaysOn => body.alwaysOn.map .bool
  | .defaultDocuments => body.defaultDocuments.map fun names => .list (names.map .text)
  | .netFrameworkVersion => body.netFrameworkVersion.map .text
  | .javaVersion => body.javaVersion.map .text
  | .javaContainer => body.javaContainer.map .text
  | .javaContainerVersion => body.javaContainerVersion.map .text
  | .linuxFxVersion => body.linuxFxVersion.map .text
  | .http20Enabled => body.http20Enabled.map .bool
  | .ipSecurityRestrictions =>
    body.ipSecurityRestrictions.map fun rules => .list (rules.map Rule.document)
  | .localMySqlEnabled => body.localMySqlEnabled.map .bool
  | .managedPipelineMode => writtenEnum body.managedPipelineMode
  | .phpVersion => body.phpVersion.map .text
  | .pythonVersion => body.pythonVersion.map .text
  | .remoteDebuggingEnabled => body.remoteDebuggingEnabled.map .bool
  | .remoteDebuggingVersion => body.remoteDebuggingVersion.map .text
  | .use32BitWorkerProcess => body.use32BitWorkerProcess.map .bool
  | .webSocketsEnabled => body.webSocketsEnabled.map .bool
  | .scmType => writtenEnum body.scmType
  | .ftpsState => writtenEnum body.ftpsState
  | .minTlsVersion => writtenEnum body.minTlsVersion
  | .vnetName => body.vnetName.map .text

theorem flagField_eq (key : String) (b? : Option Bool) :
    flagField key b? = ((b?.map Value.bool).map fun v => (key, v)).toList := by
  cases b? with
  | none => rfl
  | some b => rfl

theorem textField_eq (key : String) (s? : Option String) :
    textField key s? = ((s?.map Value.text).map fun v => (key, v)).toList := by
  cases s? with
  | none => rfl
  | some s => rfl

theorem enumField_eq {E : Type} [Vocabulary E] [DecidableEq E] (key : String) (x : Reported E) :
    enumField key x = ((writtenEnum x).map fun v => (key, v)).toList := by
  unfold enumField writtenEnum
  split
  · rfl
  · rfl

theorem fields_eq (body : Body) :
    body.fields = Fields.ofItems Slot.key body.written Slot.all := by
  unfold fields
  simp only [flagField_eq, textField_eq, enumField_eq, Slot.all, Fields.ofItems_cons,
    List.append_assoc, written, Slot.key]
  simp only [Fields.ofItems, List.filterMap_nil, List.append_nil]
  -- The two lists are what is left to compare, there or absent.
  cases body.defaultDocuments with
  | none => cases body.ipSecurityRestrictions <;> rfl
  | some names => cases body.ipSecurityRestrictions <;> rfl

theorem takes_written {body : Body} (h : body.IsNormal) (s : Slot) :
    layout.Takes s (body.written s) {} body := by
  cases s with
  | defaultDocuments => exact takes_list (f := .text) (fun _ => rfl) body.defaultDocuments
  | ipSecurityRestrictions => exact takes_list Rule.readRule_document body.ipSecurityRestrictions
  | managedPipelineMode => exact takes_enum h.managedPipelineMode
  | scmType => exact takes_enum h.scmType
  | ftpsState => exact takes_enum h.ftpsState
  | minTlsVersion => exact takes_enum h.minTlsVersion
  | alwaysOn | http20Enabled | localMySqlEnabled | remoteDebuggingEnabled | use32BitWorkerProcess
  | webSocketsEnabled => exact takes_flag _
  | netFrameworkVersion | javaVersion | javaContainer | javaContainerVersion | linuxFxVersion
  | phpVersion | pythonVersion | remoteDebuggingVersion | vnetName => exact takes_text _

/-- Only the body's own keys are put in order, what stands under them is in order already. -/
theorem ordered_of_mem_written (body : Body) (s : Slot) :
    ∀ v ∈ body.written s, v.ordered = v := by
  have hplain : ∀ s, (Value.text s).ordered = .text s := fun s => by simp only [Value.ordered]
  have hflag : ∀ b? : Option Bool, ∀ v ∈ b?.map Value.bool, v.ordered = v :=
    Value.ordered_optional fun b => by simp only [Value.ordered]
  have htext : ∀ s? : Option String, ∀ v ∈ s?.map Value.text, v.ordered = v :=
    Value.ordered_optional hplain
  have hlist : ∀ {α : Type} {f : α → Value}, (∀ a, (f a).ordered = f a) →
      ∀ as? : Option (List α), ∀ v ∈ as?.map fun as => Value.list (as.map f), v.ordered = v := by
    intro α f hf as? v hv
    obtain ⟨as, -, rfl⟩ := Option.map_eq_some_iff.mp hv
    exact Value.ordered_listed hf as _ rfl
  have henum : ∀ {E : Type} [Vocabulary E] [DecidableEq E] (x : Reported E),
      ∀ v ∈ writtenEnum x, v.ordered = v := by
    intro E _ _ x v hv
    unfold writtenEnum at hv
    split at hv
    · cases hv
    · cases hv
      exact hplain x.text
  cases s with
  | defaultDocuments => exact hlist hplain _
  | ipSecurityRestrictions => exact hlist Rule.document_ordered _
  | managedPipelineMode | scmType | ftpsState | minTlsVersion => exact henum _
  | alwaysOn | http20Enabled | localMySqlEnabled | remoteDebuggingEnabled | use32BitWorkerProcess
  | webSocketsEnabled => exact hflag _
  | netFrameworkVersion | javaVersion | javaContainer | javaContainerVersion | linuxFxVersion
  | phpVersion | pythonVersion | remoteDebuggingVersion | vnetName => exact htext _

theorem readOne_object (fields : Fields) :
    readOne (.object fields) = readFields layout.step {} fields :=
  rfl

theorem read_object {fields : Fields} {body : Body} (h : readOne (.object fields) = .ok body) :
    read (.object fields) = .ok (some body) := by
  show (readOne (.object fields)).map some = .ok (some body)
  rw [h]
  rfl

theorem document_ordered_eq (body : Body) :
    body.document.ordered
      = .object (Fields.ofAssignments (Value.orderedFields body.fields)) := by
  rw [document, Value.ordered]

/-- **A body in normal form is read back**, whether its keys stand as they are written or in
order. -/
theorem read_document {body : Body} (h : body.IsNormal) :
    read body.document = .ok (some body) ∧ read body.document.ordered = .ok (some body) := by
  obtain ⟨hplain, hordered⟩ :=
    Layout.readFields_ofItems Slot.mem_all Slot.nodup_all (takes_written h)
  rw [document_ordered_eq, document]
  constructor
  · apply read_object
    rw [readOne_object, fields_eq]
    exact hplain
  · apply read_object
    rw [readOne_object, fields_eq]
    exact hordered body.ordered_of_mem_written

/-- Only a body in normal form is read back. -/
theorem read_document_eq_iff {body : Body} :
    read body.document = .ok (some body) ↔ body.IsNormal :=
  ⟨isNormal_of_read, fun h => (read_document h).1⟩

/-- An optional body in normal form is read back: absent if it is absent. -/
theorem read_documentOption {body? : Option Body} (h : ∀ body ∈ body?, body.IsNormal) :
    read (documentOption body?) = .ok body? ∧ read (documentOption body?).ordered = .ok body? := by
  cases body? with
  | none => exact ⟨rfl, rfl⟩
  | some body => exact read_document (h body rfl)

end Body

end SiteConfig
