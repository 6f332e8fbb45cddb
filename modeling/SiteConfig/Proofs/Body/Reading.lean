import SiteConfig.Body.Read
import SiteConfig.Proofs.Fields
import SiteConfig.Proofs.Steps

/-!
# What reading a body establishes

Bodies and access rules are records that are read field by field, in the order of the document.
Where no key comes twice the order does not matter: every slot of the record holds what its reader
takes from the value under its key.

- `Layout`: a record that is read this way: its slots, their keys, readers and places.
- `Layout.readFields_eq_ok_iff`: the record that comes out, slot by slot; `Body.layout` and
  `Rule.layout` are the two records of the service. `Layout.exists_readFields_iff`: a record can be
  read exactly if each of its slots can.
- `Body.IsNormal`: no enumeration holds a text that its vocabulary knows; `Body.AllKnown`: no
  enumeration holds a text at all.
  `Body.isNormal_of_read`: every body that is read is of this kind.
-/

namespace SiteConfig

/-! ## Records that are read slot by slot -/

/-- A reader takes a content from a value; where there is no value, the content stays. -/
def Body.Takes {γ : Type} (read : Value → Except Misfit γ) (v? : Option Value)
    (before after : γ) : Prop :=
  match v? with
  | some v => read v = .ok after
  | none => after = before

/-- A slot takes one content at most. -/
theorem Body.Takes.unique {γ : Type} {read : Value → Except Misfit γ} {v? : Option Value}
    {start x y : γ} (hx : Takes read v? start x) (hy : Takes read v? start y) : x = y := by
  cases v? with
  | none => exact hx.trans (Eq.symm hy)
  | some v => exact Except.ok.inj (hx.symm.trans hy)

/-- A record that is read field by field. Each slot has a key, a reader and a place of its own in
the record, and the slots make up the whole record. The step takes the field of a slot to its place
and skips every other field. -/
structure Layout (α Slot : Type) where
  Content : Slot → Type
  key : Slot → String
  read : (s : Slot) → Value → Except Misfit (Content s)
  get : (s : Slot) → α → Content s
  set : (s : Slot) → Content s → α → α
  step : α → String → Value → Except Misfit α
  key_injective : ∀ s t, key s = key t → s = t
  get_set_self : ∀ s c a, get s (set s c a) = c
  get_set_of_ne : ∀ s t c a, s ≠ t → get t (set s c a) = get t a
  eq_of_get_eq : ∀ a b, (∀ s, get s a = get s b) → a = b
  step_slot : ∀ s a v, step a (key s) v = (read s v).map fun c => set s c a
  step_other : ∀ a k v, (∀ s, key s ≠ k) → step a k v = .ok a

namespace Layout

variable {α Slot : Type} (layout : Layout α Slot)

/-- The slot holds in `b` what its reader takes from a value, or what it holds in `a` if there is
no value. -/
def Takes (s : Slot) (v? : Option Value) (a b : α) : Prop :=
  Body.Takes (layout.read s) v? (layout.get s a) (layout.get s b)

variable {layout}

theorem takes_set_self {s : Slot} {c : layout.Content s} {a b : α} :
    layout.Takes s none (layout.set s c a) b ↔ layout.get s b = c := by
  rw [Takes, Body.Takes, layout.get_set_self]

theorem takes_set_of_ne {s t : Slot} (h : s ≠ t) {v? : Option Value} {c : layout.Content s}
    {a b : α} : layout.Takes t v? (layout.set s c a) b ↔ layout.Takes t v? a b := by
  unfold Takes
  rw [layout.get_set_of_ne s t c a h]

/-- **Where no key comes twice, a record is read slot by slot**, whatever the order of its
fields. -/
theorem readFields_eq_ok_iff {fields : Fields} (hnodup : fields.keys.Nodup) {a b : α} :
    Body.readFields layout.step a fields = .ok b ↔
      ∀ s, layout.Takes s (fields.get? (layout.key s)) a b := by
  induction fields generalizing a with
  | nil =>
    rw [Body.readFields, Except.ok.injEq]
    constructor
    · rintro rfl s
      rfl
    · intro h
      exact (layout.eq_of_get_eq b a h).symm
  | cons field rest ih =>
    obtain ⟨k, v⟩ := field
    obtain ⟨hk, hrest⟩ := List.nodup_cons.mp hnodup
    rw [Body.readFields, Steps.bind_eq_ok]
    by_cases hslot : ∃ s, layout.key s = k
    · obtain ⟨s, rfl⟩ := hslot
      have hself : Fields.get? ((layout.key s, v) :: rest) (layout.key s) = some v := by
        rw [Fields.get?_cons, if_pos rfl]
      have hother : ∀ t, s ≠ t → Fields.get? ((layout.key s, v) :: rest) (layout.key t)
          = Fields.get? rest (layout.key t) := by
        intro t hne
        rw [Fields.get?_cons, if_neg fun heq => hne (layout.key_injective t s heq).symm]
      -- The rest has no field for this slot, so that it keeps what the step puts there.
      have hgone : Fields.get? rest (layout.key s) = none := by
        cases hget : Fields.get? rest (layout.key s) with
        | none => rfl
        | some w => exact absurd (Fields.mem_keys_iff.mpr ⟨w, hget⟩) hk
      simp only [layout.step_slot, Steps.map_eq_ok, ih hrest]
      constructor
      · rintro ⟨_, ⟨c, hc, rfl⟩, htakes⟩ t
        by_cases hst : s = t
        · subst hst
          have hget : layout.get s b = c := takes_set_self.mp (hgone ▸ htakes s)
          rw [hself, Takes, Body.Takes, hget]
          exact hc
        · rw [hother t hst]
          exact (takes_set_of_ne hst).mp (htakes t)
      · intro htakes
        have hread : layout.Takes s (some v) a b := hself ▸ htakes s
        refine ⟨_, ⟨_, hread, rfl⟩, fun t => ?_⟩
        by_cases hst : s = t
        · subst hst
          rw [hgone]
          exact takes_set_self.mpr rfl
        · exact (takes_set_of_ne hst).mpr (hother t hst ▸ htakes t)
    · have hnone : ∀ s, layout.key s ≠ k := fun s hs => hslot ⟨s, hs⟩
      have hskip : ∀ s, Fields.get? ((k, v) :: rest) (layout.key s)
          = Fields.get? rest (layout.key s) := by
        intro s
        rw [Fields.get?_cons, if_neg (hnone s)]
      simp only [layout.step_other a k v hnone, Except.ok.injEq, exists_eq_left', hskip, ih hrest]

/-- Slots can be filled with any contents, one after the other. -/
theorem exists_get_eq [DecidableEq Slot] (contents : ∀ s, layout.Content s) (a : α)
    (slots : List Slot) : ∃ b, ∀ s ∈ slots, layout.get s b = contents s := by
  induction slots with
  | nil => exact ⟨a, fun s hs => absurd hs List.not_mem_nil⟩
  | cons s rest ih =>
    obtain ⟨b, hb⟩ := ih
    refine ⟨layout.set s (contents s) b, fun t ht => ?_⟩
    by_cases hst : s = t
    · subst hst
      exact layout.get_set_self s _ b
    · rw [layout.get_set_of_ne s t _ b hst]
      exact hb t ((List.mem_cons.mp ht).resolve_left (Ne.symm hst))

/-- **A record can be read exactly if each of its slots can.** -/
theorem exists_readFields_iff [DecidableEq Slot] {slots : List Slot} (hall : ∀ s, s ∈ slots)
    {fields : Fields} (hnodup : fields.keys.Nodup) {a : α} :
    (∃ b, Body.readFields layout.step a fields = .ok b) ↔
      ∀ s, ∃ c, Body.Takes (layout.read s) (fields.get? (layout.key s)) (layout.get s a) c := by
  simp only [readFields_eq_ok_iff hnodup]
  constructor
  · rintro ⟨b, hb⟩ s
    exact ⟨_, hb s⟩
  · intro h
    choose contents hcontents using h
    obtain ⟨b, hb⟩ := exists_get_eq contents a slots
    refine ⟨b, fun s => ?_⟩
    rw [Takes, hb s (hall s)]
    exact hcontents s

/-- Reading gives back a record that is written slot by slot, if each reader takes from what is
written for its slot what the slot holds. The keys can stand as they are written or in order. -/
theorem readFields_ofItems {slots : List Slot} (hall : ∀ s, s ∈ slots) (hnodup : slots.Nodup)
    {written : Slot → Option Value} {a b : α} (htakes : ∀ s, layout.Takes s (written s) a b) :
    Body.readFields layout.step a (Fields.ofItems layout.key written slots) = .ok b ∧
      ((∀ s, ∀ v ∈ written s, v.ordered = v) →
        Body.readFields layout.step a
          (Fields.ofAssignments (Value.orderedFields (Fields.ofItems layout.key written slots)))
          = .ok b) := by
  have hnames : (slots.map layout.key).Nodup :=
    hnodup.map fun s t heq => layout.key_injective s t heq
  have hkeys : (Fields.ofItems layout.key written slots).keys.Nodup :=
    hnames.sublist (Fields.keys_ofItems_sublist slots)
  have hget : ∀ s, (Fields.ofItems layout.key written slots).get? (layout.key s) = written s :=
    fun s => Fields.get?_ofItems hnames (hall s)
  refine ⟨(readFields_eq_ok_iff hkeys).mpr fun s => (hget s).symm ▸ htakes s, fun hplain => ?_⟩
  refine (readFields_eq_ok_iff (Fields.sorted_ofAssignments _).nodup).mpr fun s => ?_
  have hfields : ∀ field ∈ Fields.ofItems layout.key written slots, field.2.ordered = field.2 := by
    intro field hfield
    obtain ⟨t, -, hv, -⟩ := Fields.mem_ofItems.mp hfield
    exact hplain t _ hv
  rw [Fields.get?_ordered hkeys hfields, hget s]
  exact htakes s

/-- What each step preserves, reading preserves, whatever the keys. -/
theorem readFields_induction {P : α → Prop} {step : α → String → Value → Except Misfit α}
    (hstep : ∀ a k v b, P a → step a k v = .ok b → P b) {fields : Fields} {a b : α} (ha : P a)
    (h : Body.readFields step a fields = .ok b) : P b := by
  induction fields generalizing a with
  | nil =>
    rw [Body.readFields, Except.ok.injEq] at h
    exact h ▸ ha
  | cons field rest ih =>
    obtain ⟨k, v⟩ := field
    rw [Body.readFields, Steps.bind_eq_ok] at h
    obtain ⟨c, hc, hrest⟩ := h
    exact ih (hstep a k v c ha hc) hrest

end Layout

/-! ## Access rules -/

namespace Rule

/-- The slots of an access rule, in the order in which they are written. -/
inductive Slot
  | ipAddress
  | subnetMask
  deriving DecidableEq, Repr

/-- How an access rule is read. -/
def layout : Layout Rule Slot where
  Content _ := Option String
  key
    | .ipAddress => "ipAddress"
    | .subnetMask => "subnetMask"
  read _ := Body.readText
  get
    | .ipAddress, rule => rule.ipAddress
    | .subnetMask, rule => rule.subnetMask
  set
    | .ipAddress, x, rule => { rule with ipAddress := x }
    | .subnetMask, x, rule => { rule with subnetMask := x }
  step := Body.readRuleField
  key_injective s t h := by cases s <;> cases t <;> first | rfl | exact absurd h (by decide)
  get_set_self s c a := by cases s <;> rfl
  get_set_of_ne s t c a h := by cases s <;> cases t <;> first | rfl | exact absurd rfl h
  eq_of_get_eq a b h := by
    cases a
    cases b
    cases h .ipAddress
    cases h .subnetMask
    rfl
  step_slot s a v := by cases s <;> rfl
  step_other a k v h := by
    unfold Body.readRuleField
    rw [if_neg (Ne.symm (h .ipAddress)), if_neg (Ne.symm (h .subnetMask))]

end Rule

/-! ## Bodies -/

namespace Body

/-- The slots of a body, in the order in which they are written. -/
inductive Slot
  | alwaysOn
  | defaultDocuments
  | netFrameworkVersion
  | javaVersion
  | javaContainer
  | javaContainerVersion
  | linuxFxVersion
  | http20Enabled
  | ipSecurityRestrictions
  | localMySqlEnabled
  | managedPipelineMode
  | phpVersion
  | pythonVersion
  | remoteDebuggingEnabled
  | remoteDebuggingVersion
  | use32BitWorkerProcess
  | webSocketsEnabled
  | scmType
  | ftpsState
  | minTlsVersion
  | vnetName
  deriving DecidableEq, Repr

namespace Slot

/-- What a slot holds. -/
def Content : Slot → Type
  | .defaultDocuments => Option (List String)
  | .ipSecurityRestrictions => Option (List Rule)
  | .managedPipelineMode => Reported PipelineMode
  | .scmType => Reported SourceControl
  | .ftpsState => Reported FtpsState
  | .minTlsVersion => Reported TlsVersion
  | .alwaysOn | .http20Enabled | .localMySqlEnabled | .remoteDebuggingEnabled
  | .use32BitWorkerProcess | .webSocketsEnabled => Option Bool
  | .netFrameworkVersion | .javaVersion | .javaContainer | .javaContainerVersion | .linuxFxVersion
  | .phpVersion | .pythonVersion | .remoteDebuggingVersion | .vnetName => Option String

/-- The key of a slot. -/
def key : Slot → String
  | .alwaysOn => "alwaysOn"
  | .defaultDocuments => "defaultDocuments"
  | .netFrameworkVersion => "netFrameworkVersion"
  | .javaVersion => "javaVersion"
  | .javaContainer => "javaContainer"
  | .javaContainerVersion => "javaContainerVersion"
  | .linuxFxVersion => "linuxFxVersion"
  | .http20Enabled => "http20Enabled"
  | .ipSecurityRestrictions => "ipSecurityRestrictions"
  | .localMySqlEnabled => "localMySqlEnabled"
  | .managedPipelineMode => "managedPipelineMode"
  | .phpVersion => "phpVersion"
  | .pythonVersion => "pythonVersion"
  | .remoteDebuggingEnabled => "remoteDebuggingEnabled"
  | .remoteDebuggingVersion => "remoteDebuggingVersion"
  | .use32BitWorkerProcess => "use32BitWorkerProcess"
  | .webSocketsEnabled => "webSocketsEnabled"
  | .scmType => "scmType"
  | .ftpsState => "ftpsState"
  | .minTlsVersion => "minTlsVersion"
  | .vnetName => "vnetName"

/-- An enumeration, read from an optional text. -/
def readEnum (E : Type) [Vocabulary E] (v : Value) : Except Misfit (Reported E) :=
  (readText v).map Reported.readOption

theorem map_readEnum {E β : Type} [Vocabulary E] (v : Value) (f : Reported E → β) :
    (readEnum E v).map f = (readText v).map fun x => f (.readOption x) :=
  Steps.map_map ..

/-- The reader of a slot. -/
def read : (s : Slot) → Value → Except Misfit s.Content
  | .defaultDocuments => readListOption readListedText
  | .ipSecurityRestrictions => readListOption readRule
  | .managedPipelineMode => readEnum PipelineMode
  | .scmType => readEnum SourceControl
  | .ftpsState => readEnum FtpsState
  | .minTlsVersion => readEnum TlsVersion
  | .alwaysOn | .http20Enabled | .localMySqlEnabled | .remoteDebuggingEnabled
  | .use32BitWorkerProcess | .webSocketsEnabled => readFlag
  | .netFrameworkVersion | .javaVersion | .javaContainer | .javaContainerVersion | .linuxFxVersion
  | .phpVersion | .pythonVersion | .remoteDebuggingVersion | .vnetName => readText

/-- The place of a slot in the body. -/
def get : (s : Slot) → Body → s.Content
  | .alwaysOn => Body.alwaysOn
  | .defaultDocuments => Body.defaultDocuments
  | .netFrameworkVersion => Body.netFrameworkVersion
  | .javaVersion => Body.javaVersion
  | .javaContainer => Body.javaContainer
  | .javaContainerVersion => Body.javaContainerVersion
  | .linuxFxVersion => Body.linuxFxVersion
  | .http20Enabled => Body.http20Enabled
  | .ipSecurityRestrictions => Body.ipSecurityRestrictions
  | .localMySqlEnabled => Body.localMySqlEnabled
  | .managedPipelineMode => Body.managedPipelineMode
  | .phpVersion => Body.phpVersion
  | .pythonVersion => Body.pythonVersion
  | .remoteDebuggingEnabled => Body.remoteDebuggingEnabled
  | .remoteDebuggingVersion => Body.remoteDebuggingVersion
  | .use32BitWorkerProcess => Body.use32BitWorkerProcess
  | .webSocketsEnabled => Body.webSocketsEnabled
  | .scmType => Body.scmType
  | .ftpsState => Body.ftpsState
  | .minTlsVersion => Body.minTlsVersion
  | .vnetName => Body.vnetName

/-- The body with a slot filled. -/
def set : (s : Slot) → s.Content → Body → Body
  | .alwaysOn, x, body => { body with alwaysOn := x }
  | .defaultDocuments, x, body => { body with defaultDocuments := x }
  | .netFrameworkVersion, x, body => { body with netFrameworkVersion := x }
  | .javaVersion, x, body => { body with javaVersion := x }
  | .javaContainer, x, body => { body with javaContainer := x }
  | .javaContainerVersion, x, body => { body with javaContainerVersion := x }
  | .linuxFxVersion, x, body => { body with linuxFxVersion := x }
  | .http20Enabled, x, body => { body with http20Enabled := x }
  | .ipSecurityRestrictions, x, body => { body with ipSecurityRestrictions := x }
  | .localMySqlEnabled, x, body => { body with localMySqlEnabled := x }
  | .managedPipelineMode, x, body => { body with managedPipelineMode := x }
  | .phpVersion, x, body => { body with phpVersion := x }
  | .pythonVersion, x, body => { body with pythonVersion := x }
  | .remoteDebuggingEnabled, x, body => { body with remoteDebuggingEnabled := x }
  | .remoteDebuggingVersion, x, body => { body with remoteDebuggingVersion := x }
  | .use32BitWorkerProcess, x, body => { body with use32BitWorkerProcess := x }
  | .webSocketsEnabled, x, body => { body with webSocketsEnabled := x }
  | .scmType, x, body => { body with scmType := x }
  | .ftpsState, x, body => { body with ftpsState := x }
  | .minTlsVersion, x, body => { body with minTlsVersion := x }
  | .vnetName, x, body => { body with vnetName := x }

theorem key_injective (s t : Slot) (h : s.key = t.key) : s = t := by
  revert h
  cases s <;> cases t <;> decide

theorem get_set_of_ne (s t : Slot) (c : s.Content) (body : Body) (h : s ≠ t) :
    t.get (s.set c body) = t.get body := by
  cases s <;> cases t <;> first | rfl | exact absurd rfl h

/-- Taking the field of a slot fills the slot with what its reader takes. -/
theorem readField_key (s : Slot) (body : Body) (v : Value) :
    readField body s.key v = (s.read v).map fun c => s.set c body := by
  cases s with
  | managedPipelineMode =>
    exact (map_readEnum v fun x => { body with managedPipelineMode := x }).symm
  | scmType => exact (map_readEnum v fun x => { body with scmType := x }).symm
  | ftpsState => exact (map_readEnum v fun x => { body with ftpsState := x }).symm
  | minTlsVersion => exact (map_readEnum v fun x => { body with minTlsVersion := x }).symm
  | _ => rfl

/-- Fields that are not of a slot are skipped. -/
theorem readField_other (body : Body) (k : String) (v : Value) (h : ∀ s : Slot, s.key ≠ k) :
    readField body k v = .ok body := by
  unfold readField
  split
  · exact absurd rfl (h .alwaysOn)
  · exact absurd rfl (h .defaultDocuments)
  · exact absurd rfl (h .netFrameworkVersion)
  · exact absurd rfl (h .javaVersion)
  · exact absurd rfl (h .javaContainer)
  · exact absurd rfl (h .javaContainerVersion)
  · exact absurd rfl (h .linuxFxVersion)
  · exact absurd rfl (h .http20Enabled)
  · exact absurd rfl (h .ipSecurityRestrictions)
  · exact absurd rfl (h .localMySqlEnabled)
  · exact absurd rfl (h .managedPipelineMode)
  · exact absurd rfl (h .phpVersion)
  · exact absurd rfl (h .pythonVersion)
  · exact absurd rfl (h .remoteDebuggingEnabled)
  · exact absurd rfl (h .remoteDebuggingVersion)
  · exact absurd rfl (h .use32BitWorkerProcess)
  · exact absurd rfl (h .webSocketsEnabled)
  · exact absurd rfl (h .scmType)
  · exact absurd rfl (h .ftpsState)
  · exact absurd rfl (h .minTlsVersion)
  · exact absurd rfl (h .vnetName)
  · rfl

end Slot

/-- How a body is read. -/
def layout : Layout Body Slot where
  Content := Slot.Content
  key := Slot.key
  read := Slot.read
  get := Slot.get
  set := Slot.set
  step := readField
  key_injective := Slot.key_injective
  get_set_self s c body := by cases s <;> rfl
  get_set_of_ne := Slot.get_set_of_ne
  eq_of_get_eq a b h := by
    cases a
    cases b
    rw [Body.mk.injEq]
    exact ⟨h .alwaysOn, h .defaultDocuments, h .netFrameworkVersion, h .javaVersion,
      h .javaContainer, h .javaContainerVersion, h .linuxFxVersion, h .http20Enabled,
      h .ipSecurityRestrictions, h .localMySqlEnabled, h .managedPipelineMode, h .phpVersion,
      h .pythonVersion, h .remoteDebuggingEnabled, h .remoteDebuggingVersion,
      h .use32BitWorkerProcess, h .webSocketsEnabled, h .scmType, h .ftpsState, h .minTlsVersion,
      h .vnetName⟩
  step_slot := Slot.readField_key
  step_other := Slot.readField_other

/-! ## Enumerations in normal form -/

/-- No enumeration of the body holds a text that its vocabulary knows. -/
structure IsNormal (body : Body) : Prop where
  managedPipelineMode : body.managedPipelineMode.IsNormal
  scmType : body.scmType.IsNormal
  ftpsState : body.ftpsState.IsNormal
  minTlsVersion : body.minTlsVersion.IsNormal

/-- Every enumeration of the body has a value that its vocabulary knows. -/
structure AllKnown (body : Body) : Prop where
  managedPipelineMode : ∃ e, body.managedPipelineMode = .known e
  scmType : ∃ e, body.scmType = .known e
  ftpsState : ∃ e, body.ftpsState = .known e
  minTlsVersion : ∃ e, body.minTlsVersion = .known e

theorem AllKnown.isNormal {body : Body} (h : body.AllKnown) : body.IsNormal := by
  have hknown : ∀ {E : Type} [Vocabulary E] {x : Reported E}, (∃ e, x = .known e) → x.IsNormal := by
    rintro E _ x ⟨e, rfl⟩
    trivial
  exact ⟨hknown h.managedPipelineMode, hknown h.scmType, hknown h.ftpsState,
    hknown h.minTlsVersion⟩

theorem isNormal_empty : IsNormal {} := ⟨trivial, trivial, trivial, trivial⟩

theorem Slot.isNormal_readEnum {E : Type} [Vocabulary E] {v : Value} {x : Reported E}
    (h : readEnum E v = .ok x) : x.IsNormal := by
  obtain ⟨text, -, rfl⟩ := Steps.map_eq_ok.mp h
  exact Reported.isNormal_readOption text

/-- One field keeps a body in normal form. -/
theorem isNormal_readField {body after : Body} {k : String} {v : Value} (h : body.IsNormal)
    (hstep : readField body k v = .ok after) : after.IsNormal := by
  by_cases hslot : ∃ s : Slot, s.key = k
  · obtain ⟨s, rfl⟩ := hslot
    rw [Slot.readField_key, Steps.map_eq_ok] at hstep
    obtain ⟨c, hc, rfl⟩ := hstep
    cases s with
    | managedPipelineMode =>
      exact ⟨Slot.isNormal_readEnum hc, h.scmType, h.ftpsState, h.minTlsVersion⟩
    | scmType =>
      exact ⟨h.managedPipelineMode, Slot.isNormal_readEnum hc, h.ftpsState, h.minTlsVersion⟩
    | ftpsState =>
      exact ⟨h.managedPipelineMode, h.scmType, Slot.isNormal_readEnum hc, h.minTlsVersion⟩
    | minTlsVersion =>
      exact ⟨h.managedPipelineMode, h.scmType, h.ftpsState, Slot.isNormal_readEnum hc⟩
    | _ => exact ⟨h.managedPipelineMode, h.scmType, h.ftpsState, h.minTlsVersion⟩
  · rw [Slot.readField_other body k v fun s hs => hslot ⟨s, hs⟩, Except.ok.injEq] at hstep
    exact hstep ▸ h

theorem isNormal_readFields {fields : Fields} {body after : Body} (h : body.IsNormal)
    (hread : readFields readField body fields = .ok after) : after.IsNormal :=
  Layout.readFields_induction (fun _ _ _ _ ha hstep => isNormal_readField ha hstep) h hread

theorem isNormal_readOne {v : Value} {body : Body} (h : readOne v = .ok body) :
    body.IsNormal := by
  unfold readOne readRecord at h
  split at h
  · exact isNormal_readFields isNormal_empty h
  · obtain ⟨after, hread, h⟩ := Steps.bind_eq_ok.mp h
    split at h
    · cases h
    · cases h
      exact isNormal_readFields isNormal_empty hread
  · cases h

/-- **A body that is read is in normal form.** -/
theorem isNormal_of_read {v : Value} {body : Body} (h : read v = .ok (some body)) :
    body.IsNormal := by
  unfold read at h
  split at h
  · cases h
  · obtain ⟨one, hone, heq⟩ := Steps.map_eq_ok.mp h
    cases heq
    exact isNormal_readOne hone

end Body

end SiteConfig
