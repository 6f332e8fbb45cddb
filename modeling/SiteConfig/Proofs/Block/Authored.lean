import SiteConfig.Proofs.Block.Conformance
import SiteConfig.Proofs.Block.LeftOut

/-!
# What a block says

Two blocks that are accepted read as the same record exactly if they say the same: if they are equal
once everything is removed that counts as left out. So no argument is dropped, none is taken for
another, and a default that is written out stays apart from one that is not.

- `Block.essence fields`: the object with what it says, and nothing else.
- `Block.said? fields spec`: what it says under the name of a field. `Form.said?_of_flag`,
  `Form.said?_of_text`, `Form.said?_of_rules`: this is what the record has as given.
- `Block.ReadFrom.eq_iff`: records are equal exactly if the same is said of every field.
- `Block.decode_eq_iff_essence`: the main statement, for all blocks.
-/

namespace SiteConfig

/-! ## What is said -/

/-- The entry without a mask that is `null`. -/
def Restriction.essence : Value → Value
  | .object fields =>
    .object (fields.filter fun field => ¬ (field.1 = "subnet_mask" ∧ field.2 = .null))
  | v => v

namespace Block

/-- What a value says under a key, if anything: `null` says nothing, nor does the blank text of an
enumeration, nor an empty list. -/
def essence? (key : String) : Value → Option Value
  | .null => none
  | .text s =>
    if s = "" ∧ key ∈ Schema.enumerations.map FieldSpec.name then none else some (.text s)
  | .list items =>
    if items = [] ∧ (key = "default_documents" ∨ key = "ip_restriction") then none
    else if key = "ip_restriction" then some (.list (items.map Restriction.essence))
    else some (.list items)
  | v => some v

/-- The object with what it says. -/
def essence (fields : Fields) : Fields :=
  fields.filterMap fun field => (essence? field.1 field.2).map fun v => (field.1, v)

/-- What the object says under the name of a field. -/
def said? (fields : Fields) (spec : FieldSpec) : Option Value :=
  ((fields.get? spec.name).bind (essence? spec.name)).map Value.ordered

end Block

/-! ## Objects -/

theorem Fields.get?_filter {fields : Fields} (hnodup : fields.keys.Nodup)
    (p : String × Value → Bool) (key : String) :
    get? (fields.filter p) key = (fields.get? key).filter fun v => p (key, v) := by
  have hmem : ∀ v, get? (fields.filter p) key = some v ↔
      fields.get? key = some v ∧ p (key, v) = true := by
    have hnodup' : (keys (fields.filter p)).Nodup :=
      hnodup.sublist (List.filter_sublist.map Prod.fst)
    intro v
    constructor
    · intro h
      obtain ⟨hv, hp⟩ := List.mem_filter.mp (mem_of_get?_eq_some h)
      exact ⟨get?_eq_some_of_mem hnodup hv, hp⟩
    · rintro ⟨hv, hp⟩
      exact get?_eq_some_of_mem hnodup' (List.mem_filter.mpr ⟨mem_of_get?_eq_some hv, hp⟩)
  refine Option.ext fun v => ?_
  rw [hmem, Option.filter_eq_some_iff]

namespace Block

variable {fields left right : Fields}

theorem essence_eq_ofItems (fields : Fields) :
    essence fields = Fields.ofItems Prod.fst (fun field => essence? field.1 field.2) fields :=
  rfl

theorem keys_essence_sublist (fields : Fields) : (essence fields).keys.Sublist fields.keys :=
  Fields.keys_ofItems_sublist fields

theorem get?_essence (hnodup : fields.keys.Nodup) (key : String) :
    (essence fields).get? key = (fields.get? key).bind (essence? key) := by
  cases hget : fields.get? key with
  | some v =>
    rw [essence_eq_ofItems]
    exact Fields.get?_ofItems hnodup (Fields.mem_of_get?_eq_some hget)
  | none =>
    refine Fields.get?_eq_none_iff.mpr fun hkey => ?_
    exact Fields.get?_eq_none_iff.mp hget ((keys_essence_sublist fields).subset hkey)

/-- Two objects without undeclared keys say the same exactly if they do under the name of every
field. -/
theorem ordered_essence_eq_iff (hleft : left.keys.Nodup) (hright : right.keys.Nodup)
    (hleftKeys : ∀ key ∈ left.keys, ∃ spec ∈ Schema.siteConfig, spec.name = key)
    (hrightKeys : ∀ key ∈ right.keys, ∃ spec ∈ Schema.siteConfig, spec.name = key) :
    (Value.object (essence left)).ordered = (Value.object (essence right)).ordered ↔
      ∀ spec ∈ Schema.siteConfig, said? left spec = said? right spec := by
  rw [Value.ordered_object_eq_iff (hleft.sublist (keys_essence_sublist left))
    (hright.sublist (keys_essence_sublist right))]
  simp only [get?_essence hleft, get?_essence hright]
  constructor
  · exact fun h spec _ => h spec.name
  · intro h key
    by_cases hkey : ∃ spec ∈ Schema.siteConfig, spec.name = key
    · obtain ⟨spec, hspec, rfl⟩ := hkey
      exact h spec hspec
    · have hnone : ∀ {fields : Fields},
          (∀ key ∈ fields.keys, ∃ spec ∈ Schema.siteConfig, spec.name = key) →
            fields.get? key = none :=
        fun hdeclared => Fields.get?_eq_none_iff.mpr fun h => hkey (hdeclared key h)
      rw [hnone hleftKeys, hnone hrightKeys]

theorem said?_of_left_out {spec : FieldSpec}
    (h : fields.get? spec.name = none ∨ fields.get? spec.name = some .null) :
    said? fields spec = none := by
  unfold said?
  rcases h with h | h
  · rw [h]
    rfl
  · rw [h]
    rfl

end Block

/-! ## Fields of one value -/

/-- The value, if somebody gave it. -/
def Setting.given? {α : Type} : Setting α → Option α
  | .given v => some v
  | _ => none

@[simp] theorem Setting.given?_resolve {α : Type} (supplied fallback : Option α) :
    (resolve supplied fallback).given? = supplied := by
  cases supplied <;> cases fallback <;> rfl

namespace FieldSpec

variable {spec : FieldSpec}

/-- What is not given is decided by the field. -/
theorem HoldsText.ext {left right : Setting String} (hleft : spec.HoldsText left)
    (hright : spec.HoldsText right) (h : left.given? = right.given?) : left = right := by
  have hresolve : ∀ {setting : Setting String}, spec.HoldsText setting →
      setting = .resolve setting.given? spec.presetText? := by
    intro setting hholds
    cases setting with
    | unset =>
      have hnone : spec.presetText? = none := hholds
      rw [hnone]
      rfl
    | filled s =>
      have hsome : spec.presetText? = some s := hholds
      rw [hsome]
      rfl
    | given s => rfl
  rw [hresolve hleft, h, ← hresolve hright]

theorem HoldsFlag.ext {left right : Setting Bool} (hleft : spec.HoldsFlag left)
    (hright : spec.HoldsFlag right) (h : left.given? = right.given?) : left = right := by
  have hresolve : ∀ {setting : Setting Bool}, spec.HoldsFlag setting →
      setting = .resolve setting.given? spec.presetBool? := by
    intro setting hholds
    cases setting with
    | unset =>
      have hnone : spec.presetBool? = none := hholds
      rw [hnone]
      rfl
    | filled b =>
      have hsome : spec.presetBool? = some b := hholds
      rw [hsome]
      rfl
    | given b => rfl
  rw [hresolve hleft, h, ← hresolve hright]

/-- The enumerations are known by the names of their fields. -/
theorem name_mem_enumerations_iff :
    ∀ spec ∈ Schema.siteConfig,
      spec.name ∈ Schema.enumerations.map FieldSpec.name ↔ spec.blankIsUnset = true := by
  decide +kernel

end FieldSpec

namespace Form

variable {form : Form} {spec : FieldSpec}

/-- What is said of a truth value is what was given. -/
theorem said?_of_flag (hspec : spec ∈ Schema.siteConfig) {setting : Setting Bool}
    (h : form.flag spec = .ok setting) :
    Block.said? form.fields spec = setting.given?.map .bool := by
  rcases form.left_out_or_supplied spec with hout | ⟨v, hget, -, hsupplied⟩
  · rw [flag_of_left_out (Schema.required_eq_false spec hspec) hout] at h
    cases h
    rw [Block.said?_of_left_out hout, Setting.given?_resolve]
    rfl
  · obtain ⟨b, rfl⟩ := (exists_flag_iff hsupplied).mp ⟨setting, h⟩
    have hread : form.flag spec = .ok (.resolve (some b) spec.presetBool?) :=
      flag_of_written (Schema.required_eq_false spec hspec) hget
    cases h.symm.trans hread
    rw [Block.said?, hget, Setting.given?_resolve]
    rfl

/-- What is said of a text is what was given. -/
theorem said?_of_text (hspec : spec ∈ Schema.siteConfig) {setting : Setting String}
    (h : form.text spec = .ok setting) :
    Block.said? form.fields spec = setting.given?.map .text := by
  rcases form.left_out_or_supplied spec with hout | ⟨v, hget, -, hsupplied⟩
  · rw [text_of_left_out (Schema.required_eq_false spec hspec) hout] at h
    cases h
    rw [Block.said?_of_left_out hout, FieldSpec.rereadText, Setting.given?_resolve]
    rfl
  · obtain ⟨s, rfl, htakes⟩ := (exists_text_iff hsupplied).mp ⟨setting, h⟩
    rw [text_of_get? hget, if_pos htakes] at h
    cases h
    have hsaid : Block.essence? spec.name (.text s)
        = if s = "" ∧ spec.blankIsUnset = true then none else some (.text s) := by
      simp only [Block.essence?, FieldSpec.name_mem_enumerations_iff spec hspec]
    rw [Block.said?, hget, Option.bind_some, hsaid, FieldSpec.rereadText]
    by_cases hblank : s = "" ∧ spec.blankIsUnset = true
    · rw [if_pos hblank, if_pos hblank, Setting.given?_resolve]
      rfl
    · have hplain : (Value.text s).ordered = .text s := by simp only [Value.ordered]
      rw [if_neg hblank, if_neg hblank, Option.map_some, hplain]
      rfl

/-- Two truth values are the same exactly if the same is said of them. -/
theorem flag_eq_iff {left right : Form} (hspec : spec ∈ Schema.siteConfig) {s t : Setting Bool}
    (hs : left.flag spec = .ok s) (ht : right.flag spec = .ok t) :
    s = t ↔ Block.said? left.fields spec = Block.said? right.fields spec := by
  rw [said?_of_flag hspec hs, said?_of_flag hspec ht]
  constructor
  · rintro rfl
    rfl
  · intro h
    exact (holdsFlag_of_flag hs).ext (holdsFlag_of_flag ht)
      (Option.map_injective (fun _ _ => Value.bool.inj) h)

/-- Two texts are the same exactly if the same is said of them. -/
theorem text_eq_iff {left right : Form} (hspec : spec ∈ Schema.siteConfig) {s t : Setting String}
    (hs : left.text spec = .ok s) (ht : right.text spec = .ok t) :
    s = t ↔ Block.said? left.fields spec = Block.said? right.fields spec := by
  rw [said?_of_text hspec hs, said?_of_text hspec ht]
  constructor
  · rintro rfl
    rfl
  · intro h
    exact (holdsText_of_text hs).ext (holdsText_of_text ht)
      (Option.map_injective (fun _ _ => Value.text.inj) h)

end Form

/-! ## Access rules -/

namespace Restriction

/-- The access rule as it was given: without a mask that the schema filled in. -/
def authored (rule : Restriction) : Restriction :=
  ⟨rule.ipAddress, .ofOption rule.subnetMask.given?⟩

variable {path : String} {rule : Restriction}

/-- What is said of a mask is what was given. -/
theorem filter_subnetMask {fields : Fields}
    (h : Form.text ⟨path, fields⟩ Schema.subnetMask = .ok rule.subnetMask) :
    (fields.get? "subnet_mask").filter (fun v => ¬ v = .null)
      = rule.subnetMask.given?.map .text := by
  rcases Form.left_out_or_supplied ⟨path, fields⟩ Schema.subnetMask with
    hout | ⟨v, hget, -, hsupplied⟩
  · have hfilled : rule.subnetMask = .filled "255.255.255.255" :=
      Except.ok.inj (h.symm.trans (text_subnetMask_of_left_out hout))
    rw [hfilled]
    rcases hout with hnone | hnull
    · exact congrArg (Option.filter _) hnone
    · exact congrArg (Option.filter _) hnull
  · obtain ⟨m, rfl, -⟩ := (Form.exists_text_iff hsupplied).mp ⟨_, h⟩
    have hgiven : rule.subnetMask = .given m :=
      Except.ok.inj (h.symm.trans (text_subnetMask_of_get? hget))
    rw [hgiven]
    exact congrArg (Option.filter _) hget

/-- **What an entry says** is the access rule that it is read as. -/
theorem essence_ordered_of_decode {v : Value} (hkeys : v.KeysOnce)
    (h : decode path v = .ok rule) : (essence v).ordered = rule.authored.document := by
  obtain ⟨_, hform, hip, hmask, -⟩ := decode_eq_ok_iff.mp h
  obtain ⟨(fields : Fields), rfl, hdeclared, rfl⟩ := Form.ofValue_eq_ok_iff.mp hform
  rw [Form.undeclared?_eq_none_iff, keys_ipRestriction_iff] at hdeclared
  have hnodup : fields.keys.Nodup := hkeys.nodup
  have haddress : fields.get? "ip_address" = some (.text rule.ipAddress) :=
    (Form.requiredText_eq_ok_iff rfl rfl rfl).mp hip
  have hholds := Fields.holds_ofSlots rule.authored.slotNames_nodup
  rw [← rule.authored.document_ordered, document_eq, essence,
    Value.ordered_object_eq_iff (hnodup.sublist (List.filter_sublist.map Prod.fst))
      (rule.authored.slotNames_nodup.sublist (Fields.keys_ofSlots_sublist _))]
  intro key
  rw [Fields.get?_filter hnodup]
  refine congrArg (Option.map Value.ordered) ?_
  -- There are two keys that an entry can have.
  by_cases hip : key = "ip_address"
  · subst hip
    rw [haddress]
    exact (hholds.at 0 rfl).symm
  · by_cases hmaskKey : key = "subnet_mask"
    · subst hmaskKey
      have hslot : (Fields.ofSlots rule.authored.slots).get? "subnet_mask"
          = rule.authored.subnetMask.value?.map .text := hholds.at 1 rfl
      rw [hslot, authored, Setting.value?_ofOption, ← filter_subnetMask hmask]
      simp
    · have hleft : fields.get? key = none := Fields.get?_eq_none_iff.mpr fun hkey =>
        (hdeclared key hkey).elim hip hmaskKey
      have hright : (Fields.ofSlots rule.authored.slots).get? key = none := by
        refine Fields.get?_eq_none_iff.mpr fun hkey => ?_
        obtain ⟨slot, hslot, rfl⟩ := hholds.declared key hkey
        simp only [slots, List.mem_cons, List.not_mem_nil, or_false] at hslot
        rcases hslot with rfl | rfl
        · exact hip rfl
        · exact hmaskKey rfl
      rw [hleft, hright]
      rfl

/-- Two access rules are the same exactly if they were given alike. -/
theorem Valid.eq_iff {other : Restriction} (hrule : rule.Valid) (hother : other.Valid) :
    rule = other ↔ rule.authored.document = other.authored.document := by
  constructor
  · rintro rfl
    rfl
  · intro h
    rw [document_eq, document_eq, Value.object.injEq] at h
    have hleft := Fields.holds_ofSlots rule.authored.slotNames_nodup
    have hright := Fields.holds_ofSlots other.authored.slotNames_nodup
    rw [h] at hleft
    have hip : some (Value.text rule.ipAddress) = some (.text other.ipAddress) :=
      (hleft.at 0 rfl).symm.trans (hright.at 0 rfl)
    have hmask : rule.authored.subnetMask.value?.map Value.text
        = other.authored.subnetMask.value?.map .text :=
      (hleft.at 1 rfl).symm.trans (hright.at 1 rfl)
    rw [authored, authored, Setting.value?_ofOption, Setting.value?_ofOption] at hmask
    have hmaskEq : rule.subnetMask = other.subnetMask :=
      hrule.subnetMask.ext hother.subnetMask (Option.map_injective (fun _ _ => Value.text.inj) hmask)
    calc rule = ⟨rule.ipAddress, rule.subnetMask⟩ := rfl
      _ = ⟨other.ipAddress, other.subnetMask⟩ := by
        rw [Value.text.inj (Option.some.inj hip), hmaskEq]
      _ = other := rfl

theorem eq_of_map_authored {rules others : List Restriction} (hrules : ∀ rule ∈ rules, rule.Valid)
    (hothers : ∀ other ∈ others, other.Valid)
    (h : (rules.map fun rule => rule.authored.document)
      = others.map fun other => other.authored.document) : rules = others := by
  induction rules generalizing others with
  | nil => exact (List.map_eq_nil_iff.mp h.symm).symm
  | cons rule rest ih =>
    cases others with
    | nil => cases h
    | cons other more =>
      obtain ⟨hrule, hrest⟩ := List.forall_mem_cons.mp hrules
      obtain ⟨hother, hmore⟩ := List.forall_mem_cons.mp hothers
      obtain ⟨hfirst, hothers⟩ := List.cons.inj h
      rw [(hrule.eq_iff hother).mpr hfirst, ih hrest hmore hothers]

end Restriction

/-! ## Lists -/

/-- A list as what is said under a key: an empty one says nothing. -/
def Value.listed? (items : List Value) : Option Value :=
  if items = [] then none else some (.list items)

theorem Value.listed?_injective {left right : List Value} (h : listed? left = listed? right) :
    left = right := by
  unfold listed? at h
  by_cases hleft : left = []
  · by_cases hright : right = []
    · rw [hleft, hright]
    · rw [if_pos hleft, if_neg hright] at h
      cases h
  · by_cases hright : right = []
    · rw [if_neg hleft, if_pos hright] at h
      cases h
    · rw [if_neg hleft, if_neg hright] at h
      exact Value.list.inj (Option.some.inj h)

namespace Form

variable {form : Form}

/-- What is said of a list are the items that were read. -/
theorem said?_of_items {α : Type} {spec : FieldSpec} {read : String → Value → Except Fault α}
    {view : Value → Value} {written : α → Value}
    (hview : ∀ vs, (Block.essence? spec.name (.list vs)).map Value.ordered
      = Value.listed? (vs.map view))
    {items : List α} (h : form.items spec read = .ok items)
    (hread : ∀ vs, form.fields.get? spec.name = some (.list vs) →
      ∀ v ∈ vs, ∀ path a, read path v = .ok a → view v = written a) :
    Block.said? form.fields spec = Value.listed? (items.map written) := by
  rcases items_eq_ok h with ⟨hout, rfl⟩ | ⟨vs, hget, htraverse⟩
  · rw [Block.said?_of_left_out hout]
    rfl
  · have hmap : vs.map view = items.map written :=
      Indexed.map_eq_map_of_traverse htraverse fun i v a hv ha => hread vs hget v hv _ a ha
    rw [Block.said?, hget, Option.bind_some, hview, hmap]

theorem essence?_names (vs : List Value) :
    (Block.essence? Schema.defaultDocuments.name (.list vs)).map Value.ordered
      = Value.listed? (vs.map Value.ordered) := by
  have hkey : ¬ Schema.defaultDocuments.name = "ip_restriction" := by decide
  cases vs with
  | nil => rfl
  | cons v rest =>
    have hcons : ¬ (v :: rest = [] ∧ (Schema.defaultDocuments.name = "default_documents" ∨
        Schema.defaultDocuments.name = "ip_restriction")) := fun h => List.cons_ne_nil _ _ h.1
    rw [Block.essence?, if_neg hcons, if_neg hkey, Option.map_some, Value.ordered_list]
    rfl

theorem essence?_rules (vs : List Value) :
    (Block.essence? Schema.ipRestrictions.name (.list vs)).map Value.ordered
      = Value.listed? (vs.map fun v => (Restriction.essence v).ordered) := by
  have hkey : Schema.ipRestrictions.name = "ip_restriction" := rfl
  cases vs with
  | nil => rfl
  | cons v rest =>
    have hcons : ¬ (v :: rest = [] ∧ (Schema.ipRestrictions.name = "default_documents" ∨
        Schema.ipRestrictions.name = "ip_restriction")) := fun h => List.cons_ne_nil _ _ h.1
    rw [Block.essence?, if_neg hcons, if_pos hkey, Option.map_some, Value.ordered_list,
      List.map_map]
    rfl

theorem said?_of_names {names : List String}
    (h : form.items Schema.defaultDocuments listedText = .ok names) :
    Block.said? form.fields Schema.defaultDocuments = Value.listed? (names.map .text) := by
  refine said?_of_items essence?_names h fun vs _ v _ path s hs => ?_
  obtain ⟨t, rfl⟩ := (exists_listedText_iff path v).mp ⟨s, hs⟩
  cases hs
  simp only [Value.ordered]

theorem said?_of_rules (hkeys : (Value.object form.fields).KeysOnce) {rules : List Restriction}
    (h : form.items Schema.ipRestrictions Restriction.decode = .ok rules) :
    Block.said? form.fields Schema.ipRestrictions
      = Value.listed? (rules.map fun rule => rule.authored.document) :=
  said?_of_items essence?_rules h fun _ hget _ hv _ _ hdecode =>
    Restriction.essence_ordered_of_decode ((hkeys.of_get? hget).of_mem hv) hdecode

/-- Two lists of texts are the same exactly if the same is said of them. -/
theorem names_eq_iff {left right : Form} {s t : List String}
    (hs : left.items Schema.defaultDocuments listedText = .ok s)
    (ht : right.items Schema.defaultDocuments listedText = .ok t) :
    s = t ↔ Block.said? left.fields Schema.defaultDocuments
      = Block.said? right.fields Schema.defaultDocuments := by
  rw [said?_of_names hs, said?_of_names ht]
  constructor
  · rintro rfl
    rfl
  · intro h
    exact List.map_injective_iff.mpr (fun _ _ => Value.text.inj) (Value.listed?_injective h)

/-- Two lists of access rules are the same exactly if the same is said of them. -/
theorem rules_eq_iff {left right : Form} (hleft : (Value.object left.fields).KeysOnce)
    (hright : (Value.object right.fields).KeysOnce) {s t : List Restriction}
    (hs : left.items Schema.ipRestrictions Restriction.decode = .ok s)
    (ht : right.items Schema.ipRestrictions Restriction.decode = .ok t) :
    s = t ↔ Block.said? left.fields Schema.ipRestrictions
      = Block.said? right.fields Schema.ipRestrictions := by
  have hvalid : ∀ {form : Form} {rules : List Restriction},
      form.items Schema.ipRestrictions Restriction.decode = .ok rules →
        ∀ rule ∈ rules, rule.Valid := by
    intro form rules hread rule hrule
    obtain ⟨_, _, -, hdecode⟩ := Indexed.exists_of_mem_traverse (traverse_listed hread) hrule
    exact Restriction.valid_of_decode hdecode
  rw [said?_of_rules hleft hs, said?_of_rules hright ht]
  constructor
  · rintro rfl
    rfl
  · intro h
    exact Restriction.eq_of_map_authored (hvalid hs) (hvalid ht) (Value.listed?_injective h)

end Form

/-! ## Blocks -/

namespace Block

variable {left right : Fields}

/-- **Two blocks are the same exactly if the same is said of every field.** -/
theorem ReadFrom.eq_iff (hleft : (Value.object left).KeysOnce)
    (hright : (Value.object right).KeysOnce) {path path' : String} {block other : Block}
    (h : ReadFrom ⟨path, left⟩ block) (h' : ReadFrom ⟨path', right⟩ other) :
    block = other ↔ ∀ spec ∈ Schema.siteConfig, said? left spec = said? right spec := by
  have hmem : ∀ (i : Nat) {spec : FieldSpec}, Schema.siteConfig[i]? = some spec →
      spec ∈ Schema.siteConfig := fun _ _ => List.mem_of_getElem?
  cases block
  cases other
  simp only [mk.injEq, Schema.siteConfig, List.forall_mem_cons, List.not_mem_nil, false_imp_iff,
    implies_true, and_true]
  exact
    and_congr (Form.flag_eq_iff (hmem 0 rfl) h.alwaysOn h'.alwaysOn) <|
    and_congr (Form.names_eq_iff h.defaultDocuments h'.defaultDocuments) <|
    and_congr (Form.text_eq_iff (hmem 2 rfl) h.dotnetFrameworkVersion h'.dotnetFrameworkVersion) <|
    and_congr (Form.flag_eq_iff (hmem 3 rfl) h.http2Enabled h'.http2Enabled) <|
    and_congr (Form.rules_eq_iff hleft hright h.ipRestriction h'.ipRestriction) <|
    and_congr (Form.text_eq_iff (hmem 5 rfl) h.javaVersion h'.javaVersion) <|
    and_congr (Form.text_eq_iff (hmem 6 rfl) h.javaContainer h'.javaContainer) <|
    and_congr (Form.text_eq_iff (hmem 7 rfl) h.javaContainerVersion h'.javaContainerVersion) <|
    and_congr (Form.flag_eq_iff (hmem 8 rfl) h.localMysqlEnabled h'.localMysqlEnabled) <|
    and_congr (Form.text_eq_iff (hmem 9 rfl) h.managedPipelineMode h'.managedPipelineMode) <|
    and_congr (Form.text_eq_iff (hmem 10 rfl) h.phpVersion h'.phpVersion) <|
    and_congr (Form.text_eq_iff (hmem 11 rfl) h.pythonVersion h'.pythonVersion) <|
    and_congr (Form.flag_eq_iff (hmem 12 rfl) h.remoteDebuggingEnabled h'.remoteDebuggingEnabled) <|
    and_congr (Form.text_eq_iff (hmem 13 rfl) h.remoteDebuggingVersion h'.remoteDebuggingVersion) <|
    and_congr (Form.text_eq_iff (hmem 14 rfl) h.scmType h'.scmType) <|
    and_congr (Form.flag_eq_iff (hmem 15 rfl) h.use32BitWorkerProcess h'.use32BitWorkerProcess) <|
    and_congr (Form.flag_eq_iff (hmem 16 rfl) h.websocketsEnabled h'.websocketsEnabled) <|
    and_congr (Form.text_eq_iff (hmem 17 rfl) h.ftpsState h'.ftpsState) <|
    and_congr (Form.text_eq_iff (hmem 18 rfl) h.linuxFxVersion h'.linuxFxVersion) <|
    and_congr (Form.text_eq_iff (hmem 19 rfl) h.minTlsVersion h'.minTlsVersion) <|
    Form.text_eq_iff (hmem 20 rfl) h.virtualNetworkName h'.virtualNetworkName

/-- **Accepted blocks read alike exactly if they say the same**: nothing that is said is dropped or
confused, and what counts as left out makes no difference, neither to the record nor to the fault
that is reported. A block and the list of it read alike. -/
theorem decode_eq_iff_essence (left right : Fields) :
    ((Value.object left).KeysOnce → (Value.object right).KeysOnce →
      ∀ blocks others, decode (.object left) = .ok blocks → decode (.object right) = .ok others →
        (blocks = others ↔
          (Value.object (essence left)).ordered = (Value.object (essence right)).ordered)) ∧
      (Trims left right → decode (.object right) = decode (.object left)) ∧
      decode (.list [.object left]) = decode (.object left) := by
  refine ⟨fun hleft hright blocks others hblocks hothers => ?_, fun htrims => ?_, rfl⟩
  · obtain ⟨block, hblock, rfl⟩ := Steps.map_eq_ok.mp hblocks
    obtain ⟨other, hother, rfl⟩ := Steps.map_eq_ok.mp hothers
    obtain ⟨_, hobject, hleftKeys, hread⟩ := decodeOne_eq_ok_iff.mp hblock
    cases hobject
    obtain ⟨_, hobject, hrightKeys, hread'⟩ := decodeOne_eq_ok_iff.mp hother
    cases hobject
    rw [ordered_essence_eq_iff hleft.nodup hright.nodup
      (Form.undeclared?_eq_none_iff.mp hleftKeys) (Form.undeclared?_eq_none_iff.mp hrightKeys),
      ← ReadFrom.eq_iff hleft hright hread hread', List.cons.injEq]
    exact and_iff_left rfl
  · exact congrArg (Except.map fun block => [block]) (decodeOne_of_trims htrims)

/-- A block with everything in it that counts as left out. -/
def spareFields : Fields :=
  [("default_documents", .list []),
    ("ip_restriction", .list [.object [("ip_address", .text "10.0.0.1"), ("subnet_mask", .null)]]),
    ("php_version", .null), ("scm_type", .text "")]

/-- All that the block says is one address. -/
theorem essence_spareFields :
    decode (.object (spareFields.erase "scm_type")) = decode (.object spareFields) ∧
      (Value.object (essence spareFields)).ordered
        = (Value.object (essence (spareFields.erase "scm_type"))).ordered ∧
      essence spareFields
        = [("ip_restriction", .list [.object [("ip_address", .text "10.0.0.1")]])] := by
  have hkeys : ∀ fields ∈ [spareFields, spareFields.erase "scm_type"],
      (Value.object fields).KeysOnce := by
    intro fields hfields
    have hordered : (Value.object fields).ordered = .object fields := by
      revert fields hfields
      decide +kernel
    exact hordered ▸ Value.keysOnce_ordered _
  obtain ⟨hiff, htrims, -⟩ := decode_eq_iff_essence spareFields (spareFields.erase "scm_type")
  have hsame := htrims (.blank (by decide : Schema.scmType ∈ Schema.siteConfig) rfl rfl)
  obtain ⟨blocks, hblocks⟩ : ∃ blocks, decode (.object spareFields) = .ok blocks := ⟨_, rfl⟩
  refine ⟨hsame, ?_, by decide +kernel⟩
  exact (hiff (hkeys _ List.mem_cons_self) (hkeys _ (List.mem_cons_of_mem _ List.mem_cons_self))
    blocks blocks hblocks (hsame.trans hblocks)).mp rfl

end Block

end SiteConfig
