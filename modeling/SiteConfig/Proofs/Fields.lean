import Mathlib.Data.List.Nodup
import SiteConfig.Block.Decode

/-!
# Objects seen through their keys

Readers look at an object only through its keys. This file says what they see in an object that is
written slot by slot, and that putting its keys in order changes nothing they see.

- `Fields.ofItems name value items`: the object that is written for a list of items, each of which
  has a name and, perhaps, a value. `Fields.get?_ofItems`: what stands under a name.
- `Fields.Sorted`: the keys come in order. `Fields.sorted_ofAssignments`: so they do in every object
  that is put in order. `Value.ordered_object_eq_iff`: two objects are the same once they are in
  order if the same stands under their keys.
- `Fields.Holds fields slots`: under the name of each slot stands what is written for it, and there
  are no other keys. `Fields.holds_ordered`: so it is once the keys are in order.
- `Form.undeclared?_of_holds`: such an object has no undeclared keys.
- `Value.KeysOnce v`: every object of the value has each key once. `Value.keysOnce_ordered`: so it
  is in every value that is put in order.
-/

namespace SiteConfig

namespace Fields

theorem mem_keys {fields : Fields} {key : String} {v : Value} (h : (key, v) ∈ fields) :
    key ∈ fields.keys :=
  List.mem_map_of_mem (f := Prod.fst) h

theorem get?_eq_some_of_mem {fields : Fields} (hnodup : fields.keys.Nodup) {key : String}
    {v : Value} (h : (key, v) ∈ fields) : fields.get? key = some v := by
  induction fields with
  | nil => cases h
  | cons field rest ih =>
    obtain ⟨k, w⟩ := field
    obtain ⟨hk, hrest⟩ := List.nodup_cons.mp hnodup
    rw [get?_cons]
    rcases List.mem_cons.mp h with heq | hmem
    · cases heq
      rw [if_pos rfl]
    · have hne : key ≠ k := by
        rintro rfl
        exact hk (mem_keys hmem)
      rw [if_neg hne]
      exact ih hrest hmem

theorem mem_of_get?_eq_some {fields : Fields} {key : String} {v : Value}
    (h : fields.get? key = some v) : (key, v) ∈ fields := by
  induction fields with
  | nil => cases h
  | cons field rest ih =>
    obtain ⟨k, w⟩ := field
    rw [get?_cons] at h
    by_cases hk : key = k
    · rw [if_pos hk] at h
      cases h
      exact hk ▸ List.mem_cons_self
    · rw [if_neg hk] at h
      exact List.mem_cons_of_mem _ (ih h)

/-- A key is one of an object's when something stands under it. -/
theorem mem_keys_iff {fields : Fields} {key : String} :
    key ∈ fields.keys ↔ ∃ v, fields.get? key = some v := by
  induction fields with
  | nil => simp [keys]
  | cons field rest ih =>
    obtain ⟨k, w⟩ := field
    rw [get?_cons]
    by_cases hk : key = k
    · simp [keys, hk]
    · rw [if_neg hk, ← ih]
      simp [keys, hk]

theorem get?_eq_none_iff {fields : Fields} {key : String} :
    fields.get? key = none ↔ key ∉ fields.keys := by
  rw [mem_keys_iff, not_exists, Option.eq_none_iff_forall_ne_some]

/-- Where no key comes twice, the order of the fields does not matter. -/
theorem get?_reverse {fields : Fields} (hnodup : fields.keys.Nodup) (key : String) :
    get? fields.reverse key = fields.get? key := by
  have hnodup' : (keys fields.reverse).Nodup := by
    rw [keys, List.map_reverse]
    exact List.nodup_reverse.mpr hnodup
  cases h : get? fields.reverse key with
  | some v =>
    have hmem := List.mem_reverse.mp (mem_of_get?_eq_some h)
    rw [get?_eq_some_of_mem hnodup hmem]
  | none =>
    cases h' : fields.get? key with
    | none => rfl
    | some v =>
      have hmem := List.mem_reverse.mpr (mem_of_get?_eq_some h')
      rw [get?_eq_some_of_mem hnodup' hmem] at h
      cases h

/-! ## Objects written item by item -/

section Items

variable {ι : Type} (name : ι → String) (value : ι → Option Value)

/-- The fields that are written for a list of items: each of them has a name, and a value if there
is one. -/
def ofItems (items : List ι) : Fields :=
  items.filterMap fun i => (value i).map fun v => (name i, v)

variable {name value} {items : List ι}

theorem ofItems_cons (i : ι) (rest : List ι) :
    ofItems name value (i :: rest)
      = ((value i).map fun v => (name i, v)).toList ++ ofItems name value rest := by
  rw [ofItems, List.filterMap_cons]
  cases value i with
  | none => rfl
  | some v => rfl

theorem mem_ofItems {key : String} {v : Value} :
    (key, v) ∈ ofItems name value items ↔ ∃ i ∈ items, value i = some v ∧ name i = key := by
  rw [ofItems, List.mem_filterMap]
  constructor
  · rintro ⟨i, hi, hv⟩
    obtain ⟨w, hw, heq⟩ := Option.map_eq_some_iff.mp hv
    cases heq
    exact ⟨i, hi, hw, rfl⟩
  · rintro ⟨i, hi, hv, rfl⟩
    exact ⟨i, hi, by rw [hv]; rfl⟩

theorem keys_ofItems_sublist (items : List ι) :
    (ofItems name value items).keys.Sublist (items.map name) := by
  induction items with
  | nil => exact List.Sublist.slnil
  | cons i rest ih =>
    rw [ofItems_cons]
    cases value i with
    | none => exact ih.cons (name i)
    | some v => exact ih.cons_cons (name i)

/-- Where no name comes twice, the value of an item stands under its name. -/
theorem get?_ofItems (hnodup : (items.map name).Nodup) {i : ι} (h : i ∈ items) :
    (ofItems name value items).get? (name i) = value i := by
  cases hv : value i with
  | some v =>
    exact get?_eq_some_of_mem (hnodup.sublist (keys_ofItems_sublist items))
      (mem_ofItems.mpr ⟨i, h, hv, rfl⟩)
  | none =>
    cases hget : (ofItems name value items).get? (name i) with
    | none => rfl
    | some w =>
      obtain ⟨j, hj, hw, hname⟩ := mem_ofItems.mp (mem_of_get?_eq_some hget)
      -- Two items of one name are one item, and this one has no value.
      cases List.inj_on_of_nodup_map hnodup hj h hname
      rw [hv] at hw
      cases hw

end Items

/-! ## Objects written slot by slot -/

/-- The fields that are written for a list of slots, each with the value that it has, if any. -/
def ofSlots (slots : List (FieldSpec × Option Value)) : Fields :=
  slots.filterMap fun slot => slot.2.map fun v => (slot.1.name, v)

/-- The names of the slots. -/
def slotNames (slots : List (FieldSpec × Option Value)) : List String :=
  slots.map fun slot => slot.1.name

theorem ofSlots_eq_ofItems (slots : List (FieldSpec × Option Value)) :
    ofSlots slots = ofItems (fun slot => slot.1.name) Prod.snd slots :=
  rfl

theorem mem_ofSlots {slots : List (FieldSpec × Option Value)} {key : String} {v : Value} :
    (key, v) ∈ ofSlots slots ↔ ∃ spec, (spec, some v) ∈ slots ∧ spec.name = key := by
  rw [ofSlots_eq_ofItems, mem_ofItems]
  constructor
  · rintro ⟨⟨spec, w⟩, hmem, rfl, rfl⟩
    exact ⟨spec, hmem, rfl⟩
  · rintro ⟨spec, hmem, rfl⟩
    exact ⟨_, hmem, rfl, rfl⟩

theorem keys_ofSlots_sublist (slots : List (FieldSpec × Option Value)) :
    (ofSlots slots).keys.Sublist (slotNames slots) := by
  rw [ofSlots_eq_ofItems]
  exact keys_ofItems_sublist slots

theorem get?_ofSlots {slots : List (FieldSpec × Option Value)} (hnodup : (slotNames slots).Nodup)
    {spec : FieldSpec} {v : Option Value} (h : (spec, v) ∈ slots) :
    (ofSlots slots).get? spec.name = v := by
  rw [ofSlots_eq_ofItems]
  exact get?_ofItems hnodup h

/-! ## Keys in order -/

theorem orderedFields_eq_self {fields : Fields}
    (hplain : ∀ field ∈ fields, field.2.ordered = field.2) :
    Value.orderedFields fields = fields := by
  induction fields with
  | nil => rw [Value.orderedFields]
  | cons field rest ih =>
    obtain ⟨k, v⟩ := field
    rw [Value.orderedFields, hplain (k, v) List.mem_cons_self,
      ih fun field hfield => hplain field (List.mem_cons_of_mem _ hfield)]

theorem get?_orderedFields (fields : Fields) (key : String) :
    get? (Value.orderedFields fields) key = (fields.get? key).map Value.ordered := by
  induction fields with
  | nil => rw [Value.orderedFields, get?_nil, Option.map_none]
  | cons field rest ih =>
    obtain ⟨k, v⟩ := field
    rw [Value.orderedFields, get?_cons, get?_cons, ih]
    by_cases hk : key = k
    · rw [if_pos hk, if_pos hk, Option.map_some]
    · rw [if_neg hk, if_neg hk]

theorem keys_orderedFields (fields : Fields) : keys (Value.orderedFields fields) = fields.keys := by
  induction fields with
  | nil => rw [Value.orderedFields]
  | cons field rest ih =>
    obtain ⟨k, v⟩ := field
    rw [Value.orderedFields]
    exact congrArg (k :: ·) ih

/-- What stands under a key of an object that was put in order is put in order itself. -/
theorem get?_ofAssignments_ordered {fields : Fields} (hnodup : fields.keys.Nodup) (key : String) :
    (ofAssignments (Value.orderedFields fields)).get? key
      = (fields.get? key).map Value.ordered := by
  rw [get?_ofAssignments, get?_reverse ((keys_orderedFields fields).symm ▸ hnodup),
    get?_orderedFields]

theorem get?_ordered {fields : Fields} (hnodup : fields.keys.Nodup)
    (hplain : ∀ field ∈ fields, field.2.ordered = field.2) (key : String) :
    (ofAssignments (Value.orderedFields fields)).get? key = fields.get? key := by
  rw [orderedFields_eq_self hplain, get?_ofAssignments, get?_reverse hnodup]

/-- The keys come in order, each of them once. -/
def Sorted (fields : Fields) : Prop :=
  fields.keys.Pairwise (· < ·)

theorem Sorted.nodup {fields : Fields} (h : fields.Sorted) : fields.keys.Nodup := by
  refine List.Pairwise.imp ?_ h
  rintro a _ hlt rfl
  exact String.lt_irrefl a hlt

theorem mem_keys_insert {key k : String} {v : Value} {fields : Fields} :
    k ∈ keys (insert key v fields) ↔ k = key ∨ k ∈ fields.keys := by
  rw [mem_keys_iff, mem_keys_iff, get?_insert]
  by_cases hk : k = key
  · simp [hk]
  · simp [hk]

theorem Sorted.insert {fields : Fields} (h : fields.Sorted) (key : String) (v : Value) :
    Sorted (insert key v fields) := by
  induction fields with
  | nil => exact List.pairwise_singleton _ _
  | cons field rest ih =>
    obtain ⟨k, w⟩ := field
    obtain ⟨hfirst, hrest⟩ := List.pairwise_cons.mp h
    rw [Fields.insert]
    by_cases hlt : key < k
    · rw [if_pos hlt]
      refine List.pairwise_cons.mpr ⟨fun k' hk' => ?_, h⟩
      rcases List.mem_cons.mp hk' with rfl | hk'
      · exact hlt
      · exact String.lt_trans hlt (hfirst k' hk')
    · rw [if_neg hlt]
      by_cases heq : key = k
      · rw [if_pos heq]
        exact List.pairwise_cons.mpr ⟨heq ▸ hfirst, hrest⟩
      · rw [if_neg heq]
        have hgt : k < key := by
          by_contra hnot
          exact heq (String.le_antisymm (String.not_lt.mp hnot) (String.not_lt.mp hlt))
        refine List.pairwise_cons.mpr ⟨fun k' hk' => ?_, ih hrest⟩
        rcases mem_keys_insert.mp hk' with rfl | hk'
        · exact hgt
        · exact hfirst k' hk'

/-- However an object is written, its keys are in order once they are put in order. -/
theorem sorted_ofAssignments (fields : Fields) : (ofAssignments fields).Sorted := by
  suffices h : ∀ acc : Fields, acc.Sorted →
      Sorted (fields.foldl (fun acc field => insert field.1 field.2 acc) acc) from
    h [] List.Pairwise.nil
  induction fields with
  | nil => exact fun _ hacc => hacc
  | cons field rest ih => exact fun acc hacc => ih _ (hacc.insert field.1 field.2)

/-- Two objects in order are equal if they hold the same under every key. -/
theorem Sorted.ext {left right : Fields} (hleft : left.Sorted) (hright : right.Sorted)
    (h : ∀ key, left.get? key = right.get? key) : left = right := by
  have hmem : ∀ {fields : Fields}, fields.Sorted → ∀ field : String × Value,
      field ∈ fields ↔ fields.get? field.1 = some field.2 :=
    fun hsorted field => ⟨get?_eq_some_of_mem hsorted.nodup, mem_of_get?_eq_some⟩
  have hperm : left.Perm right := by
    refine (List.perm_ext_iff_of_nodup (List.Nodup.of_map _ hleft.nodup)
      (List.Nodup.of_map _ hright.nodup)).mpr fun field => ?_
    rw [hmem hleft, hmem hright, h]
  have hbelow : ∀ {fields : Fields}, fields.Sorted →
      List.Pairwise (fun a b : String × Value => a.1 < b.1) fields := List.pairwise_map.mp
  refine hperm.eq_of_pairwise ?_ (hbelow hleft) (hbelow hright)
  intro a b _ _ hab hba
  exact absurd hba (String.lt_asymm hab)

/-- Only fields that were assigned are left. -/
theorem mem_of_mem_ofAssignments {fields : Fields} {field : String × Value}
    (h : field ∈ ofAssignments fields) : field ∈ fields := by
  have hget : (ofAssignments fields).get? field.1 = some field.2 :=
    get?_eq_some_of_mem (sorted_ofAssignments fields).nodup h
  rw [get?_ofAssignments] at hget
  exact List.mem_reverse.mp (mem_of_get?_eq_some hget)

/-- The object holds what is written for the slots, and nothing else. -/
structure Holds (fields : Fields) (slots : List (FieldSpec × Option Value)) : Prop where
  get? : ∀ (spec : FieldSpec) (v : Option Value), (spec, v) ∈ slots → fields.get? spec.name = v
  declared : ∀ key ∈ fields.keys, ∃ slot ∈ slots, slot.1.name = key

theorem holds_ofSlots {slots : List (FieldSpec × Option Value)}
    (hnodup : (slotNames slots).Nodup) : (ofSlots slots).Holds slots where
  get? _ _ h := get?_ofSlots hnodup h
  declared key hkey := by
    obtain ⟨v, hv⟩ := mem_keys_iff.mp hkey
    obtain ⟨spec, hspec, hname⟩ := mem_ofSlots.mp (mem_of_get?_eq_some hv)
    exact ⟨_, hspec, hname⟩

/-- **Putting the keys in order changes nothing that is held.** -/
theorem holds_ordered {slots : List (FieldSpec × Option Value)}
    (hnodup : (slotNames slots).Nodup)
    (hplain : ∀ slot ∈ slots, ∀ v ∈ slot.2, v.ordered = v) :
    (ofAssignments (Value.orderedFields (ofSlots slots))).Holds slots := by
  have hget : ∀ key, (ofAssignments (Value.orderedFields (ofSlots slots))).get? key
      = (ofSlots slots).get? key := by
    refine get?_ordered (hnodup.sublist (keys_ofSlots_sublist slots)) fun field hfield => ?_
    obtain ⟨spec, hspec, -⟩ := mem_ofSlots.mp hfield
    exact hplain _ hspec _ rfl
  have h := holds_ofSlots hnodup
  refine ⟨fun spec v hmem => (hget spec.name).trans (h.get? spec v hmem), fun key hkey => ?_⟩
  rw [mem_keys_iff, hget key, ← mem_keys_iff] at hkey
  exact h.declared key hkey

/-- What stands under the name of the `i`th slot. -/
theorem Holds.at {fields : Fields} {slots : List (FieldSpec × Option Value)}
    (h : fields.Holds slots) (i : Nat) {spec : FieldSpec} {v : Option Value}
    (hi : slots[i]? = some (spec, v)) : fields.get? spec.name = v :=
  h.get? spec v (List.mem_of_getElem? hi)

end Fields

theorem Value.orderedItems_eq_map (items : List Value) :
    orderedItems items = items.map ordered := by
  induction items with
  | nil => rw [orderedItems, List.map_nil]
  | cons v rest ih => rw [orderedItems, ih, List.map_cons]

theorem Value.ordered_list (items : List Value) :
    (Value.list items).ordered = .list (items.map ordered) := by
  rw [ordered, orderedItems_eq_map]

theorem Value.ordered_list_eq_self {items : List Value} (h : ∀ v ∈ items, v.ordered = v) :
    (Value.list items).ordered = .list items := by
  rw [ordered_list, List.map_congr_left h, List.map_id']

theorem Value.ordered_optional {α : Type} {f : α → Value} (h : ∀ a, (f a).ordered = f a)
    (a? : Option α) : ∀ v ∈ a?.map f, v.ordered = v := by
  intro v hv
  obtain ⟨a, -, rfl⟩ := Option.map_eq_some_iff.mp hv
  exact h a

theorem Value.ordered_listed {α : Type} {f : α → Value} (h : ∀ a, (f a).ordered = f a)
    (as : List α) : ∀ v ∈ some (Value.list (as.map f)), v.ordered = v := by
  intro v hv
  cases hv
  refine Value.ordered_list_eq_self fun w hw => ?_
  obtain ⟨a, -, rfl⟩ := List.mem_map.mp hw
  exact h a

/-- **An object is what stands under its keys**, whatever their order. -/
theorem Value.ordered_object_eq_iff {left right : Fields} (hleft : left.keys.Nodup)
    (hright : right.keys.Nodup) :
    (Value.object left).ordered = (Value.object right).ordered ↔
      ∀ key, (left.get? key).map ordered = (right.get? key).map ordered := by
  simp only [← Fields.get?_ofAssignments_ordered hleft, ← Fields.get?_ofAssignments_ordered hright]
  rw [ordered, ordered, Value.object.injEq]
  constructor
  · intro h key
    rw [h]
  · exact fun h => (Fields.sorted_ofAssignments _).ext (Fields.sorted_ofAssignments _) h

/-! ## Objects with each key once -/

namespace Value

/-- Every object of the value has each key once. -/
inductive KeysOnce : Value → Prop
  | null : KeysOnce .null
  | bool (b : Bool) : KeysOnce (.bool b)
  | int (n : Int) : KeysOnce (.int n)
  | float (x : Binary64) : KeysOnce (.float x)
  | text (s : String) : KeysOnce (.text s)
  | list {items : List Value} (hitems : ∀ v ∈ items, KeysOnce v) : KeysOnce (.list items)
  | object {fields : List (String × Value)} (hkeys : (Fields.keys fields).Nodup)
      (hfields : ∀ field ∈ fields, KeysOnce field.2) : KeysOnce (.object fields)

theorem KeysOnce.nodup {fields : Fields} (h : KeysOnce (.object fields)) : fields.keys.Nodup := by
  cases h with
  | object hkeys _ => exact hkeys

theorem KeysOnce.of_get? {fields : Fields} (h : KeysOnce (.object fields)) {key : String}
    {v : Value} (hget : fields.get? key = some v) : v.KeysOnce := by
  cases h with
  | object _ hfields => exact hfields _ (Fields.mem_of_get?_eq_some hget)

theorem KeysOnce.of_mem {items : List Value} (h : KeysOnce (.list items)) {v : Value}
    (hv : v ∈ items) : v.KeysOnce := by
  cases h with
  | list hitems => exact hitems v hv

mutual

/-- **What is put in order has each key once.** -/
theorem keysOnce_ordered : ∀ v : Value, v.ordered.KeysOnce
  | .null => by simpa only [ordered] using .null
  | .bool b => by simpa only [ordered] using .bool b
  | .int n => by simpa only [ordered] using .int n
  | .float x => by simpa only [ordered] using .float x
  | .text s => by simpa only [ordered] using .text s
  | .list items => by
    rw [ordered]
    exact .list (keysOnce_orderedItems items)
  | .object fields => by
    rw [ordered]
    refine .object (Fields.sorted_ofAssignments _).nodup fun field hfield => ?_
    exact keysOnce_orderedFields fields field (Fields.mem_of_mem_ofAssignments hfield)

theorem keysOnce_orderedItems : ∀ items : List Value, ∀ v ∈ orderedItems items, v.KeysOnce
  | [] => by
    intro v hv
    rw [orderedItems] at hv
    cases hv
  | first :: rest => by
    rw [orderedItems, List.forall_mem_cons]
    exact ⟨keysOnce_ordered first, keysOnce_orderedItems rest⟩

theorem keysOnce_orderedFields : ∀ fields : List (String × Value),
    ∀ field ∈ orderedFields fields, field.2.KeysOnce
  | [] => by
    intro field hfield
    rw [orderedFields] at hfield
    cases hfield
  | (k, v) :: rest => by
    rw [orderedFields, List.forall_mem_cons]
    exact ⟨keysOnce_ordered v, keysOnce_orderedFields rest⟩

end

end Value

/-! ## Declared keys -/

/-- All keys of an object are declared when each of them is the name of a field. -/
theorem Form.undeclared?_eq_none_iff {specs : List FieldSpec} {fields : Fields} :
    Form.undeclared? specs fields = none ↔
      ∀ key ∈ fields.keys, ∃ spec ∈ specs, spec.name = key := by
  have hnone : Form.undeclared? specs fields = none ↔
      (fields.keys.filter fun key => !specs.any fun spec => spec.name == key) = [] := by
    unfold Form.undeclared?
    split
    · next h => simp [h]
    · next h => simp [h]
  rw [hnone, List.filter_eq_nil_iff]
  simp

theorem Form.undeclared?_of_holds {fields : Fields} {slots : List (FieldSpec × Option Value)}
    (h : fields.Holds slots) : Form.undeclared? (slots.map Prod.fst) fields = none := by
  rw [undeclared?_eq_none_iff]
  intro key hkey
  obtain ⟨slot, hslot, hname⟩ := h.declared key hkey
  exact ⟨slot.1, List.mem_map_of_mem hslot, hname⟩

end SiteConfig
