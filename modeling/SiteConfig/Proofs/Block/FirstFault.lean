import SiteConfig.Proofs.Block.Conformance
import SiteConfig.Proofs.Block.Faults
import SiteConfig.Proofs.Block.Lookup
import SiteConfig.Proofs.Network.Grammar

/-!
# The fault that is reported

A document can have any number of faults, in its block and in the entries inside it, and one of them
is reported. Which one that is, is said here of the document, without a reader.

- `Fields.FirstUndeclared specs fields key`: the first key, in the order of keys, that the table
  does not declare.
- `Restriction.FirstFault path v fault`: the fault of an entry, one case for each check in the order
  of the checks.
- `FieldSpec.FaultAt spec path v fault`: the fault of a value in a field.
- `Block.FirstFault v fault`: the fault of a document.
- `Block.rejected_iff_firstFault`: the main statement, for all documents.
-/

namespace SiteConfig

/-! ## What is reported -/

/-- Every key of the object is the name of a field. -/
def Fields.Declared (specs : List FieldSpec) (fields : Fields) : Prop :=
  ∀ key ∈ fields.keys, ∃ spec ∈ specs, spec.name = key

/-- The first key of the object, in the order of keys, that is the name of no field. -/
structure Fields.FirstUndeclared (specs : List FieldSpec) (fields : Fields) (key : String) :
    Prop where
  mem : key ∈ fields.keys
  undeclared : ∀ spec ∈ specs, spec.name ≠ key
  first : ∀ other ∈ fields.keys, (∀ spec ∈ specs, spec.name ≠ other) → key ≤ other

/-- A value of the type that is declared. -/
def Kind.Admits : Kind → Value → Prop
  | .bool, v => ∃ b, v = .bool b
  | .string, v => ∃ s, v = .text s
  | .strings, v => ∃ items, v = .list items
  | .blocks, v => ∃ items, v = .list items

/-- The place of an item of a list. -/
def Fault.itemPlace (path : String) (i : Nat) : String :=
  path ++ "." ++ String.ofList (Text.decimal i)

/-- The mask that an entry with a given address hands to the encoder: its own, or the one of a
single host, unless the address has a prefix. -/
inductive Restriction.HandsMask (fields : Fields) (ip : String) : String → Prop
  | own {mask : String} (hmask : fields.get? "subnet_mask" = some (.text mask)) :
      HandsMask fields ip mask
  | host (hmask : fields.get? "subnet_mask" = none ∨ fields.get? "subnet_mask" = some .null) :
      HandsMask fields ip (if '/' ∈ ip.toList then "" else "255.255.255.255")

/-- The fault that is reported of an entry of the list of access rules. Each case presupposes that
what the cases before it look at is in order. -/
inductive Restriction.FirstFault (path : String) : Value → Fault → Prop
  | notBlock {v : Value} (hv : ∀ fields, v ≠ .object fields) :
      FirstFault path v (.field path (.notBlock v.shape))
  | undeclared {fields : Fields} {key : String}
      (hkey : fields.FirstUndeclared Schema.ipRestriction key) :
      FirstFault path (.object fields) (.field (path ++ "." ++ key) .unsupported)
  | addressMissing {fields : Fields} (hkeys : fields.Declared Schema.ipRestriction)
      (hip : fields.get? "ip_address" = none ∨ fields.get? "ip_address" = some .null) :
      FirstFault path (.object fields) (.field (path ++ "." ++ "ip_address") .missing)
  | addressMismatch {fields : Fields} {v : Value} (hkeys : fields.Declared Schema.ipRestriction)
      (hip : fields.get? "ip_address" = some v) (hnull : v ≠ .null) (hv : ∀ s, v ≠ .text s) :
      FirstFault path (.object fields)
        (.field (path ++ "." ++ "ip_address") (.mismatch .string v.shape))
  | maskMismatch {fields : Fields} {ip : String} {v : Value}
      (hkeys : fields.Declared Schema.ipRestriction)
      (hip : fields.get? "ip_address" = some (.text ip))
      (hmask : fields.get? "subnet_mask" = some v) (hnull : v ≠ .null) (hv : ∀ s, v ≠ .text s) :
      FirstFault path (.object fields)
        (.field (path ++ "." ++ "subnet_mask") (.mismatch .string v.shape))
  /-- The network cannot be encoded: the fault of the encoder is attributed to the entry. -/
  | network {fields : Fields} {ip mask : String} {fault : Fault}
      (hkeys : fields.Declared Schema.ipRestriction)
      (hip : fields.get? "ip_address" = some (.text ip)) (hmask : HandsMask fields ip mask)
      (hfault : Cidr.encode ip mask = .error fault) :
      FirstFault path (.object fields) (.within path fault)

/-- The fault that is reported of a value, other than `null`, in a field. Of a list the first item
with a fault counts. -/
inductive FieldSpec.FaultAt (spec : FieldSpec) (path : String) : Value → Fault → Prop
  | mismatch {v : Value} (hv : ¬ spec.kind.Admits v) :
      FaultAt spec path v (.field path (.mismatch spec.kind v.shape))
  | notAllowed {s : String} (hkind : spec.kind = .string)
      (hs : ¬ (spec.Allows s ∨ (s = "" ∧ spec ∈ Schema.enumerations))) :
      FaultAt spec path (.text s) (.field path (.notAllowed spec.allowed s))
  | item {items : List Value} {i : Nat} {v : Value} (hkind : spec.kind = .strings)
      (hi : items[i]? = some v) (hv : ∀ s, v ≠ .text s)
      (hbefore : ∀ (j : Nat) (w : Value), j < i → items[j]? = some w → ∃ s, w = .text s) :
      FaultAt spec path (.list items)
        (.field (Fault.itemPlace path i) (.mismatch .string v.shape))
  | entry {items : List Value} {i : Nat} {v : Value} {fault : Fault} (hkind : spec.kind = .blocks)
      (hi : items[i]? = some v) (hv : Restriction.FirstFault (Fault.itemPlace path i) v fault)
      (hbefore : ∀ (j : Nat) (w : Value), j < i → items[j]? = some w →
        ∃ c, Restriction.Asks w c) : FaultAt spec path (.list items) fault

/-- The fault that is reported of a block: its first undeclared key, whatever else is wrong, or else
the first field of the schema whose value does not fit. -/
inductive Block.FieldsFault (fields : Fields) : Fault → Prop
  | undeclared {key : String} (hkey : fields.FirstUndeclared Schema.siteConfig key) :
      FieldsFault fields (.field ("site_config" ++ "." ++ key) .unsupported)
  | field {i : Nat} {spec : FieldSpec} {v : Value} {fault : Fault}
      (hkeys : fields.Declared Schema.siteConfig) (hi : Schema.siteConfig[i]? = some spec)
      (hv : fields.get? spec.name = some v) (hnull : v ≠ .null)
      (hfault : spec.FaultAt ("site_config" ++ "." ++ spec.name) v fault)
      (hbefore : ∀ (j : Nat) (earlier : FieldSpec), j < i → Schema.siteConfig[j]? = some earlier →
        ∀ w, fields.get? earlier.name = some w → w ≠ .null → earlier.Fits w) :
      FieldsFault fields fault

/-- The fault that is reported of a document. -/
inductive Block.FirstFault : Value → Fault → Prop
  | notBlocks {v : Value} (hnull : v ≠ .null) (hlist : ∀ items, v ≠ .list items)
      (hobject : ∀ fields, v ≠ .object fields) :
      FirstFault v (.field "site_config" (.notBlocks v.shape))
  | tooMany {items : List Value} (hitems : 1 < items.length) :
      FirstFault (.list items) (.field "site_config" (.tooMany 1 items.length))
  | notBlock {v : Value} (hv : ∀ fields, v ≠ .object fields) :
      FirstFault (.list [v]) (.field "site_config" (.notBlock v.shape))
  | bare {fields : Fields} {fault : Fault} (h : FieldsFault fields fault) :
      FirstFault (.object fields) fault
  | listed {fields : Fields} {fault : Fault} (h : FieldsFault fields fault) :
      FirstFault (.list [.object fields]) fault

/-! ## Undeclared keys -/

namespace Form

theorem lower_le_left (a b : String) : lower a b ≤ a := by
  unfold lower
  split
  · next h => exact Std.le_of_lt h
  · exact String.le_refl a

theorem lower_le_right (a b : String) : lower a b ≤ b := by
  unfold lower
  split
  · exact String.le_refl b
  · next h => exact String.not_lt.mp h

theorem lower_eq_or (a b : String) : lower a b = a ∨ lower a b = b := by
  unfold lower
  split
  · exact .inr rfl
  · exact .inl rfl

/-- The lowest of some texts is one of them, and no other is below it. -/
theorem foldl_lower (a : String) (rest : List String) :
    rest.foldl lower a ∈ a :: rest ∧ ∀ b ∈ a :: rest, rest.foldl lower a ≤ b := by
  induction rest generalizing a with
  | nil =>
    refine ⟨List.mem_singleton_self a, fun b hb => ?_⟩
    cases List.mem_singleton.mp hb
    exact String.le_refl a
  | cons c rest ih =>
    obtain ⟨hmem, hle⟩ := ih (lower a c)
    have hlow : rest.foldl lower (lower a c) ≤ lower a c := hle _ List.mem_cons_self
    rw [List.foldl_cons]
    constructor
    · rcases List.mem_cons.mp hmem with heq | hrest
      · rw [heq]
        rcases lower_eq_or a c with h | h
        · rw [h]
          exact List.mem_cons_self
        · rw [h]
          exact List.mem_cons_of_mem _ List.mem_cons_self
      · exact List.mem_cons_of_mem _ (List.mem_cons_of_mem _ hrest)
    · intro b hb
      rcases List.mem_cons.mp hb with rfl | hb
      · exact String.le_trans hlow (lower_le_left b c)
      · rcases List.mem_cons.mp hb with rfl | hb
        · exact String.le_trans hlow (lower_le_right a b)
        · exact hle b (List.mem_cons_of_mem _ hb)

theorem undeclared?_eq_some_iff {specs : List FieldSpec} {fields : Fields} {key : String} :
    undeclared? specs fields = some key ↔ fields.FirstUndeclared specs key := by
  have hmem : ∀ k, (k ∈ fields.keys.filter fun k => !specs.any fun spec => spec.name == k) ↔
      k ∈ fields.keys ∧ ∀ spec ∈ specs, spec.name ≠ k := by
    intro k
    simp
  have hfirst : ∀ k, fields.FirstUndeclared specs k ↔
      (k ∈ fields.keys.filter fun k => !specs.any fun spec => spec.name == k) ∧
        ∀ other ∈ fields.keys.filter fun k => !specs.any fun spec => spec.name == k,
          k ≤ other := by
    intro k
    simp only [hmem]
    constructor
    · rintro ⟨hk, hnone, hle⟩
      exact ⟨⟨hk, hnone⟩, fun other hother => hle other hother.1 hother.2⟩
    · rintro ⟨⟨hk, hnone⟩, hle⟩
      exact ⟨hk, hnone, fun other hother hnone' => hle other ⟨hother, hnone'⟩⟩
  rw [hfirst]
  unfold undeclared?
  cases fields.keys.filter fun k => !specs.any fun spec => spec.name == k with
  | nil => simp
  | cons a rest =>
    obtain ⟨hlowest, hle⟩ := foldl_lower a rest
    simp only [Option.some.injEq]
    constructor
    · rintro rfl
      exact ⟨hlowest, hle⟩
    · rintro ⟨hkey, hkeyle⟩
      exact String.le_antisymm (hle key hkey) (hkeyle _ hlowest)

theorem ofValue_eq_error_iff {specs : List FieldSpec} {path : String} {v : Value}
    {fault : Fault} :
    ofValue specs path v = .error fault ↔
      ((∀ fields, v ≠ .object fields) ∧ fault = .field path (.notBlock v.shape)) ∨
        ∃ (fields : Fields) (key : String), v = .object fields ∧
          fields.FirstUndeclared specs key ∧
          fault = .field (path ++ "." ++ key) .unsupported := by
  cases v with
  | object fields =>
    simp only [ofValue, ← undeclared?_eq_some_iff]
    cases hkey : undeclared? specs fields with
    | none => simp [hkey]
    | some key => simp [hkey, eq_comm]
  | _ => simp [ofValue, eq_comm]

/-- An object whose keys are all declared is read as a form. -/
theorem ofValue_of_declared {specs : List FieldSpec} {path : String} {fields : Fields}
    (h : fields.Declared specs) : ofValue specs path (.object fields) = .ok ⟨path, fields⟩ :=
  ofValue_eq_ok_iff.mpr ⟨fields, rfl, undeclared?_eq_none_iff.mpr h, rfl⟩

/-! ## One field -/

variable {form : Form} {spec : FieldSpec} {v : Value} {fault : Fault}

theorem flag_eq_error_iff (h : form.supplied spec = .ok (some v)) :
    form.flag spec = .error fault ↔ (∀ b, v ≠ .bool b) ∧ fault = form.mismatch spec v := by
  unfold flag
  rw [h]
  cases v <;> simp [eq_comm]

theorem text_eq_error_iff (hget : form.fields.get? spec.name = some v) (hnull : v ≠ .null) :
    form.text spec = .error fault ↔
      ((∀ s, v ≠ .text s) ∧ fault = form.mismatch spec v) ∨
        ∃ s, v = .text s ∧ ¬ spec.TakesText (some s) ∧
          fault = .field (form.pathOf spec.name) (.notAllowed spec.allowed s) := by
  cases v with
  | text s =>
    rw [text_of_get? hget]
    by_cases htakes : spec.TakesText (some s)
    · simp [htakes]
    · simp [htakes, eq_comm]
  | _ =>
    unfold text
    rw [supplied_of_get? hget hnull]
    simp [eq_comm]

/-- A field that is a list has the fault of its first item that has one. -/
theorem items_eq_error_iff {α : Type} {read : String → Value → Except Fault α}
    (h : form.supplied spec = .ok (some v)) :
    form.items spec read = .error fault ↔
      ((∀ items, v ≠ .list items) ∧ fault = form.mismatch spec v) ∨
        ∃ items, v = .list items ∧ ∃ (i : Nat) (w : Value), items[i]? = some w ∧
          read (Fault.itemPlace (form.pathOf spec.name) i) w = .error fault ∧
          ∀ (j : Nat) (earlier : Value), j < i → items[j]? = some earlier →
            ∃ a, read (Fault.itemPlace (form.pathOf spec.name) j) earlier = .ok a := by
  unfold items
  rw [h]
  cases v with
  | list vs =>
    simp only [Indexed.traverse_eq_error_iff, ne_eq, Value.list.injEq, forall_eq', false_and, false_or,
      exists_eq_left']
    rfl
  | _ => simp [eq_comm]

theorem listedText_eq_error_iff {path : String} :
    listedText path v = .error fault ↔
      (∀ s, v ≠ .text s) ∧ fault = .field path (.mismatch .string v.shape) := by
  cases v <;> simp [listedText, eq_comm]

/-- A field that has to be there and takes every text is at fault if it is left out, or if its value
is no text. -/
theorem requiredText_eq_error_iff (hreq : spec.required = true) (hopen : spec.allowed = [])
    (hblank : spec.blankIsUnset = false) :
    form.requiredText spec = .error fault ↔
      ((form.fields.get? spec.name = none ∨ form.fields.get? spec.name = some .null) ∧
        fault = .field (form.pathOf spec.name) .missing) ∨
      ∃ v, form.fields.get? spec.name = some v ∧ v ≠ .null ∧ (∀ s, v ≠ .text s) ∧
        fault = form.mismatch spec v := by
  rcases form.left_out_or_supplied spec with hout | ⟨v, hget, hnull, hsupplied⟩
  · have hmissing : form.requiredText spec = .error (.field (form.pathOf spec.name) .missing) := by
      unfold requiredText text
      rw [supplied_of_left_out hout, if_pos hreq]
    rw [hmissing]
    constructor
    · intro h
      cases h
      exact .inl ⟨hout, rfl⟩
    · rintro (⟨-, rfl⟩ | ⟨v, hget, hnull, -⟩)
      · rfl
      · rcases hout with hnone | hnone
        · cases hnone.symm.trans hget
        · cases hnone.symm.trans hget
          exact absurd rfl hnull
  · simp only [hget, reduceCtorEq, Option.some.injEq, hnull, or_self, false_and, false_or,
      exists_eq_left', ne_eq, not_false_eq_true, true_and]
    by_cases htext : ∃ s, v = .text s
    · obtain ⟨s, rfl⟩ := htext
      rw [(requiredText_eq_ok_iff hreq hopen hblank).mpr hget]
      simp
    · have hother : ∀ s, v ≠ .text s := fun s hs => htext ⟨s, hs⟩
      have hfault : form.text spec = .error (form.mismatch spec v) :=
        (text_eq_error_iff hget hnull).mpr (.inl ⟨hother, rfl⟩)
      unfold requiredText
      rw [hfault]
      simp [hother, eq_comm]

/-- A field that may be left out and takes every text is at fault if its value is no text. -/
theorem text_eq_error_iff_of_open (hreq : spec.required = false) (hopen : spec.allowed = []) :
    form.text spec = .error fault ↔
      ∃ v, form.fields.get? spec.name = some v ∧ v ≠ .null ∧ (∀ s, v ≠ .text s) ∧
        fault = form.mismatch spec v := by
  rcases form.left_out_or_supplied spec with hout | ⟨v, hget, hnull, -⟩
  · rw [text_of_left_out hreq hout]
    constructor
    · intro h
      cases h
    · rintro ⟨v, hget, hnull, -⟩
      rcases hout with hnone | hnone
      · cases hnone.symm.trans hget
      · cases hnone.symm.trans hget
        exact absurd rfl hnull
  · simp only [text_eq_error_iff hget hnull, FieldSpec.takesText_of_open hopen, not_true_eq_false,
      false_and, and_false, exists_false, or_false, hget, Option.some.injEq, exists_eq_left',
      hnull, ne_eq, not_false_eq_true, true_and]

end Form

/-! ## Access rules -/

namespace Restriction

variable {path : String} {fields : Fields} {ip mask : String} {v : Value} {fault : Fault}

/-- The mask that is handed to the encoder is the one that counts once the mask was read. -/
theorem exists_text_subnetMask_iff (path : String) :
    (∃ setting, Form.text ⟨path, fields⟩ Schema.subnetMask = .ok setting ∧
      effectiveMask ⟨ip, setting⟩ = mask) ↔ HandsMask fields ip mask := by
  constructor
  · rintro ⟨setting, htext, rfl⟩
    rcases Form.left_out_or_supplied ⟨path, fields⟩ Schema.subnetMask with
      hout | ⟨v, hget, -, hsupplied⟩
    · cases (text_subnetMask_of_left_out hout).symm.trans htext
      exact .host hout
    · obtain ⟨m, rfl, -⟩ := (Form.exists_text_iff hsupplied).mp ⟨setting, htext⟩
      cases (text_subnetMask_of_get? hget).symm.trans htext
      exact .own hget
  · intro h
    cases h with
    | own hmask => exact ⟨_, text_subnetMask_of_get? hmask, rfl⟩
    | host hmask => exact ⟨_, text_subnetMask_of_left_out hmask, rfl⟩

theorem requiredText_ipAddress_iff :
    Form.requiredText ⟨path, fields⟩ Schema.ipAddress = .ok ip ↔
      fields.get? "ip_address" = some (.text ip) :=
  Form.requiredText_eq_ok_iff rfl rfl rfl

/-- **The fault of an entry** is the one that the first check finds that fails. -/
theorem decode_eq_error_iff : decode path v = .error fault ↔ FirstFault path v fault := by
  unfold decode
  rw [Steps.bind_eq_error, Form.ofValue_eq_error_iff]
  constructor
  · rintro ((⟨hv, rfl⟩ | ⟨fields, key, rfl, hkey, rfl⟩) | ⟨form, hform, h⟩)
    · exact .notBlock hv
    · exact .undeclared hkey
    · obtain ⟨fields, rfl, hkeys, rfl⟩ := Form.ofValue_eq_ok_iff.mp hform
      rw [Form.undeclared?_eq_none_iff] at hkeys
      rcases Steps.bind_eq_error.mp h with haddress | ⟨ip, hip, h⟩
      · rcases (Form.requiredText_eq_error_iff rfl rfl rfl).mp haddress with
          ⟨hout, rfl⟩ | ⟨v, hget, hnull, hv, rfl⟩
        · exact .addressMissing hkeys hout
        · exact .addressMismatch hkeys hget hnull hv
      · rw [requiredText_ipAddress_iff] at hip
        rcases Steps.bind_eq_error.mp h with hmask | ⟨setting, hmask, h⟩
        · obtain ⟨v, hget, hnull, hv, rfl⟩ :=
            (Form.text_eq_error_iff_of_open rfl rfl).mp hmask
          exact .maskMismatch hkeys hip hget hnull hv
        · have hhands : HandsMask fields ip (effectiveMask ⟨ip, setting⟩) :=
            (exists_text_subnetMask_iff path).mp ⟨setting, hmask, rfl⟩
          cases hcidr : cidr ⟨ip, setting⟩ with
          | ok c =>
            simp only [hcidr] at h
            cases h
          | error inner =>
            simp only [hcidr] at h
            cases h
            exact .network hkeys hip hhands hcidr
  · intro h
    cases h with
    | notBlock hv => exact .inl (.inl ⟨hv, rfl⟩)
    | undeclared hkey => exact .inl (.inr ⟨_, _, rfl, hkey, rfl⟩)
    | addressMissing hkeys hip =>
      refine .inr ⟨_, Form.ofValue_of_declared hkeys, Steps.bind_eq_error.mpr (.inl ?_)⟩
      exact (Form.requiredText_eq_error_iff rfl rfl rfl).mpr (.inl ⟨hip, rfl⟩)
    | addressMismatch hkeys hip hnull hv =>
      refine .inr ⟨_, Form.ofValue_of_declared hkeys, Steps.bind_eq_error.mpr (.inl ?_)⟩
      exact (Form.requiredText_eq_error_iff rfl rfl rfl).mpr (.inr ⟨_, hip, hnull, hv, rfl⟩)
    | maskMismatch hkeys hip hmask hnull hv =>
      refine .inr ⟨_, Form.ofValue_of_declared hkeys, Steps.bind_eq_error.mpr
        (.inr ⟨_, requiredText_ipAddress_iff.mpr hip, Steps.bind_eq_error.mpr (.inl ?_)⟩)⟩
      exact (Form.text_eq_error_iff_of_open rfl rfl).mpr ⟨_, hmask, hnull, hv, rfl⟩
    | @network fields ip mask inner hkeys hip hmask hfault =>
      obtain ⟨setting, htext, rfl⟩ := (exists_text_subnetMask_iff path).mpr hmask
      refine .inr ⟨_, Form.ofValue_of_declared hkeys, Steps.bind_eq_error.mpr
        (.inr ⟨_, requiredText_ipAddress_iff.mpr hip, Steps.bind_eq_error.mpr
          (.inr ⟨setting, htext, ?_⟩)⟩)⟩
      have hcidr : cidr ⟨ip, setting⟩ = .error inner := hfault
      simp only [hcidr]
      rfl

end Restriction

/-! ## Fields of a block -/

namespace FieldSpec

variable {spec : FieldSpec} {path : String} {v : Value} {fault : Fault}

theorem faultAt_iff_of_bool (hkind : spec.kind = .bool) :
    spec.FaultAt path v fault ↔
      (∀ b, v ≠ .bool b) ∧ fault = .field path (.mismatch spec.kind v.shape) := by
  have hadmits : ¬ spec.kind.Admits v ↔ ∀ b, v ≠ .bool b := by
    rw [hkind, Kind.Admits, not_exists]
  constructor
  · intro h
    cases h with
    | mismatch hv => exact ⟨hadmits.mp hv, rfl⟩
    | notAllowed hkind' | item hkind' | entry hkind' => cases hkind.symm.trans hkind'
  · rintro ⟨hv, rfl⟩
    exact .mismatch (hadmits.mpr hv)

theorem faultAt_iff_of_string (hkind : spec.kind = .string) :
    spec.FaultAt path v fault ↔
      ((∀ s, v ≠ .text s) ∧ fault = .field path (.mismatch spec.kind v.shape)) ∨
        ∃ s, v = .text s ∧ ¬ (spec.Allows s ∨ (s = "" ∧ spec ∈ Schema.enumerations)) ∧
          fault = .field path (.notAllowed spec.allowed s) := by
  have hadmits : ¬ spec.kind.Admits v ↔ ∀ s, v ≠ .text s := by
    rw [hkind, Kind.Admits, not_exists]
  constructor
  · intro h
    cases h with
    | mismatch hv => exact .inl ⟨hadmits.mp hv, rfl⟩
    | notAllowed _ hs => exact .inr ⟨_, rfl, hs, rfl⟩
    | item hkind' | entry hkind' => cases hkind.symm.trans hkind'
  · rintro (⟨hv, rfl⟩ | ⟨s, rfl, hs, rfl⟩)
    · exact .mismatch (hadmits.mpr hv)
    · exact .notAllowed hkind hs

theorem faultAt_iff_of_strings (hkind : spec.kind = .strings) :
    spec.FaultAt path v fault ↔
      ((∀ items, v ≠ .list items) ∧ fault = .field path (.mismatch spec.kind v.shape)) ∨
        ∃ items, v = .list items ∧ ∃ (i : Nat) (w : Value), items[i]? = some w ∧
          ((∀ s, w ≠ .text s) ∧
            fault = .field (Fault.itemPlace path i) (.mismatch .string w.shape)) ∧
          ∀ (j : Nat) (earlier : Value), j < i → items[j]? = some earlier →
            ∃ s, earlier = .text s := by
  have hadmits : ¬ spec.kind.Admits v ↔ ∀ items, v ≠ .list items := by
    rw [hkind, Kind.Admits, not_exists]
  constructor
  · intro h
    cases h with
    | mismatch hv => exact .inl ⟨hadmits.mp hv, rfl⟩
    | item _ hi hw hbefore => exact .inr ⟨_, rfl, _, _, hi, ⟨hw, rfl⟩, hbefore⟩
    | notAllowed hkind' | entry hkind' => cases hkind.symm.trans hkind'
  · rintro (⟨hv, rfl⟩ | ⟨items, rfl, i, w, hi, ⟨hw, rfl⟩, hbefore⟩)
    · exact .mismatch (hadmits.mpr hv)
    · exact .item hkind hi hw hbefore

theorem faultAt_iff_of_blocks (hkind : spec.kind = .blocks) :
    spec.FaultAt path v fault ↔
      ((∀ items, v ≠ .list items) ∧ fault = .field path (.mismatch spec.kind v.shape)) ∨
        ∃ items, v = .list items ∧ ∃ (i : Nat) (w : Value), items[i]? = some w ∧
          Restriction.FirstFault (Fault.itemPlace path i) w fault ∧
          ∀ (j : Nat) (earlier : Value), j < i → items[j]? = some earlier →
            ∃ c, Restriction.Asks earlier c := by
  have hadmits : ¬ spec.kind.Admits v ↔ ∀ items, v ≠ .list items := by
    rw [hkind, Kind.Admits, not_exists]
  constructor
  · intro h
    cases h with
    | mismatch hv => exact .inl ⟨hadmits.mp hv, rfl⟩
    | entry _ hi hw hbefore => exact .inr ⟨_, rfl, _, _, hi, hw, hbefore⟩
    | notAllowed hkind' | item hkind' => cases hkind.symm.trans hkind'
  · rintro (⟨hv, rfl⟩ | ⟨items, rfl, i, w, hi, hw, hbefore⟩)
    · exact .mismatch (hadmits.mpr hv)
    · exact .entry hkind hi hw hbefore

end FieldSpec

/-- **The fault of a field** is the fault of its value. -/
theorem Form.check_eq_error_iff {form : Form} {spec : FieldSpec} {v : Value} {fault : Fault}
    (hspec : spec ∈ Schema.siteConfig) (hget : form.fields.get? spec.name = some v)
    (hnull : v ≠ .null) :
    form.check spec = .error fault ↔ spec.FaultAt (form.pathOf spec.name) v fault := by
  have hsupplied := supplied_of_get? hget hnull
  unfold check
  cases hkind : spec.kind with
  | bool =>
    simp only [Steps.checked_eq_error_iff, flag_eq_error_iff hsupplied,
      FieldSpec.faultAt_iff_of_bool hkind]
    rfl
  | string =>
    simp only [Steps.checked_eq_error_iff, text_eq_error_iff hget hnull,
      FieldSpec.takesText_iff_allows hspec, FieldSpec.faultAt_iff_of_string hkind]
    rfl
  | strings =>
    simp only [Steps.checked_eq_error_iff, items_eq_error_iff hsupplied, listedText_eq_error_iff,
      exists_listedText_iff, FieldSpec.faultAt_iff_of_strings hkind]
    rfl
  | blocks =>
    simp only [Steps.checked_eq_error_iff, items_eq_error_iff hsupplied,
      Restriction.decode_eq_error_iff, Restriction.exists_decode_iff,
      FieldSpec.faultAt_iff_of_blocks hkind]
    rfl

/-! ## Documents -/

/-- A fault is attributed to the configuration: it has a place there, what it is attributed to is
around the cause itself, and its cause is one of those that can come up. -/
structure Fault.Attributed (fault : Fault) : Prop where
  path : fault.path? = some "site_config" ∨ fault.Below ("site_config" ++ ".")
  /-- Only one place is put around a cause. -/
  root : ∀ path inner, fault = .within path inner → fault.root = inner
  /-- No name was looked up in vain. -/
  known : ∀ path text, fault.root ≠ .field path (.stated text)

/-- A fault of the encoder is a cause, and not one of a field. -/
theorem Cidr.Refuses.root_eq {ip mask : String} {fault : Fault} (h : Refuses ip mask fault) :
    fault.root = fault ∧ ∀ path reason, fault ≠ .field path reason := by
  cases h <;> exact ⟨rfl, fun _ _ => Fault.noConfusion⟩

theorem Fault.attributed_field {path : String} {reason : Reason}
    (hpath : path = "site_config" ∨ ∃ rest, path = "site_config" ++ "." ++ rest)
    (hreason : ∀ text, reason ≠ .stated text) : (Fault.field path reason).Attributed where
  path := by
    rcases hpath with rfl | ⟨rest, rfl⟩
    · exact .inl rfl
    · exact .inr (below_field ..)
  root _ _ h := Fault.noConfusion h
  known _ text h := by
    cases h
    exact hreason text rfl

theorem Restriction.FirstFault.attributed {rest : String} {v : Value} {fault : Fault}
    (h : FirstFault ("site_config" ++ "." ++ rest) v fault) : fault.Attributed := by
  have hplace : ∀ more, ∃ r,
      "site_config" ++ "." ++ rest ++ "." ++ more = "site_config" ++ "." ++ r :=
    fun more => ⟨rest ++ "." ++ more, by simp only [String.append_assoc]⟩
  cases h with
  | notBlock => exact Fault.attributed_field (.inr ⟨_, rfl⟩) fun _ => Reason.noConfusion
  | undeclared | addressMissing | addressMismatch | maskMismatch =>
    exact Fault.attributed_field (.inr (hplace _)) fun _ => Reason.noConfusion
  | network _ _ _ hfault =>
    obtain ⟨hroot, hnot⟩ := (Cidr.encode_eq_error_iff_refuses.mp hfault).root_eq
    refine ⟨.inr (Fault.below_within _ _).of_append, ?_, ?_⟩
    · intro path inner h
      cases h
      exact hroot
    · intro path text h
      rw [Fault.root_within, hroot] at h
      exact hnot _ _ h

theorem FieldSpec.FaultAt.attributed {spec : FieldSpec} {v : Value} {fault : Fault}
    (h : spec.FaultAt ("site_config" ++ "." ++ spec.name) v fault) : fault.Attributed := by
  have hplace : ∀ i, ∃ r, Fault.itemPlace ("site_config" ++ "." ++ spec.name) i
      = "site_config" ++ "." ++ r :=
    fun i => ⟨_, by simp only [Fault.itemPlace, String.append_assoc]; rfl⟩
  cases h with
  | mismatch | notAllowed =>
    exact Fault.attributed_field (.inr ⟨_, rfl⟩) fun _ => Reason.noConfusion
  | @item _ i => exact Fault.attributed_field (.inr (hplace i)) fun _ => Reason.noConfusion
  | @entry _ i _ _ _ _ hv =>
    obtain ⟨rest, hrest⟩ := hplace i
    rw [hrest] at hv
    exact hv.attributed

namespace Block

theorem FieldsFault.attributed {fields : Fields} {fault : Fault} (h : FieldsFault fields fault) :
    fault.Attributed := by
  cases h with
  | undeclared => exact Fault.attributed_field (.inr ⟨_, rfl⟩) fun _ => Reason.noConfusion
  | field _ _ _ _ hfault => exact hfault.attributed

theorem FirstFault.attributed {v : Value} {fault : Fault} (h : FirstFault v fault) :
    fault.Attributed := by
  cases h with
  | notBlocks | tooMany | notBlock =>
    exact Fault.attributed_field (.inl rfl) fun _ => Reason.noConfusion
  | bare h | listed h => exact h.attributed

/-- The fault of a value that is to be a block. -/
theorem decodeOne_eq_error_iff_fieldsFault {v : Value} {fault : Fault} :
    decodeOne v = .error fault ↔
      ((∀ fields, v ≠ .object fields) ∧ fault = .field "site_config" (.notBlock v.shape)) ∨
        ∃ fields, v = .object fields ∧ FieldsFault fields fault := by
  rw [decodeOne_eq_error_iff, Form.ofValue_eq_error_iff]
  constructor
  · rintro ((⟨hv, rfl⟩ | ⟨fields, key, rfl, hkey, rfl⟩) |
      ⟨form, hform, i, spec, hi, hcheck, hbefore⟩)
    · exact .inl ⟨hv, rfl⟩
    · exact .inr ⟨fields, rfl, .undeclared hkey⟩
    · obtain ⟨fields, rfl, hkeys, rfl⟩ := Form.ofValue_eq_ok_iff.mp hform
      have hspec : spec ∈ Schema.siteConfig := List.mem_of_getElem? hi
      -- A field that fails its check is there.
      rcases Form.left_out_or_supplied ⟨rootPath, fields⟩ spec with hout | ⟨v, hget, hnull, -⟩
      · rw [Form.check_of_left_out hspec hout] at hcheck
        cases hcheck
      · refine .inr ⟨fields, rfl, .field (Form.undeclared?_eq_none_iff.mp hkeys) hi hget hnull
          ((Form.check_eq_error_iff hspec hget hnull).mp hcheck) fun j earlier hj hearlier => ?_⟩
        exact (Form.check_eq_ok_iff (List.mem_of_getElem? hearlier)).mp (hbefore j earlier hj hearlier)
  · rintro (⟨hv, rfl⟩ | ⟨fields, rfl, hfault⟩)
    · exact .inl (.inl ⟨hv, rfl⟩)
    · cases hfault with
      | undeclared hkey => exact .inl (.inr ⟨fields, _, rfl, hkey, rfl⟩)
      | field hkeys hi hget hnull hfault hbefore =>
        have hspec := List.mem_of_getElem? hi
        refine .inr ⟨⟨rootPath, fields⟩, Form.ofValue_of_declared hkeys, _, _, hi,
          (Form.check_eq_error_iff hspec hget hnull).mpr hfault, fun j earlier hj hearlier => ?_⟩
        exact (Form.check_eq_ok_iff (List.mem_of_getElem? hearlier)).mpr
          (hbefore j earlier hj hearlier)

theorem decode_eq_error_iff_firstFault {v : Value} {fault : Fault} :
    decode v = .error fault ↔ FirstFault v fault := by
  constructor
  · intro h
    unfold decode at h
    split at h
    · cases h
    · cases h
    · rcases decodeOne_eq_error_iff_fieldsFault.mp (Steps.map_eq_error.mp h) with
        ⟨hv, rfl⟩ | ⟨fields, rfl, hfault⟩
      · exact .notBlock hv
      · exact .listed hfault
    · next vs hnil hone =>
      cases h
      refine .tooMany ?_
      match vs with
      | [] => exact absurd rfl hnil
      | [v] => exact absurd rfl (hone v)
      | _ :: _ :: _ => simp
    · rcases decodeOne_eq_error_iff_fieldsFault.mp (Steps.map_eq_error.mp h) with
        ⟨hv, rfl⟩ | ⟨_, heq, hfault⟩
      · exact absurd rfl (hv _)
      · cases heq
        exact .bare hfault
    · next hnull _ _ hlist hobject =>
      cases h
      exact .notBlocks hnull hlist hobject
  · intro h
    cases h with
    | notBlocks hnull hlist hobject =>
      cases v with
      | null => exact absurd rfl hnull
      | list items => exact absurd rfl (hlist items)
      | object fields => exact absurd rfl (hobject fields)
      | _ => rfl
    | @tooMany items hitems =>
      match items, hitems with
      | _ :: _ :: _, _ => rfl
    | notBlock hv =>
      exact Steps.map_eq_error.mpr (decodeOne_eq_error_iff_fieldsFault.mpr (.inl ⟨hv, rfl⟩))
    | bare hfault | listed hfault =>
      exact Steps.map_eq_error.mpr
        (decodeOne_eq_error_iff_fieldsFault.mpr (.inr ⟨_, rfl, hfault⟩))

/-- **A document that is rejected is rejected for its first fault**, however many it has. The fault
has a place in the configuration, and no field was looked up that is not declared. -/
theorem rejected_iff_firstFault (v : Value) (fault : Fault) :
    (decode v = .error fault ↔ FirstFault v fault) ∧
      (decode v = .error fault → fault.Attributed) ∧ decodeByName v = decode v :=
  ⟨decode_eq_error_iff_firstFault, fun h => (decode_eq_error_iff_firstFault.mp h).attributed,
    congrFun decodeByName_eq v⟩

/-- A document with a fault in the last field of the schema, one in an entry of the list of access
rules, which is read before it, and one in the entry before that one. -/
def faultyDocument : Value :=
  .list [.object [
    (Schema.ipRestrictions.name, .list [
      .object [(Schema.ipAddress.name, .text "10.0.0.0"),
        (Schema.subnetMask.name, .text "255.0.255.0")],
      .object [(Schema.ipAddress.name, .bool true)]]),
    (Schema.virtualNetworkName.name, .bool true)]]

/-- The fault of the first entry is reported, at its place. -/
theorem firstFault_faultyDocument :
    FirstFault faultyDocument (.within "site_config.ip_restriction.0" (.mask "255.0.255.0")) ∧
      (Fault.within "site_config.ip_restriction.0" (.mask "255.0.255.0")).Attributed := by
  have h : decode faultyDocument
      = .error (.within "site_config.ip_restriction.0" (.mask "255.0.255.0")) := by
    decide +kernel
  obtain ⟨hiff, hattributed, -⟩ := rejected_iff_firstFault faultyDocument
    (.within "site_config.ip_restriction.0" (.mask "255.0.255.0"))
  exact ⟨hiff.mp h, hattributed h⟩

end Block

end SiteConfig
