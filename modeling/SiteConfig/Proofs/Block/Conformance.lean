import SiteConfig.Proofs.Block.Checking

/-!
# Documents that follow the schema

What the schema asks of a document is said here without a reader: which shapes a `site_config` value
can have, which keys its block can have, and which values can stand under a key. A document is
accepted exactly if it is of this kind.

- `FieldSpec.Allows spec s`: the text is in the closed set of the field, under its case rule.
- `Restriction.Asks v c`: an entry of the list of access rules, and the network that it asks for.
- `FieldSpec.Fits spec v`: the value can stand in the field; one case for each kind of field.
- `Block.Conforms fields`: the object is a block of the schema.
- `Block.exists_decode_iff_conforms`: the main statement, for all documents.
-/

namespace SiteConfig

/-! ## What the schema asks for -/

/-- The text is in the closed set of the field, up to the case of ASCII letters if the field ignores
it. Without a closed set, every text will do. -/
def FieldSpec.Allows (spec : FieldSpec) (s : String) : Prop :=
  spec.allowed = [] ∨ ∃ member ∈ spec.allowed,
    member = s ∨ (spec.ignoresCase = true ∧ Text.fold member = Text.fold s)

/-- An entry of the list of access rules asks for a network: it is an object with an address and
perhaps a mask, and with nothing else, and `c` is the network that is sent for it. -/
inductive Restriction.Asks : Value → String → Prop
  /-- The entry has a mask of its own. -/
  | masked {fields : Fields} {ip mask c : String}
      (hkeys : ∀ key ∈ fields.keys, key = "ip_address" ∨ key = "subnet_mask")
      (hip : fields.get? "ip_address" = some (.text ip))
      (hmask : fields.get? "subnet_mask" = some (.text mask))
      (hsent : Cidr.encode ip mask = .ok c) : Asks (.object fields) c
  /-- The entry has none, and gets the one of a single host, unless its address has a prefix. -/
  | unmasked {fields : Fields} {ip c : String}
      (hkeys : ∀ key ∈ fields.keys, key = "ip_address" ∨ key = "subnet_mask")
      (hip : fields.get? "ip_address" = some (.text ip))
      (hmask : fields.get? "subnet_mask" = none ∨ fields.get? "subnet_mask" = some .null)
      (hsent : Cidr.encode ip (if '/' ∈ ip.toList then "" else "255.255.255.255") = .ok c) :
      Asks (.object fields) c

/-- The value can stand in the field: it is of the field's kind, and a text is one that the field
allows. A blank text can also stand in a field of an enumeration, and a list can stand in a field if
each of its items can. -/
inductive FieldSpec.Fits (spec : FieldSpec) : Value → Prop
  | flag (hkind : spec.kind = .bool) (b : Bool) : Fits spec (.bool b)
  | text {s : String} (hkind : spec.kind = .string)
      (hs : spec.Allows s ∨ (s = "" ∧ spec ∈ Schema.enumerations)) : Fits spec (.text s)
  | texts {items : List Value} (hkind : spec.kind = .strings)
      (hitems : ∀ item ∈ items, ∃ s, item = .text s) : Fits spec (.list items)
  | entries {items : List Value} (hkind : spec.kind = .blocks)
      (hitems : ∀ item ∈ items, ∃ c, Restriction.Asks item c) : Fits spec (.list items)

/-- The object is a block of the schema. `null` can stand under every key and counts as leaving the
key out. -/
structure Block.Conforms (fields : Fields) : Prop where
  declared : ∀ key ∈ fields.keys, ∃ spec ∈ Schema.siteConfig, spec.name = key
  fits : ∀ spec ∈ Schema.siteConfig, ∀ v, fields.get? spec.name = some v → v ≠ .null → spec.Fits v

/-! ## One field -/

theorem FieldSpec.accepts_iff_allows {spec : FieldSpec} {s : String} :
    spec.accepts s = true ↔ spec.Allows s := by
  unfold accepts Allows
  rw [Bool.or_eq_true, List.isEmpty_iff, List.any_eq_true]
  refine or_congr_right (exists_congr fun member => and_congr_right fun _ => ?_)
  by_cases hcase : spec.ignoresCase = true
  · rw [if_pos hcase, Text.sameUpToCase_iff]
    constructor
    · exact fun hsame => .inr ⟨hcase, hsame⟩
    · rintro (rfl | ⟨-, hsame⟩)
      · rfl
      · exact hsame
  · rw [if_neg hcase, beq_iff_eq]
    constructor
    · exact .inl
    · rintro (heq | ⟨hcase', -⟩)
      · exact heq
      · exact absurd hcase' hcase

/-- The texts that a field of the schema takes are those it allows, and the blank one if the field
is an enumeration. -/
theorem FieldSpec.takesText_iff_allows {spec : FieldSpec} (hspec : spec ∈ Schema.siteConfig)
    {s : String} :
    spec.TakesText (some s) ↔ spec.Allows s ∨ (s = "" ∧ spec ∈ Schema.enumerations) := by
  rw [Schema.mem_enumerations_iff spec hspec, ← accepts_iff_allows, or_comm]
  rfl

namespace Form

variable {form : Form} {spec : FieldSpec} {v : Value}

theorem exists_flag_iff (h : form.supplied spec = .ok (some v)) :
    (∃ setting, form.flag spec = .ok setting) ↔ ∃ b, v = .bool b := by
  unfold flag
  rw [h]
  cases v <;> simp

theorem exists_text_iff (h : form.supplied spec = .ok (some v)) :
    (∃ setting, form.text spec = .ok setting) ↔ ∃ s, v = .text s ∧ spec.TakesText (some s) := by
  unfold text
  rw [h]
  cases v with
  | text s =>
    by_cases hblank : s = "" ∧ spec.blankIsUnset = true
    · simp [hblank, FieldSpec.TakesText]
    · by_cases hacc : spec.accepts s = true
      · simp [hblank, hacc, FieldSpec.TakesText]
      · simp [hblank, hacc, FieldSpec.TakesText]
  | _ => simp

/-- A field that is a list is read exactly if all its items are. -/
theorem exists_items_iff {α : Type} {read : String → Value → Except Fault α} {P : Value → Prop}
    (hread : ∀ path item, (∃ a, read path item = .ok a) ↔ P item)
    (h : form.supplied spec = .ok (some v)) :
    (∃ as, form.items spec read = .ok as) ↔ ∃ vs, v = .list vs ∧ ∀ item ∈ vs, P item := by
  unfold items
  rw [h]
  cases v with
  | list vs =>
    have hitems : ∀ (i : Nat) (item : Value),
        (∃ a, read (form.itemPath spec i) item = .ok a) ↔ P item := fun i item => hread _ item
    simp only [Indexed.exists_traverse_iff_forall hitems, Value.list.injEq, exists_eq_left']
  | _ => simp

theorem exists_listedText_iff (path : String) (item : Value) :
    (∃ s, listedText path item = .ok s) ↔ ∃ s, item = .text s := by
  cases item <;> simp [listedText]

/-- The text of a field that has to be there, if the field has no default to fill in. -/
theorem requiredText_eq_ok_iff (hreq : spec.required = true) (hopen : spec.allowed = [])
    (hblank : spec.blankIsUnset = false) {s : String} :
    form.requiredText spec = .ok s ↔ form.fields.get? spec.name = some (.text s) := by
  have hkept : ∀ t, form.fields.get? spec.name = some (.text t) →
      form.text spec = .ok (.given t) := by
    intro t ht
    have hnot : ¬ (t = "" ∧ spec.blankIsUnset = true) := by
      rintro ⟨-, hb⟩
      rw [hblank] at hb
      cases hb
    rw [text_of_get? ht, if_pos (FieldSpec.takesText_of_open hopen _), FieldSpec.rereadText,
      if_neg hnot]
  constructor
  · intro h
    unfold requiredText at h
    rcases form.left_out_or_supplied spec with hout | ⟨v, hget, -, hsupplied⟩
    · have hmissing : form.text spec = .error (.field (form.pathOf spec.name) .missing) := by
        unfold text
        rw [supplied_of_left_out hout, if_pos hreq]
      rw [hmissing] at h
      cases h
    · cases htext : form.text spec with
      | error fault =>
        rw [htext] at h
        cases h
      | ok setting =>
        obtain ⟨t, rfl, -⟩ := (exists_text_iff hsupplied).mp ⟨setting, htext⟩
        rw [hkept t hget] at h
        cases h
        exact hget
  · intro h
    unfold requiredText
    rw [hkept s h]
    rfl

end Form

/-! ## Access rules -/

namespace Restriction

theorem keys_ipRestriction_iff {fields : Fields} :
    (∀ key ∈ fields.keys, ∃ spec ∈ Schema.ipRestriction, spec.name = key) ↔
      ∀ key ∈ fields.keys, key = "ip_address" ∨ key = "subnet_mask" := by
  refine forall₂_congr fun key _ => ?_
  simp only [Schema.ipRestriction, List.mem_cons, List.not_mem_nil, or_false,
    exists_eq_or_imp, exists_eq_left]
  exact or_congr eq_comm eq_comm

/-- The mask that an entry leaves to the schema. -/
theorem text_subnetMask_of_left_out {form : Form}
    (h : form.fields.get? Schema.subnetMask.name = none ∨
      form.fields.get? Schema.subnetMask.name = some .null) :
    form.text Schema.subnetMask = .ok (.filled "255.255.255.255") :=
  Form.text_of_left_out rfl h

theorem text_subnetMask_of_get? {form : Form} {mask : String}
    (h : form.fields.get? Schema.subnetMask.name = some (.text mask)) :
    form.text Schema.subnetMask = .ok (.given mask) := by
  have hnot : ¬ (mask = "" ∧ Schema.subnetMask.blankIsUnset = true) := fun h => by cases h.2
  rw [Form.text_of_get? h, if_pos (FieldSpec.takesText_of_open rfl _), FieldSpec.rereadText,
    if_neg hnot]

/-- **What can be read as an access rule** are the entries that ask for a network, wherever they
stand, and this network is the one that is sent. -/
theorem exists_decode_cidr_iff {path : String} {v : Value} {c : String} :
    (∃ rule, decode path v = .ok rule ∧ rule.cidr = .ok c) ↔ Asks v c := by
  have haddress : ∀ (form : Form) (ip : String), form.requiredText Schema.ipAddress = .ok ip ↔
      form.fields.get? Schema.ipAddress.name = some (.text ip) :=
    fun _ _ => Form.requiredText_eq_ok_iff rfl rfl rfl
  simp only [decode_eq_ok_iff, Form.ofValue_eq_ok_iff, Form.undeclared?_eq_none_iff,
    keys_ipRestriction_iff, haddress]
  constructor
  · rintro ⟨⟨ip, mask⟩, ⟨_, ⟨fields, rfl, hkeys, rfl⟩, hip, hmask, -⟩, hc⟩
    rcases Form.left_out_or_supplied ⟨path, fields⟩ Schema.subnetMask with
      hout | ⟨v, hget, -, hsupplied⟩
    · cases (text_subnetMask_of_left_out hout).symm.trans hmask
      exact .unmasked hkeys hip hout hc
    · obtain ⟨m, rfl, -⟩ := (Form.exists_text_iff hsupplied).mp ⟨mask, hmask⟩
      cases (text_subnetMask_of_get? hget).symm.trans hmask
      exact .masked hkeys hip hget hc
  · intro h
    cases h with
    | @masked fields ip mask _ hkeys hip hmask hsent =>
      exact ⟨⟨ip, .given mask⟩, ⟨_, ⟨fields, rfl, hkeys, rfl⟩, hip,
        text_subnetMask_of_get? hmask, c, hsent⟩, hsent⟩
    | @unmasked fields ip _ hkeys hip hmask hsent =>
      exact ⟨⟨ip, .filled "255.255.255.255"⟩, ⟨_, ⟨fields, rfl, hkeys, rfl⟩, hip,
        text_subnetMask_of_left_out hmask, c, hsent⟩, hsent⟩

theorem exists_decode_iff (path : String) (v : Value) :
    (∃ rule, decode path v = .ok rule) ↔ ∃ c, Asks v c := by
  constructor
  · rintro ⟨rule, h⟩
    obtain ⟨-, -, -, -, c, hc⟩ := decode_eq_ok_iff.mp h
    exact ⟨c, exists_decode_cidr_iff.mp ⟨rule, h, hc⟩⟩
  · rintro ⟨c, hasks⟩
    obtain ⟨rule, h, -⟩ := exists_decode_cidr_iff.mpr hasks
    exact ⟨rule, h⟩

end Restriction

/-! ## Blocks -/

namespace Form

variable {form : Form} {spec : FieldSpec}

theorem check_of_left_out (hspec : spec ∈ Schema.siteConfig)
    (h : form.fields.get? spec.name = none ∨ form.fields.get? spec.name = some .null) :
    form.check spec = .ok () := by
  have hreq : spec.required = false := Schema.required_eq_false spec hspec
  have hsupplied : form.supplied spec = .ok none := by
    rw [supplied_of_left_out h, hreq]
    rfl
  unfold check flag text items
  rw [hsupplied]
  cases spec.kind <;> rfl

theorem check_of_supplied (hspec : spec ∈ Schema.siteConfig) {v : Value}
    (h : form.supplied spec = .ok (some v)) : form.check spec = .ok () ↔ spec.Fits v := by
  unfold check
  cases hkind : spec.kind with
  | bool =>
    simp only [Steps.checked_eq_ok_iff, exists_flag_iff h]
    constructor
    · rintro ⟨b, rfl⟩
      exact .flag hkind b
    · intro hfits
      cases hfits with
      | flag _ b => exact ⟨b, rfl⟩
      | text hkind' | texts hkind' | entries hkind' => cases hkind.symm.trans hkind'
  | string =>
    simp only [Steps.checked_eq_ok_iff, exists_text_iff h, FieldSpec.takesText_iff_allows hspec]
    constructor
    · rintro ⟨s, rfl, hs⟩
      exact .text hkind hs
    · intro hfits
      cases hfits with
      | text _ hs => exact ⟨_, rfl, hs⟩
      | flag hkind' | texts hkind' | entries hkind' => cases hkind.symm.trans hkind'
  | strings =>
    simp only [Steps.checked_eq_ok_iff, exists_items_iff exists_listedText_iff h]
    constructor
    · rintro ⟨items, rfl, hitems⟩
      exact .texts hkind hitems
    · intro hfits
      cases hfits with
      | texts _ hitems => exact ⟨_, rfl, hitems⟩
      | flag hkind' | text hkind' | entries hkind' => cases hkind.symm.trans hkind'
  | blocks =>
    simp only [Steps.checked_eq_ok_iff, exists_items_iff Restriction.exists_decode_iff h]
    constructor
    · rintro ⟨items, rfl, hitems⟩
      exact .entries hkind hitems
    · intro hfits
      cases hfits with
      | entries _ hitems => exact ⟨_, rfl, hitems⟩
      | flag hkind' | text hkind' | texts hkind' => cases hkind.symm.trans hkind'

/-- A field passes its check exactly if it is left out or has a value that fits. -/
theorem check_eq_ok_iff (hspec : spec ∈ Schema.siteConfig) :
    form.check spec = .ok () ↔
      ∀ v, form.fields.get? spec.name = some v → v ≠ .null → spec.Fits v := by
  rcases form.left_out_or_supplied spec with hout | ⟨v, hget, hnull, hsupplied⟩
  · simp only [check_of_left_out hspec hout, true_iff]
    intro v hget hnull
    rcases hout with hnone | hnone
    · cases hnone.symm.trans hget
    · cases hnone.symm.trans hget
      exact absurd rfl hnull
  · rw [check_of_supplied hspec hsupplied]
    constructor
    · intro hfits w hw _
      cases hget.symm.trans hw
      exact hfits
    · intro hall
      exact hall v hget hnull

end Form

namespace Block

/-- What can be read as a block are the blocks of the schema. -/
theorem exists_decodeOne_iff_conforms {v : Value} :
    (∃ block, decodeOne v = .ok block) ↔ ∃ fields, v = .object fields ∧ Conforms fields := by
  rw [exists_decodeOne_iff]
  refine exists_congr fun fields => and_congr_right fun _ => ?_
  constructor
  · rintro ⟨hkeys, hchecks⟩
    exact ⟨hkeys, fun spec hspec => (Form.check_eq_ok_iff hspec).mp (hchecks spec hspec)⟩
  · rintro ⟨hkeys, hfits⟩
    exact ⟨hkeys, fun spec hspec => (Form.check_eq_ok_iff hspec).mpr (hfits spec hspec)⟩

/-- **The documents that are accepted are those that follow the schema**: `null`, an empty list, a
block of the schema, or a list of one. A block and the list of it are read alike, whether they are
accepted or not. -/
theorem exists_decode_iff_conforms (v : Value) :
    ((∃ blocks, decode v = .ok blocks) ↔
      v = .null ∨ v = .list [] ∨
        ∃ fields, (v = .object fields ∨ v = .list [.object fields]) ∧ Conforms fields) ∧
      ∀ fields, decode (.list [.object fields]) = decode (.object fields) := by
  refine ⟨⟨?_, ?_⟩, fun fields => rfl⟩
  · rintro ⟨blocks, h⟩
    -- A block and the list of it are read by the same reader, so one argument serves both.
    have hone : ∀ one, (v = one ∨ v = .list [one]) →
        (decodeOne one).map (fun block => [block]) = .ok blocks →
        ∃ fields, (v = .object fields ∨ v = .list [.object fields]) ∧ Conforms fields := by
      intro one hv hmap
      obtain ⟨block, hblock, -⟩ := Steps.map_eq_ok.mp hmap
      obtain ⟨fields, rfl, hconforms⟩ := exists_decodeOne_iff_conforms.mp ⟨block, hblock⟩
      exact ⟨fields, hv, hconforms⟩
    unfold decode at h
    split at h
    · exact .inl rfl
    · exact .inr (.inl rfl)
    · exact .inr (.inr (hone _ (.inr rfl) h))
    · cases h
    · exact .inr (.inr (hone _ (.inl rfl) h))
    · cases h
  · rintro (rfl | rfl | ⟨fields, hv, hconforms⟩)
    · exact ⟨[], rfl⟩
    · exact ⟨[], rfl⟩
    · obtain ⟨block, hblock⟩ := exists_decodeOne_iff_conforms.mpr ⟨fields, rfl, hconforms⟩
      have hdecode : decode (.object fields) = .ok [block] := Steps.map_eq_ok.mpr ⟨_, hblock, rfl⟩
      rcases hv with rfl | rfl
      · exact ⟨_, hdecode⟩
      · exact ⟨_, hdecode⟩

end Block

end SiteConfig
