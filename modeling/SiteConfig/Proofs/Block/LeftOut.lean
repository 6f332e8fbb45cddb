import SiteConfig.Proofs.Block.Written

/-!
# What counts as leaving a field out

A field is left out by not writing its key. Writing `null` under the key is the same, and so is the
blank text in the fields of the enumerations. It is the same for every document, also for one that is
rejected: what is reported of it is what would be reported without the key.

- `Block.Trims fields trimmed`: `trimmed` is `fields` without one key, of the block or of an entry,
  that counts as left out.
- `Form.ReadsAlike left right spec`: the reader of the field's kind takes the same from two objects,
  and `Block.decodeOne_congr`: two blocks that read alike field by field read alike.
- `Block.decodeOne_of_trims`: so a block reads as it does without the key.
-/

namespace SiteConfig

/-- An object without one key that counts as left out. -/
inductive Block.Trims (fields : Fields) : Fields → Prop
  | null {spec : FieldSpec} (hspec : spec ∈ Schema.siteConfig)
      (hget : fields.get? spec.name = some .null) : Trims fields (fields.erase spec.name)
  | blank {spec : FieldSpec} (hspec : spec ∈ Schema.siteConfig) (hblank : spec.blankIsUnset = true)
      (hget : fields.get? spec.name = some (.text "")) : Trims fields (fields.erase spec.name)
  /-- The key is one of an entry of the list of access rules. -/
  | entry {spec : FieldSpec} {before after : List Value} {entry : Fields}
      (hspec : spec ∈ Schema.ipRestriction)
      (hlist : fields.get? "ip_restriction" = some (.list (before ++ .object entry :: after)))
      (hget : entry.get? spec.name = some .null) :
      Trims fields (fields.insert "ip_restriction"
        (.list (before ++ .object (entry.erase spec.name) :: after)))

/-! ## Keys -/

namespace Fields

variable {p : String → Bool} {key : String}

theorem filter_keys_cons_of_false (hkey : p key = false) (v : Value) (rest : Fields) :
    (keys ((key, v) :: rest)).filter p = rest.keys.filter p :=
  List.filter_cons_of_neg (Bool.eq_false_iff.mp hkey)

theorem filter_keys_cons (k : String) (v : Value) (rest : Fields) :
    (keys ((k, v) :: rest)).filter p = [k].filter p ++ rest.keys.filter p :=
  List.filter_append [k] rest.keys

/-- Removing a key changes nothing among the other keys. -/
theorem filter_keys_erase (hkey : p key = false) (fields : Fields) :
    (keys (fields.erase key)).filter p = fields.keys.filter p := by
  induction fields with
  | nil => rfl
  | cons field rest ih =>
    obtain ⟨k, v⟩ := field
    by_cases hk : k = key
    · have herase : erase ((k, v) :: rest) key = erase rest key := by simp [erase, hk]
      rw [herase, ih, hk, filter_keys_cons_of_false hkey]
    · have herase : erase ((k, v) :: rest) key = (k, v) :: erase rest key := by simp [erase, hk]
      rw [herase, filter_keys_cons, filter_keys_cons, ih]

/-- Setting the value under a key changes nothing among the other keys. -/
theorem filter_keys_insert (hkey : p key = false) (v : Value) (fields : Fields) :
    (keys (fields.insert key v)).filter p = fields.keys.filter p := by
  induction fields with
  | nil => exact filter_keys_cons_of_false hkey v []
  | cons field rest ih =>
    obtain ⟨k, w⟩ := field
    rw [insert]
    by_cases hlt : key < k
    · rw [if_pos hlt, filter_keys_cons_of_false hkey]
    · rw [if_neg hlt]
      by_cases heq : key = k
      · rw [if_pos heq, filter_keys_cons_of_false hkey, ← heq, filter_keys_cons_of_false hkey]
      · rw [if_neg heq, filter_keys_cons, filter_keys_cons, ih]

end Fields

namespace Form

/-- The name of a declared field is not looked for among the undeclared keys. -/
theorem any_name_eq {specs : List FieldSpec} {spec : FieldSpec} (hspec : spec ∈ specs) :
    (!specs.any fun other => other.name == spec.name) = false := by
  rw [Bool.not_eq_false', List.any_eq_true]
  exact ⟨spec, hspec, beq_self_eq_true spec.name⟩

theorem undeclared?_erase {specs : List FieldSpec} {spec : FieldSpec} (hspec : spec ∈ specs)
    (fields : Fields) : undeclared? specs (fields.erase spec.name) = undeclared? specs fields := by
  unfold undeclared?
  rw [Fields.filter_keys_erase (any_name_eq hspec)]

theorem undeclared?_insert {specs : List FieldSpec} {spec : FieldSpec} (hspec : spec ∈ specs)
    (v : Value) (fields : Fields) :
    undeclared? specs (fields.insert spec.name v) = undeclared? specs fields := by
  unfold undeclared?
  rw [Fields.filter_keys_insert (any_name_eq hspec)]

/-- Two objects with the same undeclared keys are refused alike, or both are taken. -/
theorem ofValue_object_cases {specs : List FieldSpec} (path : String) {left right : Fields}
    (hkeys : undeclared? specs left = undeclared? specs right) :
    (∃ fault, ofValue specs path (.object left) = .error fault ∧
      ofValue specs path (.object right) = .error fault) ∨
    (ofValue specs path (.object left) = .ok ⟨path, left⟩ ∧
      ofValue specs path (.object right) = .ok ⟨path, right⟩) := by
  unfold ofValue
  simp only [hkeys]
  cases undeclared? specs right with
  | some key => exact .inl ⟨_, rfl, rfl⟩
  | none => exact .inr ⟨rfl, rfl⟩

/-! ## One field -/

variable {path : String} {left right fields : Fields} {spec : FieldSpec}

theorem supplied_congr (h : left.get? spec.name = right.get? spec.name) :
    supplied ⟨path, left⟩ spec = supplied ⟨path, right⟩ spec := by
  unfold supplied
  rw [h]
  rfl

/-- Nothing is supplied under a key that is `null`, so nothing is lost when it is removed. -/
theorem supplied_erase {key : String} (hget : fields.get? key = some .null) (spec : FieldSpec) :
    supplied ⟨path, fields.erase key⟩ spec = supplied ⟨path, fields⟩ spec := by
  by_cases hname : spec.name = key
  · have hgone : (fields.erase key).get? spec.name = none := by
      rw [Fields.get?_erase, if_pos hname]
    rw [supplied_of_left_out (.inl hgone), supplied_of_left_out (.inr (hname ▸ hget))]
    rfl
  · exact supplied_congr (by rw [Fields.get?_erase, if_neg hname])

/-- The reader of the field's kind takes the same from both objects. -/
def ReadsAlike (path : String) (left right : Fields) (spec : FieldSpec) : Prop :=
  match spec.kind with
  | .bool => flag ⟨path, left⟩ spec = flag ⟨path, right⟩ spec
  | .string => text ⟨path, left⟩ spec = text ⟨path, right⟩ spec
  | .strings => items ⟨path, left⟩ spec listedText = items ⟨path, right⟩ spec listedText
  | .blocks =>
    items ⟨path, left⟩ spec Restriction.decode = items ⟨path, right⟩ spec Restriction.decode

theorem text_congr (h : supplied ⟨path, left⟩ spec = supplied ⟨path, right⟩ spec) :
    text ⟨path, left⟩ spec = text ⟨path, right⟩ spec := by
  unfold text
  rw [h]
  rfl

/-- Whatever the reader is, it looks at what is supplied. -/
theorem readsAlike_of_supplied (h : supplied ⟨path, left⟩ spec = supplied ⟨path, right⟩ spec) :
    ReadsAlike path left right spec := by
  unfold ReadsAlike
  cases spec.kind with
  | bool =>
    show flag _ _ = flag _ _
    unfold flag
    rw [h]
    rfl
  | string => exact text_congr h
  | strings | blocks =>
    show items _ _ _ = items _ _ _
    unfold items
    rw [h]
    rfl

end Form

/-! ## Entries of the list of access rules -/

theorem Restriction.decode_erase {path : String} {spec : FieldSpec} {entry : Fields}
    (hspec : spec ∈ Schema.ipRestriction) (hget : entry.get? spec.name = some .null) :
    decode path (.object (entry.erase spec.name)) = decode path (.object entry) := by
  have htext : ∀ other, Form.text ⟨path, entry.erase spec.name⟩ other
      = Form.text ⟨path, entry⟩ other := fun other => Form.text_congr (Form.supplied_erase hget other)
  have hip : Form.requiredText ⟨path, entry.erase spec.name⟩ Schema.ipAddress
      = Form.requiredText ⟨path, entry⟩ Schema.ipAddress := by
    unfold Form.requiredText
    rw [htext]
    rfl
  unfold decode
  rcases Form.ofValue_object_cases path (Form.undeclared?_erase hspec entry) with
    ⟨fault, herased, hentry⟩ | ⟨herased, hentry⟩
  · rw [herased, hentry]
  · rw [herased, hentry]
    show (Form.requiredText _ _ >>= _) = (Form.requiredText _ _ >>= _)
    rw [hip, htext]

/-- A list reads as it does with another item in the place of one, if the two are read alike. -/
theorem Indexed.traverse_append_cons {α β ε : Type} {f : Nat → α → Except ε β} {a b : α}
    (h : ∀ i, f i a = f i b) (before after : List α) :
    traverse f (before ++ a :: after) = traverse f (before ++ b :: after) := by
  suffices hfrom : ∀ i, traverseFrom f i (before ++ a :: after)
      = traverseFrom f i (before ++ b :: after) from hfrom 0
  induction before with
  | nil =>
    intro i
    rw [List.nil_append, List.nil_append, traverseFrom, traverseFrom, h]
  | cons c rest ih =>
    intro i
    rw [List.cons_append, List.cons_append, traverseFrom, traverseFrom, ih]

/-! ## Blocks -/

/-- A field of a block is known by its name. -/
theorem Schema.eq_of_name_eq {spec other : FieldSpec} (hspec : spec ∈ siteConfig)
    (hother : other ∈ siteConfig) (h : spec.name = other.name) : spec = other := by
  have hnodup : (siteConfig.map FieldSpec.name).Nodup := by decide
  exact List.inj_on_of_nodup_map hnodup hspec hother h

/-- Only texts can be blank. -/
theorem Schema.kind_of_blankIsUnset :
    ∀ spec ∈ siteConfig, spec.blankIsUnset = true → spec.kind = .string := by
  decide +kernel

namespace Block

variable {left right fields trimmed : Fields}

/-- **A block is read field by field**: two blocks with the same undeclared key, if any, whose fields
read alike, read alike. -/
theorem decodeOne_congr
    (hkeys : Form.undeclared? Schema.siteConfig left = Form.undeclared? Schema.siteConfig right)
    (h : ∀ spec ∈ Schema.siteConfig, Form.ReadsAlike rootPath left right spec) :
    decodeOne (.object left) = decodeOne (.object right) := by
  unfold decodeOne
  rcases Form.ofValue_object_cases rootPath hkeys with ⟨fault, hleft, hright⟩ | ⟨hleft, hright⟩
  · rw [hleft, hright]
  · rw [hleft, hright]
    simp only [Schema.siteConfig, List.forall_mem_cons] at h
    obtain ⟨h₁, h₂, h₃, h₄, h₅, h₆, h₇, h₈, h₉, h₁₀, h₁₁, h₁₂, h₁₃, h₁₄, h₁₅, h₁₆, h₁₇, h₁₈, h₁₉,
      h₂₀, h₂₁, -⟩ := h
    -- One step for each reader, in the order of the schema.
    show (Form.flag _ _ >>= _) = (Form.flag _ _ >>= _)
    refine Steps.bind_eq_bind h₁ fun _ => Steps.bind_eq_bind h₂ fun _ =>
      Steps.bind_eq_bind h₃ fun _ => Steps.bind_eq_bind h₄ fun _ =>
      Steps.bind_eq_bind h₅ fun _ => Steps.bind_eq_bind h₆ fun _ =>
      Steps.bind_eq_bind h₇ fun _ => Steps.bind_eq_bind h₈ fun _ =>
      Steps.bind_eq_bind h₉ fun _ => Steps.bind_eq_bind h₁₀ fun _ =>
      Steps.bind_eq_bind h₁₁ fun _ => Steps.bind_eq_bind h₁₂ fun _ =>
      Steps.bind_eq_bind h₁₃ fun _ => Steps.bind_eq_bind h₁₄ fun _ =>
      Steps.bind_eq_bind h₁₅ fun _ => Steps.bind_eq_bind h₁₆ fun _ =>
      Steps.bind_eq_bind h₁₇ fun _ => Steps.bind_eq_bind h₁₈ fun _ =>
      Steps.bind_eq_bind h₁₉ fun _ => Steps.bind_eq_bind h₂₀ fun _ =>
      Steps.bind_eq_bind h₂₁ fun _ => rfl

/-- A blank text of an enumeration is read as if nothing were written. -/
theorem text_erase_blank {spec : FieldSpec} (hspec : spec ∈ Schema.siteConfig)
    (hblank : spec.blankIsUnset = true) (hget : fields.get? spec.name = some (.text "")) :
    Form.text ⟨rootPath, fields.erase spec.name⟩ spec = Form.text ⟨rootPath, fields⟩ spec := by
  have hgone : (fields.erase spec.name).get? spec.name = none := by
    rw [Fields.get?_erase, if_pos rfl]
  have htakes : spec.TakesText (some "") := .inl ⟨rfl, hblank⟩
  rw [Form.text_of_left_out (Schema.required_eq_false spec hspec) (.inl hgone),
    Form.text_of_get? hget, if_pos htakes, FieldSpec.rereadText, FieldSpec.rereadText,
    if_pos ⟨rfl, hblank⟩]

/-- **A block reads as it does without a key that counts as left out**, whether it is accepted or
not, and with the same fault if it is not. -/
theorem decodeOne_of_trims (h : Trims fields trimmed) :
    decodeOne (.object trimmed) = decodeOne (.object fields) := by
  cases h with
  | null hspec hget =>
    exact decodeOne_congr (Form.undeclared?_erase hspec fields) fun other _ =>
      Form.readsAlike_of_supplied (Form.supplied_erase hget other)
  | @blank spec hspec hblank hget =>
    refine decodeOne_congr (Form.undeclared?_erase hspec fields) fun other hother => ?_
    by_cases hname : other.name = spec.name
    · cases Schema.eq_of_name_eq hother hspec hname
      unfold Form.ReadsAlike
      rw [Schema.kind_of_blankIsUnset spec hspec hblank]
      exact text_erase_blank hspec hblank hget
    · refine Form.readsAlike_of_supplied (Form.supplied_congr ?_)
      rw [Fields.get?_erase, if_neg hname]
  | @entry spec before after entry hspec hlist hget =>
    have hrules : Schema.ipRestrictions ∈ Schema.siteConfig := by decide
    refine decodeOne_congr (Form.undeclared?_insert hrules _ fields) fun other hother => ?_
    by_cases hname : other.name = Schema.ipRestrictions.name
    · cases Schema.eq_of_name_eq hother hrules hname
      have hset : (fields.insert "ip_restriction"
          (.list (before ++ .object (entry.erase spec.name) :: after))).get? "ip_restriction"
            = some (.list (before ++ .object (entry.erase spec.name) :: after)) := by
        rw [Fields.get?_insert, if_pos rfl]
      show Form.items _ _ _ = Form.items _ _ _
      rw [Form.items_of_written hset, Form.items_of_written hlist]
      exact Indexed.traverse_append_cons (fun _ => Restriction.decode_erase hspec hget) _ _
    · refine Form.readsAlike_of_supplied (Form.supplied_congr ?_)
      exact (Fields.get?_insert ..).trans (if_neg hname)

end Block

end SiteConfig
