import SiteConfig.Proofs.Block.Checking

/-!
# Where a fault of a document is

Every fault that reading a document can find is attributed to a place below the one at which reading
began, so that a user is always told where to look.

- `Fault.Below path fault`: the fault has a path, and it starts with the given one.
- `Form.below_of_check`: a fault of a field is below the form.
- `Block.below_of_decode`: a fault of a document is below `site_config`.
-/

namespace SiteConfig

/-- The fault has a path, which starts with the given one. -/
def Fault.Below (path : String) (fault : Fault) : Prop :=
  ∃ rest, fault.path? = some (path ++ rest)

namespace Fault

theorem below_field (path rest : String) (reason : Reason) :
    (Fault.field (path ++ rest) reason).Below path :=
  ⟨rest, rfl⟩

theorem below_field_self (path : String) (reason : Reason) :
    (Fault.field path reason).Below path :=
  ⟨"", congrArg some String.append_empty.symm⟩

/-- A fault that is attributed to a place is below it. -/
theorem below_within (path : String) (fault : Fault) : (within path fault).Below path := by
  unfold Below
  rw [path?_within]
  cases fault.path? with
  | none => exact ⟨"", congrArg some String.append_empty.symm⟩
  | some inner => exact ⟨"." ++ inner, congrArg some (String.append_assoc ..)⟩

/-- What is below a place is below every place that this one is below. -/
theorem Below.of_append {path rest : String} {fault : Fault} (h : fault.Below (path ++ rest)) :
    fault.Below path := by
  obtain ⟨more, hmore⟩ := h
  exact ⟨rest ++ more, hmore.trans (congrArg some (String.append_assoc ..))⟩

/-- A cause is not attributed to a place. -/
theorem root_ne_within (fault : Fault) (path : String) (inner : Fault) :
    fault.root ≠ within path inner := by
  induction fault with
  | within _ _ ih => exact ih
  | network | mask | field => exact Fault.noConfusion

end Fault

/-! ## One field -/

namespace Form

variable {form : Form} {spec : FieldSpec} {fault : Fault}

theorem below_of_ofValue {specs : List FieldSpec} {path : String} {v : Value}
    (h : ofValue specs path v = .error fault) : fault.Below path := by
  cases v with
  | object fields =>
    unfold ofValue at h
    simp only at h
    cases hkey : undeclared? specs fields with
    | none =>
      rw [hkey] at h
      cases h
    | some key =>
      rw [hkey] at h
      cases h
      rw [String.append_assoc]
      exact Fault.below_field ..
  | _ =>
    cases h
    exact Fault.below_field_self ..

theorem below_pathOf (name : String) (reason : Reason) :
    (Fault.field (form.pathOf name) reason).Below form.path := by
  rw [pathOf, String.append_assoc]
  exact Fault.below_field ..

theorem below_mismatch (v : Value) : (form.mismatch spec v).Below form.path :=
  below_pathOf ..

theorem below_of_supplied (h : form.supplied spec = .error fault) : fault.Below form.path := by
  rcases form.left_out_or_supplied spec with hout | ⟨v, -, -, hsupplied⟩
  · rw [supplied_of_left_out hout] at h
    split at h
    · cases h
      exact below_pathOf ..
    · cases h
  · rw [hsupplied] at h
    cases h

theorem below_of_flag (h : form.flag spec = .error fault) : fault.Below form.path := by
  unfold flag at h
  split at h
  · next hsupplied =>
    cases h
    exact below_of_supplied hsupplied
  · cases h
  · cases h
  · cases h
    exact below_mismatch _

theorem below_of_text (h : form.text spec = .error fault) : fault.Below form.path := by
  unfold text at h
  split at h
  · next hsupplied =>
    cases h
    exact below_of_supplied hsupplied
  · cases h
  · next s _ =>
    by_cases hblank : s = "" ∧ spec.blankIsUnset = true
    · rw [if_pos hblank] at h
      cases h
    · rw [if_neg hblank] at h
      split at h
      · cases h
      · cases h
        exact below_pathOf ..
  · cases h
    exact below_mismatch _

theorem below_of_requiredText (h : form.requiredText spec = .error fault) :
    fault.Below form.path := by
  unfold requiredText at h
  split at h
  · next htext =>
    cases h
    exact below_of_text htext
  · split at h
    · cases h
    · cases h
      exact below_pathOf ..

/-- A fault of an item is below the list, and so is every fault of the list. -/
theorem below_of_items {α : Type} {read : String → Value → Except Fault α}
    (hread : ∀ path v fault, read path v = .error fault → fault.Below path)
    (h : form.items spec read = .error fault) : fault.Below form.path := by
  unfold items at h
  split at h
  · next hsupplied =>
    cases h
    exact below_of_supplied hsupplied
  · cases h
  · -- The place of an item extends that of its list, which extends that of the form.
    obtain ⟨i, v, -, hfault, -⟩ := (Indexed.traverse_eq_error_iff _ _ _).mp h
    have hitem : fault.Below (form.itemPath spec i) := hread _ v fault hfault
    rw [itemPath, pathOf, String.append_assoc, String.append_assoc, String.append_assoc] at hitem
    exact hitem.of_append
  · cases h
    exact below_mismatch _

theorem below_of_listedText (path : String) (v : Value) (fault : Fault)
    (h : listedText path v = .error fault) : fault.Below path := by
  cases v with
  | text s => cases h
  | _ =>
    cases h
    exact Fault.below_field_self ..

end Form

/-! ## Documents -/

/-- A fault of an access rule, its network included, is below its entry. -/
theorem Restriction.below_of_decode (path : String) (v : Value) (fault : Fault)
    (h : decode path v = .error fault) : fault.Below path := by
  unfold decode at h
  rcases Steps.bind_eq_error.mp h with hform | ⟨form, hform, h⟩
  · exact Form.below_of_ofValue hform
  · obtain ⟨fields, -, -, rfl⟩ := Form.ofValue_eq_ok_iff.mp hform
    rcases Steps.bind_eq_error.mp h with haddress | ⟨address, -, h⟩
    · exact Form.below_of_requiredText haddress
    · rcases Steps.bind_eq_error.mp h with hmask | ⟨mask, -, h⟩
      · exact Form.below_of_text hmask
      · simp only at h
        split at h
        · cases h
        · cases h
          exact Fault.below_within ..

/-- A fault of a field, its items included, is below the form. -/
theorem Form.below_of_check {form : Form} {spec : FieldSpec} {fault : Fault}
    (h : form.check spec = .error fault) : fault.Below form.path := by
  unfold check at h
  cases hkind : spec.kind with
  | bool =>
    simp only [hkind, Steps.checked_eq_error_iff] at h
    exact below_of_flag h
  | string =>
    simp only [hkind, Steps.checked_eq_error_iff] at h
    exact below_of_text h
  | strings =>
    simp only [hkind, Steps.checked_eq_error_iff] at h
    exact below_of_items below_of_listedText h
  | blocks =>
    simp only [hkind, Steps.checked_eq_error_iff] at h
    exact below_of_items Restriction.below_of_decode h

namespace Block

theorem below_of_decodeOne {v : Value} {fault : Fault} (h : decodeOne v = .error fault) :
    fault.Below rootPath := by
  rcases decodeOne_eq_error_iff.mp h with hform | ⟨form, hform, i, spec, -, hcheck, -⟩
  · exact Form.below_of_ofValue hform
  · obtain ⟨fields, -, -, rfl⟩ := Form.ofValue_eq_ok_iff.mp hform
    exact Form.below_of_check hcheck

/-- **Every fault of a document has a place**, at `site_config` or below it. -/
theorem below_of_decode {v : Value} {fault : Fault} (h : decode v = .error fault) :
    fault.Below rootPath := by
  unfold decode at h
  split at h
  · cases h
  · cases h
  · exact below_of_decodeOne (Steps.map_eq_error.mp h)
  · cases h
    exact Fault.below_field_self ..
  · exact below_of_decodeOne (Steps.map_eq_error.mp h)
  · cases h
    exact Fault.below_field_self ..

end Block

end SiteConfig
