import SiteConfig.Proofs.Block.Written

/-!
# Reading a block is checking a table

A block is read field by field, by hand. Seen from outside, as far as acceptance and faults go, this
is the table of the schema checked field by field, each field by the reader of its kind.

- `Form.check`: the check of one field.
- `Block.checked_decodeOne`: reading a block fails and succeeds as checking the table does.
- `Block.exists_decodeOne_iff`, `Block.decodeOne_eq_error_iff`: so a block is accepted exactly if
  every field of the table passes, and otherwise the first field that does not is reported.
-/

namespace SiteConfig

namespace Form

/-- The check of a field: the reader of its kind is run, and what it gives is dropped. -/
def check (form : Form) (spec : FieldSpec) : Except Fault Unit :=
  match spec.kind with
  | .bool => Steps.checked (form.flag spec)
  | .string => Steps.checked (form.text spec)
  | .strings => Steps.checked (form.items spec listedText)
  | .blocks => Steps.checked (form.items spec Restriction.decode)

/-- The checks of the fields of a table, one after the other. -/
def checkAll (form : Form) (specs : List FieldSpec) : Except Fault (List Unit) :=
  Indexed.traverse (fun _ spec => form.check spec) specs

theorem exists_checkAll_iff {form : Form} {specs : List FieldSpec} :
    (∃ units, form.checkAll specs = .ok units) ↔ ∀ spec ∈ specs, form.check spec = .ok () := by
  rw [checkAll]
  refine Indexed.exists_traverse_iff_forall fun _ spec => ?_
  exact Steps.exists_unit_iff

end Form

namespace Block

/-- **Reading a block checks the fields of the schema in their order**, each by the reader of its
kind, and does nothing else that can fail. -/
theorem checked_decodeOne (v : Value) :
    Steps.checked (decodeOne v)
      = Steps.checked
        (Form.ofValue Schema.siteConfig rootPath v >>= fun form =>
          form.checkAll Schema.siteConfig) := by
  unfold decodeOne
  cases Form.ofValue Schema.siteConfig rootPath v with
  | error fault => rfl
  | ok form =>
    -- Each reader is the check of the next field of the table; at the end there is none left.
    show Steps.checked (form.flag Schema.alwaysOn >>= _) = Steps.checked (form.checkAll _)
    unfold Form.checkAll Indexed.traverse Schema.siteConfig
    repeat refine Indexed.checked_bind rfl fun _ => ?_
    rfl

theorem exists_decodeOne_iff {v : Value} :
    (∃ block, decodeOne v = .ok block) ↔
      ∃ fields : Fields, v = .object fields ∧
        (∀ key ∈ fields.keys, ∃ spec ∈ Schema.siteConfig, spec.name = key) ∧
        ∀ spec ∈ Schema.siteConfig, Form.check ⟨rootPath, fields⟩ spec = .ok () := by
  rw [← Steps.checked_eq_ok_iff, checked_decodeOne, Steps.checked_eq_ok_iff]
  simp only [Steps.bind_eq_ok, Form.ofValue_eq_ok_iff, Form.undeclared?_eq_none_iff]
  constructor
  · rintro ⟨units, _, ⟨fields, hv, hkeys, rfl⟩, hunits⟩
    exact ⟨fields, hv, hkeys, Form.exists_checkAll_iff.mp ⟨units, hunits⟩⟩
  · rintro ⟨fields, hv, hkeys, hchecks⟩
    obtain ⟨units, hunits⟩ := Form.exists_checkAll_iff.mpr hchecks
    exact ⟨units, _, ⟨fields, hv, hkeys, rfl⟩, hunits⟩

theorem decodeOne_eq_error_iff {v : Value} {fault : Fault} :
    decodeOne v = .error fault ↔
      Form.ofValue Schema.siteConfig rootPath v = .error fault ∨
        ∃ form, Form.ofValue Schema.siteConfig rootPath v = .ok form ∧
          ∃ (i : Nat) (spec : FieldSpec), Schema.siteConfig[i]? = some spec ∧
            form.check spec = .error fault ∧
            ∀ (j : Nat) (earlier : FieldSpec), j < i → Schema.siteConfig[j]? = some earlier →
              form.check earlier = .ok () := by
  rw [← Steps.checked_eq_error_iff, checked_decodeOne, Steps.checked_eq_error_iff]
  cases Form.ofValue Schema.siteConfig rootPath v with
  | error fault' => simp [bind, Except.bind]
  | ok form =>
    have hrun : (Except.ok form >>= fun form => form.checkAll Schema.siteConfig)
        = form.checkAll Schema.siteConfig := rfl
    rw [hrun, Form.checkAll, Indexed.traverse_eq_error_iff]
    simp only [Steps.exists_unit_iff, reduceCtorEq, false_or, Except.ok.injEq, exists_eq_left']

end Block

end SiteConfig
