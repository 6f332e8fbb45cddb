import SiteConfig.Format
import SiteConfig.Proofs.Plain

/-!
# What can be rendered

JSON and YAML can hold every value. TOML cannot hold `null`, large numbers and anything but a table
at the top, but none of these is ever written: bodies and blocks leave out what is absent, and have
no numbers.

- `Value.Plain.fits`: TOML can hold whatever is made of truth values, texts, lists and objects.
- `Format.exists_render`: such an object has a text in every format.
- `Body.exists_render_document`, `Block.exists_render_documents`: so has every body, and so has
  every object that lists blocks under a key.
-/

namespace SiteConfig

/-! ## What TOML can hold -/

namespace Toml

theorem fitsItems_iff {items : List Value} :
    fitsItems items = true ↔ ∀ v ∈ items, fits v = true := by
  induction items with
  | nil => simp [fitsItems]
  | cons v rest ih => rw [fitsItems, Bool.and_eq_true, ih, List.forall_mem_cons]

theorem fitsFields_iff {fields : Fields} :
    fitsFields fields = true ↔ ∀ field ∈ fields, fits field.2 = true := by
  induction fields with
  | nil => simp [fitsFields]
  | cons field rest ih =>
    obtain ⟨key, v⟩ := field
    rw [fitsFields, Bool.and_eq_true, ih, List.forall_mem_cons]

end Toml

/-- TOML has truth values and texts, and nests as deep as a value does. -/
theorem Value.Plain.fits {v : Value} {depth : Nat} (h : v.Plain depth) : Toml.fits v = true := by
  induction h with
  | bool | text => simp [Toml.fits]
  | list _ ih => rw [Toml.fits, Toml.fitsItems_iff]; exact ih
  | object _ ih => rw [Toml.fits, Toml.fitsFields_iff]; exact ih

namespace Format

/-- An object without `null` and without numbers can be written in every format. -/
theorem exists_write {fields : Fields} {depth : Nat} (h : (Value.object fields).Plain depth)
    (format : Format) : ∃ written, format.write (.object fields) = some written := by
  cases format with
  | json => exact ⟨_, rfl⟩
  | yaml => exact ⟨_, rfl⟩
  | toml => exact ⟨_, if_pos h.fits⟩

/-- **So it has a text in every format.** -/
theorem exists_render {fields : Fields} {depth : Nat} (h : (Value.object fields).Plain depth)
    (format : Format) : ∃ text, format.render (.object fields) = some text := by
  obtain ⟨written, hwritten⟩ := exists_write h format
  rw [render, hwritten]
  exact ⟨_, rfl⟩

end Format

/-- Every body has a text in every format. -/
theorem Body.exists_render_document (body : Body) (format : Format) :
    ∃ text, format.render body.document = some text :=
  Format.exists_render body.plain_document format

/-- Every list of blocks has a text in every format, under whatever key it stands. -/
theorem Block.exists_render_documents (blocks : List Block) (key : String) (format : Format) :
    ∃ text, format.render (.object [(key, documents blocks)]) = some text :=
  Format.exists_render (plain_documents blocks key) format

end SiteConfig
