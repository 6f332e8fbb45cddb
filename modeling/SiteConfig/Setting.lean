/-!
# Settings

A setting is a value together with where it comes from. Absent is not the same as a zero value:
nobody gave the value, and the service decides.

- `Setting.resolve`: what a user supplied, else the default of the schema, else unset.
- `Setting.value?`: the value, wherever it comes from.
-/

namespace SiteConfig

/-- A value and its origin. -/
inductive Setting (α : Type)
  /-- Nobody gave the value. -/
  | unset
  /-- The schema filled the value in. -/
  | filled (value : α)
  /-- A document or the service gave the value. -/
  | given (value : α)
  deriving DecidableEq, Repr, Inhabited

namespace Setting

variable {α : Type}

/-- A supplied value counts before a default. -/
def resolve (supplied fallback : Option α) : Setting α :=
  match supplied, fallback with
  | some v, _ => .given v
  | none, some v => .filled v
  | none, none => .unset

/-- What the service reports is given, what it leaves out is unset. -/
def ofOption : Option α → Setting α
  | some v => .given v
  | none => .unset

/-- The value, wherever it comes from. -/
def value? : Setting α → Option α
  | .unset => none
  | .filled v => some v
  | .given v => some v

@[simp] theorem value?_unset : (unset : Setting α).value? = none := rfl

@[simp] theorem value?_filled (v : α) : (filled v).value? = some v := rfl

@[simp] theorem value?_given (v : α) : (given v).value? = some v := rfl

@[simp] theorem value?_ofOption (v : Option α) : (ofOption v).value? = v := by
  cases v <;> rfl

@[simp] theorem value?_resolve (supplied fallback : Option α) :
    (resolve supplied fallback).value? = supplied.or fallback := by
  cases supplied <;> cases fallback <;> rfl

end Setting

end SiteConfig
