import SiteConfig.Number.Binary64
import SiteConfig.Text.Digits

/-!
# What plain scalars stand for

A plain scalar is null, a truth value, a number, or else a text.

- `Plain.ofText`: the meaning of a plain scalar.
- `leadingZero`: digits with a zero in front of them, which are a text.
-/

namespace SiteConfig.Yaml

/-- The meaning of a plain scalar. -/
inductive Plain
  | null
  | bool (b : Bool)
  | int (n : Int)
  | float (x : Binary64)
  /-- An infinity, or no number at all. -/
  | unbounded
  | text
  deriving DecidableEq, Repr

/-- The spellings of null. -/
def isNull (s : List Char) : Bool :=
  ["null", "Null", "NULL", "~"].contains (String.ofList s)

/-- The truth value that a text spells. -/
def bool? (s : List Char) : Option Bool :=
  let s := String.ofList s
  if ["true", "True", "TRUE"].contains s then some true
  else if ["false", "False", "FALSE"].contains s then some false
  else none

/-- More than one digit, the first of them a zero, with or without a sign. -/
def leadingZero (s : List Char) : Bool :=
  let s :=
    match s with
    | '-' :: r | '+' :: r => r
    | r => r
  match s with
  | '0' :: c :: r => (c :: r).all Char.isDigit
  | _ => false

/-- A natural number with the mark of its base: `0x`, `0o` or `0b`. -/
def marked? (s : List Char) : Option Nat :=
  match s with
  | '0' :: 'x' :: r => Text.radix? 16 r
  | '0' :: 'o' :: r => Text.radix? 8 r
  | '0' :: 'b' :: r => Text.radix? 2 r
  | _ => none

/-- The integer that a text spells. What needs more than 128 bits is not read as one. -/
def int? (s : List Char) : Option Int :=
  let (negative, digits) :=
    match s with
    | '-' :: r => (true, r)
    | '+' :: r => (false, r)
    | r => (false, r)
  let read := (marked? digits).or (if leadingZero s then none else Text.natural? digits)
  match read with
  | some n =>
    if negative then (if n ≤ 1 <<< 127 then some (-(n : Int)) else none)
    else if n < 1 <<< 128 then some n
    else none
  | none => none

/-- The number with a fraction or an exponent that a text spells. What is too large for the number
format is not read as one. -/
def float? (s : List Char) : Option Plain :=
  let bare :=
    match s with
    | '+' :: r => r
    | r => r
  if bare ≠ s ∧ (bare.head? = some '+' ∨ bare.head? = some '-') then none
  else if [".inf", ".Inf", ".INF"].contains (String.ofList bare)
      || ["-.inf", "-.Inf", "-.INF", ".nan", ".NaN", ".NAN"].contains (String.ofList s) then
    some .unbounded
  else ((Binary64.ofText? bare).filter Binary64.isFinite).map .float

/-- The meaning of a plain scalar. -/
def Plain.ofText (s : List Char) : Plain :=
  if s.isEmpty || isNull s then .null
  else
    match bool? s, int? s with
    | some b, _ => .bool b
    | none, some n => .int n
    | none, none => if leadingZero s then .text else (float? s).getD .text

end SiteConfig.Yaml
