/-!
# Numbers as digits

- `decimal n`: the digits of `n` in base ten, without a sign and without leading zeros.
- `natural?`: reads one or more decimal digits, of any length, leading zeros allowed.
- `radix?`: the same in a base up to sixteen.
- `hex`: a number in base sixteen, padded with zeros to a width.
-/

namespace SiteConfig.Text

/-- The decimal digits of a number. -/
def decimal (n : Nat) : List Char :=
  Nat.toDigits 10 n

/-- The value of one or more decimal digits. -/
def natural? (s : List Char) : Option Nat :=
  if s ≠ [] ∧ s.all Char.isDigit then some (Nat.ofDigitChars 10 s 0) else none

/-- The value of a character as a digit of a base up to sixteen, in either case. -/
def digit? (base : Nat) (c : Char) : Option Nat :=
  let n := c.toNat
  let v :=
    if c.isDigit then n - '0'.toNat
    else if 'a' ≤ c && c ≤ 'f' then n - 'a'.toNat + 10
    else if 'A' ≤ c && c ≤ 'F' then n - 'A'.toNat + 10
    else base
  if v < base then some v else none

/-- The value of one or more digits of a base up to sixteen. -/
def radix? (base : Nat) : List Char → Option Nat
  | [] => none
  | s => s.foldlM (fun n c => (digit? base c).map (base * n + ·)) 0

/-- The digit characters of base sixteen, letters in lower case. -/
def hexDigit (n : Nat) : Char :=
  Nat.digitChar (n % 16)

/-- The lowest `width` digits of a number in base sixteen, letters in lower case. -/
def hex (width n : Nat) : List Char :=
  (List.range width).reverse.map fun i => hexDigit (n >>> (4 * i))

/-- The lowest `width` digits of a number in base sixteen, letters in upper case. -/
def hexUpper (width n : Nat) : List Char :=
  (hex width n).map Char.toUpper

/-- A number in decimal with zeros in front up to a width. -/
def padded (width n : Nat) : List Char :=
  let ds := decimal n
  List.replicate (width - ds.length) '0' ++ ds

theorem decimal_ne_nil (n : Nat) : decimal n ≠ [] :=
  Nat.toDigits_ne_nil

theorem isDigit_of_mem_decimal {n : Nat} {c : Char} (h : c ∈ decimal n) : c.isDigit = true :=
  Nat.isDigit_of_mem_toDigits (by decide) (by decide) h

@[simp] theorem natural?_decimal (n : Nat) : natural? (decimal n) = some n := by
  have h : (decimal n).all Char.isDigit = true := by
    simpa using fun c hc => isDigit_of_mem_decimal hc
  have e : Nat.ofDigitChars 10 (decimal n) 0 = n := Nat.ofDigitChars_ten_toDigits
  unfold natural?
  rw [if_pos ⟨decimal_ne_nil n, h⟩, e]

end SiteConfig.Text
