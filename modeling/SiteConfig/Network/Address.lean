import SiteConfig.Text.Blank
import SiteConfig.Text.Digits

/-!
# IPv4 addresses

An address is a word of 32 bits. Its text is four decimal octets with points between them; an
octet has exactly one spelling, without leading zeros.

- `Address.text`: the dotted quad.
- `Address.parse?`: reads a dotted quad and nothing else.
- `Address.octet?_eq_some_iff`: a text is read as an octet exactly when it is the octet's own text.
-/

namespace SiteConfig

/-- An IPv4 address, or a mask over one. -/
abbrev Address := BitVec 32

namespace Address

/-- The four octets of an address, the highest first. -/
def octets (a : Address) : Nat × Nat × Nat × Nat :=
  let n := a.toNat
  (n >>> 24, (n >>> 16) % 256, (n >>> 8) % 256, n % 256)

/-- The address with four given octets. -/
def ofOctets (a b c d : Nat) : Address :=
  BitVec.ofNat 32 (((a * 256 + b) * 256 + c) * 256 + d)

/-- The dotted quad of an address. -/
def text (a : Address) : List Char :=
  let (p, q, r, s) := a.octets
  Text.decimal p ++ '.' :: Text.decimal q ++ '.' :: Text.decimal r ++ '.' :: Text.decimal s

/-- An octet: a number up to 255 in its own decimal spelling. -/
def octet? (s : List Char) : Option Nat :=
  let n := Nat.ofDigitChars 10 s 0
  if n ≤ 255 ∧ s = Text.decimal n then some n else none

/-- The parts of a text between its points. -/
def parts : List Char → List (List Char)
  | [] => [[]]
  | c :: rest =>
    if c = '.' then [] :: parts rest
    else
      match parts rest with
      | [] => [[c]]
      | p :: more => (c :: p) :: more

/-- Reads a dotted quad of four octets. -/
def parse? (s : List Char) : Option Address :=
  match parts s with
  | [p, q, r, t] =>
    match octet? p, octet? q, octet? r, octet? t with
    | some a, some b, some c, some d => some (ofOctets a b c d)
    | _, _, _, _ => none
  | _ => none

theorem octet?_eq_some_iff {s : List Char} {n : Nat} :
    octet? s = some n ↔ n ≤ 255 ∧ s = Text.decimal n := by
  constructor
  · intro h
    simp only [octet?] at h
    split at h
    · next k => simp only [Option.some.injEq] at h; subst h; exact k
    · simp at h
  · rintro ⟨h, rfl⟩
    have e : Nat.ofDigitChars 10 (Text.decimal n) 0 = n := Nat.ofDigitChars_ten_toDigits
    unfold octet?
    simp [e, h]

end Address

end SiteConfig
