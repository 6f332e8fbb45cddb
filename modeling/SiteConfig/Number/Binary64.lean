/-!
# Binary floating-point numbers of 64 bits

A number is its bit pattern; every operation is exact arithmetic on natural numbers followed by
one rounding to the nearest representable value, a tie going to the even neighbour.

- `ofRatio`: the number nearest to `num / den`; beyond the largest finite value, infinity.
- `ofDecimal`: the number nearest to `m · 10 ^ e`.
- `significand`, `exponent`: a finite number is `significand · 2 ^ exponent`, up to its sign.
- `mul`, `div`: the rounded product and quotient of two finite numbers.
-/

namespace SiteConfig

/-- A 64-bit binary floating-point number, by its bits. -/
structure Binary64 where
  /-- The bits: sign, eleven bits of exponent, fifty-two bits of fraction. -/
  bits : Nat
  deriving DecidableEq, Repr, Inhabited

namespace Binary64

/-- The weight of the sign bit. -/
def signBit : Nat := 0x8000000000000000

/-- The leading bit of a significand of fifty-three bits, which the fraction leaves out. -/
def hiddenBit : Nat := 0x10000000000000

/-- The bits of positive infinity. -/
def infinityBits : Nat := 0x7FF * hiddenBit

/-- The number with a given sign and magnitude. -/
def withSign (negative : Bool) (magnitude : Nat) : Binary64 :=
  ⟨if negative then signBit + magnitude else magnitude⟩

/-- Whether the sign bit is set. -/
def isNegative (x : Binary64) : Bool :=
  signBit ≤ x.bits

/-- The bits without the sign. -/
def magnitude (x : Binary64) : Nat :=
  x.bits % signBit

/-- Whether the number is neither infinite nor a NaN. -/
def isFinite (x : Binary64) : Bool :=
  x.magnitude < infinityBits

/-- Whether the number is a zero of either sign. -/
def isZero (x : Binary64) : Bool :=
  x.magnitude == 0

/-- The number of the opposite sign. -/
def neg (x : Binary64) : Binary64 :=
  withSign (!x.isNegative) x.magnitude

/-- The integer factor of a finite number. -/
def significand (x : Binary64) : Nat :=
  let e := x.magnitude / hiddenBit
  let f := x.magnitude % hiddenBit
  if e = 0 then f else hiddenBit + f

/-- The power of two that goes with `significand`. -/
def exponent (x : Binary64) : Int :=
  let e := x.magnitude / hiddenBit
  if e = 0 then -1074 else Int.ofNat e - 1075

/-- Division to the nearest integer, a tie to the even one. -/
def divToEven (num den : Nat) : Nat :=
  let m := num / den
  let r := num % den
  if 2 * r < den then m
  else if den < 2 * r then m + 1
  else if m % 2 = 0 then m else m + 1

/-- `num / den` divided by `2 ^ q`, as a fraction of natural numbers. -/
def scaled (num den : Nat) (q : Int) : Nat × Nat :=
  if 0 ≤ q then (num, den <<< q.toNat) else (num <<< (-q).toNat, den)

/-- The exponent at which `num / den` has a significand of fifty-three bits, or the least
exponent there is. -/
def binade (num den : Nat) : Int :=
  let q := (num.log2 : Int) - den.log2 - 52
  let (n, d) := scaled num den q
  let q := if n / d < hiddenBit then q - 1 else q
  max q (-1074)

/-- The magnitude bits of the number nearest to `num / den`, for a positive `den`. -/
def roundBits (num den : Nat) : Nat :=
  if num = 0 then 0
  else
    let q := binade num den
    let (n, d) := scaled num den q
    let m := divToEven n d
    -- A significand that is rounded up to fifty-four bits carries over into the exponent.
    let bits := if m < hiddenBit then m else (q + 1075).toNat * hiddenBit + (m - hiddenBit)
    min bits infinityBits

/-- The number nearest to `num / den`, with a sign. -/
def ofRatio (negative : Bool) (num den : Nat) : Binary64 :=
  withSign negative (roundBits num den)

/-- The number nearest to a natural number. -/
def ofNat (n : Nat) : Binary64 :=
  ofRatio false n 1

/-- The number nearest to `m · 10 ^ e`, with a sign. Exponents far outside the range of the
format are answered without computing the power. -/
def ofDecimal (negative : Bool) (m : Nat) (e : Int) : Binary64 :=
  let digits : Int := (Nat.toDigits 10 m).length
  if m = 0 ∨ digits + e < -400 then withSign negative 0
  else if 400 < digits + e then withSign negative infinityBits
  else if 0 ≤ e then ofRatio negative (m * Nat.pow 10 e.toNat) 1
  else ofRatio negative m (Nat.pow 10 (-e).toNat)

/-- The value of a finite number as a fraction, without its sign. -/
def ratio (x : Binary64) : Nat × Nat :=
  if 0 ≤ x.exponent then (x.significand <<< x.exponent.toNat, 1)
  else (x.significand, 1 <<< (-x.exponent).toNat)

/-- The rounded product of two finite numbers. -/
def mul (x y : Binary64) : Binary64 :=
  let (a, b) := x.ratio
  let (c, d) := y.ratio
  ofRatio (x.isNegative != y.isNegative) (a * c) (b * d)

/-- The rounded quotient of two finite numbers, the second of them not zero. -/
def div (x y : Binary64) : Binary64 :=
  let (a, b) := x.ratio
  let (c, d) := y.ratio
  ofRatio (x.isNegative != y.isNegative) (a * d) (b * c)

/-- Reads the decimal notation of a finite number or of zero: an optional sign, digits with at
most one point among them and at least one digit, and an optional exponent. -/
def ofText? (s : List Char) : Option Binary64 :=
  let (negative, s) :=
    match s with
    | '-' :: r => (true, r)
    | '+' :: r => (false, r)
    | r => (false, r)
  let whole := s.takeWhile Char.isDigit
  let s := s.dropWhile Char.isDigit
  let (fraction, s) :=
    match s with
    | '.' :: r => (r.takeWhile Char.isDigit, r.dropWhile Char.isDigit)
    | r => ([], r)
  let digits := whole ++ fraction
  if digits.isEmpty then none
  else
    let m := Nat.ofDigitChars 10 digits 0
    let shift : Int := -(fraction.length : Int)
    match s with
    | [] => some (ofDecimal negative m shift)
    | c :: r =>
      if c = 'e' ∨ c = 'E' then
        let (down, ds) :=
          match r with
          | '-' :: r => (true, r)
          | '+' :: r => (false, r)
          | r => (false, r)
        if ds.isEmpty || !ds.all Char.isDigit then none
        else
          let e : Int := Nat.ofDigitChars 10 ds 0
          some (ofDecimal negative m (shift + if down then -e else e))
      else none

end Binary64

end SiteConfig
