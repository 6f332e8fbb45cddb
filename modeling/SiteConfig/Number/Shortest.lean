import SiteConfig.Number.Binary64
import SiteConfig.Text.Digits

/-!
# The shortest decimal that reads back

- `shortest`: the fewest decimal digits that round to a given number, and of those the digits
  nearest to it, with the power of ten that goes with the last digit.
- `text`: the number in positional notation from `1e-5` up to `1e16`, always with a point, and
  with an exponent outside.
-/

namespace SiteConfig.Binary64

/-- Half the distance to the neighbours of a finite number and the number itself, all as
multiples of `2 ^ (exponent - 2)`: the ends of the interval that rounds to it, and its middle. -/
def interval (x : Binary64) : Nat × Nat × Nat :=
  let m := 4 * x.significand
  let below := if x.magnitude % hiddenBit = 0 ∧ hiddenBit < x.magnitude then 1 else 2
  (m - below, m, m + 2)

/-- The fraction `n · 2 ^ q / 10 ^ k`. -/
def atScale (n : Nat) (q k : Int) : Nat × Nat :=
  ((n * Nat.pow 10 (-k).toNat) <<< q.toNat, Nat.pow 10 k.toNat <<< (-q).toNat)

/-- The decimal with its last digit at `10 ^ k` that rounds to `x` and lies nearest to it. -/
def onGrid? (x : Binary64) (k : Int) : Option Nat :=
  let q := x.exponent - 2
  let (lo, mid, hi) := interval x
  let (a, den) := atScale lo q k
  let (b, _) := atScale mid q k
  let (c, _) := atScale hi q k
  let closed := x.significand % 2 = 0
  let inside := fun d : Nat =>
    (a < d * den && d * den < c) || (closed && (a == d * den || d * den == c))
  let d := b / den
  let lowFits := inside d && d != 0
  let highFits := inside (d + 1)
  if lowFits && highFits then
    if 2 * (b - d * den) < den ∨ 2 * (b - d * den) = den ∧ d % 2 = 0 then some d else some (d + 1)
  else if lowFits then some d
  else if highFits then some (d + 1)
  else none

/-- The position of the leading decimal digit of a positive number. -/
def leading (x : Binary64) : Int :=
  let (n, d) := x.ratio
  if d ≤ n then (Nat.toDigits 10 (n / d)).length - 1
  else
    let t := d / n
    let k : Int := -(Nat.toDigits 10 t).length
    let (n', d') := atScale x.significand x.exponent (k + 1)
    if d' ≤ n' then k + 1 else k

/-- Trailing zeros moved from the digits into the exponent. -/
def withoutZeros : Nat → Nat → Int → Nat × Int
  | 0, d, k => (d, k)
  | fuel + 1, d, k => if d ≠ 0 ∧ d % 10 = 0 then withoutZeros fuel (d / 10) (k + 1) else (d, k)

/-- The fewest digits that read back as a positive finite number. Seventeen always suffice. -/
def shortest (x : Binary64) : Nat × Int :=
  let e := leading x
  let found := (List.range 17).findSome? fun n : Nat =>
    let k := e - Int.ofNat n
    (onGrid? x k).map fun d => (d, k)
  let (d, k) := found.getD (0, 0)
  withoutZeros 20 d k

/-- The text of a finite number. -/
def text (x : Binary64) : String :=
  let sign := if x.isNegative then ['-'] else []
  let body :=
    if x.isZero then ['0', '.', '0']
    else
      let (d, k) := shortest x
      let ds := Text.decimal d
      let point : Int := ds.length + k
      if 0 ≤ k ∧ point ≤ 16 then ds ++ List.replicate k.toNat '0' ++ ['.', '0']
      else if 0 < point ∧ point ≤ 16 then ds.take point.toNat ++ '.' :: ds.drop point.toNat
      else if -5 < point ∧ point ≤ 0 then '0' :: '.' :: List.replicate (-point).toNat '0' ++ ds
      else
        let e := point - 1
        let sign := if e < 0 then ['-'] else []
        let mantissa := if ds.length = 1 then ds else ds.take 1 ++ '.' :: ds.drop 1
        mantissa ++ 'e' :: sign ++ Text.decimal e.natAbs
  String.ofList (sign ++ body)

end SiteConfig.Binary64
