import SiteConfig.Text.Digits
import SiteConfig.Value

/-!
# JSON text as values

- `read`: the value of a JSON text, with nothing but white space around it; `none` on a text that
  is not JSON, that nests deeper than 127 lists and objects, or that holds a number too large.

Objects come out in the order of their keys, and of two fields with one key the later counts.

A number is an integer when it is written as one and lies between `-2^63` and `2^64 - 1`, other
than `-0`; every other number is a float. A float keeps the digits that fit into 64 bits, and is
then scaled by powers of ten in floating point, so that its last bit can differ from the nearest
float's.
-/

namespace SiteConfig.Json

/-- What a reader takes off a text: a result, and the text after it. -/
abbrev Taken (α : Type) := Option (α × List Char)

/-- Drops white space in front. -/
def skip : List Char → List Char
  | c :: rest => if c = ' ' ∨ c = '\n' ∨ c = '\t' ∨ c = '\r' then skip rest else c :: rest
  | [] => []

/-- The largest integer of 64 bits. -/
def largest : Nat := 0xFFFFFFFFFFFFFFFF

/-- The value of four digits of base sixteen. -/
def unit? (a b c d : Char) : Option Nat :=
  Text.radix? 16 [a, b, c, d]

/-- The rest of a text in quotes, after the opening quote. Two escaped surrogates stand for one
character, and a surrogate by itself is refused. -/
def textBody : List Char → Taken (List Char)
  | '"' :: rest => some ([], rest)
  | '\\' :: 'u' :: a :: b :: c :: d :: rest =>
    match unit? a b c d with
    | none => none
    | some hi =>
      if 0xD800 ≤ hi ∧ hi < 0xDC00 then
        -- The first half of a pair: the second half has to follow at once.
        match rest with
        | '\\' :: 'u' :: e :: f :: g :: h :: rest =>
          match unit? e f g h with
          | none => none
          | some lo =>
            if 0xDC00 ≤ lo ∧ lo < 0xE000 then
              let n := 0x10000 + (hi - 0xD800) * 0x400 + (lo - 0xDC00)
              (textBody rest).map fun (s, r) => (Char.ofNat n :: s, r)
            else none
        | _ => none
      else if 0xDC00 ≤ hi ∧ hi < 0xE000 then none
      else (textBody rest).map fun (s, r) => (Char.ofNat hi :: s, r)
  | '\\' :: c :: rest =>
    let plain : Option Char :=
      if c = '"' ∨ c = '\\' ∨ c = '/' then some c
      else if c = 'b' then some '\x08'
      else if c = 'f' then some '\x0C'
      else if c = 'n' then some '\n'
      else if c = 'r' then some '\r'
      else if c = 't' then some '\t'
      else none
    match plain with
    | none => none
    | some p => (textBody rest).map fun (s, r) => (p :: s, r)
  | c :: rest =>
    if c.toNat < 0x20 ∨ c = '\\' then none
    else (textBody rest).map fun (s, r) => (c :: s, r)
  | [] => none

/-- Digits into a significand as long as it fits into 64 bits: the significand, how many digits
it took, and the text from the first digit that did not fit, or from the end of the digits. -/
def digits (significand taken : Nat) : List Char → Nat × Nat × List Char
  | c :: rest =>
    if c.isDigit then
      let s := 10 * significand + (c.toNat - '0'.toNat)
      if largest < s then (significand, taken, c :: rest) else digits s (taken + 1) rest
    else (significand, taken, c :: rest)
  | [] => (significand, taken, [])

/-- The power of ten as a float. -/
def power (n : Nat) : Binary64 :=
  Binary64.ofNat (Nat.pow 10 n)

/-- `x · 10 ^ e`, one rounding a step; `none` when the result is too large. Exponents below
`-308` are taken in steps of `308`, and three of them leave zero. -/
def scale : Nat → Binary64 → Int → Option Binary64
  | 0, _, _ => some (Binary64.ofNat 0)
  | fuel + 1, x, e =>
    if e.natAbs ≤ 308 then
      if 0 ≤ e then
        let y := x.mul (power e.natAbs)
        if y.isFinite then some y else none
      -- A negative exponent divides: the power itself is rounded, then the quotient.
      else some (x.div (power e.natAbs))
    else if x.isZero then some x
    else if 0 ≤ e then none
    else scale fuel (x.div (power 308)) (e + 308)

/-- The float with a significand and a power of ten. -/
def float? (negative : Bool) (significand : Nat) (e : Int) : Option Value :=
  (scale 4 (Binary64.ofNat significand) e).map fun x => .float (if negative then x.neg else x)

/-- The exponent of a number, after its `e`. -/
def exponent (negative : Bool) (significand : Nat) (start : Int) (s : List Char) : Taken Value :=
  let (down, s) :=
    match s with
    | '+' :: rest => (false, rest)
    | '-' :: rest => (true, rest)
    | rest => (false, rest)
  let ds := s.takeWhile Char.isDigit
  let rest := s.dropWhile Char.isDigit
  if ds.isEmpty then none
  else
    let e := Nat.ofDigitChars 10 ds 0
    if 0x80000000 ≤ e then
      -- Far outside of the format, whatever the significand adds to the exponent.
      if significand ≠ 0 ∧ !down then none
      else some (.float (Binary64.withSign negative 0), rest)
    else
      let e : Int := if down then start - e else start + e
      (float? negative significand e).map fun v => (v, rest)

/-- What can follow the digits of a float. -/
def floatTail (negative : Bool) (significand : Nat) (e : Int) : List Char → Taken Value
  | c :: rest =>
    if c = 'e' ∨ c = 'E' then exponent negative significand e rest
    else (float? negative significand e).map fun v => (v, c :: rest)
  | [] => (float? negative significand e).map fun v => (v, [])

/-- The digits after the point. -/
def fraction (negative : Bool) (significand : Nat) (e : Int) (s : List Char) : Taken Value :=
  let (m, taken, rest) := digits significand 0 s
  match s with
  | c :: _ =>
    if c.isDigit then floatTail negative m (e - taken) (rest.dropWhile Char.isDigit) else none
  | [] => none

/-- A number, after its sign. -/
def number (negative : Bool) (s : List Char) : Taken Value :=
  match s with
  | [] => none
  | c :: more =>
    let (m, _, rest) :=
      if c = '0' then (0, 1, more) else digits 0 0 s
    if !c.isDigit then none
    else
      match rest with
      | '.' :: rest => fraction negative m 0 rest
      | d :: after =>
        if d = 'e' ∨ d = 'E' then exponent negative m 0 after
        else if d.isDigit then
          if c = '0' then none
          else
            -- Digits that did not fit into the significand only count as powers of ten.
            let dropped := rest.takeWhile Char.isDigit
            match rest.dropWhile Char.isDigit with
            | '.' :: rest => fraction negative m dropped.length rest
            | rest => floatTail negative m dropped.length rest
        else some (whole negative m, rest)
      | [] => some (whole negative m, [])
where
  /-- A number written without point and exponent. -/
  whole (negative : Bool) (m : Nat) : Value :=
    if !negative then .int m
    else if m = 0 ∨ 0x8000000000000000 < m then .float (Binary64.ofNat m).neg
    else .int (-(m : Int))

/-- The word `word` in front of a text. -/
def literal (word : List Char) (v : Value) (s : List Char) : Taken Value :=
  if word.isPrefixOf s then some (v, s.drop word.length) else none

mutual

/-- A value in front of a text. The first argument bounds the steps, the second the nesting. -/
def value : Nat → Nat → List Char → Taken Value
  | 0, _, _ => none
  | fuel + 1, depth, s =>
    match skip s with
    | 'n' :: rest => literal ['u', 'l', 'l'] .null rest
    | 't' :: rest => literal ['r', 'u', 'e'] (.bool true) rest
    | 'f' :: rest => literal ['a', 'l', 's', 'e'] (.bool false) rest
    | '"' :: rest => (textBody rest).map fun (cs, r) => (.text (String.ofList cs), r)
    | '[' :: rest =>
      match depth with
      | 0 => none
      | depth + 1 =>
        match skip rest with
        | ']' :: rest => some (.list [], rest)
        | rest => (items fuel depth rest).map fun (vs, r) => (.list vs, r)
    | '{' :: rest =>
      match depth with
      | 0 => none
      | depth + 1 =>
        match skip rest with
        | '}' :: rest => some (.object [], rest)
        | rest =>
          (fields fuel depth rest).map fun (fs, r) => (.object (Fields.ofAssignments fs), r)
    | '-' :: rest => number true rest
    | rest => number false rest

/-- The items of a list, up to its closing bracket. -/
def items : Nat → Nat → List Char → Taken (List Value)
  | 0, _, _ => none
  | fuel + 1, depth, s =>
    match value fuel depth s with
    | none => none
    | some (v, rest) =>
      match skip rest with
      | ',' :: rest => (items fuel depth rest).map fun (vs, r) => (v :: vs, r)
      | ']' :: rest => some ([v], rest)
      | _ => none

/-- The fields of an object, up to its closing brace. -/
def fields : Nat → Nat → List Char → Taken (List (String × Value))
  | 0, _, _ => none
  | fuel + 1, depth, s =>
    match skip s with
    | '"' :: rest =>
      match textBody rest with
      | none => none
      | some (key, rest) =>
        match skip rest with
        | ':' :: rest =>
          match value fuel depth rest with
          | none => none
          | some (v, rest) =>
            let field := (String.ofList key, v)
            match skip rest with
            | ',' :: rest => (fields fuel depth rest).map fun (fs, r) => (field :: fs, r)
            | '}' :: rest => some ([field], rest)
            | _ => none
        | _ => none
    | _ => none

end

/-- How deep lists and objects can nest. -/
def maxDepth : Nat := 127

/-- The value of a JSON text. Every step of the reader takes at least one character, so twice the
length of the text bounds their number. -/
def readChars (s : List Char) : Option Value :=
  match value (2 * s.length + 2) maxDepth s with
  | some (v, rest) => if (skip rest).isEmpty then some v else none
  | none => none

/-- The value of a JSON text. -/
def read (s : String) : Option Value :=
  readChars s.toList

end SiteConfig.Json
