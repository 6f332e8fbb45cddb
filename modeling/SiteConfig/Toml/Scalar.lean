import SiteConfig.Number.Binary64
import SiteConfig.Text.Digits
import SiteConfig.Value

/-!
# The scalars of TOML

- `text?`: a string in any of its four forms.
- `number?`: an integer, a number with a fraction or an exponent, or a date or time.
- `word?`: the truth values and the numbers that are spelled as words.

Each reader takes its part of the text from the front and returns the rest, or `none` where the
text is not well-formed.
-/

namespace SiteConfig.Toml

/-- What is read from the front of a text, and the rest. -/
abbrev Taken (α : Type) := Option (α × List Char)

/-- Blanks within a line. -/
def isBlank (c : Char) : Bool :=
  c == ' ' || c == '\t'

/-- Characters that may stand in a comment, and between quotes other than the quotes themselves. -/
def isShown (c : Char) : Bool :=
  c == '\t' || (0x20 ≤ c.toNat && c.toNat != 0x7F)

/-- A line break: a line feed, with or without a carriage return in front. -/
def takeBreak? : List Char → Option (List Char)
  | '\n' :: rest => some rest
  | '\r' :: '\n' :: rest => some rest
  | _ => none

/-- The rest without a line break, if there is one. -/
def dropBreak (s : List Char) : List Char :=
  (takeBreak? s).getD s

/-! ## Strings -/

/-- The character with a code point in a number of digits of base sixteen, unless there is none. -/
def codePoint? (width : Nat) (s : List Char) : Taken Char :=
  if s.length < width then none
  else
    match Text.radix? 16 (s.take width) with
    | some n =>
      if n < 0xD800 ∨ (0xDFFF < n ∧ n ≤ 0x10FFFF) then some (Char.ofNat n, s.drop width) else none
    | none => none

/-- What a backslash and the characters after it stand for. -/
def escape? : List Char → Taken Char
  | 'b' :: rest => some ('\x08', rest)
  | 't' :: rest => some ('\t', rest)
  | 'n' :: rest => some ('\n', rest)
  | 'f' :: rest => some ('\x0C', rest)
  | 'r' :: rest => some ('\r', rest)
  | '"' :: rest => some ('"', rest)
  | '\\' :: rest => some ('\\', rest)
  | 'u' :: rest => codePoint? 4 rest
  | 'U' :: rest => codePoint? 8 rest
  | _ => none

/-- Puts characters in front of what is read next. -/
def prepend (cs : List Char) (taken : Taken (List Char)) : Taken (List Char) :=
  taken.map fun (more, rest) => (cs ++ more, rest)

/-- A string of one line, after its opening quote. -/
def oneLine (quote : Char) : Nat → List Char → Taken (List Char)
  | 0, _ => none
  | _ + 1, [] => none
  | fuel + 1, c :: rest =>
    if c = quote then some ([], rest)
    else if c = '\\' ∧ quote = '"' then
      match escape? rest with
      | some (d, rest) => prepend [d] (oneLine quote fuel rest)
      | none => none
    else if isShown c then prepend [c] (oneLine quote fuel rest)
    else none

/-- Past a backslash at the end of a line: the break and the white space behind it. -/
def continuation? (s : List Char) : Option (List Char) :=
  (takeBreak? (s.dropWhile isBlank)).map dropGaps
where
  /-- Drops blanks and line breaks. -/
  dropGaps : List Char → List Char
    | '\r' :: '\n' :: rest => dropGaps rest
    | c :: rest => if isBlank c || c == '\n' then dropGaps rest else c :: rest
    | [] => []

/-- A string of several lines, after its opening quotes. Three quotes close it; one or two right
before them belong to the string. Every line break counts as a line feed. -/
def manyLines (quote : Char) : Nat → List Char → Taken (List Char)
  | 0, _ => none
  | _ + 1, [] => none
  | fuel + 1, c :: rest =>
    if c = quote then
      let quotes := (c :: rest).takeWhile (· = quote)
      let n := quotes.length
      -- Of five quotes the first two belong to the string and the last three close it.
      if n < 3 then prepend quotes (manyLines quote fuel ((c :: rest).drop n))
      else some (quotes.take (min (n - 3) 2), (c :: rest).drop (min n 5))
    else if c = '\\' ∧ quote = '"' then
      match continuation? rest, escape? rest with
      | some rest, _ => manyLines quote fuel rest
      | none, some (d, rest) => prepend [d] (manyLines quote fuel rest)
      | none, none => none
    else
      match takeBreak? (c :: rest) with
      | some rest => prepend ['\n'] (manyLines quote fuel rest)
      | none => if isShown c then prepend [c] (manyLines quote fuel rest) else none

/-- A string of one line, from its opening quote. -/
def lineText? : List Char → Taken String
  | '"' :: rest => (oneLine '"' (rest.length + 1) rest).map fun (s, rest) => (.ofList s, rest)
  | '\'' :: rest => (oneLine '\'' (rest.length + 1) rest).map fun (s, rest) => (.ofList s, rest)
  | _ => none

/-- A string, from its opening quotes. A line break right behind three quotes does not count. -/
def text? : List Char → Taken String
  | '"' :: '"' :: '"' :: rest =>
    (manyLines '"' (rest.length + 1) (dropBreak rest)).map fun (s, rest) => (.ofList s, rest)
  | '\'' :: '\'' :: '\'' :: rest =>
    (manyLines '\'' (rest.length + 1) (dropBreak rest)).map fun (s, rest) => (.ofList s, rest)
  | s => lineText? s

/-! ## Numbers -/

/-- Digits of a class after the first; an underscore may stand between two of them. -/
def moreDigits (p : Char → Bool) : List Char → Taken (List Char)
  | '_' :: c :: rest => if p c then prepend [c] (moreDigits p rest) else none
  | ['_'] => none
  | c :: rest => if p c then prepend [c] (moreDigits p rest) else some ([], c :: rest)
  | [] => some ([], [])

/-- One or more digits of a class; an underscore may stand between two of them. -/
def digits? (p : Char → Bool) : List Char → Taken (List Char)
  | c :: rest => if p c then prepend [c] (moreDigits p rest) else none
  | [] => none

/-- An optional sign. -/
def sign : List Char → List Char × List Char
  | '+' :: rest => (['+'], rest)
  | '-' :: rest => (['-'], rest)
  | s => ([], s)

/-- An integer, if it fits into 64 bits. -/
def wordValue? (n : Int) : Option Value :=
  if -0x8000000000000000 ≤ n ∧ n ≤ 0x7FFFFFFFFFFFFFFF then some (.int n) else none

/-- An integer in another base, after its mark. -/
def radixNumber? (base : Nat) (s : List Char) : Taken Value :=
  match digits? (fun c => (Text.digit? base c).isSome) s with
  | some (ds, rest) =>
    ((Text.radix? base ds).bind fun n => wordValue? n).map fun v => (v, rest)
  | none => none

/-- The whole part of a decimal number: a single zero, or digits that do not start with one. -/
def wholePart? : List Char → Taken (List Char)
  | '0' :: rest => some (['0'], rest)
  | s => digits? Char.isDigit s

/-- An exponent with its mark, if there is one. -/
def exponent? : List Char → Taken (List Char)
  | c :: rest =>
    if c = 'e' ∨ c = 'E' then
      let (s, rest) := sign rest
      prepend ('e' :: s) (digits? Char.isDigit rest)
    else some ([], c :: rest)
  | [] => some ([], [])

/-- A point and the digits after it, if there are any. -/
def fraction? : List Char → Taken (List Char)
  | '.' :: rest => prepend ['.'] (digits? Char.isDigit rest)
  | s => some ([], s)

/-- The value of decimal notation with a fraction or an exponent. A negative number that is too
large for the format is the infinity of its sign, which has no value; a positive one is refused. -/
def floatValue? (s : List Char) : Option Value :=
  match Binary64.ofText? s with
  | some x => if x.isFinite then some (.float x) else if x.isNegative then some .null else none
  | none => none

/-- A decimal number. -/
def decimal? (s : List Char) : Option (Value × List Char) := do
  let (minus, s) := sign s
  let (whole, s) ← wholePart? s
  let (fraction, s) ← fraction? s
  let (exponent, s) ← exponent? s
  if fraction.isEmpty && exponent.isEmpty then
    let n : Int := Nat.ofDigitChars 10 whole 0
    return (← wordValue? (if minus = ['-'] then -n else n), s)
  else return (← floatValue? (minus ++ whole ++ fraction ++ exponent), s)

/-- The words for numbers that are not finite, which have no value. -/
def special? (s : List Char) : Taken Value :=
  match (sign s).2 with
  | 'i' :: 'n' :: 'f' :: rest => some (.null, rest)
  | 'n' :: 'a' :: 'n' :: rest => some (.null, rest)
  | _ => none

/-! ## Dates and times -/

/-- A number of exactly `width` digits between two bounds, as written. -/
def field? (width low high : Nat) (s : List Char) : Taken Nat :=
  if s.length < width then none
  else
    match Text.natural? (s.take width) with
    | some n => if low ≤ n ∧ n ≤ high then some (n, s.drop width) else none
    | none => none

/-- A character that has to come next. -/
def mark? (c : Char) : List Char → Option (List Char)
  | d :: rest => if c = d then some rest else none
  | [] => none

/-- The number of days in a month. -/
def daysIn (year month : Nat) : Nat :=
  if month = 2 then
    if year % 4 = 0 ∧ (year % 100 ≠ 0 ∨ year % 400 = 0) then 29 else 28
  else if [4, 6, 9, 11].contains month then 30
  else 31

/-- A date, in its normal spelling. -/
def date? (s : List Char) : Option (List Char × List Char) := do
  let (year, s) ← field? 4 0 9999 s
  let s ← mark? '-' s
  let (month, s) ← field? 2 1 12 s
  let s ← mark? '-' s
  let (day, s) ← field? 2 1 (daysIn year month) s
  return (Text.padded 4 year ++ '-' :: Text.padded 2 month ++ '-' :: Text.padded 2 day, s)

/-- The digits of a fraction of a second that count: nine at most, without zeros at the end. -/
def fractionText (ds : List Char) : List Char :=
  let kept := ((ds.take 9).reverse.dropWhile (· = '0')).reverse
  if kept.isEmpty then [] else '.' :: kept

/-- A time of day, in its normal spelling. -/
def time? (s : List Char) : Option (List Char × List Char) := do
  let (hour, s) ← field? 2 0 23 s
  let s ← mark? ':' s
  let (minute, s) ← field? 2 0 59 s
  let s ← mark? ':' s
  let (second, s) ← field? 2 0 60 s
  let (fraction, s) ←
    match s with
    | '.' :: rest =>
      let ds := rest.takeWhile Char.isDigit
      if ds.isEmpty then none else some (fractionText ds, rest.drop ds.length)
    | s => some ([], s)
  return (Text.padded 2 hour ++ ':' :: Text.padded 2 minute ++ ':' :: Text.padded 2 second
    ++ fraction, s)

/-- The offset of a time from universal time, in its normal spelling, if there is one. -/
def offset? (s : List Char) : Option (List Char × List Char) := do
  match s with
  | c :: rest =>
    if c = 'Z' ∨ c = 'z' then return (['Z'], rest)
    else if c = '+' ∨ c = '-' then
      let (hour, rest) ← field? 2 0 23 rest
      let rest ← mark? ':' rest
      let (minute, rest) ← field? 2 0 59 rest
      let sign := if hour = 0 ∧ minute = 0 then '+' else c
      return (sign :: Text.padded 2 hour ++ ':' :: Text.padded 2 minute, rest)
    else return ([], s)
  | [] => return ([], [])

/-- A time with an optional offset after a date. -/
def timeAfter? : List Char → Option (List Char × List Char)
  | c :: rest =>
    if c = 'T' ∨ c = 't' ∨ c = ' ' then do
      let (time, rest) ← time? rest
      let (offset, rest) ← offset? rest
      return ('T' :: time ++ offset, rest)
    else none
  | [] => none

/-- A date, a time, or both, in its normal spelling. -/
def dateTime? (s : List Char) : Taken (List Char) :=
  match date? s with
  | some (date, rest) =>
    match timeAfter? rest with
    | some (time, rest) => some (date ++ time, rest)
    | none => some (date, rest)
  | none => time? s

/-- The value of a date or time: an object with one field of a reserved name. -/
def dateTimeValue (s : List Char) : Value :=
  .object [("$__toml_private_datetime", .text (String.ofList s))]

/-- A number, a date or a time. -/
def number? (s : List Char) : Taken Value :=
  match dateTime? s with
  | some (text, rest) => some (dateTimeValue text, rest)
  | none =>
    match s with
    | '0' :: 'x' :: rest => radixNumber? 16 rest
    | '0' :: 'o' :: rest => radixNumber? 8 rest
    | '0' :: 'b' :: rest => radixNumber? 2 rest
    | s => (special? s).or (decimal? s)

/-- A truth value, or a word for a number that is not finite. -/
def word? : List Char → Taken Value
  | 't' :: 'r' :: 'u' :: 'e' :: rest => some (.bool true, rest)
  | 'f' :: 'a' :: 'l' :: 's' :: 'e' :: rest => some (.bool false, rest)
  | s => special? s

end SiteConfig.Toml
