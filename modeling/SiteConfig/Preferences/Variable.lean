import SiteConfig.Number.Binary64
import SiteConfig.Path
import SiteConfig.Text.Blank
import SiteConfig.Text.Caseless
import SiteConfig.Text.Digits
import SiteConfig.Value

/-!
# Preferences in environment variables

The name of a variable is a path: after the start that all of them share, underscores separate the
keys of nested objects. The value of a variable is written in a small notation for truth values,
numbers, texts, lists and objects.

- `Variable.content`: what the value of a variable stands for. What does not follow the notation
  stands for itself.
- `Variable.path?`, `Variable.nested`: the keys that a name stands for, and a value below them.
-/

namespace SiteConfig.Variable

/-- What is read from the front of a text, and the rest. -/
abbrev Taken (α : Type) := Option (α × List Char)

/-- Blanks between the parts of a value. -/
def isGap (c : Char) : Bool :=
  c == ' ' || c == '\t' || c == '\n' || c == '\x0C' || c == '\r'

/-- Characters that end a text without quotes. -/
def isMark (c : Char) : Bool :=
  c == ',' || c == '{' || c == '}' || c == '[' || c == ']'

/-- Drops blanks. -/
def skipGaps (s : List Char) : List Char :=
  s.dropWhile isGap

/-- The character that a backslash and a letter stand for. -/
def escaped? (c : Char) : Option Char :=
  match c with
  | '"' => some '"'
  | '\\' => some '\\'
  | 'n' => some '\n'
  | 'r' => some '\r'
  | 't' => some '\t'
  | 'b' => some '\x08'
  | 'f' => some '\x0C'
  | _ => none

/-- The character with a code point in digits of base sixteen, and the rest. -/
def codePoint? (width : Nat) (s : List Char) : Taken Char :=
  if s.length < width then none
  else
    match Text.radix? 16 (s.take width) with
    | some n =>
      if n < 0xD800 ∨ (0xDFFF < n ∧ n ≤ 0x10FFFF) then some (Char.ofNat n, s.drop width) else none
    | none => none

/-- A text after its opening quote. -/
def quoted : Nat → List Char → Taken (List Char)
  | 0, _ => none
  | fuel + 1, s =>
    let prepend := fun (c : Char) (rest : List Char) =>
      (quoted fuel rest).map fun (cs, rest) => (c :: cs, rest)
    match s with
    | [] => none
    | '"' :: rest => some ([], rest)
    | '\\' :: 'u' :: rest => (codePoint? 4 rest).bind fun (c, rest) => prepend c rest
    | '\\' :: 'U' :: rest => (codePoint? 8 rest).bind fun (c, rest) => prepend c rest
    | '\\' :: c :: rest => (escaped? c).bind fun c => prepend c rest
    | ['\\'] => none
    | c :: rest => prepend c rest

/-- A text without quotes: a number, if it reads as one of 64 bits, else itself. -/
def bare (s : List Char) : Value :=
  let digits :=
    match s with
    | '+' :: rest => rest
    | rest => rest
  let fraction := if s.contains '.' then (Binary64.ofText? s).map Value.float else none
  let natural := ((Text.natural? digits).filter (· ≤ 0xFFFFFFFFFFFFFFFF)).map fun n => Value.int n
  let negative :=
    match s with
    | '-' :: rest =>
      ((Text.natural? rest).filter (· ≤ 0x8000000000000000)).map fun n => Value.int (-n)
    | _ => none
  (fraction.or (natural.or negative)).getD (.text (String.ofList s))

/-- A key of an object, in quotes or up to its sign of equality. -/
def key? (s : List Char) : Taken String :=
  match skipGaps s with
  | '"' :: rest =>
    (quoted (rest.length + 1) rest).map fun (cs, rest) => (String.ofList cs, skipGaps rest)
  | s =>
    let key := s.takeWhile fun c => c != '=' && !isMark c && !isGap c
    if key.isEmpty then none else some (String.ofList key, skipGaps (s.drop key.length))

mutual

/-- A value, with the blanks around it. -/
def value? : Nat → List Char → Taken Value
  | 0, _ => none
  | fuel + 1, s =>
    let found : Taken Value :=
      match skipGaps s with
      | 't' :: 'r' :: 'u' :: 'e' :: rest => some (.bool true, rest)
      | 'f' :: 'a' :: 'l' :: 's' :: 'e' :: rest => some (.bool false, rest)
      | '{' :: rest =>
        (fields? fuel rest).map fun (fields, rest) => (.object (Fields.ofAssignments fields), rest)
      | '[' :: rest => (items? fuel rest).map fun (items, rest) => (.list items, rest)
      | '"' :: rest =>
        (quoted (rest.length + 1) rest).map fun (cs, rest) => (.text (String.ofList cs), rest)
      | ['\''] => none
      | '\'' :: c :: '\'' :: rest => some (.text (String.ofList [c]), rest)
      | '\'' :: _ => none
      | s =>
        let text := s.takeWhile fun c => !isMark c
        if text.isEmpty then none else some (bare (Text.trim text), s.drop text.length)
    found.map fun (v, rest) => (v, skipGaps rest)

/-- The items of a list after its opening bracket. A comma may follow the last. -/
def items? : Nat → List Char → Taken (List Value)
  | 0, _ => none
  | fuel + 1, s =>
    match s with
    | ']' :: rest => some ([], rest)
    | s =>
      match value? fuel s with
      | some (v, ',' :: rest) => (items? fuel rest).map fun (vs, rest) => (v :: vs, rest)
      | some (v, ']' :: rest) => some ([v], rest)
      | _ => none

/-- The fields of an object after its opening brace. A comma may follow the last. -/
def fields? : Nat → List Char → Taken (List (String × Value))
  | 0, _ => none
  | fuel + 1, s =>
    match s with
    | '}' :: rest => some ([], rest)
    | s =>
      match key? s with
      | some (key, '=' :: rest) =>
        match value? fuel rest with
        | some (v, ',' :: rest) =>
          (fields? fuel rest).map fun (fields, rest) => ((key, v) :: fields, rest)
        | some (v, '}' :: rest) => some ([(key, v)], rest)
        | _ => none
      | _ => none

end

/-- What the value of a variable stands for. -/
def content (s : String) : Value :=
  match value? (s.length + 2) s.toList with
  | some (v, []) => v
  | _ => .text s

/-- How the names of the variables start, in either case. -/
def opening : String := "appsvc_"

/-- The keys that the name of a variable is the path of. A name with an empty key is none. -/
def path? (name : String) : Option (List String) :=
  let chars := Text.fold (String.ofList (Text.trim name.toList))
  let start := opening.toList
  if start.isPrefixOf chars then
    let dotted := (Text.trim (chars.drop start.length)).map fun c => if c = '_' then '.' else c
    let keys := Path.split '.' dotted
    if keys.any List.isEmpty then none else some (keys.map String.ofList)
  else none

/-- A value inside objects that have a single key each. -/
def nested (path : List String) (v : Value) : Value :=
  path.foldr (fun key v => .object [(key, v)]) v

end SiteConfig.Variable
