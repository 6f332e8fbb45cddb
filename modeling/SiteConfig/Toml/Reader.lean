import SiteConfig.Toml.Scalar
import SiteConfig.Toml.Table

/-!
# Reading TOML

- `read`: the table that a text holds, or `none`.

A text is a sequence of lines: headers, assignments, comments. `Document` is what the lines so far
have built. The readers take a bound on the number of their steps as first argument.
-/

namespace SiteConfig.Toml

/-- How many parts a dotted key, and how many levels an array or an inline table, may not reach. -/
def depthLimit : Nat := 80

/-- Drops blanks. -/
def skipBlanks (s : List Char) : List Char :=
  s.dropWhile isBlank

/-- Drops a comment up to the end of its line, if there is one. -/
def skipComment : List Char → List Char
  | '#' :: rest => rest.dropWhile isShown
  | s => s

/-- Drops blanks and a comment up to the end of the line or the text, and the line break. -/
def endLine? (s : List Char) : Option (List Char) :=
  match skipComment (skipBlanks s) with
  | [] => some []
  | s => takeBreak? s

/-- Drops blanks, line breaks and comments. -/
def skipGaps : Nat → List Char → List Char
  | 0, s => s
  | fuel + 1, s =>
    let t := skipComment (skipBlanks s)
    match takeBreak? t with
    | some rest => skipGaps fuel rest
    | none => t

/-! ## Keys -/

/-- The characters of a key without quotes. -/
def isKeyChar (c : Char) : Bool :=
  c.isAlphanum || c == '-' || c == '_'

/-- One part of a key. -/
def keyPart? (s : List Char) : Taken String :=
  match s with
  | '"' :: _ => lineText? s
  | '\'' :: _ => lineText? s
  | s =>
    let word := s.takeWhile isKeyChar
    if word.isEmpty then none else some (String.ofList word, s.drop word.length)

/-- The parts of a dotted key; blanks may surround each of them. -/
def keyParts? : Nat → List Char → Taken (List String)
  | 0, _ => none
  | fuel + 1, s =>
    match keyPart? (skipBlanks s) with
    | none => none
    | some (part, rest) =>
      match skipBlanks rest with
      | '.' :: rest =>
        (keyParts? fuel rest).map fun (parts, rest) => (part :: parts, rest)
      | rest => some ([part], rest)

/-- A key: the parts in front of the last, and the last. -/
def key? (s : List Char) : Taken (List String × String) :=
  match keyParts? (s.length + 1) s with
  | some (parts, rest) =>
    if parts.length < depthLimit then
      parts.getLast?.map fun last => ((parts.dropLast, last), rest)
    else none
  | none => none

/-! ## Values -/

mutual

/-- A value inside `depth` arrays and inline tables. -/
def value? : Nat → Nat → List Char → Taken Value
  | 0, _, _ => none
  | fuel + 1, depth, s =>
    match s with
    | '[' :: rest =>
      if depth + 1 < depthLimit then
        (items? fuel (depth + 1) rest).map fun (items, rest) => (.list items, rest)
      else none
    | '{' :: rest =>
      if depth + 1 < depthLimit then
        (pairs? fuel (depth + 1) true [] rest).map fun (table, rest) => (table.value, rest)
      else none
    | c :: _ =>
      if c = '"' ∨ c = '\'' then (text? s).map fun (text, rest) => (.text text, rest)
      else if c.isDigit ∨ c = '+' ∨ c = '-' then number? s
      else word? s
    | [] => none

/-- The items of an array, after its opening bracket or a comma. -/
def items? : Nat → Nat → List Char → Taken (List Value)
  | 0, _, _ => none
  | fuel + 1, depth, s =>
    match skipGaps (s.length + 1) s with
    | ']' :: rest => some ([], rest)
    | s =>
      match value? fuel depth s with
      | none => none
      | some (v, rest) =>
        match skipGaps (rest.length + 1) rest with
        | ']' :: rest => some ([v], rest)
        | ',' :: rest => (items? fuel depth rest).map fun (vs, rest) => (v :: vs, rest)
        | _ => none

/-- The assignments of an inline table, after its opening brace or, unless `first` holds, after a
comma. -/
def pairs? : Nat → Nat → Bool → Entries → List Char → Taken Entries
  | 0, _, _, _, _ => none
  | fuel + 1, depth, first, table, s =>
    match first, skipBlanks s with
    | true, '}' :: rest => some (table, rest)
    | _, s =>
      match key? s with
      | some ((path, key), '=' :: rest) =>
        match value? fuel depth (skipBlanks rest) with
        | none => none
        | some (v, rest) =>
          match table.assign [] path key v, skipBlanks rest with
          | some table, '}' :: rest => some (table, rest)
          | some table, ',' :: rest => pairs? fuel depth false table rest
          | _, _ => none
      | _ => none

end

/-! ## Lines -/

/-- What the lines so far have built. -/
structure Document where
  entries : Entries := []
  /-- The header that assignments belong to. -/
  header : List String := []

/-- A line that starts with a bracket: a header. -/
def header? (doc : Document) (s : List Char) : Option (Document × List Char) := do
  match s with
  | '[' :: '[' :: rest =>
    let ((path, key), rest) ← key? rest
    let rest ← mark? ']' rest
    let rest ← mark? ']' rest
    let entries ← doc.entries.append path key
    return ({ entries, header := path ++ [key] }, ← endLine? rest)
  | '[' :: rest =>
    let ((path, key), rest) ← key? rest
    let rest ← mark? ']' rest
    let entries ← doc.entries.define path key
    return ({ entries, header := path ++ [key] }, ← endLine? rest)
  | _ => none

/-- A line with an assignment. -/
def assignment? (doc : Document) (s : List Char) : Option (Document × List Char) := do
  let ((path, key), rest) ← key? s
  let rest ← mark? '=' rest
  let (v, rest) ← value? (rest.length + 1) 0 (skipBlanks rest)
  let entries ← doc.entries.assign doc.header path key v
  return ({ doc with entries }, ← endLine? rest)

/-- All lines from here on. -/
def lines? : Nat → Document → List Char → Option Document
  | 0, _, _ => none
  | fuel + 1, doc, s =>
    match skipBlanks s with
    | [] => some doc
    | c :: rest =>
      let s := c :: rest
      if c = '#' ∨ c = '\n' ∨ c = '\r' then (endLine? s).bind (lines? fuel doc)
      else
        match if c = '[' then header? doc s else assignment? doc s with
        | some (doc, rest) => lines? fuel doc rest
        | none => none

/-- The table of a text. A byte order mark in front of it does not count. -/
def read (s : String) : Option Value :=
  let chars :=
    match s.toList with
    | '\uFEFF' :: rest => rest
    | chars => chars
  (lines? (chars.length + 1) {} chars).map fun doc => doc.entries.value

end SiteConfig.Toml
