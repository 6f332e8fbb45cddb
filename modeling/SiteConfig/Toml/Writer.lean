import SiteConfig.Json.Writer

/-!
# Writing TOML

- `Quoting.of`: how a string is quoted: with as few escapes as possible, and on one line if it has
  no line break.
- `write`: a value as a TOML text, or `none` for what TOML cannot hold: null, an integer of more
  than 64 bits with its sign, and anything but a table at the top.

The values of a table stand right below its header, and the tables inside it follow. An array whose
items are all tables is written as headers too, unless it is empty.
-/

namespace SiteConfig.Toml

/-! ## Strings -/

/-- How a string is quoted. -/
inductive Quoting
  | basic
  | literal
  /-- Between three double quotes. -/
  | basicLines
  /-- Between three single quotes. -/
  | literalLines
  deriving DecidableEq, Repr

/-- The length of the longest run of a character, given the length of the run before. -/
def longestRun (q : Char) : Nat → List Char → Nat
  | run, [] => run
  | run, c :: rest =>
    if c = q then longestRun q (run + 1) rest else max run (longestRun q 0 rest)

/-- Control characters that only an escape can hold. -/
def isControl (c : Char) : Bool :=
  (c.toNat < 0x20 && c != '\t' && c != '\n') || c.toNat == 0x7F

/-- The quoting of a string. -/
def Quoting.of (s : List Char) : Quoting :=
  let control := s.any isControl
  let backslash := s.contains '\\'
  let lines := s.contains '\n'
  let doubles := longestRun '"' 0 s
  let singles := longestRun '\'' 0 s
  if !control && !backslash && doubles = 0 && !lines then .basic
  else if !control && singles = 0 && !lines then .literal
  else if !control && !backslash && doubles ≤ 2 then .basicLines
  else if !control && singles ≤ 2 then .literalLines
  else if lines then .basicLines
  else .basic

/-- The escape of a character between double quotes, if it needs one. -/
def escapeOf? (c : Char) : Option (List Char) :=
  match c with
  | '\x08' => some ['\\', 'b']
  | '\t' => some ['\\', 't']
  | '\n' => some ['\\', 'n']
  | '\x0C' => some ['\\', 'f']
  | '\r' => some ['\\', 'r']
  | '"' => some ['\\', '"']
  | '\\' => some ['\\', '\\']
  | c => if isControl c then some ('\\' :: 'u' :: Text.hexUpper 4 c.toNat) else none

/-- Text between double quotes. With `lines`, line breaks stay, and so do up to two quotes in a
row, `run` of which are in front. -/
def escaped (lines : Bool) : Nat → List Char → List Char
  | _, [] => []
  | run, c :: rest =>
    if lines && c == '\n' then c :: escaped lines 0 rest
    else if lines && c == '"' && run < 2 then c :: escaped lines (run + 1) rest
    else
      match escapeOf? c with
      | some cs => cs ++ escaped lines 0 rest
      | none => c :: escaped lines 0 rest

/-- A string in quotes. The first of several lines starts on a line of its own. -/
def quoted (quoting : Quoting) (s : List Char) : List Char :=
  let start := if s.contains '\n' then ['\n'] else []
  let doubles := ['"', '"', '"']
  let singles := ['\'', '\'', '\'']
  match quoting with
  | .basic => '"' :: (escaped false 0 s ++ ['"'])
  | .literal => '\'' :: (s ++ ['\''])
  | .basicLines => doubles ++ start ++ escaped true 0 s ++ doubles
  | .literalLines => singles ++ start ++ s ++ singles

/-- A string value. -/
def textValue (s : String) : List Char :=
  quoted (Quoting.of s.toList) s.toList

/-- Whether a key needs no quotes. -/
def isBareKey (s : List Char) : Bool :=
  !s.isEmpty && s.all fun c => c.isAlphanum || c == '-' || c == '_'

/-- A key, on one line. -/
def keyText (key : String) : List Char :=
  let s := key.toList
  let control := s.any isControl || s.contains '\n'
  if isBareKey s then s
  else if !control && !s.contains '\\' && !s.contains '"' then quoted .basic s
  else if !control && !s.contains '\'' then quoted .literal s
  else quoted .basic s

/-- A dotted key. -/
def pathText (path : List String) : List Char :=
  List.intercalate ['.'] (path.map keyText)

/-! ## Values -/

mutual

/-- A value on the right of an assignment. Two or more items of an array stand on lines of their
own. -/
def valueText : Value → List Char
  | .text s => textValue s
  | .list [] => ['[', ']']
  | .list [v] => '[' :: (valueText v ++ [']'])
  | .list (v :: w :: rest) => '[' :: (itemLines (v :: w :: rest) ++ ['\n', ']'])
  | .object [] => ['{', '}']
  | .object ((key, v) :: rest) =>
    '{' :: ' ' :: (keyText key ++ ' ' :: '=' :: ' ' :: valueText v ++ pairTexts rest ++ [' ', '}'])
  | v => Json.scalar v

/-- The items of an array, each on a line. -/
def itemLines : List Value → List Char
  | [] => []
  | v :: rest => '\n' :: (List.replicate 4 ' ' ++ valueText v ++ ',' :: itemLines rest)

/-- The assignments of an inline table after the first. -/
def pairTexts : List (String × Value) → List Char
  | [] => []
  | (key, v) :: rest =>
    ',' :: ' ' :: (keyText key ++ ' ' :: '=' :: ' ' :: valueText v ++ pairTexts rest)

end

/-! ## Tables -/

/-- Whether a value is a table. -/
def isTable : Value → Bool
  | .object _ => true
  | _ => false

/-- Whether a value is written under headers of its own. -/
def isHeaded : Value → Bool
  | .object _ => true
  | .list items => !items.isEmpty && items.all isTable
  | _ => false

/-- The assignments of a table, a line each. -/
def assignments (fields : Fields) : List Char :=
  (fields.filter fun field => !isHeaded field.2).flatMap fun (key, v) =>
    keyText key ++ ' ' :: '=' :: ' ' :: (valueText v ++ ['\n'])

/-- A header in a number of brackets, and what belongs to it. -/
def headed (brackets : Nat) (path : List String) (fields : Fields) : List Char :=
  List.replicate brackets '[' ++ pathText path ++ List.replicate brackets ']'
    ++ '\n' :: assignments fields

/-- Whether a table needs a header: one that only holds other tables does not. -/
def needsHeader (fields : Fields) : Bool :=
  fields.isEmpty || fields.any fun field => !isHeaded field.2

mutual

/-- The sections of a value that is written under headers. -/
def valueSections (path : List String) : Value → List (List Char)
  | .object fields =>
    (if needsHeader fields then [headed 1 path fields] else []) ++ fieldSections path fields
  | .list items => if items.all isTable then itemSections path items else []
  | _ => []

/-- The sections of the tables of an array. -/
def itemSections (path : List String) : List Value → List (List Char)
  | .object fields :: rest =>
    headed 2 path fields :: (fieldSections path fields ++ itemSections path rest)
  | _ => []

/-- The sections of the tables inside a table. -/
def fieldSections (path : List String) : List (String × Value) → List (List Char)
  | [] => []
  | (key, v) :: rest => valueSections (path ++ [key]) v ++ fieldSections path rest

end

/-- The text of a table at the top, with a line break at its end. -/
def documentText (fields : Fields) : List Char :=
  let top := assignments fields
  List.intercalate ['\n'] ((if top.isEmpty then [] else [top]) ++ fieldSections [] fields)

mutual

/-- Whether TOML can hold a value. -/
def fits : Value → Bool
  | .null => false
  | .int n => -0x8000000000000000 ≤ n && n ≤ 0x7FFFFFFFFFFFFFFF
  | .list items => fitsItems items
  | .object fields => fitsFields fields
  | _ => true

/-- `fits` on the items of a list. -/
def fitsItems : List Value → Bool
  | [] => true
  | v :: rest => fits v && fitsItems rest

/-- `fits` on the fields of an object. -/
def fitsFields : List (String × Value) → Bool
  | [] => true
  | (_, v) :: rest => fits v && fitsFields rest

end

/-- A value as a TOML text. -/
def write (v : Value) : Option String :=
  match v with
  | .object fields => if fits v then some (String.ofList (documentText fields)) else none
  | _ => none

end SiteConfig.Toml
