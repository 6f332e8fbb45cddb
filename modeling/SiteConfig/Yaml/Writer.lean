import SiteConfig.Json.Writer
import SiteConfig.Yaml.Cursor
import SiteConfig.Yaml.Plain

/-!
# Writing YAML

- `Style.of`: how a text is written: plainly if that reads back as the same text, else between
  single quotes; as a block of lines if it has more than one line; and between double quotes,
  with escapes, where no other style can hold it.
- `write`: a value as a YAML document in block layout. A sequence that is the value of a key stands
  at the column of the key.
-/

namespace SiteConfig.Yaml

/-- How a scalar is written. -/
inductive Style
  | plain
  | single
  | double
  | literal
  deriving DecidableEq, Repr

/-! ## What a text rules out -/

/-- Characters that can be shown without an escape. -/
def isPrintable (c : Char) : Bool :=
  let n := c.toNat
  n == 10 || (0x20 ≤ n && n ≤ 0x7E) || (0xA0 ≤ n && n ≤ 0xFFFD && n != 0xFEFF) || 0x10000 ≤ n

/-- Whether one of two neighbouring characters, the first and the second, are of given classes. -/
def hasPair (p q : Char → Bool) : List Char → Bool
  | a :: b :: rest => (p a && q b) || hasPair p q (b :: rest)
  | _ => false

/-- Whether a colon before a gap, or a number sign after one, occurs. -/
def hasMark (s : List Char) : Bool :=
  hasPair isGap (· == '#') s || hasPair (· == ':') isGap s || s.getLast? == some ':'

/-- Whether a text starts as something other than a plain scalar of block context. -/
def startsMarked : List Char → Bool
  | [] => false
  | c :: rest =>
    isIndicator c
      || ((c == '?' || c == ':' || c == '-') && gapNext rest)
      || (c :: rest).take 3 == ['-', '-', '-']
      || (c :: rest).take 3 == ['.', '.', '.']

/-- Whether a class holds the first or the last character. -/
def atEnds (p : Char → Bool) (s : List Char) : Bool :=
  s.head?.any p || s.getLast?.any p

/-- Whether only escapes can hold a text: one of its characters does not show, or there is a space
right before a line break. -/
def needsEscapes (s : List Char) : Bool :=
  !s.all isPrintable || hasPair (· == ' ') isBreak s

/-- Whether a text can be written plainly. -/
def plainFits (s : List Char) : Bool :=
  !(needsEscapes s || s.any isBreak || atEnds (· == ' ') s || startsMarked s || hasMark s)

/-- Whether a text can be written between single quotes: no line may start with a space. -/
def singleFits (s : List Char) : Bool :=
  !(needsEscapes s || hasPair isBreak (· == ' ') s)

/-- Whether a text can be written as a block of lines. -/
def literalFits (s : List Char) : Bool :=
  !(needsEscapes s || s.getLast? == some ' ')

/-- The style of a text. -/
def Style.of (s : List Char) : Style :=
  if s.contains '\n' then (if literalFits s then .literal else .double)
  else if Plain.ofText s = .text && !leadingZero s && plainFits s then .plain
  else if singleFits s then .single
  else .double

/-! ## Scalars -/

/-- A character between double quotes. -/
def escape (c : Char) : List Char :=
  if c = '"' then ['\\', '"']
  else if c = '\\' then ['\\', '\\']
  else if isPrintable c && !isBreak c then [c]
  else
    match c with
    | '\x00' => ['\\', '0']
    | '\x07' => ['\\', 'a']
    | '\x08' => ['\\', 'b']
    | '\t' => ['\\', 't']
    | '\n' => ['\\', 'n']
    | '\x0B' => ['\\', 'v']
    | '\x0C' => ['\\', 'f']
    | '\r' => ['\\', 'r']
    | '\x1B' => ['\\', 'e']
    | '\x85' => ['\\', 'N']
    | '\u2028' => ['\\', 'L']
    | '\u2029' => ['\\', 'P']
    | c =>
      let n := c.toNat
      if n ≤ 0xFF then '\\' :: 'x' :: Text.hexUpper 2 n
      else if n ≤ 0xFFFF then '\\' :: 'u' :: Text.hexUpper 4 n
      else '\\' :: 'U' :: Text.hexUpper 8 n

/-- Spaces up to a column. -/
def spaces (n : Nat) : List Char :=
  List.replicate n ' '

/-- Text whose lines are indented; empty lines are left empty. `fresh` holds at the start of a
line. -/
def indented (indent : Nat) : Bool → List Char → List Char
  | _, [] => []
  | fresh, c :: rest =>
    if isBreak c then c :: indented indent true rest
    else (if fresh then spaces indent else []) ++ c :: indented indent false rest

/-- What the header of a block of lines has to say about a text: an indentation where the first
line starts with a space or is empty, and the number of line breaks at the end unless it is one. -/
def blockHints (s : List Char) : List Char :=
  let indent := if s.head?.any (fun c => c == ' ' || isBreak c) then ['2'] else []
  let chomp :=
    match s.reverse with
    | [] => ['-']
    | [c] => if isBreak c then ['+'] else ['-']
    | c :: d :: _ => if !isBreak c then ['-'] else if isBreak d then ['+'] else []
  indent ++ chomp

/-- A text in its style, its further lines indented to a column. -/
def scalarText (indent : Nat) (s : List Char) : List Char :=
  match Style.of s with
  | .plain => s
  | .single =>
    let body := s.flatMap fun c => if c = '\'' then ['\'', '\''] else [c]
    let tail := if s.getLast?.any isBreak then spaces indent else []
    '\'' :: (indented indent false body ++ tail ++ ['\''])
  | .double => '"' :: (s.flatMap escape ++ ['"'])
  | .literal => '|' :: (blockHints s ++ '\n' :: indented indent true s)

/-! ## Collections -/

/-- How long a key may be to stand in front of its colon on one line, in bytes. -/
def shortKey : Nat := 128

/-- Whether a key stands in front of its colon on one line. -/
def isSimpleKey (key : String) : Bool :=
  !key.toList.any isBreak && key.utf8ByteSize ≤ shortKey

/-- What goes between a text and a new line at a column: nothing but the indentation, if the text
itself ends with a line break. -/
def lineStart (indent : Nat) (before : List Char) : List Char :=
  if before.getLast?.any isBreak then spaces indent else '\n' :: spaces indent

/-- Parts of a collection, each of them on a line of its own. -/
def stacked (indent : Nat) : List (List Char) → List Char
  | [] => []
  | [part] => part
  | part :: rest => part ++ lineStart indent part ++ stacked indent rest

mutual

/-- A value whose text starts at the column `indent`. -/
def body (indent : Nat) : Value → List Char
  | .text s => scalarText indent s.toList
  | .list [] => ['[', ']']
  | .list (v :: rest) => stacked indent (items indent (v :: rest))
  | .object [] => ['{', '}']
  | .object (field :: rest) => stacked indent (entries indent (field :: rest))
  | v => Json.scalar v

/-- The items of a sequence, each behind its dash. -/
def items (indent : Nat) : List Value → List (List Char)
  | [] => []
  | v :: rest => ('-' :: ' ' :: body (indent + 2) v) :: items indent rest

/-- The entries of a mapping. -/
def entries (indent : Nat) : List (String × Value) → List (List Char)
  | [] => []
  | (key, v) :: rest =>
    let entry :=
      if isSimpleKey key then
        let before := scalarText (indent + 2) key.toList ++ [':']
        match v with
        -- A sequence stands at the column of its key, a mapping two columns further in.
        | .list (v :: vs) =>
          before ++ '\n' :: spaces indent ++ stacked indent (items indent (v :: vs))
        | .object (f :: fs) =>
          before ++ '\n' :: spaces (indent + 2)
            ++ stacked (indent + 2) (entries (indent + 2) (f :: fs))
        | v => before ++ ' ' :: body (indent + 2) v
      else
        let before := '?' :: ' ' :: scalarText (indent + 2) key.toList
        before ++ lineStart indent before ++ ':' :: ' ' :: body (indent + 2) v
    entry :: entries indent rest

end

/-- The text of a document, with a line break at its end. -/
def documentText (v : Value) : List Char :=
  let text :=
    match v with
    | .text s => scalarText 2 s.toList
    | v => body 0 v
  text ++ lineStart 0 text

/-- A value as a YAML document. -/
def write (v : Value) : String :=
  String.ofList (documentText v)

end SiteConfig.Yaml
