/-!
# A place in a YAML text

- `Cursor`: the text that is left, with the line and the column that it starts at.
- `Cursor.takeBreak?`: a line break, however it is spelled, counts as one character.

The classes of characters that the layout of YAML rests on are here too: line breaks, blanks and
the characters of names.
-/

namespace SiteConfig.Yaml

/-- Characters that end a line. -/
def isBreak (c : Char) : Bool :=
  c == '\n' || c == '\r' || c == '\x85' || c == '\u2028' || c == '\u2029'

/-- Blanks within a line. -/
def isSpace (c : Char) : Bool :=
  c == ' ' || c == '\t'

/-- Blanks and line breaks. -/
def isGap (c : Char) : Bool :=
  isSpace c || isBreak c

/-- Whether a text starts with a blank or a line break, or is empty. -/
def gapNext : List Char → Bool
  | [] => true
  | c :: _ => isGap c

/-- The characters of anchors and of directive names. -/
def isWord (c : Char) : Bool :=
  c.isAlphanum || c == '_' || c == '-'

/-- The characters that structure flow collections. -/
def isFlowMark (c : Char) : Bool :=
  c == ',' || c == '[' || c == ']' || c == '{' || c == '}'

/-- The characters that no plain scalar starts with, whatever comes next. -/
def isIndicator (c : Char) : Bool :=
  isFlowMark c || "#&*!|>'\"%@`".toList.contains c

/-- The characters that a YAML text may hold at all. -/
def isAdmitted (c : Char) : Bool :=
  let n := c.toNat
  n == 9 || n == 10 || n == 13 || (0x20 ≤ n && n ≤ 0x7E) || n == 0x85
    || (0xA0 ≤ n && n ≤ 0xD7FF) || (0xE000 ≤ n && n ≤ 0xFFFD) || 0x10000 ≤ n

/-- What is left of a text, and where it starts. -/
structure Cursor where
  rest : List Char
  index : Nat := 0
  line : Nat := 0
  column : Nat := 0
  deriving DecidableEq, Repr, Inhabited

namespace Cursor

/-- The next character. -/
def peek? (cur : Cursor) : Option Char :=
  cur.rest.head?

/-- Whether a given character comes next. -/
def sees (cur : Cursor) (c : Char) : Bool :=
  cur.peek? == some c

/-- Whether the next character is in a class. -/
def seesWhere (cur : Cursor) (p : Char → Bool) : Bool :=
  cur.rest.head?.any p

/-- Past a number of characters none of which is a line break. -/
def advance (cur : Cursor) (n : Nat) : Cursor :=
  { cur with rest := cur.rest.drop n, index := cur.index + n, column := cur.column + n }

/-- Past all characters of a class that has no line breaks. -/
def skipWhile (cur : Cursor) (p : Char → Bool) : Cursor :=
  cur.advance (cur.rest.takeWhile p).length

/-- The characters of a class that has no line breaks, and the cursor past them. -/
def takeWhile (cur : Cursor) (p : Char → Bool) : List Char × Cursor :=
  (cur.rest.takeWhile p, cur.skipWhile p)

/-- A line break, and the cursor past it. Every break within ASCII is read as a line feed. -/
def takeBreak? (cur : Cursor) : Option (Char × Cursor) :=
  match cur.rest with
  | '\r' :: '\n' :: rest =>
    some ('\n', { rest, index := cur.index + 2, line := cur.line + 1, column := 0 })
  | c :: rest =>
    if isBreak c then
      let seen := if c == '\u2028' || c == '\u2029' then c else '\n'
      some (seen, { rest, index := cur.index + 1, line := cur.line + 1, column := 0 })
    else none
  | [] => none

/-- Past a line break, if there is one. -/
def skipBreak (cur : Cursor) : Cursor :=
  match cur.takeBreak? with
  | some (_, next) => next
  | none => cur

/-- Past the comment that starts here, if one does. -/
def skipComment (cur : Cursor) : Cursor :=
  if cur.sees '#' then cur.skipWhile fun c => !isBreak c else cur

/-- Past blanks and a comment to the end of the line, if nothing else is in the way. -/
def skipLineEnd? (cur : Cursor) : Option Cursor :=
  let cur := (cur.skipWhile isSpace).skipComment
  if cur.rest.isEmpty || cur.seesWhere isBreak then some cur.skipBreak else none

/-- Whether three equal marks stand at the start of a line, with a gap after them. -/
def atMark (cur : Cursor) (mark : Char) : Bool :=
  cur.column == 0 &&
    match cur.rest with
    | a :: b :: c :: rest => a == mark && b == mark && c == mark && gapNext rest
    | _ => false

/-- Whether a document starts or ends here. -/
def atDocumentMark (cur : Cursor) : Bool :=
  cur.atMark '-' || cur.atMark '.'

end Cursor

end SiteConfig.Yaml
