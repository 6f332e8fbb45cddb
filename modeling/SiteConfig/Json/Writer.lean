import SiteConfig.Number.Shortest
import SiteConfig.Text.Digits
import SiteConfig.Value

/-!
# Values as JSON text

- `pretty`: one item or field a line, each level indented by two spaces; empty lists and objects
  stay on one line.

Fields are written in the order in which the object holds them.
-/

namespace SiteConfig.Json

/-- A character of a text between quotes. Only the quote, the backslash and the control
characters below the space are escaped. -/
def escape (c : Char) : List Char :=
  if c = '"' then ['\\', '"']
  else if c = '\\' then ['\\', '\\']
  else if c = '\x08' then ['\\', 'b']
  else if c = '\x0C' then ['\\', 'f']
  else if c = '\n' then ['\\', 'n']
  else if c = '\r' then ['\\', 'r']
  else if c = '\t' then ['\\', 't']
  else if c.toNat < 0x20 then '\\' :: 'u' :: Text.hex 4 c.toNat
  else [c]

/-- A text in quotes. -/
def quoted (s : String) : List Char :=
  '"' :: (s.toList.flatMap escape ++ ['"'])

/-- An integer in decimal. -/
def integer (n : Int) : List Char :=
  if n < 0 then '-' :: Text.decimal n.natAbs else Text.decimal n.natAbs

/-- A value without parts. -/
def scalar : Value → List Char
  | .null => ['n', 'u', 'l', 'l']
  | .bool true => ['t', 'r', 'u', 'e']
  | .bool false => ['f', 'a', 'l', 's', 'e']
  | .int n => integer n
  | .float x => x.text.toList
  | .text s => quoted s
  | .list _ => ['[', ']']
  | .object _ => ['{', '}']

/-- A new line at a level of nesting. -/
def newline (level : Nat) : List Char :=
  '\n' :: List.replicate (2 * level) ' '

mutual

/-- The text of a value that starts inside `level` lists and objects. -/
def prettyAt (level : Nat) : Value → List Char
  | .list (v :: rest) =>
    '[' :: (newline (level + 1) ++ prettyAt (level + 1) v ++ prettyItems (level + 1) rest
      ++ newline level ++ [']'])
  | .object ((k, v) :: rest) =>
    '{' :: (newline (level + 1) ++ quoted k ++ [':', ' '] ++ prettyAt (level + 1) v
      ++ prettyFields (level + 1) rest ++ newline level ++ ['}'])
  | v => scalar v

/-- The items of a list after the first. -/
def prettyItems (level : Nat) : List Value → List Char
  | [] => []
  | v :: rest => ',' :: (newline level ++ prettyAt level v ++ prettyItems level rest)

/-- The fields of an object after the first. -/
def prettyFields (level : Nat) : List (String × Value) → List Char
  | [] => []
  | (k, v) :: rest =>
    ',' :: (newline level ++ quoted k ++ [':', ' '] ++ prettyAt level v ++ prettyFields level rest)

end

/-- The indented text of a value. -/
def pretty (v : Value) : String :=
  String.ofList (prettyAt 0 v)

end SiteConfig.Json
