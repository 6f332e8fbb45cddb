import SiteConfig.Text.Digits
import SiteConfig.Text.Hidden

/-!
# Texts in messages

- `quote`: a text between double quotes, with everything escaped that does not show as itself.
-/

namespace SiteConfig.Text

/-- A number in base sixteen without leading zeros. -/
def shortHex (n : Nat) : List Char :=
  Nat.toDigits 16 n

/-- A character between double quotes. -/
def quoteChar (c : Char) : List Char :=
  if c = '"' then ['\\', '"']
  else if c = '\\' then ['\\', '\\']
  else if c = '\n' then ['\\', 'n']
  else if c = '\r' then ['\\', 'r']
  else if c = '\t' then ['\\', 't']
  else if c = '\x00' then ['\\', '0']
  else if isHidden c then '\\' :: 'u' :: '{' :: (shortHex c.toNat ++ ['}'])
  else [c]

/-- A text between double quotes. -/
def quote (s : String) : String :=
  String.ofList ('"' :: (s.toList.flatMap quoteChar ++ ['"']))

end SiteConfig.Text
