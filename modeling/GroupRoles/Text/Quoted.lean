import GroupRoles.Text.Hex
import GroupRoles.Text.Unprintable

/-!
# Quoted text

A text between double quotes, for messages and records shown to a person. Quote and backslash
are escaped, the common controls have short escapes, and every other character that does not
stand for itself is written by its code point.
-/

namespace GroupRoles.Text

/-- How one character is written between double quotes. -/
def quoteChar (c : Char) : List Char :=
  if c = '\x00' then ['\\', '0']
  else if c = '\t' then ['\\', 't']
  else if c = '\r' then ['\\', 'r']
  else if c = '\n' then ['\\', 'n']
  else if c = '\x22' || c = '\\' then ['\\', c]
  else if isPlain c then [c]
  else ['\\', 'u', '\x7b'] ++ hexDigits c.toNat ++ ['\x7d']

/-- The text between double quotes. -/
def quote (s : String) : String :=
  String.ofList ('\x22' :: s.toList.flatMap quoteChar ++ ['\x22'])

end GroupRoles.Text
