import GroupRoles.Text.Hex
import GroupRoles.Text.Utf8

/-!
# Percent encoding

A set says which ASCII characters are written as they are; the bytes of every other character
are written as `%` and two upper-case hexadecimal digits. Each part of a URL has a set of its
own, and form data has one in which a space is a plus sign.
-/

namespace GroupRoles.Url

/-- A hexadecimal digit, upper case. -/
def upperHexDigit (n : Nat) : Char :=
  if n < 10 then Char.ofNat (48 + n) else Char.ofNat (55 + n)

/-- A byte behind a percent sign. -/
def percentByte (b : UInt8) : List Char :=
  ['%', upperHexDigit (b.toNat / 16), upperHexDigit (b.toNat % 16)]

/-- A character whose bytes are all encoded. -/
def percentChar (c : Char) : List Char :=
  (String.utf8EncodeChar c).flatMap percentByte

/-- A printable character of ASCII other than the space. -/
def isGraphic (c : Char) : Bool :=
  0x21 ≤ c.toNat && c.toNat ≤ 0x7e

/-- The characters that stand for themselves in a fragment. -/
def keepsInFragment (c : Char) : Bool :=
  isGraphic c && !(['\x22', '<', '>', '\x60'].contains c)

/-- The characters that stand for themselves in a query. -/
def keepsInQuery (c : Char) : Bool :=
  isGraphic c && !(['\x22', '#', '<', '>', '\x27'].contains c)

/-- The characters that stand for themselves in a path. -/
def keepsInPath (c : Char) : Bool :=
  keepsInFragment c && !(['#', '?', '\x7b', '\x7d'].contains c)

/-- The characters that stand for themselves in one segment of a path. -/
def keepsInSegment (c : Char) : Bool :=
  keepsInPath c && !(['/', '%', '\\'].contains c)

/-- The characters that stand for themselves in a user name or password. -/
def keepsInUser (c : Char) : Bool :=
  keepsInPath c && !(['/', ':', ';', '=', '@', '[', '\\', ']', '^', '|'].contains c)

/-- The characters that stand for themselves in form data. -/
def keepsInForm (c : Char) : Bool :=
  c.isAlphanum || c = '*' || c = '-' || c = '.' || c = '_'

/-- Encodes all characters that a set does not keep. -/
def encode (keeps : Char → Bool) (cs : List Char) : List Char :=
  cs.flatMap fun c => if keeps c then [c] else percentChar c

/-- Encodes a text of form data. -/
def encodeForm (cs : List Char) : List Char :=
  cs.flatMap fun c =>
    if c = ' ' then ['+'] else if keepsInForm c then [c] else percentChar c

/-- A name and a value of form data. -/
def formPair (name value : String) : List Char :=
  encodeForm name.toList ++ '=' :: encodeForm value.toList

/-- Form data. -/
def formText : List (String × String) → List Char
  | [] => []
  | [(name, value)] => formPair name value
  | (name, value) :: p :: rest => formPair name value ++ '&' :: formText (p :: rest)

/-- The bytes of a text whose percent signs with two digits are resolved. -/
def decodeBytes : List Char → List UInt8
  | '%' :: a :: b :: rest =>
    match Text.hexValue? a, Text.hexValue? b with
    | some x, some y => UInt8.ofNat (x * 16 + y) :: decodeBytes rest
    | _, _ => 0x25 :: decodeBytes (a :: b :: rest)
  | c :: rest => String.utf8EncodeChar c ++ decodeBytes rest
  | [] => []

/-- The text whose percent signs with two digits are resolved, if its bytes are text. -/
def decode? (cs : List Char) : Option String :=
  Text.Utf8.strict? (decodeBytes cs)

end GroupRoles.Url
