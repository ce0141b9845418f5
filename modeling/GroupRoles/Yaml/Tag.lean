import GroupRoles.Text.Hex
import GroupRoles.Text.Utf8

/-!
# YAML tags

A tag is a string of bytes, for its escapes may write bytes that are no text. It ends in front of
the first zero byte that an escape writes.
-/

namespace GroupRoles.Yaml

/-- A tag whose handle is resolved, or a part of one. -/
structure Tag where
  bytes : List UInt8
deriving Repr, DecidableEq

namespace Tag

/-- The tag of a text. -/
def ofText (s : String) : Tag :=
  ⟨Text.Utf8.encode s⟩

/-- Two parts of a tag behind each other. -/
def append (s t : Tag) : Tag :=
  ⟨s.bytes ++ t.bytes⟩

/-- What the tags of the core schema start with. -/
def coreStem : Tag :=
  ofText "tag:yaml.org,2002:"

/-- The tag of the core schema for a kind of value. -/
def core (kind : String) : Tag :=
  coreStem.append (ofText kind)

/-- Whether the document itself defines a tag. -/
def isOwn (t : Tag) : Bool :=
  t.bytes.head? = some 0x21

/-- The name of a tag that the document itself defines, if it is text; a single mark names
itself. -/
def name? (t : Tag) : Option String :=
  match t.bytes with
  | [] => none
  | mark :: name =>
    if mark ≠ 0x21 then none
    else if name.isEmpty then some "!"
    else Text.Utf8.strict? name

/-- The name without the mark that may stand in front of it once more. -/
def bareName (name : String) : String :=
  match name.toList with
  | '!' :: c :: rest => String.ofList (c :: rest)
  | _ => name

/-! ## Escapes -/

/-- How many bytes a character has that starts with `a`, going by the high bits of `a` alone. -/
def sequenceLength? (a : UInt8) : Option Nat :=
  if a < 0x80 then some 1
  else if a < 0xc0 then none
  else if a < 0xe0 then some 2
  else if a < 0xf0 then some 3
  else if a < 0xf8 then some 4
  else none

/-- A byte that may stand behind the first one of a character. -/
def isTail (a : UInt8) : Bool :=
  0x80 ≤ a && a < 0xc0

/-- The bytes that characters and escapes write, where the character before them still needs
`due` escapes. -/
def bytes? : Nat → List Char → Option (List UInt8)
  | 0, [] => some []
  | _ + 1, [] => none
  | due, '%' :: a :: b :: rest => do
    let byte ← (Text.hexNumber? [a, b]).map UInt8.ofNat
    let due ←
      match due with
      | 0 => (sequenceLength? byte).map (· - 1)
      | due + 1 => if isTail byte then some due else none
    let bytes ← bytes? due rest
    pure (byte :: bytes)
  | due, c :: rest =>
    if due ≠ 0 || c = '%' then none else (bytes? 0 rest).map (UInt8.ofNat c.toNat :: ·)

/-- The tag that characters of ASCII write. -/
def ofChars? (cs : List Char) : Option Tag :=
  (bytes? 0 cs).map fun bytes => ⟨bytes.takeWhile (· ≠ 0)⟩

end Tag

end GroupRoles.Yaml
