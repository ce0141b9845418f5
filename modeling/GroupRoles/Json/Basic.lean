/-!
# JSON values and their text

The values that this library writes: numbers are natural, and the members of an object keep
their order. `Json.compact` writes a value on one line and `Json.pretty` over several, two
spaces a level.
-/

namespace GroupRoles

/-- A JSON value. -/
inductive Json where
  | null
  | flag (b : Bool)
  | number (n : Nat)
  | text (s : String)
  | list (items : List Json)
  | record (members : List (String × Json))
deriving Repr, Inhabited

namespace Json

/-- An optional text; an absent one is null. -/
def ofText? : Option String → Json
  | none => null
  | some s => text s

/-- The four hexadecimal digits of a control character's escape. -/
def escapeDigits (n : Nat) : List Char :=
  ['0', '0', Nat.digitChar (n / 16), Nat.digitChar (n % 16)]

/-- How one character is written inside a JSON string. -/
def escapeChar (c : Char) : List Char :=
  if c = '\x22' || c = '\\' then ['\\', c]
  else if 0x20 ≤ c.toNat then [c]
  else if c = '\n' then ['\\', 'n']
  else if c = '\r' then ['\\', 'r']
  else if c = '\t' then ['\\', 't']
  else if c = '\x08' then ['\\', 'b']
  else if c = '\x0c' then ['\\', 'f']
  else ['\\', 'u'] ++ escapeDigits c.toNat

/-- A JSON string with its quotes. -/
def quoted (s : String) : List Char :=
  '\x22' :: s.toList.flatMap escapeChar ++ ['\x22']

/-- The text of a value without lists or records in it. -/
def scalar : Json → List Char
  | null => "null".toList
  | flag true => "true".toList
  | flag false => "false".toList
  | number n => Nat.toDigits 10 n
  | text s => quoted s
  | list _ | record _ => []

/-! ## On one line -/

mutual

/-- The text of a value without spaces. -/
def compact : Json → List Char
  | list items => '[' :: compactItems items ++ [']']
  | record members => '\x7b' :: compactMembers members ++ ['\x7d']
  | v => scalar v

/-- The items of a list, with commas between them. -/
def compactItems : List Json → List Char
  | [] => []
  | [v] => compact v
  | v :: w :: rest => compact v ++ ',' :: compactItems (w :: rest)

/-- The members of a record, with commas between them. -/
def compactMembers : List (String × Json) → List Char
  | [] => []
  | [(k, v)] => quoted k ++ ':' :: compact v
  | (k, v) :: m :: rest => quoted k ++ ':' :: compact v ++ ',' :: compactMembers (m :: rest)

end

/-! ## Over several lines -/

/-- A new line at a nesting level. -/
def newline (level : Nat) : List Char :=
  '\n' :: List.replicate (2 * level) ' '

mutual

/-- The text of a value whose lines are indented to `level`; empty lists and records stay on
one line. -/
def pretty (level : Nat) : Json → List Char
  | list [] => ['[', ']']
  | list items =>
    '[' :: newline (level + 1) ++ prettyItems (level + 1) items ++ newline level ++ [']']
  | record [] => ['\x7b', '\x7d']
  | record members =>
    '\x7b' :: newline (level + 1) ++ prettyMembers (level + 1) members ++ newline level
      ++ ['\x7d']
  | v => scalar v

/-- The items of a list, each on a line of its own. -/
def prettyItems (level : Nat) : List Json → List Char
  | [] => []
  | [v] => pretty level v
  | v :: w :: rest => pretty level v ++ ',' :: newline level ++ prettyItems level (w :: rest)

/-- The members of a record, each on a line of its own. -/
def prettyMembers (level : Nat) : List (String × Json) → List Char
  | [] => []
  | [(k, v)] => quoted k ++ [':', ' '] ++ pretty level v
  | (k, v) :: m :: rest =>
    quoted k ++ [':', ' '] ++ pretty level v ++ ',' :: newline level
      ++ prettyMembers level (m :: rest)

end

/-- The text of a value on one line. -/
def compactText (v : Json) : String :=
  String.ofList v.compact

/-- The text of a value over several lines. -/
def prettyText (v : Json) : String :=
  String.ofList (v.pretty 0)

end Json

end GroupRoles
