import GroupRoles.Json.Basic
import GroupRoles.Json.Numeral
import GroupRoles.Text.Hex
import GroupRoles.Text.Utf8

/-!
# JSON text as far as it is sound

A draft is what a reader learns from a text from left to right. Where the text breaks the
grammar the draft holds `broken` and nothing after it, so that whoever reads the draft in order
meets a fault of the text and a fault of the value in the order in which the text shows them.
-/

namespace GroupRoles.Json

/-- A JSON text read up to its first fault. -/
inductive Draft where
  /-- The text breaks the grammar here. -/
  | broken
  | null
  | flag (b : Bool)
  | number (n : Numeral)
  /-- A string; `none` when an escape in it is half of a surrogate pair, or when it has bytes that
  are no character. -/
  | text (s : Option String)
  | list (items : List Draft)
  /-- Keys and values; a key of a sound text is a string. -/
  | record (members : List (Draft × Draft))
deriving Repr, Inhabited

/-- The draft of a text, and whether nothing but white space follows it. -/
structure Sheet where
  draft : Draft
  complete : Bool
deriving Repr, Inhabited

namespace Draft

/-! ## Letters -/

/-- The white space of JSON. -/
def isSpace (c : Char) : Bool :=
  c = ' ' || c = '\n' || c = '\t' || c = '\r'

/-- Drops white space in front. -/
def skip (cs : List Char) : List Char :=
  cs.dropWhile isSpace

/-- A decimal digit. -/
def isDigit (c : Char) : Bool :=
  '0' ≤ c && c ≤ '9'

/-- The value of a decimal digit. -/
def digitValue (c : Char) : Nat :=
  c.toNat - 48

/-- The code unit of four hexadecimal digits. -/
def codeUnit? (a b c d : Char) : Option Nat :=
  Text.hexNumber? [a, b, c, d]

/-- The first half of a surrogate pair. -/
def isHigh (n : Nat) : Bool :=
  0xd800 ≤ n && n ≤ 0xdbff

/-- The second half of a surrogate pair. -/
def isLow (n : Nat) : Bool :=
  0xdc00 ≤ n && n ≤ 0xdfff

/-- The character that a pair of halves stands for. -/
def joinHalves (high low : Nat) : Char :=
  Char.ofNat (0x10000 + (high - 0xd800) * 0x400 + (low - 0xdc00))

/-- The character of a one-letter escape. -/
def escape? (c : Char) : Option Char :=
  if c = '\x22' || c = '\\' || c = '/' then some c
  else if c = 'b' then some '\x08'
  else if c = 'f' then some '\x0c'
  else if c = 'n' then some '\n'
  else if c = 'r' then some '\r'
  else if c = 't' then some '\t'
  else none

/-! ## Strings -/

/-- A character in front of a string that was read. -/
def putChar (c : Char) : Option (Option (List Char) × List Char) →
    Option (Option (List Char) × List Char)
  | some (s, rest) => some (s.map (c :: ·), rest)
  | none => none

/-- A string that holds half of a pair. -/
def spoil : Option (Option (List Char) × List Char) → Option (Option (List Char) × List Char)
  | some (_, rest) => some (none, rest)
  | none => none

/-- The second half of a pair, if one is written next. -/
def low? : List Char → Option (Nat × List Char)
  | '\\' :: 'u' :: a :: b :: c :: d :: rest =>
    match codeUnit? a b c d with
    | some n => if isLow n then some (n, rest) else none
    | none => none
  | _ => none

/-- What follows an opening quote: the string up to the closing one, and the rest. -/
def stringBody : Nat → List Char → Option (Option (List Char) × List Char)
  | 0, _ => none
  | _ + 1, [] => none
  | fuel + 1, c :: rest =>
    if c = '\x22' then some (some [], rest)
    else if c = '\\' then
      match rest with
      | 'u' :: a :: b :: c :: d :: rest =>
        match codeUnit? a b c d with
        | none => none
        | some n =>
          if isHigh n then
            match low? rest with
            | some (m, rest) => putChar (joinHalves n m) (stringBody fuel rest)
            | none => spoil (stringBody fuel rest)
          else if isLow n then spoil (stringBody fuel rest)
          else putChar (Char.ofNat n) (stringBody fuel rest)
      | e :: rest =>
        match escape? e with
        | some c => putChar c (stringBody fuel rest)
        | none => none
      | [] => none
    else if c.toNat < 0x20 then none
    else putChar c (stringBody fuel rest)

/-- A string whose opening quote is read. -/
def string (cs : List Char) : Draft × Option (List Char) :=
  match stringBody (cs.length + 1) cs with
  | some (s, rest) => (text (s.map String.ofList), some rest)
  | none => (broken, none)

/-! ## Numbers -/

/-- The digits in front, and the rest. -/
def digits (cs : List Char) : List Nat × List Char :=
  ((cs.takeWhile isDigit).map digitValue, cs.dropWhile isDigit)

/-- The exponent of a number, if one follows; `none` when it has no digits. -/
def exponent? : List Char → Option (Option (Bool × List Nat) × List Char)
  | e :: rest =>
    if e = 'e' || e = 'E' then
      let (negative, rest) :=
        match rest with
        | '-' :: rest => (true, rest)
        | '+' :: rest => (false, rest)
        | rest => (false, rest)
      match digits rest with
      | ([], _) => none
      | (ds, rest) => some (some (negative, ds), rest)
    else some (none, e :: rest)
  | [] => some (none, [])

/-- The fraction of a number, if one follows; `none` when it has no digits. -/
def fraction? : List Char → Option (Option (List Nat) × List Char)
  | '.' :: rest =>
    match digits rest with
    | ([], _) => none
    | (ds, rest) => some (some ds, rest)
  | rest => some (none, rest)

/-- A number whose sign is read; a number does not start with a needless zero. -/
def numeral? (negative : Bool) (cs : List Char) : Option (Numeral × List Char) :=
  match digits cs with
  | ([], _) => none
  | (0 :: _ :: _, _) => none
  | (whole, rest) =>
    (fraction? rest).bind fun (fraction, rest) =>
      (exponent? rest).map fun (exponent, rest) =>
        (⟨negative, whole, fraction, exponent⟩, rest)

/-- A number whose sign is read. -/
def numeral (negative : Bool) (cs : List Char) : Draft × Option (List Char) :=
  match numeral? negative cs with
  | some (n, rest) => (number n, some rest)
  | none => (broken, none)

/-- The rest after a word, if it stands in front. -/
def word? : List Char → List Char → Option (List Char)
  | [], cs => some cs
  | w :: ws, c :: cs => if w = c then word? ws cs else none
  | _ :: _, [] => none

/-- A word that stands for a value. -/
def word (w : String) (v : Draft) (cs : List Char) : Draft × Option (List Char) :=
  match word? w.toList cs with
  | some rest => (v, some rest)
  | none => (broken, none)

/-! ## Values -/

mutual

/-- The value in front of a text, and what follows it unless the text broke. -/
def value : Nat → List Char → Draft × Option (List Char)
  | 0, _ => (broken, none)
  | fuel + 1, cs =>
    match skip cs with
    | [] => (broken, none)
    | c :: rest =>
      if c = '\x22' then string rest
      else if c = '[' then
        match skip rest with
        | ']' :: rest => (list [], some rest)
        | rest =>
          let (vs, rest) := items fuel rest
          (list vs, rest)
      else if c = '\x7b' then
        match skip rest with
        | '\x7d' :: rest => (record [], some rest)
        | rest =>
          let (ms, rest) := members fuel rest
          (record ms, rest)
      else if c = '-' then numeral true rest
      else if isDigit c then numeral false (c :: rest)
      else if c = 'n' then word "null" null (c :: rest)
      else if c = 't' then word "true" (flag true) (c :: rest)
      else if c = 'f' then word "false" (flag false) (c :: rest)
      else (broken, none)

/-- The items of a list up to its end; `broken` stands last where the text breaks. -/
def items : Nat → List Char → List Draft × Option (List Char)
  | 0, _ => ([broken], none)
  | fuel + 1, cs =>
    match value fuel cs with
    | (v, none) => ([v], none)
    | (v, some rest) =>
      match skip rest with
      | ']' :: rest => ([v], some rest)
      | ',' :: rest =>
        let (vs, rest) := items fuel rest
        (v :: vs, rest)
      | _ => ([v, broken], none)

/-- The members of a record up to its end; a broken member stands last where the text
breaks. -/
def members : Nat → List Char → List (Draft × Draft) × Option (List Char)
  | 0, _ => ([(broken, broken)], none)
  | fuel + 1, cs =>
    match value fuel cs with
    | (text k, some rest) =>
      match skip rest with
      | ':' :: rest =>
        match value fuel rest with
        | (v, none) => ([(text k, v)], none)
        | (v, some rest) =>
          match skip rest with
          | '\x7d' :: rest => ([(text k, v)], some rest)
          | ',' :: rest =>
            let (ms, rest) := members fuel rest
            ((text k, v) :: ms, rest)
          | _ => ([(text k, v), (broken, broken)], none)
      | _ => ([(text k, broken)], none)
    | (k, _) => ([(k, broken)], none)

end

/-- Reads a text. -/
def ofChars (cs : List Char) : Sheet :=
  match value (2 * cs.length + 2) cs with
  | (v, some rest) => ⟨v, (skip rest).isEmpty⟩
  | (v, none) => ⟨v, false⟩

/-- Reads a text. -/
def ofText (s : String) : Sheet :=
  ofChars s.toList

/-! ## Bytes -/

mutual

/-- What two readings have in common: a string that they read differently is none. -/
def common : Draft → Draft → Draft
  | text s, text t => text (if s = t then s else none)
  | list vs, list ws => list (commonItems vs ws)
  | record ms, record ns => record (commonMembers ms ns)
  | v, _ => v

/-- What two readings of items have in common. -/
def commonItems : List Draft → List Draft → List Draft
  | v :: vs, w :: ws => common v w :: commonItems vs ws
  | _, _ => []

/-- What two readings of members have in common. -/
def commonMembers : List (Draft × Draft) → List (Draft × Draft) → List (Draft × Draft)
  | (k, v) :: ms, (l, w) :: ns => (common k l, common v w) :: commonMembers ms ns
  | _, _ => []

end

/-- Reads bytes. A piece that is no character breaks the text, unless it stands in a string: this
string is none then. To find such strings the bytes are read twice, with different characters in the
place of these pieces. -/
def ofBytes (bytes : List UInt8) : Sheet :=
  let sheet := ofChars ((Text.Utf8.decode bytes).map (·.getD '\ufffd'))
  let other := ofChars ((Text.Utf8.decode bytes).map (·.getD '\ufffe'))
  { sheet with draft := sheet.draft.common other.draft }

end Draft

/-! ## Values as drafts -/

/-- The digits of a natural number. -/
def decimalDigits (n : Nat) : List Nat :=
  (Nat.toDigits 10 n).map Draft.digitValue

mutual

/-- What a reader learns from the text of a value. -/
def draft : Json → Draft
  | null => .null
  | flag b => .flag b
  | number n => .number ⟨false, decimalDigits n, none, none⟩
  | text s => .text (some s)
  | list items => .list (draftItems items)
  | record members => .record (draftMembers members)

/-- What a reader learns from the items of a list. -/
def draftItems : List Json → List Draft
  | [] => []
  | v :: rest => draft v :: draftItems rest

/-- What a reader learns from the members of a record. -/
def draftMembers : List (String × Json) → List (Draft × Draft)
  | [] => []
  | (k, v) :: rest => (.text (some k), draft v) :: draftMembers rest

end

end GroupRoles.Json
