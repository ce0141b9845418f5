import GroupRoles.Text.Hex
import GroupRoles.Text.Split

/-!
# Tables of code points

A table is written as a text of entries between blanks. An entry is a code point or a range of
them in hexadecimal digits, `41-5a`, or for every second one of a range `100-12e/2`. What it leads
to stands behind a colon: numbers with points in between.
-/

namespace GroupRoles.Text

/-- An entry of a table: every `step`-th code point of a range, and what they lead to. -/
structure CodeRange where
  first : Nat
  last : Nat
  step : Nat := 1
  targets : List Nat := []
deriving Repr, DecidableEq

namespace CodeRange

/-- Whether an entry is about a code point. -/
def holds (e : CodeRange) (n : Nat) : Bool :=
  e.first ≤ n && n ≤ e.last && (n - e.first) % e.step = 0

/-- What a code point leads to where the first target moves along with it. -/
def image (e : CodeRange) (n : Nat) : List Nat :=
  match e.targets with
  | [] => []
  | target :: rest => (target + (n - e.first)) :: rest

/-- The numbers with points in between. -/
def numbers? (cs : List Char) : Option (List Nat) :=
  if cs.isEmpty then some [] else (splitAt '.' cs).mapM hexNumber?

/-- The entry that a text writes. -/
def ofChars? (cs : List Char) : Option CodeRange := do
  let (range, targets) ←
    match splitAt ':' cs with
    | [range] => some (range, [])
    | [range, targets] => (numbers? targets).map fun targets => (range, targets)
    | _ => none
  let (range, step) ←
    match splitAt '/' range with
    | [range] => some (range, 1)
    | [range, step] => (hexNumber? step).map fun step => (range, step)
    | _ => none
  match ← (splitAt '-' range).mapM hexNumber? with
  | [n] => some ⟨n, n, step, targets⟩
  | [first, last] => some ⟨first, last, step, targets⟩
  | _ => none

end CodeRange

/-- A table of code points. -/
abbrev CodeTable := Array CodeRange

namespace CodeTable

/-- The table that a text writes. -/
def ofText (s : String) : CodeTable :=
  let cs := s.toList.map fun c => if c = '\n' then ' ' else c
  ((splitAt ' ' cs).filterMap CodeRange.ofChars?).toArray

/-- The entry about a code point. -/
def entry? (t : CodeTable) (n : Nat) : Option CodeRange :=
  Array.find? (fun e => e.holds n) t

/-- Whether some entry is about a code point. -/
def covers (t : CodeTable) (n : Nat) : Bool :=
  Array.any t fun e => e.holds n

end CodeTable

end GroupRoles.Text
