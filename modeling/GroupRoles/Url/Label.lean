import GroupRoles.Text.Mark
import GroupRoles.Url.Joining
import GroupRoles.Url.Punycode

/-!
# Labels

A label of a domain, either as it is or in Punycode behind `xn--`. Every label is read into the
characters that it stands for and written in ASCII.
-/

namespace GroupRoles.Url.Label

/-- How many characters the Punycode of a label may have. -/
def maxCode : Nat := 2000

/-- How many characters a label beyond ASCII may have. -/
def maxLength : Nat := 1000

/-- A text of ASCII. -/
def isAscii (cs : List Char) : Bool :=
  cs.all fun c => c.toNat < 0x80

/-- What a label in Punycode stands for: a text beyond ASCII that is already as a domain holds
it. -/
def decode? (code : List Char) : Option (List Char) :=
  if maxCode < code.length then none
  else do
    let label ← Punycode.decode? code
    if isAscii label || mapped? label ≠ some label then none else some label

/-- Whether a label may stand in a domain: it starts with no mark, and its joiners fit. -/
def isValid (label : List Char) : Bool :=
  !(label.head?.any Text.isMark) && joinersFit [] label
    && (isAscii label || label.length ≤ maxLength)

/-- What a label stands for. -/
def read? (label : List Char) : Option (List Char) := do
  let label ←
    match label with
    | 'x' :: 'n' :: '-' :: '-' :: code => decode? code
    | _ => some label
  if isValid label then some label else none

/-- A label in ASCII. -/
def text (label : List Char) : List Char :=
  if isAscii label then label else ['x', 'n', '-', '-'] ++ Punycode.encode label

end GroupRoles.Url.Label
