import GroupRoles.Url.Domain

/-!
# Hosts

A host is a domain, or an address of four or sixteen bytes.
-/

namespace GroupRoles.Url

/-! ## Addresses of four bytes -/

/-- The number that digits of a base write; `none` when a character is no such digit. -/
def number? (base : Nat) (cs : List Char) : Option Nat :=
  cs.foldlM (fun n c => (Text.hexValue? c).bind fun d => if d < base then some (n * base + d) else none)
    0

/-- A part of an address: decimal, octal behind a zero, hexadecimal behind `0x`. -/
def addressPart? : List Char → Option Nat
  | [] => none
  | '0' :: 'x' :: cs | '0' :: 'X' :: cs => number? 16 cs
  | '0' :: c :: cs => number? 8 (c :: cs)
  | cs => number? 10 cs

/-- The parts of a domain, without an empty one at the end. -/
def domainParts (cs : List Char) : List (List Char) :=
  let parts := Text.splitAt '.' cs
  if 1 < parts.length && parts.getLast? = some [] then parts.dropLast else parts

/-- Whether a domain has to be an address: its last part is a number. -/
def endsInNumber (cs : List Char) : Bool :=
  match (domainParts cs).getLast? with
  | some part =>
    (!part.isEmpty && part.all Char.isDigit) || (addressPart? part).isSome
  | none => false

/-- The address of at most four parts; the last part fills all bytes that are left. -/
def address4? (cs : List Char) : Option Nat := do
  let parts ← (domainParts cs).mapM addressPart?
  let last ← parts.getLast?
  let leading := parts.dropLast
  let room := Nat.pow 256 (4 - leading.length)
  if 3 < leading.length || leading.any (255 < ·) || room ≤ last then none
  else some (leading.foldr (fun n (sum, weight) => (sum + n * weight, weight * 256))
    (last, room)).1

/-- The four bytes of an address. -/
def address4Text (n : Nat) : List Char :=
  Text.joinWith '.' ([n / 16777216, n / 65536 % 256, n / 256 % 256, n % 256].map (Nat.toDigits 10))

/-! ## Addresses of sixteen bytes -/

/-- A group of one to four hexadecimal digits. -/
def hexGroup? (cs : List Char) : Option Nat :=
  if cs.isEmpty || 4 < cs.length then none else number? 16 cs

/-- A byte of an address in an address: decimal and without a needless zero. -/
def byte? (cs : List Char) : Option Nat :=
  match cs with
  | [] | '0' :: _ :: _ => none
  | _ => (if cs.all Char.isDigit then number? 10 cs else none).bind fun n =>
    if n < 256 then some n else none

/-- The groups of one side of an address; at its end four bytes may stand for two groups. -/
def groups? (allowBytes : Bool) (parts : List (List Char)) : Option (List Nat) :=
  match parts with
  | [] => some []
  | [cs] =>
    if allowBytes && cs.contains '.' then
      match (Text.splitAt '.' cs).mapM byte? with
      | some [a, b, c, d] => some [a * 256 + b, c * 256 + d]
      | _ => none
    else (hexGroup? cs).map ([·])
  | cs :: rest => do
    let group ← hexGroup? cs
    let groups ← groups? allowBytes rest
    pure (group :: groups)

/-- Splits at the first double colon. -/
def splitGap : List Char → Option (List Char × List Char)
  | ':' :: ':' :: rest => some ([], rest)
  | c :: rest => (splitGap rest).map fun (a, b) => (c :: a, b)
  | [] => none

/-- The parts between single colons; nothing has no parts. -/
def colonParts (cs : List Char) : List (List Char) :=
  if cs.isEmpty then [] else Text.splitAt ':' cs

/-- The eight groups of an address. -/
def address6? (cs : List Char) : Option (List Nat) :=
  match splitGap cs with
  | none => (groups? true (colonParts cs)).filter (·.length = 8)
  | some (front, back) => do
    let left ← groups? false (colonParts front)
    let right ← groups? true (colonParts back)
    let n := left.length + right.length
    if n < 8 then some (left ++ List.replicate (8 - n) 0 ++ right) else none

/-- The longest run of zero groups, the first of equal ones: its start and its length. -/
def zeroRun (groups : List Nat) : Nat × Nat :=
  (List.range 8).foldl (fun best i =>
    let n := ((groups.drop i).takeWhile (· = 0)).length
    if best.2 < n then (i, n) else best) (0, 0)

/-- A group without leading zeros. -/
def groupText (n : Nat) : List Char :=
  Nat.toDigits 16 n

/-- The groups of an address; the longest run of at least two zero groups is left out. -/
def address6Text (groups : List Nat) : List Char :=
  let (start, n) := zeroRun groups
  if n < 2 then Text.joinWith ':' (groups.map groupText)
  else
    Text.joinWith ':' ((groups.take start).map groupText) ++ [':', ':']
      ++ Text.joinWith ':' ((groups.drop (start + n)).map groupText)

/-! ## Hosts -/

/-- The text of the host that a text names. -/
def host? (cs : List Char) : Except UrlFault (List Char) :=
  match cs with
  | '[' :: rest =>
    if rest.getLast? = some ']' then
      match address6? rest.dropLast with
      | some groups => pure ('[' :: address6Text groups ++ [']'])
      | none => throw .invalidAddress6
    else throw .invalidAddress6
  | _ => do
    let domain ← domain? cs
    if endsInNumber domain then
      match address4? domain with
      | some n => pure (address4Text n)
      | none => throw .invalidAddress4
    else pure domain

end GroupRoles.Url
