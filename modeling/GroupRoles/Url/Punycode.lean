/-!
# Punycode

A label of any characters as letters, digits and hyphens: its ASCII characters in front, and
behind the last hyphen where which other characters go.
-/

namespace GroupRoles.Url.Punycode

/-- A digit to the base 36. -/
def digit (n : Nat) : Char :=
  if n < 26 then Char.ofNat (97 + n) else Char.ofNat (22 + n)

/-- The threshold of a digit's place. -/
def threshold (k bias : Nat) : Nat :=
  if k ≤ bias then 1 else if bias + 26 ≤ k then 26 else k - bias

/-- Parts of a delta until it is small. -/
def shrink : Nat → Nat → Nat → Nat
  | 0, delta, k => k + 36 * delta / (delta + 38)
  | fuel + 1, delta, k =>
    if 455 < delta then shrink fuel (delta / 35) (k + 36) else k + 36 * delta / (delta + 38)

/-- The bias after a delta. -/
def adapt (delta points : Nat) (isFirst : Bool) : Nat :=
  let delta := if isFirst then delta / 700 else delta / 2
  shrink delta (delta + delta / points) 0

/-- A delta as digits of variable length. -/
def digits : Nat → Nat → Nat → Nat → List Char
  | 0, _, _, _ => []
  | fuel + 1, q, k, bias =>
    let t := threshold k bias
    if q < t then [digit q]
    else digit (t + (q - t) % (36 - t)) :: digits fuel ((q - t) / (36 - t)) (k + 36) bias

/-- What the loop over one code point keeps. -/
structure State where
  delta : Nat
  bias : Nat
  /-- How many code points are written. -/
  done : Nat
  out : List Char

/-- Goes over all code points and writes each that equals `n`. -/
def pass (basic n : Nat) (st : State) (c : Nat) : State :=
  if c < n then { st with delta := st.delta + 1 }
  else if c = n then
    { delta := 0
      bias := adapt st.delta (st.done + 1) (st.done = basic)
      done := st.done + 1
      out := st.out ++ digits (st.delta + 2) st.delta 36 st.bias }
  else st

/-- Writes the code points from `n` on in increasing order. -/
def loop (basic : Nat) (codes : List Nat) : Nat → Nat → State → List Char
  | 0, _, st => st.out
  | fuel + 1, n, st =>
    match (codes.filter (n ≤ ·)).min? with
    | none => st.out
    | some m =>
      let st := { st with delta := st.delta + (m - n) * (st.done + 1) }
      let st := codes.foldl (pass basic m) st
      loop basic codes fuel (m + 1) { st with delta := st.delta + 1 }

/-- The Punycode of a label. -/
def encode (cs : List Char) : List Char :=
  let basic := cs.filter fun c => c.toNat < 0x80
  let start := if basic.isEmpty then [] else basic ++ ['-']
  loop basic.length (cs.map Char.toNat) (cs.length + 1) 0x80 ⟨0, 72, basic.length, start⟩

/-! ## Reading -/

/-- The value of a digit to the base 36. -/
def digit? (c : Char) : Option Nat :=
  let n := c.toNat
  if 97 ≤ n && n ≤ 122 then some (n - 97)
  else if 65 ≤ n && n ≤ 90 then some (n - 65)
  else if 48 ≤ n && n ≤ 57 then some (n - 22)
  else none

/-- What reading digits keeps. -/
structure Reader where
  out : List Char
  /-- The code point of the last character put in. -/
  code : Nat := 0x80
  bias : Nat := 72
  /-- Where the next character goes as far as its number is read, and before that. -/
  position : Nat := 0
  start : Nat := 0
  /-- The weight of the next digit of the number, and its place; a number starts at 36. -/
  weight : Nat := 1
  place : Nat := 36

/-- The bound of numbers and weights. -/
def bound : Nat := 4294967296

/-- Puts in the character whose number is read. -/
def Reader.put (r : Reader) : Option Reader :=
  let count := r.out.length + 1
  let code := r.code + r.position / count
  let place := r.position % count
  if code.isValidChar then
    some
      { out := r.out.take place ++ Char.ofNat code :: r.out.drop place
        code
        bias := adapt (r.position - r.start) count (r.start = 0)
        position := place + 1
        start := place + 1 }
  else none

/-- Reads a digit. -/
def Reader.step (r : Reader) (c : Char) : Option Reader := do
  let d ← digit? c
  let position := r.position + d * r.weight
  let t := threshold r.place r.bias
  let weight := r.weight * (36 - t)
  if bound ≤ position then none
  else if d < t then Reader.put { r with position }
  else if bound ≤ weight then none
  else some { r with position, weight, place := r.place + 36 }

/-- The ASCII characters in front of the last hyphen, and the digits; a hyphen with nothing in
front of it is no digit. -/
def splitCode (cs : List Char) : List Char × List Char :=
  let digits := (cs.reverse.takeWhile (· ≠ '-')).reverse
  let front := cs.take (cs.length - digits.length - 1)
  if front.isEmpty then ([], cs) else (front, digits)

/-- The label of a Punycode. -/
def decode? (cs : List Char) : Option (List Char) :=
  let (front, digits) := splitCode cs
  if front.any fun c => 0x80 ≤ c.toNat then none
  else do
    let r ← digits.foldlM Reader.step { out := front }
    if r.place = 36 then some r.out else none

end GroupRoles.Url.Punycode
