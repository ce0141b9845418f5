import GroupRoles.Number.Shortest

/-!
# Numbers in JSON text

A numeral keeps the digits of its text. Its value is an integer of 64 bits where the text
writes one; every other numeral is a binary64 number, found from the digits that fit a 64-bit
significand by one scaling with a power of ten.
-/

namespace GroupRoles.Json

open Number

/-- The digits of a number's text. -/
structure Numeral where
  negative : Bool
  whole : List Nat
  fraction : Option (List Nat)
  /-- Whether the exponent is negative, and its digits. -/
  exponent : Option (Bool × List Nat)
deriving Repr, DecidableEq, Inhabited

/-- What a numeral stands for. -/
inductive Numeric where
  | natural (n : Nat)
  /-- The integer `-n`. -/
  | negative (n : Nat)
  | real (x : Signed64)
deriving Repr, DecidableEq, Inhabited

namespace Numeral

/-- The largest 64-bit significand. -/
def maxSignificand : Nat := Nat.pow 2 64 - 1

/-- The largest exponent that a numeral may write. -/
def maxExponent : Nat := Nat.pow 2 31 - 1

/-- Appends digits to a significand as long as it fits; the other digits remain. -/
def absorb (s : Nat) : List Nat → Nat × List Nat
  | [] => (s, [])
  | d :: rest =>
    if s * 10 + d ≤ maxSignificand then absorb (s * 10 + d) rest else (s, d :: rest)

/-- The natural number that digits write. -/
def ofDigits (ds : List Nat) : Nat :=
  ds.foldl (fun n d => n * 10 + d) 0

/-- The power of ten with exponent at most 308. -/
def power (n : Nat) : Binary64 :=
  (Binary64.ofNat (Nat.pow 10 n)).getD Binary64.zero

/-- Divides by powers of ten until the exponent is used up or nothing is left. -/
def scaleDown : Nat → Binary64 → Nat → Binary64
  | 0, _, _ => Binary64.zero
  | steps + 1, x, e =>
    if x.mantissa = 0 then x
    else if e ≤ 308 then (x.div (power e)).getD x
    else scaleDown steps ((x.div (power 308)).getD x) (e - 308)

/-- The number `significand * 10 ^ scale`; `none` beyond the finite range. -/
def scaled (significand : Nat) (scale : Int) : Option Binary64 :=
  (Binary64.ofNat significand).bind fun x =>
    if 0 ≤ scale then
      if scale ≤ 308 then x.mul (power scale.toNat)
      else if x.mantissa = 0 then some x else none
    else some (scaleDown 5 x (-scale).toNat)

/-- The value of a numeral; `none` when it is beyond the finite range. -/
def value (n : Numeral) : Option Numeric :=
  let real (x : Binary64) : Numeric := .real ⟨n.negative, x⟩
  let (s, dropped) := absorb 0 n.whole
  if dropped = [] && n.fraction = none && n.exponent = none then
    if !n.negative then some (.natural s)
    else if 0 < s && s ≤ Nat.pow 2 63 then some (.negative s)
    else (Binary64.ofNat s).map real
  else
    let fraction := n.fraction.getD []
    let (t, unread) := absorb s fraction
    let scale : Int := (dropped.length : Int) - (fraction.length - unread.length : Nat)
    match n.exponent with
    | none => (scaled t scale).map real
    | some (negative, ds) =>
      let e := ofDigits ds
      if e ≤ maxExponent then
        (scaled t (if negative then scale - e else scale + e)).map real
      else if t ≠ 0 && !negative then none
      else some (real Binary64.zero)

end Numeral

end GroupRoles.Json
