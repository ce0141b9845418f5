/-!
# Finite binary64 numbers

A non-negative binary64 number is `mantissa * 2 ^ exponent` in units of `2 ^ (-1074)`, the
least positive one. `Binary64.ofRatio` rounds a quotient to the nearest such number, ties to
the even mantissa, in exact arithmetic.
-/

namespace GroupRoles.Number

/-- `n / d` to the nearest natural number, a tie to the even one. -/
def roundDiv (n d : Nat) : Nat :=
  let q := n / d
  let r := n % d
  if 2 * r > d || (2 * r == d && q % 2 == 1) then q + 1 else q

/-- The finite number `mantissa * 2 ^ exponent * 2 ^ (-1074)`. -/
structure Binary64 where
  mantissa : Nat
  exponent : Nat
deriving Repr, DecidableEq, Inhabited

namespace Binary64

/-- The number zero. -/
def zero : Binary64 := ⟨0, 0⟩

/-- The denominator of every binary64 number. -/
def unit : Nat := Nat.pow 2 1074

/-- The largest exponent of a finite number. -/
def maxExponent : Nat := 2045

/-- The number nearest to `n / d`; `none` beyond the finite range. -/
def ofRatio (n d : Nat) : Option Binary64 :=
  let q := n * unit / d
  let e := if q < Nat.pow 2 53 then 0 else q.log2 - 52
  let m := roundDiv (n * unit) (d * Nat.pow 2 e)
  let rounded : Binary64 := if m < Nat.pow 2 53 then ⟨m, e⟩ else ⟨Nat.pow 2 52, e + 1⟩
  if rounded.exponent ≤ maxExponent then some rounded else none

/-- The number as a fraction over `unit`. -/
def numerator (x : Binary64) : Nat :=
  x.mantissa * Nat.pow 2 x.exponent

/-- The number nearest to a natural number. -/
def ofNat (n : Nat) : Option Binary64 :=
  ofRatio n 1

/-- The rounded product. -/
def mul (x y : Binary64) : Option Binary64 :=
  ofRatio (x.numerator * y.numerator) (unit * unit)

/-- The rounded quotient by a positive number. -/
def div (x y : Binary64) : Option Binary64 :=
  ofRatio x.numerator y.numerator

/-- The number nearest to `digits * 10 ^ scale`, where `digits` has `width` digits. Far beyond
either end of the range the power is not computed. -/
def ofDecimal (digits width : Nat) (scale : Int) : Option Binary64 :=
  if digits = 0 then some zero
  else if scale + width > 400 then none
  else if scale + width < -400 then some zero
  else if 0 ≤ scale then ofRatio (digits * Nat.pow 10 scale.toNat) 1
  else ofRatio digits (Nat.pow 10 (-scale).toNat)

end Binary64

/-- A finite binary64 number with its sign. -/
structure Signed64 where
  negative : Bool
  magnitude : Binary64
deriving Repr, DecidableEq, Inhabited

end GroupRoles.Number
