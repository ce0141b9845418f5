import GroupRoles.Number.Binary64

/-!
# Shortest decimal text of a number

`Binary64.shortest` finds the fewest decimal digits that still round to the number, and of
those the nearest to it. Two layouts write them: all digits in positional notation, or an
exponent outside the range in which positional notation is short.
-/

namespace GroupRoles.Number

/-- The value `0.d₁d₂…dₙ * 10 ^ point`. -/
structure Decimal where
  digits : List Nat
  point : Int
deriving Repr, DecidableEq

namespace Binary64

/-- The reals that round to a number, in quarters of its unit: the number itself, both ends,
and whether the ends belong to it. -/
structure Interval where
  low : Nat
  value : Nat
  high : Nat
  closed : Bool

/-- The reals that round to `x`. -/
def interval (x : Binary64) : Interval :=
  let step := Nat.pow 2 x.exponent
  let below := if x.mantissa = Nat.pow 2 52 && 0 < x.exponent then step else 2 * step
  let value := 4 * x.mantissa * step
  ⟨value - below, value, value + 2 * step, x.mantissa % 2 == 0⟩

/-- The least `j ≤ bound` with `n * 10 ^ (j + 1) ≥ d`. -/
def leadingZeros (d : Nat) : Nat → Nat → Nat
  | 0, _ => 0
  | bound + 1, n => if n * 10 ≥ d then 0 else leadingZeros d bound (n * 10) + 1

/-- The `k` with `10 ^ (k - 1) ≤ n / d < 10 ^ k`. -/
def magnitude (n d : Nat) : Int :=
  if n ≥ d then ((Nat.toDigits 10 (n / d)).length : Int)
  else -((leadingZeros d 400 n : Nat) : Int)

/-- The decimal digits of `n`, without zeros at the end. -/
def significant (n : Nat) : List Nat :=
  (((Nat.toDigits 10 n).reverse.dropWhile (· = '0')).reverse).map fun c => c.toNat - 48

/-- The point of the grid of `places` digits that lies in the interval, the nearer of two. -/
def onGrid (i : Interval) (d : Nat) (k : Int) (places : Nat) : Option Decimal :=
  let scale : Int := k - places
  -- a multiple `c` of the grid is compared with the interval as `c * up` with `· * down`
  let up := if 0 ≤ scale then Nat.pow 10 scale.toNat * d else d
  let down := if 0 ≤ scale then 1 else Nat.pow 10 (-scale).toNat
  let c := i.value * down / up
  let inside (c : Nat) : Bool :=
    let v := c * up
    if i.closed then i.low * down ≤ v && v ≤ i.high * down
    else i.low * down < v && v < i.high * down
  let pick : Option Nat :=
    match inside c, inside (c + 1) with
    | true, true =>
      let below := i.value * down - c * up
      let above := (c + 1) * up - i.value * down
      some (if above < below || (above == below && c % 2 == 1) then c + 1 else c)
    | true, false => some c
    | false, true => some (c + 1)
    | false, false => none
  pick.map fun c => ⟨significant c, scale + (Nat.toDigits 10 c).length⟩

/-- The fewest digits that round to `x`, the nearest of those; zero is the digit `0`. -/
def shortest (x : Binary64) : Decimal :=
  if x.mantissa = 0 then ⟨[0], 1⟩
  else
    let i := x.interval
    let d := 4 * unit
    let k := magnitude i.value d
    ((List.range 17).findSome? fun n => onGrid i d k (n + 1)).getD ⟨[0], 1⟩

end Binary64

namespace Decimal

/-- The digits as text. -/
def digitText (ds : List Nat) : String :=
  String.ofList (ds.map Nat.digitChar)

/-- `n` zeros. -/
def zeros (n : Nat) : String :=
  String.ofList (List.replicate n '0')

/-- All digits in positional notation, with at least one after the point. -/
def positional (d : Decimal) : String :=
  let n := d.digits.length
  if d.point ≤ 0 then "0." ++ zeros (-d.point).toNat ++ digitText d.digits
  else
    let p := d.point.toNat
    if n ≤ p then digitText d.digits ++ zeros (p - n) ++ ".0"
    else digitText (d.digits.take p) ++ "." ++ digitText (d.digits.drop p)

/-- Positional notation from `10⁻⁵` up to `10¹⁶`, an exponent with its sign beyond. -/
def scientific (d : Decimal) : String :=
  if -5 < d.point && d.point ≤ 16 then d.positional
  else
    let e := (if 0 < d.point then "e+" else "e") ++ toString (d.point - 1)
    match d.digits with
    | [a] => digitText [a] ++ e
    | a :: rest => digitText [a] ++ "." ++ digitText rest ++ e
    | [] => ""

end Decimal

namespace Signed64

/-- The sign of a number in front of its text. -/
def withSign (x : Signed64) (text : String) : String :=
  if x.negative then "-" ++ text else text

/-- The shortest text in positional notation. -/
def positional (x : Signed64) : String :=
  x.withSign x.magnitude.shortest.positional

/-- The shortest text, with an exponent where the number is large or small. -/
def scientific (x : Signed64) : String :=
  x.withSign x.magnitude.shortest.scientific

end Signed64

end GroupRoles.Number
