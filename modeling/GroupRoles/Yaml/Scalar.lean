import GroupRoles.Number.Shortest
import GroupRoles.Yaml.Node

/-!
# What a scalar stands for

A plain scalar is absent, a truth value, an integer, a number or a text, in this order. A tag of
the core schema asks for one of these, a tag of the document's own leaves the scalar as it is,
and every other tag makes it a text.
-/

namespace GroupRoles.Yaml

open Number

/-- A number that is not written as an integer. -/
inductive Real where
  | finite (x : Signed64)
  | infinite (negative : Bool)
  | undefined
deriving Repr, DecidableEq

/-- What a scalar stands for. -/
inductive Resolved where
  | absent
  | flag (b : Bool)
  | integer (n : Int)
  /-- An integer beyond 64 bits. -/
  | wide (n : Int)
  | real (x : Real)
  | text (s : String)
deriving Repr, DecidableEq

namespace Real

/-- The text of a number. -/
def describe : Real → String
  | finite x => x.positional
  | infinite negative => if negative then "-inf" else "inf"
  | undefined => "NaN"

/-- Two numbers are the same when they are equal; the undefined one is the same as itself. -/
def same : Real → Real → Bool
  | finite x, finite y => x = y || (x.magnitude.mantissa = 0 && y.magnitude.mantissa = 0)
  | x, y => x = y

end Real

namespace Resolved

/-! ## Reading plain scalars -/

/-- The words for the absent value. -/
def isAbsent (s : String) : Bool :=
  s = "null" || s = "Null" || s = "NULL" || s = "~"

/-- The truth value of a word. -/
def flag? (s : String) : Option Bool :=
  if s = "true" || s = "True" || s = "TRUE" then some true
  else if s = "false" || s = "False" || s = "FALSE" then some false
  else none

/-- The number that at least one digit of a base writes. -/
def digits? (base : Nat) (cs : List Char) : Option Nat :=
  if cs.isEmpty then none
  else cs.foldlM
    (fun n c => (Text.hexValue? c).bind fun d => if d < base then some (n * base + d) else none) 0

/-- The number of digits with the base in front: `0x`, `0o`, `0b` or none. -/
def based? : List Char → Option Nat
  | '0' :: 'x' :: cs => digits? 16 cs
  | '0' :: 'o' :: cs => digits? 8 cs
  | '0' :: 'b' :: cs => digits? 2 cs
  | cs => digits? 10 cs

/-- Splits a sign off. -/
def splitSign : List Char → Option Char × List Char
  | '+' :: cs => (some '+', cs)
  | '-' :: cs => (some '-', cs)
  | cs => (none, cs)

/-- Digits with a needless zero in front, which write a text. -/
def isPadded (cs : List Char) : Bool :=
  match (splitSign cs).2 with
  | '0' :: c :: rest => (c :: rest).all Char.isDigit
  | _ => false

/-- The natural number that a plain scalar without a minus sign writes. -/
def natural? (cs : List Char) : Option Nat :=
  if isPadded cs then none
  else
    match splitSign cs with
    | (some '-', _) => none
    | (_, rest) => based? rest

/-- The integer that a plain scalar writes. -/
def integer? (cs : List Char) : Option Int :=
  match cs with
  | '-' :: rest => if isPadded cs then none else (based? rest).map fun n => -(n : Int)
  | _ => (natural? cs).map fun n => (n : Int)

/-- The digits of a decimal text in front, and the rest. -/
def decimals (cs : List Char) : List Nat × List Char :=
  ((cs.takeWhile Char.isDigit).map fun c => c.toNat - 48, cs.dropWhile Char.isDigit)

/-- The exponent at the end of a number. -/
def exponent? : List Char → Option Int
  | [] => some 0
  | e :: rest =>
    if e = 'e' || e = 'E' then
      let (sign, rest) := splitSign rest
      match decimals rest with
      | ([], _) | (_, _ :: _) => none
      | (ds, []) =>
        -- beyond six digits every exponent is out of range in the same way
        let n : Nat := min (ds.foldl (fun n d => n * 10 + d) 0) 1000000
        some (if sign = some '-' then -(n : Int) else n)
    else none

/-- The finite number that digits with a point and an exponent write. -/
def decimal? (cs : List Char) : Option Binary64 := do
  let (whole, rest) := decimals cs
  let (fraction, rest) :=
    match rest with
    | '.' :: rest => decimals rest
    | rest => ([], rest)
  if whole.isEmpty && fraction.isEmpty then none
  else
    let e ← exponent? rest
    let ds := (whole ++ fraction).dropWhile (· = 0)
    Binary64.ofDecimal (ds.foldl (fun n d => n * 10 + d) 0) ds.length (e - fraction.length)

/-- The number that a text writes. -/
def real? (cs : List Char) : Option Real :=
  let (sign, rest) := splitSign cs
  let negative := sign = some '-'
  let word := String.ofList rest
  if word = ".inf" || word = ".Inf" || word = ".INF" then some (.infinite negative)
  else if sign.isNone && (word = ".nan" || word = ".NaN" || word = ".NAN") then
    some .undefined
  else (decimal? rest).map fun x => .finite ⟨negative, x⟩

/-- Whether an integer fits 64 bits. -/
def fits (n : Int) : Bool :=
  -(Nat.pow 2 63 : Int) ≤ n && n < (Nat.pow 2 64 : Int)

/-- Whether an integer fits 128 bits. -/
def fitsWide (n : Int) : Bool :=
  -(Nat.pow 2 127 : Int) ≤ n && n < (Nat.pow 2 128 : Int)

/-- The integer of a text, if it fits 128 bits. -/
def wideInteger? (cs : List Char) : Option Resolved :=
  ((integer? cs).filter fitsWide).map fun n => if fits n then .integer n else .wide n

/-- The integer or number that a plain scalar writes; an integer beyond 128 bits is a number. -/
def number? (cs : List Char) : Option Resolved :=
  wideInteger? cs <|> if isPadded cs then none else (real? cs).map .real

/-- What a plain scalar stands for. -/
def ofPlain (s : String) : Resolved :=
  if s.isEmpty || isAbsent s then .absent
  else
    match flag? s with
    | some b => .flag b
    | none => (number? s.toList).getD (.text s)

end Resolved

/-! ## Tags -/

namespace Scalar

/-- The name of a tag that the document itself defines. -/
def ownTag? (tag : Option Tag) : Option String :=
  tag.bind Tag.name?

/-- What a scalar stands for; when its tag asks for something else, what it asks for. -/
def resolve (s : Scalar) : Except String Resolved :=
  match s.tag with
  | none => pure (if s.style = .plain then .ofPlain s.text else .text s.text)
  | some tag =>
    if tag = Tag.core "bool" then
      match Resolved.flag? s.text with
      | some b => pure (.flag b)
      | none => throw "a boolean"
    else if tag = Tag.core "int" then
      match Resolved.wideInteger? s.text.toList with
      | some r => pure r
      | none => throw "an integer"
    else if tag = Tag.core "float" then
      match Resolved.real? s.text.toList with
      | some x => pure (.real x)
      | none => throw "a float"
    else if tag = Tag.core "null" then
      if Resolved.isAbsent s.text then pure .absent else throw "null"
    else if tag.isOwn && s.style = .plain then pure (.ofPlain s.text)
    else pure (.text s.text)

/-- A plain scalar without text. -/
def isBlank (s : Scalar) : Bool :=
  s.style = .plain && s.text.isEmpty

/-- Whether a scalar may stand for a truth value or a number: it is plain, or a literal block
whose tag says so. -/
def mayBe (s : Scalar) (kind : String) : Bool :=
  s.style = .plain || (s.style = .literal && s.tag = some (Tag.core kind))

end Scalar

end GroupRoles.Yaml
