import GroupRoles.Text.Canonical

/-!
# Composed form

Normalization form C of Unicode: a text is taken apart as far as characters have canonical
decompositions, the marks behind each character are put into the order of their classes, and then
each mark is joined to the character before it where the two have a composite. Hangul syllables
are computed; all else is in tables.
-/

namespace GroupRoles.Text.Normal

/-- The class by which a mark is ordered; all other characters have class 0. -/
def combiningClass (n : Nat) : Nat :=
  match classes.entry? n with
  | some e => e.targets.headD 0
  | none => 0

/-! ## Hangul -/

/-- A Hangul syllable. -/
def isSyllable (n : Nat) : Bool :=
  0xac00 ≤ n && n ≤ 0xd7a3

/-- The letters of a syllable. -/
def letters (n : Nat) : List Nat :=
  let i := n - 0xac00
  let front := [0x1100 + i / 588, 0x1161 + i % 588 / 28]
  if i % 28 = 0 then front else front ++ [0x11a7 + i % 28]

/-- The syllable of two letters, or of a syllable without a last letter and that letter. -/
def syllable? (a b : Nat) : Option Nat :=
  if 0x1100 ≤ a && a ≤ 0x1112 && 0x1161 ≤ b && b ≤ 0x1175 then
    some (0xac00 + (a - 0x1100) * 588 + (b - 0x1161) * 28)
  else if isSyllable a && (a - 0xac00) % 28 = 0 && 0x11a8 ≤ b && b ≤ 0x11c2 then
    some (a + (b - 0x11a7))
  else none

/-! ## Taking apart -/

/-- The full decomposition of a character. -/
def parts (n : Nat) : List Nat :=
  if isSyllable n then letters n
  else
    match composites.entry? n <|> replaced.entry? n with
    | some e => e.targets
    | none => [n]

/-- Puts a mark behind the marks of a lower class. -/
def insert (n : Nat) : List Nat → List Nat
  | [] => [n]
  | m :: rest =>
    if 0 < combiningClass m && combiningClass m < combiningClass n then m :: insert n rest
    else n :: m :: rest

/-- Puts the marks behind each character into order. -/
def sort (ns : List Nat) : List Nat :=
  ns.foldr insert []

/-! ## Putting together -/

/-- The composite of a character and the mark behind it. -/
def composite? (a b : Nat) : Option Nat :=
  match syllable? a b with
  | some n => some n
  | none =>
    let ns := parts a ++ [b]
    (composites.find? fun e => e.targets = ns).map CodeRange.first

/-- Joins what it can to the character `a`, behind which the marks `kept`, the last one in front,
stay apart. -/
def join (a : Nat) (kept : List Nat) : List Nat → List Nat
  | [] => a :: kept.reverse
  | b :: rest =>
    let free :=
      match kept with
      | [] => true
      | m :: _ => combiningClass m < combiningClass b
    match if free then composite? a b else none with
    | some c => join c kept rest
    | none =>
      if combiningClass b = 0 then a :: kept.reverse ++ join b [] rest
      else join a (b :: kept) rest

/-- Joins marks to the characters before them. -/
def compose : List Nat → List Nat
  | [] => []
  | n :: rest => if combiningClass n = 0 then join n [] rest else n :: compose rest

/-- The composed form of a text; below `U+0300` nothing changes. -/
def form (ns : List Nat) : List Nat :=
  if ns.all (· < 0x300) then ns else compose (sort (ns.flatMap parts))

/-- Below `U+0300` nothing changes. -/
theorem form_of_small {ns : List Nat} (h : ∀ n ∈ ns, n < 0x300) : form ns = ns := by
  rw [form, if_pos (List.all_eq_true.2 fun n hn => decide_eq_true (h n hn))]

end GroupRoles.Text.Normal
