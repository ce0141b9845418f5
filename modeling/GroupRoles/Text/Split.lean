/-!
# Parts of a text

Splitting a text at a character and joining the parts again.
-/

namespace GroupRoles.Text

/-- Splits at every occurrence of a character. -/
def splitAt (c : Char) : List Char → List (List Char)
  | [] => [[]]
  | d :: rest =>
    if d = c then [] :: splitAt c rest
    else
      match splitAt c rest with
      | [] => [[d]]
      | first :: others => (d :: first) :: others

/-- Joins with a character in between. -/
def joinWith (c : Char) : List (List Char) → List Char
  | [] => []
  | [cs] => cs
  | cs :: d :: rest => cs ++ c :: joinWith c (d :: rest)

/-- A text is split into at least one part. -/
theorem splitAt_ne_nil (c : Char) (cs : List Char) : splitAt c cs ≠ [] := by
  induction cs with
  | nil => simp [splitAt]
  | cons d rest ih =>
    rw [splitAt]
    split
    · simp
    · split <;> simp

/-- Splitting loses nothing. -/
theorem joinWith_splitAt (c : Char) (cs : List Char) : joinWith c (splitAt c cs) = cs := by
  induction cs with
  | nil => rfl
  | cons d rest ih =>
    rw [splitAt]
    cases hs : splitAt c rest with
    | nil => exact absurd hs (splitAt_ne_nil c rest)
    | cons first others =>
      rw [hs] at ih
      split
      · next h => rw [h, joinWith, ih, List.nil_append]
      · rw [← ih]
        cases others <;> rfl

end GroupRoles.Text
