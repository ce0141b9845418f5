import GroupRoles.Json.Draft

/-!
# Reading back strings and numbers

A written string is read back whatever follows it (`string_escaped`), and a written number whenever
what follows does not go on with it (`numeral_toDigits`). A written number of 64 bits stands for
itself (`value_decimalDigits`).
-/

namespace GroupRoles.Json

namespace Draft

/-! ## Strings -/

/-- The escape of a control character, read back. -/
theorem codeUnit?_escapeDigits {n : Nat} (h : n < 0x20) :
    codeUnit? '0' '0' (Nat.digitChar (n / 16)) (Nat.digitChar (n % 16)) = some n ∧
      isHigh n = false ∧ isLow n = false := by
  have hall : ∀ n ∈ List.range 0x20,
      codeUnit? '0' '0' (Nat.digitChar (n / 16)) (Nat.digitChar (n % 16)) = some n ∧
        isHigh n = false ∧ isLow n = false := by decide
  exact hall n (List.mem_range.mpr h)

/-- A written character is read back, whatever follows it. -/
theorem stringBody_escapeChar (c : Char) (fuel : Nat) (rest : List Char) :
    stringBody (fuel + 1) (escapeChar c ++ rest) = putChar c (stringBody fuel rest) := by
  unfold escapeChar
  by_cases hquote : c = '\x22'
  · subst hquote
    rfl
  by_cases hslash : c = '\\'
  · subst hslash
    rfl
  have hmark : ¬ (c = '\x22' || c = '\\') = true := by
    rw [Bool.or_eq_true, decide_eq_true_iff, decide_eq_true_iff]
    exact not_or.mpr ⟨hquote, hslash⟩
  rw [if_neg hmark]
  by_cases hplain : 0x20 ≤ c.toNat
  · have hcontrol : ¬ c.toNat < 0x20 := Nat.not_lt.mpr hplain
    rw [if_pos hplain, List.singleton_append]
    simp only [stringBody, if_neg hquote, if_neg hslash, if_neg hcontrol]
  rw [if_neg hplain]
  by_cases hn : c = '\n'
  · subst hn
    rfl
  by_cases hr : c = '\r'
  · subst hr
    rfl
  by_cases ht : c = '\t'
  · subst ht
    rfl
  by_cases hb : c = '\x08'
  · subst hb
    rfl
  by_cases hf : c = '\x0c'
  · subst hf
    rfl
  obtain ⟨hunit, hhigh, hlow⟩ := codeUnit?_escapeDigits (n := c.toNat) (by omega)
  have hslash' : ¬ ('\\' = '\x22') := by decide
  rw [if_neg hn, if_neg hr, if_neg ht, if_neg hb, if_neg hf]
  simp only [escapeDigits, List.cons_append, List.nil_append, stringBody, if_neg hslash', if_true,
    hunit, hhigh, hlow, Bool.false_eq_true, if_false, Char.ofNat_toNat]

theorem stringBody_escapeChars (cs : List Char) {fuel : Nat} (h : cs.length < fuel)
    (rest : List Char) :
    stringBody fuel (cs.flatMap escapeChar ++ '\x22' :: rest) = some (some cs, rest) := by
  induction cs generalizing fuel with
  | nil =>
    obtain ⟨fuel, rfl⟩ := Nat.exists_eq_add_one_of_ne_zero (Nat.ne_of_gt h)
    rfl
  | cons c cs ih =>
    obtain ⟨fuel, rfl⟩ := Nat.exists_eq_add_one_of_ne_zero (Nat.ne_of_gt (Nat.zero_lt_of_lt h))
    rw [List.length_cons] at h
    rw [List.flatMap_cons, List.append_assoc, stringBody_escapeChar, ih (by omega)]
    rfl

theorem length_le_escapeChars (cs : List Char) : cs.length ≤ (cs.flatMap escapeChar).length := by
  induction cs with
  | nil => exact Nat.le_refl 0
  | cons c cs ih =>
    have hchar : 1 ≤ (escapeChar c).length := by
      unfold escapeChar
      repeat' split
      all_goals simp
    rw [List.flatMap_cons, List.length_append, List.length_cons]
    omega

/-- A written string, behind its opening quote. -/
theorem string_escaped (s : String) (rest : List Char) :
    string (s.toList.flatMap escapeChar ++ '\x22' :: rest) = (.text (some s), some rest) := by
  have hfuel : s.toList.length <
      (s.toList.flatMap escapeChar ++ '\x22' :: rest).length + 1 := by
    have hle := length_le_escapeChars s.toList
    rw [List.length_append]
    omega
  rw [string, stringBody_escapeChars s.toList hfuel rest]
  simp only [Option.map_some, String.ofList_toList]

/-! ## Numbers -/

theorem isDigit_of_mem_toDigits {n : Nat} {c : Char} (h : c ∈ Nat.toDigits 10 n) :
    isDigit c = true :=
  Nat.isDigit_of_mem_toDigits (by decide) (by decide) h

/-- A number above zero is written without a zero in front. -/
theorem head_toDigits_ne {n : Nat} (h : 0 < n) : ∀ c ∈ (Nat.toDigits 10 n).head?, c ≠ '0' := by
  induction n using Nat.strongRecOn with
  | ind n ih =>
    by_cases hlt : n < 10
    · rw [Nat.toDigits_of_lt_base hlt]
      intro c hc
      cases hc
      rw [ne_eq, Nat.digitChar_eq_zero]
      omega
    · have hdiv := ih (n / 10) (by omega) (by omega)
      rw [Nat.toDigits_of_base_le (by decide) (by omega)]
      intro c hc
      cases hdigits : Nat.toDigits 10 (n / 10) with
      | nil => exact absurd hdigits Nat.toDigits_ne_nil
      | cons d ds =>
        rw [hdigits] at hc hdiv
        exact hdiv c hc

/-- A written number has digits, and a zero only stands in front where it is the only one. -/
theorem decimalDigits_eq (n : Nat) :
    ∃ d ds, decimalDigits n = d :: ds ∧ (d = 0 → ds = []) := by
  unfold decimalDigits
  by_cases hlt : n < 10
  · rw [Nat.toDigits_of_lt_base hlt]
    exact ⟨_, [], rfl, fun _ => rfl⟩
  · have hhead := head_toDigits_ne (n := n) (by omega)
    have hdigit := fun c => isDigit_of_mem_toDigits (n := n) (c := c)
    cases hdigits : Nat.toDigits 10 n with
    | nil => exact absurd hdigits Nat.toDigits_ne_nil
    | cons c cs =>
      rw [hdigits] at hhead hdigit
      have hc : isDigit c = true := hdigit c List.mem_cons_self
      unfold isDigit at hc
      rw [Bool.and_eq_true, decide_eq_true_iff, decide_eq_true_iff] at hc
      have hlow : 48 ≤ c.toNat := hc.1
      refine ⟨_, _, rfl, fun hzero => absurd ?_ (hhead c rfl)⟩
      have hvalue : c.toNat - 48 = 0 := hzero
      exact Char.toNat_inj.mp (Nat.le_antisymm (Nat.le_of_sub_eq_zero hvalue) hlow)

/-- What may follow a number: nothing that goes on with it. -/
def EndsNumber (rest : List Char) : Prop :=
  ∀ c ∈ rest.head?, isDigit c = false ∧ c ≠ '.' ∧ c ≠ 'e' ∧ c ≠ 'E'

theorem digits_toDigits (n : Nat) {rest : List Char} (h : EndsNumber rest) :
    digits (Nat.toDigits 10 n ++ rest) = (decimalDigits n, rest) := by
  have hall : ∀ c ∈ Nat.toDigits 10 n, isDigit c = true := fun c hc => isDigit_of_mem_toDigits hc
  have hrest : rest.takeWhile isDigit = [] ∧ rest.dropWhile isDigit = rest := by
    cases rest with
    | nil => exact ⟨rfl, rfl⟩
    | cons c rest =>
      have hc : isDigit c = false := (h c rfl).1
      exact ⟨List.takeWhile_cons_of_neg (by simp [hc]), List.dropWhile_cons_of_neg (by simp [hc])⟩
  rw [digits, List.takeWhile_append_of_pos hall, List.dropWhile_append_of_pos hall, hrest.1,
    hrest.2, List.append_nil, decimalDigits]

theorem fraction?_of_ends {rest : List Char} (h : EndsNumber rest) :
    fraction? rest = some (none, rest) := by
  cases rest with
  | nil => rfl
  | cons c rest =>
    have hc : c ≠ '.' := (h c rfl).2.1
    rw [fraction?]
    intro _ hcons
    exact hc (List.cons.inj hcons).1

theorem exponent?_of_ends {rest : List Char} (h : EndsNumber rest) :
    exponent? rest = some (none, rest) := by
  cases rest with
  | nil => rfl
  | cons c rest =>
    have hc : ¬ (c = 'e' || c = 'E') = true := by
      rw [Bool.or_eq_true, decide_eq_true_iff, decide_eq_true_iff]
      exact not_or.mpr (h c rfl).2.2
    simp only [exponent?, if_neg hc]

/-- A written number, read back. -/
theorem numeral_toDigits (n : Nat) {rest : List Char} (h : EndsNumber rest) :
    numeral false (Nat.toDigits 10 n ++ rest) =
      (.number ⟨false, decimalDigits n, none, none⟩, some rest) := by
  have hread : numeral? false (Nat.toDigits 10 n ++ rest) =
      some (⟨false, decimalDigits n, none, none⟩, rest) := by
    unfold numeral?
    rw [digits_toDigits n h]
    obtain ⟨d, ds, hdigits, hzero⟩ := decimalDigits_eq n
    rw [hdigits]
    -- the reader refuses a zero with digits behind it
    match d, ds with
    | 0, [] | _ + 1, [] | _ + 1, _ :: _ =>
      simp only [fraction?_of_ends h, exponent?_of_ends h, Option.bind_some, Option.map_some]
    | 0, e :: es => cases hzero rfl
  rw [numeral, hread]

end Draft

/-! ## What a number stands for -/

namespace Numeral

/-- The number that further digits make of a number. -/
def extend (s : Nat) (ds : List Nat) : Nat :=
  ds.foldl (fun n d => n * 10 + d) s

theorem le_extend (s : Nat) (ds : List Nat) : s ≤ extend s ds := by
  induction ds generalizing s with
  | nil => exact Nat.le_refl s
  | cons d rest ih =>
    have hrest : s * 10 + d ≤ extend (s * 10 + d) rest := ih _
    change s ≤ extend (s * 10 + d) rest
    omega

/-- The digits of a number that fits a significand are all taken. -/
theorem absorb_of_le {s : Nat} {ds : List Nat} (h : extend s ds ≤ maxSignificand) :
    absorb s ds = (extend s ds, []) := by
  induction ds generalizing s with
  | nil => rfl
  | cons d rest ih =>
    have hfits : s * 10 + d ≤ maxSignificand := Nat.le_trans (le_extend _ rest) h
    rw [absorb, if_pos hfits]
    exact ih h

theorem extend_digitValue (s : Nat) (cs : List Char) :
    extend s (cs.map Draft.digitValue) = Nat.ofDigitChars 10 cs s := by
  rw [extend, List.foldl_map, Nat.ofDigitChars]
  congr 1
  funext n c
  rw [Nat.mul_comm]
  rfl

/-- A written number of 64 bits stands for itself. -/
theorem value_decimalDigits {n : Nat} (h : n ≤ maxSignificand) :
    value ⟨false, decimalDigits n, none, none⟩ = some (.natural n) := by
  have hextend : extend 0 (decimalDigits n) = n := by
    rw [decimalDigits, extend_digitValue, Nat.ofDigitChars_toDigits (by decide) (by decide)]
  have habsorb : absorb 0 (decimalDigits n) = (n, []) := by
    rw [absorb_of_le (hextend.symm ▸ h), hextend]
  simp only [value, habsorb]
  rfl

end Numeral

end GroupRoles.Json
