import GroupRoles.Text.Utf8

/-!
# Reading back the bytes of a text

Every character is read back from its own bytes, whatever follows them (`decode_encodeChar`), so a
strict reader reads every text back (`strict?_encodeChars`).
-/

namespace GroupRoles.Text.Utf8

/-! ## Lead bytes -/

theorem follow_of_two {a : UInt8} (h : 0xc2 ≤ a.toNat) (h' : a.toNat ≤ 0xdf) :
    follow a = some (1, 0x80, 0xbf) := by
  have hlead : 0xc2 ≤ a ∧ a ≤ 0xdf := ⟨UInt8.le_iff_toNat_le.mpr h, UInt8.le_iff_toNat_le.mpr h'⟩
  simp [follow, hlead]

/-- The bytes that lead three; some of them allow fewer second bytes. -/
theorem exists_follow_of_three {a b : UInt8} (h : 0xe0 ≤ a.toNat) (h' : a.toNat ≤ 0xef)
    (hb : 0x80 ≤ b.toNat) (hb' : b.toNat ≤ 0xbf) (he0 : a.toNat = 0xe0 → 0xa0 ≤ b.toNat)
    (hed : a.toNat = 0xed → b.toNat ≤ 0x9f) :
    ∃ lo hi, follow a = some (2, lo, hi) ∧ lo ≤ b ∧ b ≤ hi := by
  simp only [UInt8.le_iff_toNat_le]
  by_cases ha : a = 0xe0
  · subst ha
    exact ⟨0xa0, 0xbf, by decide, he0 rfl, hb'⟩
  by_cases ha' : a = 0xed
  · subst ha'
    exact ⟨0x80, 0x9f, by decide, hb, hed rfl⟩
  · have hne : a.toNat ≠ 0xe0 := fun heq => ha (UInt8.toNat_inj.mp heq)
    have hnot : ¬ a ≤ 0xdf := by
      rw [UInt8.le_iff_toNat_le]
      exact Nat.not_le.mpr (by omega : 0xdf < a.toNat)
    have hrange : 0xe1 ≤ a ∧ a ≤ 0xef :=
      ⟨UInt8.le_iff_toNat_le.mpr (by omega : 0xe1 ≤ a.toNat), UInt8.le_iff_toNat_le.mpr h'⟩
    exact ⟨0x80, 0xbf, by simp [follow, hnot, ha, ha', hrange], hb, hb'⟩

/-- The bytes that lead four; the first and the last allow fewer second bytes. -/
theorem exists_follow_of_four {a b : UInt8} (h : 0xf0 ≤ a.toNat) (h' : a.toNat ≤ 0xf4)
    (hb : 0x80 ≤ b.toNat) (hb' : b.toNat ≤ 0xbf) (hf0 : a.toNat = 0xf0 → 0x90 ≤ b.toNat)
    (hf4 : a.toNat = 0xf4 → b.toNat ≤ 0x8f) :
    ∃ lo hi, follow a = some (3, lo, hi) ∧ lo ≤ b ∧ b ≤ hi := by
  simp only [UInt8.le_iff_toNat_le]
  by_cases ha : a = 0xf0
  · subst ha
    exact ⟨0x90, 0xbf, by decide, hf0 rfl, hb'⟩
  by_cases ha' : a = 0xf4
  · subst ha'
    exact ⟨0x80, 0x8f, by decide, hb, hf4 rfl⟩
  · have hne : a.toNat ≠ 0xf0 := fun heq => ha (UInt8.toNat_inj.mp heq)
    have hne' : a.toNat ≠ 0xf4 := fun heq => ha' (UInt8.toNat_inj.mp heq)
    have hnot : ¬ a ≤ 0xdf := by
      rw [UInt8.le_iff_toNat_le]
      exact Nat.not_le.mpr (by omega : 0xdf < a.toNat)
    have hnot' : ¬ a ≤ 0xef := by
      rw [UInt8.le_iff_toNat_le]
      exact Nat.not_le.mpr (by omega : 0xef < a.toNat)
    have he0 : a ≠ 0xe0 := fun heq => by rw [heq] at h; exact absurd h (by decide)
    have hed : a ≠ 0xed := fun heq => by rw [heq] at h; exact absurd h (by decide)
    have hrange : 0xf1 ≤ a ∧ a ≤ 0xf3 :=
      ⟨UInt8.le_iff_toNat_le.mpr (by omega : 0xf1 ≤ a.toNat),
        UInt8.le_iff_toNat_le.mpr (by omega : a.toNat ≤ 0xf3)⟩
    exact ⟨0x80, 0xbf, by simp [follow, hnot, hnot', he0, hed, ha, hrange], hb, hb'⟩

/-! ## Bytes that carry bits -/

theorem toNat_ofNat {n : Nat} (h : n < 256) : (UInt8.ofNat n).toNat = n :=
  UInt8.toNat_ofNat_of_lt' h

theorem isTail_ofNat {n : Nat} (h : n < 64) : isTail (UInt8.ofNat (n + 128)) = true := by
  have hn : (UInt8.ofNat (n + 128)).toNat = n + 128 := toNat_ofNat (by omega)
  have hrange : 0x80 ≤ UInt8.ofNat (n + 128) ∧ UInt8.ofNat (n + 128) ≤ 0xbf := by
    rw [UInt8.le_iff_toNat_le, UInt8.le_iff_toNat_le, hn]
    exact ⟨Nat.le_add_left 128 n, (by omega : n + 128 ≤ 191)⟩
  rw [isTail, Bool.and_eq_true, decide_eq_true_iff, decide_eq_true_iff]
  exact hrange

theorem payload_ofNat {n : Nat} (h : n < 64) : payload (UInt8.ofNat (n + 128)) = n := by
  rw [payload, toNat_ofNat (by omega)]
  omega

/-- A lead byte is not the byte of a character of its own. -/
theorem not_lt_of_le_toNat {a : UInt8} (h : 128 ≤ a.toNat) : ¬ a < 0x80 := by
  rw [UInt8.lt_iff_toNat_lt]
  exact Nat.not_lt.mpr h

theorem decode_one {v : Nat} (h : v < 128) (rest : List UInt8) :
    decode (UInt8.ofNat v :: rest) = some (Char.ofNat v) :: decode rest := by
  have hv : (UInt8.ofNat v).toNat = v := toNat_ofNat (by omega)
  have hlt : UInt8.ofNat v < 0x80 := by
    rw [UInt8.lt_iff_toNat_lt, hv]
    exact h
  rw [decode, if_pos hlt, hv]

theorem decode_two {x y : Nat} (hx : 2 ≤ x) (hx' : x < 32) (hy : y < 64) (rest : List UInt8) :
    decode (UInt8.ofNat (x + 192) :: UInt8.ofNat (y + 128) :: rest) =
      some (Char.ofNat (x * 64 + y)) :: decode rest := by
  have ha : (UInt8.ofNat (x + 192)).toNat = x + 192 := toNat_ofNat (by omega)
  have hfollow : follow (UInt8.ofNat (x + 192)) = some (1, 0x80, 0xbf) :=
    follow_of_two (by omega) (by omega)
  have htail : isTail (UInt8.ofNat (y + 128)) = true := isTail_ofNat hy
  unfold isTail at htail
  rw [decode, if_neg (not_lt_of_le_toNat (by omega)), hfollow]
  simp only [htail, Bool.not_true, Bool.false_eq_true, if_false, beq_self_eq_true, if_true]
  rw [ha, payload_ofNat hy, (by omega : (x + 192) % 32 = x)]

theorem decode_three {x y z : Nat} (hx : x < 16) (hy : y < 64) (hz : z < 64)
    (hlow : x = 0 → 32 ≤ y) (hhigh : x = 13 → y < 32) (rest : List UInt8) :
    decode (UInt8.ofNat (x + 224) :: UInt8.ofNat (y + 128) :: UInt8.ofNat (z + 128) :: rest) =
      some (Char.ofNat ((x * 64 + y) * 64 + z)) :: decode rest := by
  have ha : (UInt8.ofNat (x + 224)).toNat = x + 224 := toNat_ofNat (by omega)
  have hb : (UInt8.ofNat (y + 128)).toNat = y + 128 := toNat_ofNat (by omega)
  obtain ⟨lo, hi, hfollow, hlo, hhi⟩ :=
    exists_follow_of_three (a := UInt8.ofNat (x + 224)) (b := UInt8.ofNat (y + 128)) (by omega)
      (by omega) (by omega) (by omega) (by omega) (by omega)
  rw [decode, if_neg (not_lt_of_le_toNat (by omega)), hfollow]
  simp only [hlo, hhi, decide_true, Bool.and_self, Bool.not_true, Bool.false_eq_true, if_false,
    isTail_ofNat hz, Nat.reduceBEq, beq_self_eq_true, if_true]
  rw [ha, payload_ofNat hy, payload_ofNat hz, (by omega : (x + 224) % 16 = x)]

theorem decode_four {w x y z : Nat} (hw : w ≤ 4) (hx : x < 64) (hy : y < 64) (hz : z < 64)
    (hlow : w = 0 → 16 ≤ x) (hhigh : w = 4 → x < 16) (rest : List UInt8) :
    decode (UInt8.ofNat (w + 240) :: UInt8.ofNat (x + 128) :: UInt8.ofNat (y + 128) ::
        UInt8.ofNat (z + 128) :: rest) =
      some (Char.ofNat (((w * 64 + x) * 64 + y) * 64 + z)) :: decode rest := by
  have ha : (UInt8.ofNat (w + 240)).toNat = w + 240 := toNat_ofNat (by omega)
  have hb : (UInt8.ofNat (x + 128)).toNat = x + 128 := toNat_ofNat (by omega)
  obtain ⟨lo, hi, hfollow, hlo, hhi⟩ :=
    exists_follow_of_four (a := UInt8.ofNat (w + 240)) (b := UInt8.ofNat (x + 128)) (by omega)
      (by omega) (by omega) (by omega) (by omega) (by omega)
  rw [decode, if_neg (not_lt_of_le_toNat (by omega)), hfollow]
  simp only [hlo, hhi, decide_true, Bool.and_self, Bool.not_true, Bool.false_eq_true, if_false,
    isTail_ofNat hy, isTail_ofNat hz, Nat.reduceBEq]
  rw [ha, payload_ofNat hx, payload_ofNat hy, payload_ofNat hz, (by omega : (w + 240) % 8 = w)]

/-! ## Characters and texts -/

/-- A character is read back from its bytes, whatever follows them. -/
theorem decode_encodeChar (c : Char) (rest : List UInt8) :
    decode (String.utf8EncodeChar c ++ rest) = some c :: decode rest := by
  have hvalid : c.toNat < 0xd800 ∨ 0xdfff < c.toNat ∧ c.toNat < 0x110000 := c.valid
  have hread : ∀ {v}, v = c.toNat → some (Char.ofNat v) = some c := by
    rintro _ rfl
    rw [Char.ofNat_toNat]
  by_cases h1 : c.toNat ≤ 127
  · have hbytes : String.utf8EncodeChar c = [UInt8.ofNat c.toNat] := if_pos h1
    rw [hbytes, List.singleton_append, decode_one (by omega), hread rfl]
  by_cases h2 : c.toNat ≤ 2047
  · have hbytes : String.utf8EncodeChar c =
        [UInt8.ofNat (c.toNat / 64 % 32 + 192), UInt8.ofNat (c.toNat % 64 + 128)] :=
      (if_neg h1).trans (if_pos h2)
    rw [hbytes]
    exact (decode_two (by omega) (by omega) (by omega) rest).trans
      (congrArg (· :: decode rest) (hread (by omega)))
  by_cases h3 : c.toNat ≤ 65535
  · have hbytes : String.utf8EncodeChar c =
        [UInt8.ofNat (c.toNat / 4096 % 16 + 224), UInt8.ofNat (c.toNat / 64 % 64 + 128),
          UInt8.ofNat (c.toNat % 64 + 128)] :=
      (if_neg h1).trans ((if_neg h2).trans (if_pos h3))
    rw [hbytes]
    exact (decode_three (by omega) (by omega) (by omega) (by omega) (by omega) rest).trans
      (congrArg (· :: decode rest) (hread (by omega)))
  · have hbytes : String.utf8EncodeChar c =
        [UInt8.ofNat (c.toNat / 262144 % 8 + 240), UInt8.ofNat (c.toNat / 4096 % 64 + 128),
          UInt8.ofNat (c.toNat / 64 % 64 + 128), UInt8.ofNat (c.toNat % 64 + 128)] :=
      (if_neg h1).trans ((if_neg h2).trans (if_neg h3))
    rw [hbytes]
    exact (decode_four (by omega) (by omega) (by omega) (by omega) (by omega) (by omega) rest).trans
      (congrArg (· :: decode rest) (hread (by omega)))

theorem decode_encodeChars (cs : List Char) :
    decode (cs.flatMap String.utf8EncodeChar) = cs.map some := by
  induction cs with
  | nil => rfl
  | cons c rest ih => rw [List.flatMap_cons, decode_encodeChar, ih, List.map_cons]

/-- The bytes of characters are read back as their text. -/
theorem strict?_encodeChars (cs : List Char) :
    strict? (cs.flatMap String.utf8EncodeChar) = some (String.ofList cs) := by
  have hall : (cs.map some).mapM id = some cs := by
    induction cs with
    | nil => rfl
    | cons c rest ih => simp [ih]
  rw [strict?, decode_encodeChars, hall, Option.map_some]

end GroupRoles.Text.Utf8
