import OAuthClient.Text.Utf8

/-! # Laws of UTF-8

Decoding undoes encoding, so no two texts have the same bytes. One lemma for
each length of a sequence says how it is read.
-/

namespace OAuthClient.Text.Utf8

theorem toNat_ofNat {n : Nat} (h : n < 256) : (UInt8.ofNat n).toNat = n := by
  rw [UInt8.toNat_ofNat', Nat.mod_eq_of_lt h]

/-- The numbers of characters leave the surrogates out. -/
theorem isScalar (c : Char) : c.toNat < 0xd800 ∨ (0xdfff < c.toNat ∧ c.toNat < 0x110000) := c.valid

theorem isContinuation_ofNat {bits : Nat} (h : bits < 0x40) :
    isContinuation (.ofNat (0x80 + bits)) = true := by
  rw [isContinuation, toNat_ofNat (by omega), Bool.and_eq_true, decide_eq_true_eq,
    decide_eq_true_eq]
  omega

theorem payload_ofNat {bits : Nat} (h : bits < 0x40) : payload (.ofNat (0x80 + bits)) = bits := by
  rw [payload, toNat_ofNat (by omega)]
  omega

variable {c : Char} {rest : Bytes}

theorem sequenceAfter_one (h : c.toNat < 0x80) :
    sequenceAfter (.ofNat c.toNat) rest = (some c, 0) := by
  have hlead := toNat_ofNat (n := c.toNat) (by omega)
  unfold sequenceAfter
  dsimp only
  rw [hlead, if_pos h, Char.ofNat_toNat]

theorem sequenceAfter_two (hlow : 0x80 ≤ c.toNat) (hhigh : c.toNat < 0x800) :
    sequenceAfter (.ofNat (0xc0 + c.toNat / 0x40)) (.ofNat (0x80 + c.toNat % 0x40) :: rest) =
      (some c, 1) := by
  have hlead := toNat_ofNat (n := 0xc0 + c.toNat / 0x40) (by omega)
  have hbits : c.toNat % 0x40 < 0x40 := Nat.mod_lt _ (by decide)
  have hnumber : (0xc0 + c.toNat / 0x40 - 0xc0) * 0x40 + c.toNat % 0x40 = c.toNat := by omega
  unfold sequenceAfter
  dsimp only
  rw [hlead, if_neg (by omega), if_neg (by omega), if_pos (by omega),
    if_pos (isContinuation_ofNat hbits), payload_ofNat hbits, hnumber, Char.ofNat_toNat]

/-- The second byte of a sequence of three keeps out of the surrogates and long forms. -/
theorem mayFollow_three (hlow : 0x800 ≤ c.toNat) (hhigh : c.toNat < 0x10000) :
    mayFollow (.ofNat (0xe0 + c.toNat / 0x1000)) (.ofNat (0x80 + c.toNat / 0x40 % 0x40)) =
      true := by
  have hscalar := isScalar c
  have hbits : c.toNat / 0x40 % 0x40 < 0x40 := Nat.mod_lt _ (by decide)
  unfold mayFollow
  dsimp only
  rw [toNat_ofNat (by omega), toNat_ofNat (by omega)]
  simp only [beq_iff_eq]
  -- The first lead byte excludes the long forms, the second one the surrogates.
  split
  · simp only [Bool.and_eq_true, decide_eq_true_eq]
    omega
  · split
    · simp only [Bool.and_eq_true, decide_eq_true_eq]
      omega
    · rw [if_neg (by omega), if_neg (by omega), isContinuation_ofNat hbits]

theorem sequenceAfter_three (hlow : 0x800 ≤ c.toNat) (hhigh : c.toNat < 0x10000) :
    sequenceAfter (.ofNat (0xe0 + c.toNat / 0x1000)) (.ofNat (0x80 + c.toNat / 0x40 % 0x40) ::
      .ofNat (0x80 + c.toNat % 0x40) :: rest) = (some c, 2) := by
  have hlead := toNat_ofNat (n := 0xe0 + c.toNat / 0x1000) (by omega)
  have hmiddle : c.toNat / 0x40 % 0x40 < 0x40 := Nat.mod_lt _ (by decide)
  have hbits : c.toNat % 0x40 < 0x40 := Nat.mod_lt _ (by decide)
  have hnumber : (0xe0 + c.toNat / 0x1000 - 0xe0) * 0x1000 + c.toNat / 0x40 % 0x40 * 0x40 +
      c.toNat % 0x40 = c.toNat := by omega
  unfold sequenceAfter
  dsimp only
  rw [hlead, if_neg (by omega), if_neg (by omega), if_neg (by omega), if_pos (by omega),
    if_pos (mayFollow_three hlow hhigh), if_pos (isContinuation_ofNat hbits),
    payload_ofNat hmiddle, payload_ofNat hbits, hnumber, Char.ofNat_toNat]

/-- The second byte of a sequence of four keeps within the range of characters. -/
theorem mayFollow_four (hlow : 0x10000 ≤ c.toNat) :
    mayFollow (.ofNat (0xf0 + c.toNat / 0x40000)) (.ofNat (0x80 + c.toNat / 0x1000 % 0x40)) =
      true := by
  have hscalar := isScalar c
  have hbits : c.toNat / 0x1000 % 0x40 < 0x40 := Nat.mod_lt _ (by decide)
  unfold mayFollow
  dsimp only
  rw [toNat_ofNat (by omega), toNat_ofNat (by omega)]
  simp only [beq_iff_eq]
  rw [if_neg (by omega), if_neg (by omega)]
  split
  · simp only [Bool.and_eq_true, decide_eq_true_eq]
    omega
  · split
    · simp only [Bool.and_eq_true, decide_eq_true_eq]
      omega
    · exact isContinuation_ofNat hbits

theorem sequenceAfter_four (hlow : 0x10000 ≤ c.toNat) :
    sequenceAfter (.ofNat (0xf0 + c.toNat / 0x40000)) (.ofNat (0x80 + c.toNat / 0x1000 % 0x40) ::
      .ofNat (0x80 + c.toNat / 0x40 % 0x40) :: .ofNat (0x80 + c.toNat % 0x40) :: rest) =
      (some c, 3) := by
  have hscalar := isScalar c
  have hlead := toNat_ofNat (n := 0xf0 + c.toNat / 0x40000) (by omega)
  have hsecond : c.toNat / 0x1000 % 0x40 < 0x40 := Nat.mod_lt _ (by decide)
  have hthird : c.toNat / 0x40 % 0x40 < 0x40 := Nat.mod_lt _ (by decide)
  have hbits : c.toNat % 0x40 < 0x40 := Nat.mod_lt _ (by decide)
  have hnumber : (0xf0 + c.toNat / 0x40000 - 0xf0) * 0x40000 + c.toNat / 0x1000 % 0x40 * 0x1000 +
      c.toNat / 0x40 % 0x40 * 0x40 + c.toNat % 0x40 = c.toNat := by omega
  unfold sequenceAfter
  dsimp only
  rw [hlead, if_neg (by omega), if_neg (by omega), if_neg (by omega), if_neg (by omega),
    if_pos (by omega), if_pos (mayFollow_four hlow), if_pos (isContinuation_ofNat hthird),
    if_pos (isContinuation_ofNat hbits), payload_ofNat hsecond, payload_ofNat hthird,
    payload_ofNat hbits, hnumber, Char.ofNat_toNat]

/-- The bytes of a character are read as that character, whatever follows them. -/
theorem exists_sequence (c : Char) (rest : Bytes) : ∃ lead tail,
    encodeChar c = lead :: tail ∧ sequenceAfter lead (tail ++ rest) = (some c, tail.length) := by
  unfold encodeChar
  dsimp only
  split
  next hone => exact ⟨_, _, rfl, sequenceAfter_one hone⟩
  next hone =>
    split
    next htwo => exact ⟨_, _, rfl, sequenceAfter_two (by omega) htwo⟩
    next htwo =>
      split
      next hthree => exact ⟨_, _, rfl, sequenceAfter_three (by omega) hthree⟩
      next hthree => exact ⟨_, _, rfl, sequenceAfter_four (by omega)⟩

theorem decode?_encode (text : List Char) : decode? (encode text) = some text := by
  induction text with
  | nil => simp [encode, decode?]
  | cons c text ih =>
      obtain ⟨lead, tail, hbytes, hread⟩ := exists_sequence c (encode text)
      rw [show encode (c :: text) = encodeChar c ++ encode text from rfl, hbytes, List.cons_append,
        decode?, hread]
      dsimp only
      rw [List.drop_left, ih]
      rfl

theorem decodeLossy_encode (text : List Char) : decodeLossy (encode text) = text :=
  decodeLossy_eq_of_decode? (decode?_encode text)

end OAuthClient.Text.Utf8
