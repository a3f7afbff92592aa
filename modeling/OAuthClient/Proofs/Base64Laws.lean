import OAuthClient.Text.Base64Url

/-! # Laws of base64url

Decoding undoes encoding, so no two byte sequences have the same text. Each
group of four characters is read back to its three bytes, and the padding
completes what a rest of one or two bytes leaves open.
-/

namespace OAuthClient.Text.Base64Url

theorem value?_digit {n : Nat} (h : n < 64) : value? (digit n) = some n := by
  revert n
  decide +kernel

theorem digit_ne_pad {n : Nat} (h : n < 64) : digit n ≠ '=' := by
  intro heq
  have hvalue := value?_digit h
  rw [heq] at hvalue
  cases hvalue

theorem isAscii_digit {n : Nat} (h : n < 64) : (digit n).toNat < 0x80 := by
  revert n
  decide +kernel

theorem ofNat_eq_of_toNat_eq {b : UInt8} {n : Nat} (h : n = b.toNat) : UInt8.ofNat n = b := by
  rw [h, UInt8.ofNat_toNat]

/-- How a character of the alphabet is read, by its place in the group. -/
theorem decodeFrom_digit {n : Nat} (h : n < 64) (group : Group) (rest : List Char) :
    decodeFrom group (digit n :: rest) =
      match group.count with
      | 0 => decodeFrom { count := 1, bits := n } rest
      | 1 =>
          (decodeFrom { count := 2, bits := n % 16 } rest).map
            (UInt8.ofNat (group.bits * 4 + n / 16) :: ·)
      | 2 =>
          (decodeFrom { count := 3, bits := n % 4 } rest).map
            (UInt8.ofNat (group.bits * 16 + n / 4) :: ·)
      | _ => (decodeFrom {} rest).map (UInt8.ofNat (group.bits * 64 + n) :: ·) := by
  obtain ⟨count, bits⟩ := group
  rcases count with _ | _ | _ | count <;>
    simp only [decodeFrom, digit_ne_pad h, if_false, value?_digit h]

/-- A whole group is read to three bytes, and the next one is begun. -/
theorem decodeFrom_group {p q r s : Nat} (hp : p < 64) (hq : q < 64) (hr : r < 64) (hs : s < 64)
    (rest : List Char) :
    decodeFrom {} (digit p :: digit q :: digit r :: digit s :: rest) =
      (decodeFrom {} rest).map fun bytes => UInt8.ofNat (p * 4 + q / 16) ::
        UInt8.ofNat (q % 16 * 16 + r / 4) :: UInt8.ofNat (r % 4 * 64 + s) :: bytes := by
  simp only [decodeFrom_digit hp, decodeFrom_digit hq, decodeFrom_digit hr, decodeFrom_digit hs,
    Option.map_map]
  rfl

/-- Padding goes to the end, after the whole groups. -/
theorem pad_group (p q r s : Char) (rest : List Char) :
    pad (p :: q :: r :: s :: rest) = p :: q :: r :: s :: pad rest := by
  have hlength : (rest.length + 1 + 1 + 1 + 1) % 4 = rest.length % 4 := by omega
  simp only [pad, List.length_cons, hlength, List.cons_append]

theorem decodeFrom_pad_encodeChars (bytes : Bytes) :
    decodeFrom {} (pad (encodeChars bytes)) = some bytes := by
  induction bytes using encodeChars.induct with
  | case1 a b c rest ih =>
      have ha := a.toNat_lt
      have hb := b.toNat_lt
      have hc := c.toNat_lt
      have hbytes : ∀ n, n = a.toNat * 0x10000 + b.toNat * 0x100 + c.toNat →
          n / 0x40000 * 4 + n / 0x1000 % 64 / 16 = a.toNat ∧
          n / 0x1000 % 64 % 16 * 16 + n / 0x40 % 64 / 4 = b.toNat ∧
          n / 0x40 % 64 % 4 * 64 + n % 64 = c.toNat := by omega
      obtain ⟨hfirst, hsecond, hthird⟩ := hbytes _ rfl
      rw [encodeChars, pad_group, decodeFrom_group (by omega) (by omega) (by omega) (by omega), ih,
        ofNat_eq_of_toNat_eq hfirst, ofNat_eq_of_toNat_eq hsecond, ofNat_eq_of_toNat_eq hthird]
      rfl
  | case2 a b =>
      have ha := a.toNat_lt
      have hb := b.toNat_lt
      have hbytes : ∀ n, n = a.toNat * 0x100 + b.toNat →
          n / 0x400 * 4 + n / 0x10 % 64 / 16 = a.toNat ∧
          n / 0x10 % 64 % 16 * 16 + n % 0x10 * 4 / 4 = b.toNat := by omega
      obtain ⟨hfirst, hsecond⟩ := hbytes _ rfl
      rw [encodeChars, show ∀ p q r, pad [p, q, r] = [p, q, r, '='] from fun _ _ _ => rfl]
      simp only [decodeFrom_digit (show (a.toNat * 0x100 + b.toNat) / 0x400 < 64 by omega),
        decodeFrom_digit (show (a.toNat * 0x100 + b.toNat) / 0x10 % 64 < 64 by omega),
        decodeFrom_digit (show (a.toNat * 0x100 + b.toNat) % 0x10 * 4 < 64 by omega),
        ofNat_eq_of_toNat_eq hfirst, ofNat_eq_of_toNat_eq hsecond]
      rfl
  | case3 a =>
      have ha := a.toNat_lt
      have hfirst : a.toNat / 4 * 4 + a.toNat % 4 * 16 / 16 = a.toNat := by omega
      rw [encodeChars, show ∀ p q, pad [p, q] = [p, q, '=', '='] from fun _ _ => rfl]
      simp only [decodeFrom_digit (show a.toNat / 4 < 64 by omega),
        decodeFrom_digit (show a.toNat % 4 * 16 < 64 by omega), ofNat_eq_of_toNat_eq hfirst]
      rfl
  | case4 => rfl

/-- The characters of an encoding are those of the alphabet. -/
theorem exists_digit_of_mem {bytes : Bytes} {c : Char} (h : c ∈ encodeChars bytes) :
    ∃ n < 64, c = digit n := by
  induction bytes using encodeChars.induct with
  | case1 a b d rest ih =>
      have ha := a.toNat_lt
      have hb := b.toNat_lt
      have hd := d.toNat_lt
      simp only [encodeChars, List.mem_cons] at h
      rcases h with rfl | rfl | rfl | rfl | h
      · exact ⟨_, by omega, rfl⟩
      · exact ⟨_, by omega, rfl⟩
      · exact ⟨_, by omega, rfl⟩
      · exact ⟨_, by omega, rfl⟩
      · exact ih h
  | case2 a b =>
      have ha := a.toNat_lt
      have hb := b.toNat_lt
      simp only [encodeChars, List.mem_cons, List.not_mem_nil, or_false] at h
      rcases h with rfl | rfl | rfl <;> exact ⟨_, by omega, rfl⟩
  | case3 a =>
      have ha := a.toNat_lt
      simp only [encodeChars, List.mem_cons, List.not_mem_nil, or_false] at h
      rcases h with rfl | rfl <;> exact ⟨_, by omega, rfl⟩
  | case4 => cases h

theorem isAscii_of_mem_encodeChars {bytes : Bytes} :
    ∀ c ∈ encodeChars bytes, c.toNat < 0x80 := by
  intro c hc
  obtain ⟨n, hn, rfl⟩ := exists_digit_of_mem hc
  exact isAscii_digit hn

/-- Three bytes make four characters, and a rest takes one more than its length. -/
theorem length_encodeChars (bytes : Bytes) :
    (encodeChars bytes).length = (4 * bytes.length + 2) / 3 := by
  induction bytes using encodeChars.induct with
  | case1 a b c rest ih =>
      simp only [encodeChars, List.length_cons, ih]
      omega
  | case2 a b => simp [encodeChars]
  | case3 a => simp [encodeChars]
  | case4 => simp [encodeChars]

theorem decodePadded?_encodeChars (bytes : Bytes) :
    decodePadded? (encodeChars bytes) = some bytes := by
  have hascii : (encodeChars bytes).all (·.toNat < 0x80) = true :=
    List.all_eq_true.mpr fun c hc => decide_eq_true (isAscii_of_mem_encodeChars c hc)
  rw [decodePadded?, if_pos hascii, decodeFrom_pad_encodeChars]

theorem encode_injective {a b : Bytes} (h : encode a = encode b) : a = b := by
  have hchars : encodeChars a = encodeChars b := String.ofList_injective h
  have hdecoded := congrArg decodePadded? hchars
  rw [decodePadded?_encodeChars, decodePadded?_encodeChars] at hdecoded
  exact Option.some.inj hdecoded

/-- Whether a text is one in base64url, without padding. -/
def IsText (text : String) : Prop := ∀ c ∈ text.toList, c.isAlphanum = true ∨ c = '-' ∨ c = '_'

theorem isText_encode (bytes : Bytes) : IsText (encode bytes) := by
  have hdigit : ∀ n < 64, (digit n).isAlphanum = true ∨ digit n = '-' ∨ digit n = '_' := by
    decide +kernel
  intro c hc
  rw [encode, String.toList_ofList] at hc
  obtain ⟨n, hn, rfl⟩ := exists_digit_of_mem hc
  exact hdigit n hn

theorem length_encode (bytes : Bytes) : (encode bytes).length = (4 * bytes.length + 2) / 3 := by
  rw [encode, String.length_ofList, length_encodeChars]

end OAuthClient.Text.Base64Url
