import Mathlib.Algebra.Order.Floor.Div
import OAuthClient.Proofs.ProofKeys
import OAuthClient.Proofs.SignedAssertions

/-! # Unpadded forms

Base64url writes three bytes as four characters and pads what a short last group
leaves. Nothing is lost with the padding: the length of the rest tells how much
of it there was, and the bytes are read back. The verifier and the challenge of a
proof key, the keys of the token cache and the thumbprints in assertions are all
such forms, and the parts of ID tokens are read as such.
-/

namespace OAuthClient

namespace Text.Base64Url

/-! ### The padded form -/

/-- The characters in the order of their values. -/
def alphabet : List Char :=
  "ABCDEFGHIJKLMNOPQRSTUVWXYZabcdefghijklmnopqrstuvwxyz0123456789-_".toList

/-- The four characters of a group of one to three bytes. A short group is filled with zero bits,
and characters of which no bit belongs to a byte give way to padding. -/
def encodeGroup (bytes : Bytes) : List Char :=
  let byte (i : Nat) := (bytes.getD i 0).toNat
  let n := byte 0 * 0x10000 + byte 1 * 0x100 + byte 2
  let values := [n / 0x40000, n / 0x1000 % 64, n / 0x40 % 64, n % 64]
  (values.map (alphabet.getD · '=')).take (bytes.length + 1) ++
    List.replicate (3 - bytes.length) '='

/-- The padded form of a byte sequence. -/
def encodePadded : Bytes → List Char
  | a :: b :: c :: rest => encodeGroup [a, b, c] ++ encodePadded rest
  | [] => []
  | rest => encodeGroup rest

theorem getD_alphabet {n : Nat} (h : n < 64) : alphabet.getD n '=' = digit n := by
  revert n
  decide +kernel

theorem encodeGroup_eq (bytes : Bytes) :
    encodeGroup bytes =
      let byte (i : Nat) := (bytes.getD i 0).toNat
      let n := byte 0 * 0x10000 + byte 1 * 0x100 + byte 2
      [digit (n / 0x40000), digit (n / 0x1000 % 64), digit (n / 0x40 % 64), digit (n % 64)].take
          (bytes.length + 1) ++ List.replicate (3 - bytes.length) '=' := by
  have hfirst := (bytes.getD 0 0).toNat_lt
  have hsecond := (bytes.getD 1 0).toNat_lt
  have hthird := (bytes.getD 2 0).toNat_lt
  unfold encodeGroup
  simp only [List.map_cons, List.map_nil]
  rw [getD_alphabet (by omega), getD_alphabet (by omega), getD_alphabet (by omega),
    getD_alphabet (by omega)]

theorem encodePadded_eq_pad (bytes : Bytes) : encodePadded bytes = pad (encodeChars bytes) := by
  -- A short group, filled up with zero bits, holds the same values as its own bits.
  induction bytes using encodeChars.induct with
  | case1 a b c rest ih =>
      rw [encodePadded, encodeGroup_eq, encodeChars, pad_group, ih]
      rfl
  | case2 a b =>
      have ha := a.toNat_lt
      have hb := b.toNat_lt
      have hvalues : ∀ n m, n = a.toNat * 0x10000 + b.toNat * 0x100 + 0 →
          m = a.toNat * 0x100 + b.toNat →
          n / 0x40000 = m / 0x400 ∧ n / 0x1000 % 64 = m / 0x10 % 64 ∧
          n / 0x40 % 64 = m % 0x10 * 4 := by omega
      obtain ⟨hfirst, hsecond, hthird⟩ := hvalues _ _ rfl rfl
      change encodeGroup [a, b] = _
      rw [encodeGroup_eq, encodeChars, ← hfirst, ← hsecond, ← hthird]
      rfl
  | case3 a =>
      have ha := a.toNat_lt
      have hvalues : ∀ n, n = a.toNat * 0x10000 + 0 * 0x100 + 0 →
          n / 0x40000 = a.toNat / 4 ∧ n / 0x1000 % 64 = a.toNat % 4 * 16 := by omega
      obtain ⟨hfirst, hsecond⟩ := hvalues _ rfl
      change encodeGroup [a] = _
      rw [encodeGroup_eq, encodeChars, ← hfirst, ← hsecond]
      rfl
  | case4 => rfl

example : encodePadded [0xfb, 0xff] = ['-', '_', '8', '='] := by decide +kernel

/-- Of the padded form, the padding alone is dropped: no character of a byte is taken for it. -/
theorem rdropWhile_encodePadded (bytes : Bytes) :
    (encodePadded bytes).rdropWhile (· == '=') = encodeChars bytes := by
  rw [encodePadded_eq_pad, pad, rdropWhile_append_of_cut fun _ => beq_of_mem_replicate,
    List.rdropWhile_eq_self_iff]
  intro hne hlast
  obtain ⟨n, hn, hdigit⟩ := exists_digit_of_mem (List.getLast_mem hne)
  exact digit_ne_pad hn (hdigit.symm.trans (eq_of_beq hlast))

/-! ### The unpadded form -/

/-- What makes a text the unpadded form of a byte sequence: it is the padded form without the
padding, which its length tells, and the bytes are read back from it. -/
structure IsUnpaddedForm (text : String) (bytes : Bytes) : Prop where
  length : text.length = 4 * bytes.length ⌈/⌉ 3
  isText : IsText text
  stripped : text.toList = (encodePadded bytes).rdropWhile (· == '=')
  padded : pad text.toList = encodePadded bytes
  decoded : decodePadded? text.toList = some bytes

theorem isUnpaddedForm_encode (bytes : Bytes) : IsUnpaddedForm (encode bytes) bytes where
  length := by
    rw [length_encode, Nat.ceilDiv_eq_add_pred_div]
    rfl
  isText := isText_encode bytes
  stripped := by rw [encode, String.toList_ofList, rdropWhile_encodePadded]
  padded := by rw [encode, String.toList_ofList, encodePadded_eq_pad]
  decoded := by rw [encode, String.toList_ofList, decodePadded?_encodeChars]

end Text.Base64Url

section Uses

open Text.Base64Url

/-- Every byte sequence has an unpadded form of its own, from which it is read back. Proof keys,
keys of the token cache and thumbprints have these forms, and the parts of ID tokens are read from
them. -/
theorem unpadded_forms_read_back :
    (∀ bytes, IsUnpaddedForm (encode bytes) bytes) ∧
      Function.Injective encode ∧
      (∀ world, ∃ verifier challenge,
        (ProofKey.newPair.perform world).1 = .ok (verifier, challenge) ∧
          IsUnpaddedForm verifier (world.entropy.take 32).1 ∧
          IsUnpaddedForm challenge (Digest.Sha256.digest (Text.Utf8.ofString verifier))) ∧
      (∀ config : AppConfig,
        IsUnpaddedForm config.cacheId (Text.Utf8.ofString config.cacheName)) ∧
      (∀ signer : Signer,
        IsUnpaddedForm signer.encodedThumbprint signer.certificate.thumbprint) ∧
      ∀ text value, IdToken.decodePart (encode (Text.Utf8.ofString text)).toList = .ok value ↔
        Json.parse text = .ok value := by
  refine ⟨isUnpaddedForm_encode, fun _ _ => encode_injective, fun world => ?_,
    fun _ => isUnpaddedForm_encode _, fun _ => isUnpaddedForm_encode _,
    IdToken.decodePart_encode_iff⟩
  refine ⟨ProofKey.verifierOf world.entropy, _, ?_, isUnpaddedForm_encode _,
    isUnpaddedForm_encode _⟩
  rw [ProofKey.newPair_perform]
  rfl

end Uses

end OAuthClient
