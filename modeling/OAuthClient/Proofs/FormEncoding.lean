import Mathlib.Data.List.DropRight
import OAuthClient.Proofs.Utf8Laws
import OAuthClient.Text.Form

/-! # Laws of form encoding

Decoding undoes the percent encoding of a text and the form encoding of a list
of named values. Encoded texts hold no separator, so the joined list falls apart
where it was joined.
-/

namespace OAuthClient.Text

section Splitting

variable {cut : Char → Bool} {piece rest : List Char} {mark : Char}

theorem splitOn_of_not_cut (hpiece : ∀ c ∈ piece, cut c = false) : splitOn cut piece = [piece] := by
  induction piece with
  | nil => rfl
  | cons c piece ih =>
      rw [splitOn, if_neg (by simp [hpiece c List.mem_cons_self]),
        ih fun d hd => hpiece d (List.mem_cons_of_mem _ hd)]

theorem splitOn_append_cons (text : List Char) (hmark : cut mark = true) :
    splitOn cut (text ++ mark :: rest) = splitOn cut text ++ splitOn cut rest := by
  induction text with
  | nil =>
      change splitOn cut (mark :: rest) = [] :: splitOn cut rest
      rw [splitOn, if_pos hmark]
  | cons c text ih =>
      rw [List.cons_append, splitOn, splitOn, ih]
      split
      · rfl
      · cases hpieces : splitOn cut text with
        | nil => exact absurd hpieces (splitOn_ne_nil cut text)
        | cons first pieces => rfl

/-- A joined text is cut where it was joined and within the texts that were joined. -/
theorem splitOn_intercalate {texts : List (List Char)} (hne : texts ≠ [])
    (hmark : cut mark = true) :
    splitOn cut ([mark].intercalate texts) = texts.flatMap (splitOn cut) := by
  induction texts with
  | nil => exact absurd rfl hne
  | cons first texts ih =>
      cases texts with
      | nil => rw [List.intercalate_singleton, List.flatMap_cons, List.flatMap_nil, List.append_nil]
      | cons second texts =>
          rw [List.intercalate_cons_cons, List.append_assoc, List.singleton_append,
            splitOn_append_cons first hmark, ih (List.cons_ne_nil _ _), ← List.flatMap_cons]

theorem flatMap_splitOn_of_not_cut {pieces : List (List Char)}
    (hpieces : ∀ piece ∈ pieces, ∀ c ∈ piece, cut c = false) :
    pieces.flatMap (splitOn cut) = pieces := by
  induction pieces with
  | nil => rfl
  | cons first pieces ih =>
      rw [List.flatMap_cons, splitOn_of_not_cut (hpieces first List.mem_cons_self),
        ih fun piece hpiece => hpieces piece (List.mem_cons_of_mem _ hpiece)]
      rfl

theorem cutFirst_append_cons (hpiece : ∀ c ∈ piece, cut c = false) (hmark : cut mark = true) :
    cutFirst cut (piece ++ mark :: rest) = some (piece, rest) := by
  induction piece with
  | nil => rw [List.nil_append, cutFirst, if_pos hmark]
  | cons c piece ih =>
      rw [List.cons_append, cutFirst, if_neg (by simp [hpiece c List.mem_cons_self]),
        ih fun d hd => hpiece d (List.mem_cons_of_mem _ hd)]
      rfl

theorem beq_of_mem_replicate {c : Char} {count : Nat} (h : c ∈ List.replicate count mark) :
    (c == mark) = true := by
  rw [List.eq_of_mem_replicate h, beq_self_eq_true]

theorem rdropWhile_append_of_cut (hrest : ∀ c ∈ rest, cut c = true) :
    (piece ++ rest).rdropWhile cut = piece.rdropWhile cut := by
  have hreverse : ∀ c ∈ rest.reverse, cut c = true := fun c hc => hrest c (List.mem_reverse.mp hc)
  rw [List.rdropWhile, List.reverse_append, List.dropWhile_append_of_pos hreverse, List.rdropWhile]

end Splitting

namespace Percent

theorem isAscii_of_isUnreserved {c : Char} (h : isUnreserved c = true) : isAscii c = true := by
  rw [isAscii, decide_eq_true_eq]
  simp only [isUnreserved, isAsciiDigit, Bool.or_eq_true, Bool.and_eq_true, decide_eq_true_eq,
    beq_iff_eq, Char.le_def, UInt32.le_iff_toNat_le] at h
  rcases h with ((((((⟨_, hz⟩ | ⟨_, hz⟩) | ⟨_, hnine⟩) | rfl) | rfl) | rfl) | rfl)
  · exact Nat.lt_of_le_of_lt hz (by decide)
  · exact Nat.lt_of_le_of_lt hz (by decide)
  · omega
  all_goals decide

theorem bytesOf_cons_of_ne {c : Char} (hc : c ≠ '%') (rest : List Char) :
    bytesOf (c :: rest) = UInt8.ofNat c.toNat :: bytesOf rest := by
  rw [bytesOf]
  intro high low tail heq
  exact absurd heq hc

theorem bytesOf_encodeByte (b : UInt8) (rest : List Char) :
    bytesOf (encodeByte b ++ rest) = b :: bytesOf rest := by
  have hbound : b.toNat < 256 := b.toNat_lt
  have hhigh := hexValue?_hexDigitUpper (b.toNat / 16) (by omega)
  have hlow := hexValue?_hexDigitUpper (b.toNat % 16) (by omega)
  have hnumber : b.toNat / 16 * 16 + b.toNat % 16 = b.toNat := by omega
  change bytesOf ('%' :: hexDigitUpper (b.toNat / 16) :: hexDigitUpper (b.toNat % 16) :: rest) = _
  rw [bytesOf, hhigh, hlow]
  dsimp only
  rw [hnumber, UInt8.ofNat_toNat]

theorem bytesOf_flatMap_encodeByte (bytes : Bytes) (rest : List Char) :
    bytesOf (bytes.flatMap encodeByte ++ rest) = bytes ++ bytesOf rest := by
  induction bytes with
  | nil => rfl
  | cons b bytes ih =>
      rw [List.flatMap_cons, List.append_assoc, bytesOf_encodeByte, ih, List.cons_append]

variable {safe : Char → Bool} {text : List Char}

/-- The characters of an encoding. -/
theorem mem_encode {d : Char} (h : d ∈ encode safe text) :
    safe d = true ∨ d = '%' ∨ ∃ n < 16, d = hexDigitUpper n := by
  obtain ⟨c, hc, hd⟩ := List.mem_flatMap.mp h
  unfold encodeChar at hd
  split at hd
  next hsafe =>
    rw [List.mem_singleton.mp hd]
    exact .inl hsafe
  next =>
    obtain ⟨b, hb, hd⟩ := List.mem_flatMap.mp hd
    have hbound : b.toNat < 256 := b.toNat_lt
    simp only [encodeByte, List.mem_cons, List.not_mem_nil, or_false] at hd
    rcases hd with rfl | rfl | rfl
    · exact .inr (.inl rfl)
    · exact .inr (.inr ⟨_, by omega, rfl⟩)
    · exact .inr (.inr ⟨_, by omega, rfl⟩)

theorem isAscii_hexDigitUpper : ∀ n < 16, isAscii (hexDigitUpper n) = true := by decide

theorem isAscii_of_mem_encode (hsafe : ∀ c, safe c = true → isAscii c = true) {d : Char}
    (h : d ∈ encode safe text) : isAscii d = true := by
  rcases mem_encode h with hd | rfl | ⟨n, hn, rfl⟩
  · exact hsafe d hd
  · decide
  · exact isAscii_hexDigitUpper n hn

/-- The bytes of an encoding are those of the text, whatever follows it. -/
theorem bytesOf_encode_append (hsafe : ∀ c, safe c = true → isAscii c = true ∧ c ≠ '%')
    (text rest : List Char) :
    bytesOf (encode safe text ++ rest) = Utf8.encode text ++ bytesOf rest := by
  induction text with
  | nil => rfl
  | cons c text ih =>
      change bytesOf ((encodeChar safe c ++ encode safe text) ++ rest) =
        (Utf8.encodeChar c ++ Utf8.encode text) ++ bytesOf rest
      rw [List.append_assoc, List.append_assoc, encodeChar]
      split
      next hc =>
        obtain ⟨hascii, hne⟩ := hsafe c hc
        rw [isAscii, decide_eq_true_eq] at hascii
        rw [List.singleton_append, bytesOf_cons_of_ne hne, ih, Utf8.encodeChar, if_pos hascii]
        rfl
      next => rw [bytesOf_flatMap_encodeByte, ih]

theorem bytesOf_encode (hsafe : ∀ c, safe c = true → isAscii c = true ∧ c ≠ '%')
    (text : List Char) : bytesOf (encode safe text) = Utf8.encode text := by
  have hbytes := bytesOf_encode_append hsafe text []
  rwa [List.append_nil, bytesOf, List.append_nil] at hbytes

/-- A text within ASCII is decoded as one run. -/
theorem decode_of_isAscii (h : ∀ c ∈ text, isAscii c = true) :
    decode text = Utf8.decodeLossy (bytesOf text) := by
  cases text with
  | nil => simp [decode, bytesOf, Utf8.decodeLossy]
  | cons c rest =>
      have hrest : ∀ d ∈ rest, isAscii d = true := fun d hd => h d (List.mem_cons_of_mem _ hd)
      have htake := @List.takeWhile_append_of_pos _ isAscii rest [] hrest
      have hdrop := @List.dropWhile_append_of_pos _ isAscii rest [] hrest
      rw [List.append_nil, List.takeWhile_nil, List.append_nil] at htake
      rw [List.append_nil, List.dropWhile_nil] at hdrop
      rw [decode, if_pos (h c List.mem_cons_self), htake, hdrop, decode, List.append_nil]

theorem decode_encode (hsafe : ∀ c, safe c = true → isAscii c = true ∧ c ≠ '%')
    (text : List Char) : decode (encode safe text) = text := by
  rw [decode_of_isAscii fun c hc => isAscii_of_mem_encode (fun d hd => (hsafe d hd).1) hc,
    bytesOf_encode hsafe, Utf8.decodeLossy_encode]

end Percent

namespace Form

/-- The characters that form encoding keeps, where the space is still to become a plus sign. -/
def isKept (c : Char) : Bool := Percent.isUnreserved c || c == ' '

theorem isAscii_of_isKept {c : Char} (h : isKept c = true) :
    Percent.isAscii c = true ∧ c ≠ '%' := by
  rw [isKept, Bool.or_eq_true, beq_iff_eq] at h
  rcases h with h | rfl
  · refine ⟨Percent.isAscii_of_isUnreserved h, ?_⟩
    rintro rfl
    exact absurd h (by decide)
  · decide

/-- Every character of an encoding is kept or is the percent sign. -/
theorem not_mem_encode {c : Char} (hkept : isKept c = false) (hpercent : c ≠ '%')
    (text : List Char) : c ∉ Percent.encode isKept text := by
  have hdigits : ∀ n < 16, isKept (hexDigitUpper n) = true := by decide
  intro h
  rcases Percent.mem_encode h with hsafe | rfl | ⟨n, hn, rfl⟩
  · rw [hkept] at hsafe
    cases hsafe
  · exact hpercent rfl
  · have hdigit := hdigits n hn
    rw [hkept] at hdigit
    cases hdigit

theorem decodeComponent_encodeComponent (text : List Char) :
    decodeComponent (encodeComponent text) = text := by
  -- No plus sign is kept, so every plus sign of an encoding stands for a space.
  have hplus := @not_mem_encode '+' (by decide) (by decide) text
  have hback : ∀ c ∈ Percent.encode isKept text,
      (if (if c == ' ' then '+' else c) == '+' then ' ' else if c == ' ' then '+' else c) = c := by
    intro c hc
    have hne : c ≠ '+' := fun h => hplus (h ▸ hc)
    by_cases hspace : c = ' '
    · rw [hspace]
      rfl
    · simp [hspace, hne]
  have hmap := (List.map_congr_left hback).trans (List.map_id' _)
  rw [decodeComponent, encodeComponent, List.map_map]
  change Percent.decode ((Percent.encode isKept text).map _) = text
  refine (congrArg Percent.decode hmap).trans ?_
  exact Percent.decode_encode (fun c hc => isAscii_of_isKept hc) text

theorem not_mem_encodeComponent {c : Char} (hkept : isKept c = false) (hmark : c ∉ ['%', '+'])
    (text : List Char) : c ∉ encodeComponent text := by
  simp only [List.mem_cons, List.not_mem_nil, or_false, not_or] at hmark
  intro h
  obtain ⟨d, hd, hc⟩ := List.mem_map.mp h
  split at hc
  · exact hmark.2 hc.symm
  · rw [hc] at hd
    exact not_mem_encode hkept hmark.1 text hd

theorem not_mem_encodePair {c : Char} (hkept : isKept c = false) (hmark : c ∉ ['%', '+'])
    (hequals : c ≠ '=') (pair : String × String) : c ∉ encodePair pair := by
  rw [encodePair, List.mem_append, List.mem_cons]
  rintro (h | h | h)
  · exact not_mem_encodeComponent hkept hmark _ h
  · exact hequals h
  · exact not_mem_encodeComponent hkept hmark _ h

theorem encodePair_ne_nil (pair : String × String) : encodePair pair ≠ [] := by simp [encodePair]

theorem isEmpty_encodeComponent {text : List Char} (hne : text ≠ []) :
    (encodeComponent text).isEmpty = false := by
  rw [List.isEmpty_eq_false_iff]
  intro hempty
  have hback := decodeComponent_encodeComponent text
  rw [hempty, decodeComponent, List.map_nil, Percent.decode] at hback
  exact hne hback.symm

theorem cutFirst_encodePair (pair : String × String) :
    cutFirst (· == '=') (encodePair pair) =
      some (encodeComponent pair.1.toList, encodeComponent pair.2.toList) := by
  apply cutFirst_append_cons _ rfl
  intro c hc
  rw [beq_eq_false_iff_ne]
  rintro rfl
  exact not_mem_encodeComponent (by decide) (by decide) _ hc

/-- An empty value is read back only where blank values are kept. -/
theorem decodePair_encodePair {keepBlank : Bool} {pair : String × String}
    (h : keepBlank = true ∨ pair.2 ≠ "") : decodePair keepBlank (encodePair pair) = some pair := by
  have hvalue : ((encodeComponent pair.2.toList).isEmpty && !keepBlank) = false := by
    rcases h with rfl | hne
    · rw [Bool.not_true, Bool.and_false]
    · rw [isEmpty_encodeComponent (by simpa using hne), Bool.false_and]
  rw [decodePair, cutFirst_encodePair]
  simp [decodeComponent_encodeComponent, hvalue]

theorem decodePair_encodePair_of_blank {pair : String × String} (h : pair.2 = "") :
    decodePair false (encodePair pair) = none := by
  rw [decodePair, cutFirst_encodePair, h]
  rfl

/-- The pieces that an encoded list is joined from. -/
theorem splitOn_encode {pairs : List (String × String)} (hne : pairs ≠ []) :
    splitOn (· == '&') (encode pairs).toList = pairs.map encodePair := by
  rw [encode, String.toList_ofList, splitOn_intercalate (by simp [hne]) rfl]
  apply flatMap_splitOn_of_not_cut
  intro piece hpiece c hc
  obtain ⟨pair, -, rfl⟩ := List.mem_map.mp hpiece
  rw [beq_eq_false_iff_ne]
  rintro rfl
  exact not_mem_encodePair (by decide) (by decide) (by decide) pair hc

/-- The characters of an encoded list: those that are kept and the marks of form encoding. -/
def isFormChar (c : Char) : Bool := isKept c || c == '%' || c == '+' || c == '=' || c == '&'

theorem isFormChar_of_mem_encode {pairs : List (String × String)} {c : Char}
    (h : c ∈ (encode pairs).toList) : isFormChar c = true := by
  cases hform : isFormChar c with
  | true => rfl
  | false =>
      exfalso
      simp only [isFormChar, Bool.or_eq_false_iff, beq_eq_false_iff_ne] at hform
      obtain ⟨⟨⟨⟨hkept, hpercent⟩, hplus⟩, hequals⟩, hand⟩ := hform
      have hpair (pair : String × String) : c ∉ encodePair pair :=
        not_mem_encodePair hkept (by simp [hpercent, hplus]) hequals pair
      rw [encode, String.toList_ofList] at h
      induction pairs with
      | nil => cases h
      | cons first rest ih =>
          cases rest with
          | nil =>
              rw [List.map_singleton, List.intercalate_singleton] at h
              exact hpair first h
          | cons second rest =>
              rw [List.map_cons, List.map_cons, List.intercalate_cons_cons, List.mem_append,
                List.mem_append, List.mem_singleton, ← List.map_cons] at h
              rcases h with (h | h) | h
              · exact hpair first h
              · exact hand h
              · exact ih h

theorem filterMap_decodePair_map (keepBlank : Bool) (pairs : List (String × String)) :
    (pairs.map encodePair).filterMap (decodePair keepBlank) =
      pairs.filter fun pair => keepBlank || pair.2 != "" := by
  induction pairs with
  | nil => rfl
  | cons pair pairs ih =>
      rw [List.map_cons]
      by_cases hkept : keepBlank = true ∨ pair.2 ≠ ""
      · rw [List.filterMap_cons_some (decodePair_encodePair hkept), ih,
          List.filter_cons_of_pos (by simpa using hkept)]
      · rw [not_or, Bool.not_eq_true, Decidable.not_not] at hkept
        obtain ⟨rfl, hblank⟩ := hkept
        rw [List.filterMap_cons_none (decodePair_encodePair_of_blank hblank), ih,
          List.filter_cons_of_neg (by simp [hblank])]

theorem filterMap_decodePair (pairs : List (String × String)) :
    (pairs.map encodePair).filterMap (decodePair true) = pairs := by
  rw [filterMap_decodePair_map]
  exact List.filter_eq_self.mpr fun _ _ => rfl

/-- Decoding undoes encoding, except that empty values are dropped where blanks are not kept. -/
theorem decode_encode_eq_filter (keepBlank : Bool) (pairs : List (String × String)) :
    decode keepBlank (encode pairs) = pairs.filter fun pair => keepBlank || pair.2 != "" := by
  cases pairs with
  | nil => cases keepBlank <;> rfl
  | cons pair pairs =>
      rw [decode, splitOn_encode (List.cons_ne_nil _ _), filterMap_decodePair_map]

theorem decode_encode_of_filled {keepBlank : Bool} {pairs : List (String × String)}
    (h : ∀ pair ∈ pairs, keepBlank = true ∨ pair.2 ≠ "") :
    decode keepBlank (encode pairs) = pairs := by
  rw [decode_encode_eq_filter]
  apply List.filter_eq_self.mpr
  intro pair hpair
  simpa using h pair hpair

/-- Decoding undoes encoding. -/
theorem decode_encode (pairs : List (String × String)) : decode true (encode pairs) = pairs :=
  decode_encode_of_filled fun _ _ => .inl rfl

theorem isEmpty_encode {pairs : List (String × String)} (hne : pairs ≠ []) :
    (encode pairs).isEmpty = false := by
  cases hempty : (encode pairs).isEmpty with
  | false => rfl
  | true =>
      have hsplit := splitOn_encode hne
      rw [String.isEmpty_iff.mp hempty] at hsplit
      cases pairs with
      | nil => exact absurd rfl hne
      | cons pair pairs =>
          rw [List.map_cons] at hsplit
          exact absurd (List.cons.inj hsplit).1.symm (encodePair_ne_nil pair)

/-- Two encoded lists that are joined by the separator are read as one list. -/
theorem decode_encode_append {pairs more : List (String × String)} (hpairs : pairs ≠ [])
    (hmore : more ≠ []) : decode true (encode pairs ++ "&" ++ encode more) = pairs ++ more := by
  rw [decode, String.toList_append, String.toList_append, List.append_assoc]
  change ((splitOn _ (_ ++ '&' :: (encode more).toList)).filterMap _) = _
  rw [splitOn_append_cons _ rfl, splitOn_encode hpairs, splitOn_encode hmore,
    List.filterMap_append, filterMap_decodePair, filterMap_decodePair]

end Form

end OAuthClient.Text
