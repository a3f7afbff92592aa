/-!
# UTF-8

The byte form of text. Encoding is total. Decoding comes in two forms: a strict one that refuses
malformed input, and a lossy one that puts U+FFFD in place of every maximal ill-formed part.
-/

namespace OAuthClient

/-- A sequence of bytes. -/
abbrev Bytes := List UInt8

namespace Text.Utf8

/-- The character that stands for an ill-formed part. -/
def replacement : Char := '\uFFFD'

/-- The UTF-8 form of one character. -/
def encodeChar (c : Char) : Bytes :=
  let n := c.toNat
  if n < 0x80 then [.ofNat n]
  else if n < 0x800 then [.ofNat (0xc0 + n / 0x40), .ofNat (0x80 + n % 0x40)]
  else if n < 0x10000 then
    [.ofNat (0xe0 + n / 0x1000), .ofNat (0x80 + n / 0x40 % 0x40), .ofNat (0x80 + n % 0x40)]
  else
    [.ofNat (0xf0 + n / 0x40000), .ofNat (0x80 + n / 0x1000 % 0x40),
      .ofNat (0x80 + n / 0x40 % 0x40), .ofNat (0x80 + n % 0x40)]

/-- The UTF-8 form of a text. -/
def encode (text : List Char) : Bytes := text.flatMap encodeChar

/-- Whether a byte continues a sequence. -/
def isContinuation (b : UInt8) : Bool := 0x80 ≤ b.toNat && b.toNat ≤ 0xbf

/-- Whether a byte may follow a lead byte directly. The bounds are tighter than those of other
continuations after E0 and F0, where they exclude long forms, after ED, where they exclude
surrogates, and after F4, where they exclude numbers above U+10FFFF. -/
def mayFollow (lead next : UInt8) : Bool :=
  let l := lead.toNat
  let n := next.toNat
  if l == 0xe0 then 0xa0 ≤ n && n ≤ 0xbf
  else if l == 0xed then 0x80 ≤ n && n ≤ 0x9f
  else if l == 0xf0 then 0x90 ≤ n && n ≤ 0xbf
  else if l == 0xf4 then 0x80 ≤ n && n ≤ 0x8f
  else isContinuation next

/-- The six payload bits of a continuation byte. -/
def payload (b : UInt8) : Nat := b.toNat % 0x40

/-- Reads one sequence after its lead byte: the character, or nothing when the sequence is
ill-formed, and the number of bytes after the lead that belong to the part read. -/
def sequenceAfter (lead : UInt8) (rest : Bytes) : Option Char × Nat :=
  let l := lead.toNat
  if l < 0x80 then (some (Char.ofNat l), 0)
  else if l < 0xc2 then (none, 0)
  else if l < 0xe0 then
    match rest with
    | b :: _ =>
        if isContinuation b then (some (Char.ofNat ((l - 0xc0) * 0x40 + payload b)), 1)
        else (none, 0)
    | [] => (none, 0)
  else if l < 0xf0 then
    match rest with
    | b :: c :: _ =>
        if mayFollow lead b then
          if isContinuation c then
            (some (Char.ofNat ((l - 0xe0) * 0x1000 + payload b * 0x40 + payload c)), 2)
          else (none, 1)
        else (none, 0)
    | [b] => if mayFollow lead b then (none, 1) else (none, 0)
    | [] => (none, 0)
  else if l < 0xf5 then
    match rest with
    | b :: c :: d :: _ =>
        if mayFollow lead b then
          if isContinuation c then
            if isContinuation d then
              (some (Char.ofNat
                ((l - 0xf0) * 0x40000 + payload b * 0x1000 + payload c * 0x40 + payload d)), 3)
            else (none, 2)
          else (none, 1)
        else (none, 0)
    | [b, c] =>
        if mayFollow lead b then if isContinuation c then (none, 2) else (none, 1) else (none, 0)
    | [b] => if mayFollow lead b then (none, 1) else (none, 0)
    | [] => (none, 0)
  else (none, 0)

/-- The text of a byte sequence, with U+FFFD for every maximal ill-formed part. -/
def decodeLossy : Bytes → List Char
  | [] => []
  | lead :: rest =>
      let (c?, used) := sequenceAfter lead rest
      c?.getD replacement :: decodeLossy (rest.drop used)
termination_by bytes => bytes.length
decreasing_by simp only [List.length_drop, List.length_cons]; omega

/-- The text of a byte sequence, refused as a whole when some part is ill-formed. -/
def decode? : Bytes → Option (List Char)
  | [] => some []
  | lead :: rest =>
      match sequenceAfter lead rest with
      | (some c, used) => (decode? (rest.drop used)).map (c :: ·)
      | (none, _) => none
termination_by bytes => bytes.length
decreasing_by simp only [List.length_drop, List.length_cons]; omega

/-- The UTF-8 form of a string. -/
def ofString (text : String) : Bytes := encode text.toList

/-- The string of a byte sequence, with U+FFFD for every maximal ill-formed part. -/
def toStringLossy (bytes : Bytes) : String := String.ofList (decodeLossy bytes)

theorem encode_append (a b : List Char) : encode (a ++ b) = encode a ++ encode b :=
  List.flatMap_append

/-- Where the strict decoder accepts, the lossy one gives the same text. -/
theorem decodeLossy_eq_of_decode? {bytes : Bytes} {text : List Char}
    (h : decode? bytes = some text) : decodeLossy bytes = text := by
  fun_induction decode? bytes generalizing text with
  | case1 => simp_all [decodeLossy]
  | case2 lead rest c used hseq ih =>
      obtain ⟨tail, htail, rfl⟩ := Option.map_eq_some_iff.1 h
      simp [decodeLossy, hseq, ih htail]
  | case3 => simp at h

end Text.Utf8

end OAuthClient
