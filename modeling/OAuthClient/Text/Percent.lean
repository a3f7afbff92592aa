import OAuthClient.Text.Digit
import OAuthClient.Text.Utf8

/-!
# Percent encoding

Characters outside a safe class are written as the percent forms of their UTF-8 bytes. Reading
turns the percent forms of an ASCII run into bytes and decodes each run as UTF-8; a percent sign
that two hexadecimal digits do not follow stands for itself.
-/

namespace OAuthClient.Text.Percent

/-- The characters that no percent encoding touches. -/
def isUnreserved (c : Char) : Bool :=
  ('a' ≤ c && c ≤ 'z') || ('A' ≤ c && c ≤ 'Z') || isAsciiDigit c ||
    c == '_' || c == '.' || c == '-' || c == '~'

/-- The characters that a path keeps: the unreserved ones and the separator. -/
def isPathSafe (c : Char) : Bool := isUnreserved c || c == '/'

/-- The percent form of a byte, with upper-case digits. -/
def encodeByte (b : UInt8) : List Char :=
  ['%', hexDigitUpper (b.toNat / 16), hexDigitUpper (b.toNat % 16)]

/-- One character, as itself when it is safe and in percent form otherwise. -/
def encodeChar (safe : Char → Bool) (c : Char) : List Char :=
  if safe c then [c] else (Utf8.encodeChar c).flatMap encodeByte

/-- A text with every unsafe character in percent form. -/
def encode (safe : Char → Bool) (text : List Char) : List Char :=
  text.flatMap (encodeChar safe)

/-- Whether a character belongs to ASCII. -/
def isAscii (c : Char) : Bool := c.toNat < 0x80

/-- The bytes of an ASCII text, percent forms resolved. -/
def bytesOf : List Char → Bytes
  | '%' :: high :: low :: rest =>
      match hexValue? high, hexValue? low with
      | some h, some l => UInt8.ofNat (h * 16 + l) :: bytesOf rest
      | _, _ => UInt8.ofNat '%'.toNat :: bytesOf (high :: low :: rest)
  | c :: rest => UInt8.ofNat c.toNat :: bytesOf rest
  | [] => []

/-- The text with its percent forms resolved. Each maximal ASCII run is decoded by itself, so a
percent form never joins with a character outside ASCII. -/
def decode (text : List Char) : List Char :=
  match text with
  | [] => []
  | c :: rest =>
      if isAscii c then
        Utf8.decodeLossy (bytesOf (c :: rest.takeWhile isAscii)) ++
          decode (rest.dropWhile isAscii)
      else c :: decode rest
termination_by text.length
decreasing_by
  · have := (List.dropWhile_suffix isAscii (l := rest)).length_le
    simp only [List.length_cons]; omega
  · simp

theorem encode_append (safe : Char → Bool) (a b : List Char) :
    encode safe (a ++ b) = encode safe a ++ encode safe b := List.flatMap_append

/-- A text of safe characters is its own encoding. -/
theorem encode_of_safe {safe : Char → Bool} {text : List Char} (h : ∀ c ∈ text, safe c = true) :
    encode safe text = text := by
  induction text with
  | nil => rfl
  | cons c rest ih =>
      have hc := h c List.mem_cons_self
      have hrest := ih fun d hd => h d (List.mem_cons_of_mem c hd)
      simp_all [encode, encodeChar]

end OAuthClient.Text.Percent
