import OAuthClient.Text.Utf8

/-!
# Base64url

Bytes written in the 64-character alphabet that is safe in URLs, without padding. The reader is
lenient with ASCII texts: it skips characters outside the alphabet, takes `+` and `/` for `-` and
`_`, and stops at complete padding.
-/

namespace OAuthClient.Text.Base64Url

/-- The character of a six-bit value. -/
def digit (n : Nat) : Char :=
  if n < 26 then Char.ofNat (65 + n)
  else if n < 52 then Char.ofNat (71 + n)
  else if n < 62 then Char.ofNat (n - 4)
  else if n == 62 then '-' else '_'

/-- The six-bit value of a character, in either alphabet. -/
def value? (c : Char) : Option Nat :=
  let n := c.toNat
  if 65 ≤ n ∧ n ≤ 90 then some (n - 65)
  else if 97 ≤ n ∧ n ≤ 122 then some (n - 71)
  else if 48 ≤ n ∧ n ≤ 57 then some (n + 4)
  else if c = '-' ∨ c = '+' then some 62
  else if c = '_' ∨ c = '/' then some 63
  else none

/-- The unpadded form of a byte sequence: three bytes make four characters, and a rest of one or
two bytes makes two or three. -/
def encodeChars : Bytes → List Char
  | a :: b :: c :: rest =>
      let n := a.toNat * 0x10000 + b.toNat * 0x100 + c.toNat
      digit (n / 0x40000) :: digit (n / 0x1000 % 64) :: digit (n / 0x40 % 64) :: digit (n % 64)
        :: encodeChars rest
  | [a, b] =>
      let n := a.toNat * 0x100 + b.toNat
      [digit (n / 0x400), digit (n / 0x10 % 64), digit (n % 0x10 * 4)]
  | [a] => [digit (a.toNat / 4), digit (a.toNat % 4 * 16)]
  | [] => []

/-- The unpadded form of a byte sequence. -/
def encode (bytes : Bytes) : String := String.ofList (encodeChars bytes)

/-- The padding that brings a text to a multiple of four characters. -/
def pad (text : List Char) : List Char :=
  text ++ List.replicate ((4 - text.length % 4) % 4) '='

/-- Where the reader stands within a group of four characters. -/
structure Group where
  /-- How many characters of the group were read. -/
  count : Nat := 0
  /-- The bits read that no byte holds yet. -/
  bits : Nat := 0
  /-- How many padding characters followed directly. -/
  pads : Nat := 0

/-- Reads from a position within a group. The text ends well at a group's end or where padding
completes a group of at least two characters; anything else is refused. -/
def decodeFrom (group : Group) : List Char → Option Bytes
  | [] => if group.count = 0 then some [] else none
  | c :: rest =>
      if c = '=' then
        if 2 ≤ group.count ∧ 4 ≤ group.count + (group.pads + 1) then some []
        else if 2 ≤ group.count then decodeFrom { group with pads := group.pads + 1 } rest
        else decodeFrom group rest
      else match value? c with
        | none => decodeFrom group rest
        | some v =>
            match group.count with
            | 0 => decodeFrom { count := 1, bits := v } rest
            | 1 =>
                (decodeFrom { count := 2, bits := v % 16 } rest).map
                  (UInt8.ofNat (group.bits * 4 + v / 16) :: ·)
            | 2 =>
                (decodeFrom { count := 3, bits := v % 4 } rest).map
                  (UInt8.ofNat (group.bits * 16 + v / 4) :: ·)
            | _ =>
                (decodeFrom {} rest).map (UInt8.ofNat (group.bits * 64 + v) :: ·)

/-- The bytes of an ASCII text in base64url, padded first to a multiple of four characters. -/
def decodePadded? (text : List Char) : Option Bytes :=
  if text.all (·.toNat < 0x80) then decodeFrom {} (pad text) else none

end OAuthClient.Text.Base64Url
