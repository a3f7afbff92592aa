import OAuthClient.Digest.Block

/-!
# SHA-1

The digest of 20 bytes that identifies a certificate.
-/

namespace OAuthClient.Digest.Sha1

/-- The working state: five words. -/
structure State where
  /-- The first word. -/
  a : UInt32
  /-- The second word. -/
  b : UInt32
  /-- The third word. -/
  c : UInt32
  /-- The fourth word. -/
  d : UInt32
  /-- The fifth word. -/
  e : UInt32

/-- The state before the first block. -/
def initial : State := ⟨0x67452301, 0xefcdab89, 0x98badcfe, 0x10325476, 0xc3d2e1f0⟩

/-- The schedule of a block: its sixteen words and 64 words made of earlier ones. -/
def schedule (block : Bytes) : Array UInt32 :=
  (List.range 64).foldl (fun w t =>
    w.push (rotateLeft
      (w.getD (t + 13) 0 ^^^ w.getD (t + 8) 0 ^^^ w.getD (t + 2) 0 ^^^ w.getD t 0) 1))
    (wordsOf block).toArray

/-- The mixing function and the constant of a round. -/
def mix (t : Nat) (b c d : UInt32) : UInt32 × UInt32 :=
  if t < 20 then ((b &&& c) ||| (~~~b &&& d), 0x5a827999)
  else if t < 40 then (b ^^^ c ^^^ d, 0x6ed9eba1)
  else if t < 60 then ((b &&& c) ||| (b &&& d) ||| (c &&& d), 0x8f1bbcdc)
  else (b ^^^ c ^^^ d, 0xca62c1d6)

/-- One round with its number and its word of the schedule. -/
def round (s : State) (t : Nat) (word : UInt32) : State :=
  let (f, k) := mix t s.b s.c s.d
  ⟨rotateLeft s.a 5 + f + s.e + k + word, s.a, rotateLeft s.b 30, s.c, s.d⟩

/-- The state after a block. -/
def compress (s : State) (block : Bytes) : State :=
  let r := (schedule block).toList.zipIdx.foldl (fun s (w, t) => round s t w) s
  ⟨s.a + r.a, s.b + r.b, s.c + r.c, s.d + r.d, s.e + r.e⟩

/-- The digest of a message. -/
def digest (message : Bytes) : Bytes :=
  let s := (blocks (pad message)).foldl compress initial
  [s.a, s.b, s.c, s.d, s.e].flatMap bytesOf

theorem length_digest (message : Bytes) : (digest message).length = 20 := by
  simp [digest, bytesOf, length_bigEndian]

end OAuthClient.Digest.Sha1
