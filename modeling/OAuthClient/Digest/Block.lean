import OAuthClient.Text.Utf8

/-!
# Message blocks

What the two digests share: the padding of a message to blocks of 64 bytes, and 32-bit words in
big-endian order.
-/

namespace OAuthClient.Digest

/-- The bytes of a number in big-endian order, exactly `count` of them. -/
def bigEndian : Nat → Nat → Bytes
  | 0, _ => []
  | count + 1, n => bigEndian count (n / 256) ++ [UInt8.ofNat (n % 256)]

/-- The number that bytes in big-endian order denote. -/
def ofBigEndian (bytes : Bytes) : Nat := bytes.foldl (fun n b => n * 256 + b.toNat) 0

/-- A message with a one bit, zeros up to 56 bytes of the last block, and its length in bits. -/
def pad (message : Bytes) : Bytes :=
  let size := message.length
  message ++ 0x80 :: List.replicate ((119 - size % 64) % 64) 0 ++ bigEndian 8 (size * 8)

/-- The blocks of a padded message. -/
def blocks (padded : Bytes) : List Bytes :=
  (List.range (padded.length / 64)).map fun k => (padded.drop (64 * k)).take 64

/-- The words of a block. -/
def wordsOf (block : Bytes) : List UInt32 :=
  (List.range (block.length / 4)).map fun k =>
    UInt32.ofNat (ofBigEndian ((block.drop (4 * k)).take 4))

/-- The bytes of a word. -/
def bytesOf (word : UInt32) : Bytes := bigEndian 4 word.toNat

/-- A word rotated to the left. -/
def rotateLeft (word : UInt32) (n : UInt32) : UInt32 := (word <<< n) ||| (word >>> (32 - n))

/-- A word rotated to the right. -/
def rotateRight (word : UInt32) (n : UInt32) : UInt32 := (word >>> n) ||| (word <<< (32 - n))

theorem length_bigEndian (count n : Nat) : (bigEndian count n).length = count := by
  induction count generalizing n with
  | zero => rfl
  | succ count ih => simp [bigEndian, ih]

end OAuthClient.Digest
