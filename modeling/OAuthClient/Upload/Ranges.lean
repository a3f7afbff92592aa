import OAuthClient.Failure
import OAuthClient.Json.Value
import OAuthClient.Text.Utf8

/-!
# Byte ranges

How bytes are cut into the consecutive ranges in which they are uploaded. Every range but the last
is as long as a chunk, and the service takes only chunks whose size is a multiple of 320 KiB.
-/

namespace OAuthClient

/-- Consecutive bytes; both ends belong to the range. -/
structure ByteRange where
  /-- The position of the first byte. -/
  start : Int
  /-- The position of the last byte. -/
  stop : Int
  data : Bytes

namespace ByteRange

/-- How many bytes a range says it has. -/
def contentLength (range : ByteRange) : Int := range.stop - range.start + 1

/-- The place of a range in the whole. -/
def contentRange (range : ByteRange) (size : Int) : String :=
  "bytes " ++ toString range.start ++ "-" ++ toString range.stop ++ "/" ++ toString size

/-- The headers with which a range is sent. -/
def headers (range : ByteRange) (size : Int) : Members :=
  [("Content-Length", .text (toString range.contentLength)),
    ("Content-Range", .text (range.contentRange size))]

/-- The debug text of a range, which does not show its bytes. -/
def describe (range : ByteRange) : String :=
  "ByteRange(start=" ++ toString range.start ++ ", end=" ++ toString range.stop ++ ")"

end ByteRange

namespace ChunkSize

/-- The number of bytes of which every chunk size is a multiple. -/
def unit : Nat := 327680

/-- The chunk size when none is given. -/
def standard : Nat := 32 * unit

/-- What is said of a size that is not acceptable. -/
def refusal : String := "Chunk size must be a positive multiple of 327680 bytes (320 KiB)"

/-- A size that is acceptable as the size of a chunk. -/
def check (size : Int) : Except Failure Nat :=
  if size ≤ 0 || size % unit != 0 then .error (.invalid refusal) else .ok size.toNat

/-- Whether a number of the double-precision format is a positive multiple of the unit. -/
def isAcceptable (size : Double) : Bool :=
  match size with
  | .finite negative mantissa exponent =>
      let (num, den) := Double.toRatio mantissa exponent
      !negative && mantissa != 0 && num % (unit * den) == 0
  | _ => false

/-- A value that is acceptable as the size of a chunk; numbers of all kinds are compared by size. -/
def checkValue (value : Value) : Except Failure Value :=
  match value with
  | .int size => (check size).map fun _ => value
  | .bool _ => .error (.invalid refusal)
  | .real size => if isAcceptable size then .ok value else .error (.invalid refusal)
  | _ => .error .wrongKind

end ChunkSize

/-- Bytes that are handed out range by range. -/
structure Ranges where
  /-- How many bytes there were at the beginning. -/
  size : Nat
  /-- How many bytes make a chunk. -/
  chunkSize : Nat
  /-- The ranges that are left. -/
  pending : List ByteRange

namespace Ranges

/-- The ranges of bytes that begin at a position, at most `count` of them. -/
def cut (chunkSize : Nat) : (count start : Nat) → Bytes → List ByteRange
  | 0, _, _ => []
  | _, _, [] => []
  | count + 1, start, b :: rest =>
      let chunk := (b :: rest).take chunkSize
      { start, stop := start + chunk.length - 1, data := chunk } ::
        cut chunkSize count (start + chunkSize) ((b :: rest).drop chunkSize)

/-- Bytes cut into chunks of an acceptable size. -/
def ofBytes (data : Bytes) (chunkSize : Int) : Except Failure Ranges := do
  let chunkSize ← ChunkSize.check chunkSize
  let size := data.length
  pure { size, chunkSize, pending := cut chunkSize (size / chunkSize + 1) 0 data }

/-- Bytes cut into chunks of a size that any value may say; only an integer can cut them. -/
def ofSize (data : Bytes) (chunkSize : Value) : Except Failure Ranges := do
  match ← ChunkSize.checkValue chunkSize with
  | .int size => ofBytes data size
  | _ => throw .wrongKind

/-- The next range and the ranges after it. -/
def next? (ranges : Ranges) : Option (ByteRange × Ranges) :=
  match ranges.pending with
  | [] => none
  | range :: rest => some (range, { ranges with pending := rest })

/-- The headers and the bytes of the next range, and the ranges after it. -/
def popFront? (ranges : Ranges) : Option ((Members × Bytes) × Ranges) :=
  match ranges.pending with
  | [] => none
  | range :: rest =>
      some ((range.headers ranges.size, range.data), { ranges with pending := rest })

end Ranges

end OAuthClient
