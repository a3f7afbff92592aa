import OAuthClient.Calendar.Date
import OAuthClient.Text.Digit
import OAuthClient.Text.Utf8

/-!
# Timestamps

A date and a time of day with or without an offset from universal time, their ISO 8601 text, and a
generous reader of such texts. The reader works on the bytes of the text; where it looks behind the
end it finds a zero.
-/

namespace OAuthClient.Calendar

/-- A date and a time of day. -/
structure Timestamp where
  date : Date
  hour : Nat
  minute : Nat
  second : Nat
  micro : Nat
  /-- The offset from universal time in microseconds, if there is one. -/
  offset : Option Int
  deriving DecidableEq, Repr

/-- A fraction of a second, left out when it is zero. -/
def fractionText (micro : Nat) : List Char :=
  if micro = 0 then [] else '.' :: Text.decimalPadded 6 micro

/-- An offset: sign, hours and minutes, and seconds when they are not zero. -/
def offsetText (offset : Int) : List Char :=
  let size := offset.natAbs
  let seconds := size / 1000000
  let micro := size % 1000000
  let tail := if seconds % 60 = 0 ∧ micro = 0 then []
    else ':' :: Text.decimalPadded 2 (seconds % 60) ++ fractionText micro
  (if offset < 0 then '-' else '+') :: Text.decimalPadded 2 (seconds / 3600) ++
    ':' :: Text.decimalPadded 2 (seconds / 60 % 60) ++ tail

/-- The ISO 8601 text of a timestamp. -/
def Timestamp.isoText (t : Timestamp) : String :=
  let pair := Text.decimalPadded 2
  String.ofList (Text.decimalPadded 4 t.date.year.toNat ++ '-' :: pair t.date.month ++
    '-' :: pair t.date.day ++ 'T' :: pair t.hour ++ ':' :: pair t.minute ++ ':' :: pair t.second ++
    fractionText t.micro ++ (t.offset.map offsetText).getD [])

namespace Reading

/-- The byte that comes first, or zero at the end. -/
def peek (bytes : Bytes) : Nat := (bytes.head?.map UInt8.toNat).getD 0

/-- Whether a byte is a digit. -/
def isDigit (b : Nat) : Bool := 48 ≤ b && b ≤ 57

/-- The number that exactly `count` digits denote and what follows them. -/
def digits : Nat → Bytes → Option (Nat × Bytes)
  | 0, bytes => some (0, bytes)
  | count + 1, bytes => do
      let (high, rest) ← digits count bytes
      if isDigit (peek rest) then some (high * 10 + (peek rest - 48), rest.drop 1) else none

/-- A date: year, month and day, or year, week and weekday, with hyphens or without. The week date
may lack its weekday when the date ends there. -/
def date (size : Nat) (bytes : Bytes) : Option Date := do
  let (year, rest) ← digits 4 bytes
  let hyphens := peek rest = 45
  let rest := if hyphens then rest.drop 1 else rest
  if peek rest = 87 then
    let (week, rest) ← digits 2 (rest.drop 1)
    if bytes.length - rest.length < size then
      if hyphens ∧ peek rest ≠ 45 then none
      else
        let (day, _) ← digits 1 (if hyphens then rest.drop 1 else rest)
        Date.ofWeek year week day
    else Date.ofWeek year week 1
  else
    let (month, rest) ← digits 2 rest
    if hyphens ∧ peek rest ≠ 45 then none
    else
      let (day, _) ← digits 2 (if hyphens then rest.drop 1 else rest)
      some { year, month, day }

/-- Where a date ends in a text of at least seven bytes. -/
def dateSize (bytes : Bytes) : Option Nat :=
  let at? (k : Nat) := peek (bytes.drop k)
  let size := bytes.length
  if size = 7 then some 7
  else if at? 4 = 45 then
    if at? 5 = 87 then
      if size < 8 then none
      else if 8 < size ∧ at? 8 = 45 then
        if size = 9 then none else if 10 < size ∧ isDigit (at? 10) then some 8 else some 10
      else some 8
    else some 10
  else if at? 4 = 87 then
    let stop := 7 + ((bytes.drop 7).takeWhile fun b => isDigit b.toNat).length
    if stop < 9 then some stop else if stop % 2 = 0 then some 7 else some 8
  else some 8

/-- A time of day, or an offset. -/
structure Clock where
  hour : Nat := 0
  minute : Nat := 0
  second : Nat := 0
  micro : Nat := 0
  /-- Whether something follows in the text. -/
  hasMore : Bool := false

/-- Puts a number into the first, second or third place of a clock. -/
def Clock.set (clock : Clock) : Nat → Nat → Clock
  | 0, n => { clock with hour := n }
  | 1, n => { clock with minute := n }
  | _, n => { clock with second := n }

/-- The fraction of a second in the next `room` bytes; digits after the sixth are dropped. -/
def fraction (clock : Clock) (room : Nat) (bytes : Bytes) : Option Clock := do
  let count := min room 6
  let (n, rest) ← digits count bytes
  let after := rest.dropWhile fun b => isDigit b.toNat
  some { clock with micro := n * Nat.pow 10 (6 - count), hasMore := peek after ≠ 0 }

/-- Reads pairs of digits into the places of a clock, from place `3 - left` on, with `room` bytes
before the end of the part. Colons stand between all pairs or between none. -/
def clockFrom : Nat → Bool → Clock → Nat → Bytes → Option Clock
  | 0, _, clock, room, bytes => fraction clock room bytes
  | left + 1, colons, clock, room, bytes => do
      let (n, rest) ← digits 2 bytes
      let clock := clock.set (2 - left) n
      let c := peek rest
      let colons := if left = 2 then c = 58 else colons
      if room ≤ 3 then some { clock with hasMore := c ≠ 0 }
      else if colons && c = 58 then clockFrom left colons clock (room - 3) (rest.drop 1)
      else if c = 46 ∨ c = 44 then fraction clock (room - 3) (rest.drop 1)
      else if colons then none
      else clockFrom left colons clock (room - 2) rest

/-- A clock in the first `room` bytes. -/
def clock (room : Nat) (bytes : Bytes) : Option Clock := clockFrom 3 false {} room bytes

/-- Whether a byte begins an offset. -/
def startsOffset (b : UInt8) : Bool := b == 43 || b == 45 || b == 90

/-- An offset in microseconds. One that is whole seconds zero is zero: its fraction is dropped. -/
def offset (isWest : Bool) (shift : Clock) : Int :=
  let seconds : Int := (shift.hour * 3600 + shift.minute * 60 + shift.second : Nat)
  let size := seconds * 1000000 + shift.micro
  if seconds = 0 then 0 else if isWest then -size else size

/-- A time of day and its offset, if any, in microseconds. -/
def time (bytes : Bytes) : Option (Clock × Option Int) := do
  let room := match bytes with
    | [] => 1
    | b :: rest => if startsOffset b then 0 else 1 + (rest.takeWhile (!startsOffset ·)).length
  let day ← clock room bytes
  let rest := bytes.drop room
  match rest with
  | [] => if day.hasMore then none else some (day, none)
  | sign :: rest =>
      if sign = 90 then (if rest.isEmpty then some (day, some 0) else none)
      else
        let shift ← clock rest.length rest
        if shift.hasMore then none else some (day, some (offset (sign == 45) shift))

/-- How many bytes the character has that starts with a byte. -/
def characterSize (b : Nat) : Nat :=
  if b < 0x80 then 1 else if b / 16 = 14 then 3 else if b / 16 = 15 then 4 else 2

end Reading

/-- A day's length in microseconds. -/
def dayMicros : Int := 86400000000

/-- Whether the parts of a timestamp are within their ranges. -/
def Timestamp.isValid (t : Timestamp) : Bool :=
  t.date.isValid && t.hour < 24 && t.minute < 60 && t.second < 60 &&
    t.offset.all fun offset => -dayMicros < offset && offset < dayMicros

/-- The timestamp that an ISO 8601 text denotes. Any one character may stand between the date and
the time. -/
def Timestamp.read? (text : String) : Option Timestamp := do
  let bytes := Text.Utf8.ofString text
  if bytes.length < 7 then none
  else
    let size ← Reading.dateSize bytes
    let date ← Reading.date size bytes
    let (clock, offset) ←
      if bytes.length ≤ size then some ({}, none)
      else
        let rest := bytes.drop size
        Reading.time (rest.drop (Reading.characterSize (Reading.peek rest)))
    let t : Timestamp :=
      { date, hour := clock.hour, minute := clock.minute, second := clock.second,
        micro := clock.micro, offset }
    if t.isValid then some t else none

end OAuthClient.Calendar
