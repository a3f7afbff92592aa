import OAuthClient.Calendar.Timestamp
import OAuthClient.Failure

/-!
# Instants

Points in time as microseconds since the beginning of 1970 in universal time. Only instants of the
years 1 to 9999 can be represented; arithmetic that leaves that range fails.
-/

namespace OAuthClient

/-- A point in time. -/
structure Instant where
  /-- The microseconds since the beginning of 1970. -/
  micros : Int
  deriving DecidableEq, Repr

namespace Instant

/-- The microseconds of a second. -/
def perSecond : Int := 1000000

/-- The first instant that can be represented. -/
def first : Instant := ⟨-62135596800 * perSecond⟩

/-- The last instant that can be represented. -/
def last : Instant := ⟨253402300800 * perSecond - 1⟩

/-- Whether an instant can be represented. -/
def isValid (t : Instant) : Bool := first.micros ≤ t.micros && t.micros ≤ last.micros

/-- The microseconds of a number of seconds. -/
def microsOf : Number → Except Failure Int
  | .whole seconds => .ok (seconds * perSecond)
  | .real .nan => .error (.invalid "")
  | .real seconds => (seconds.scaled? perSecond.toNat).elim (.error .outOfRange) .ok

/-- The instant at which a clock shows a number of seconds. -/
def ofSeconds (seconds : Number) : Except Failure Instant := do
  let t : Instant := ⟨← microsOf seconds⟩
  if t.isValid then pure t else throw .outOfRange

/-- An instant some microseconds later; it fails where the result cannot be represented. -/
def plusMicros (t : Instant) (micros : Int) : Except Failure Instant :=
  let later : Instant := ⟨t.micros + micros⟩
  if later.isValid then .ok later else .error .outOfRange

/-- An instant some seconds later. -/
def plus (t : Instant) (seconds : Number) : Except Failure Instant := do
  t.plusMicros (← microsOf seconds)

/-- An instant some seconds earlier. -/
def minus (t : Instant) (seconds : Number) : Except Failure Instant := do
  t.plusMicros (-(← microsOf seconds))

/-- The date and the time of day in universal time. -/
def toTimestamp (t : Instant) : Calendar.Timestamp :=
  let days := t.micros / Calendar.dayMicros
  let rest := (t.micros % Calendar.dayMicros).toNat
  let seconds := rest / 1000000
  { date := Calendar.Date.ofDays days, hour := seconds / 3600, minute := seconds / 60 % 60,
    second := seconds % 60, micro := rest % 1000000, offset := some 0 }

/-- The ISO 8601 text in universal time. -/
def isoText (t : Instant) : String := t.toTimestamp.isoText

end Instant

end OAuthClient
