import OAuthClient.Calendar.Instant
import OAuthClient.Exchange.Message
import OAuthClient.Exchange.Timer
import OAuthClient.Text.Base64Url

/-!
# The world of a client

What a client meets outside itself: a timer to wait with, a clock that moves only while the client
pauses, an endless supply of random bytes, and a service whose replies are taken in order. What the
client did is kept: the requests it sent, the pauses it asked for, and the progress it reported. A
failing operation keeps what it did before it failed.
-/

namespace OAuthClient

/-- A supply of random bytes, of which some have been used. -/
structure Entropy where
  /-- The byte at each place of the supply. -/
  byteAt : Nat → UInt8
  /-- How many bytes have been used. -/
  used : Nat := 0

/-- The next bytes of a supply, and the supply without them. -/
def Entropy.take (entropy : Entropy) (count : Nat) : Bytes × Entropy :=
  ((List.range count).map fun i => entropy.byteAt (entropy.used + i),
    { entropy with used := entropy.used + count })

/-- What a client meets outside itself, and what it did there. -/
structure World where
  /-- The time at the beginning, in seconds since the beginning of 1970. -/
  start : Number
  /-- The time now. -/
  now : Number
  /-- What pauses are made with. -/
  timer : Timer := .system
  /-- The supply of random bytes. -/
  entropy : Entropy
  /-- The replies that the service will give, one to each request. -/
  replies : List Reply
  /-- The requests that were sent. -/
  sent : List Request := []
  /-- How many seconds each of the pauses that were asked for was to last. -/
  pauses : List Value := []
  /-- The counts of uploaded bytes that were reported. -/
  progress : List Int := []

/-- An operation on a state that can fail; the state is kept either way. -/
abbrev Action (σ α : Type) := ExceptT Failure (StateM σ) α

/-- An operation that yields a result without touching the state. -/
def Action.ofExcept {σ α : Type} (result : Except Failure α) : Action σ α :=
  match result with
  | .ok value => pure value
  | .error failure => throw failure

/-- The outcome of an operation and the state after it. -/
def Action.perform {σ α : Type} (action : Action σ α) (state : σ) : Except Failure α × σ :=
  action.run.run state

/-- The outcome of an operation, which thereby never fails. -/
def Action.attempt {σ α : Type} (action : Action σ α) : Action σ (Except Failure α) :=
  fun state => let (outcome, after) := action.perform state; (.ok outcome, after)

namespace World

/-- The reply to a request when the service gives none. -/
def silence : Reply := .fault .connection "no more responses"

/-- The world without what the client did. -/
def forgotten (world : World) : World := { world with sent := [], pauses := [], progress := [] }

/-- The present instant, unless the clock shows a time that is no date. -/
def instant (world : World) : Except Failure Instant := Instant.ofSeconds world.now

/-- The seconds since the beginning; as long as no number says them, they count as none. -/
def elapsed (world : World) : Number := (world.now.sub? world.start).getD (.whole 0)

/-- The world after a request is sent. -/
def afterRequest (world : World) (request : Request) : World :=
  { world with replies := world.replies.tail, sent := world.sent ++ [request] }

/-- The world some seconds later. The clock stands still where no number shows that time. -/
def later (world : World) (seconds : Number) : World :=
  { world with now := (world.now.add? seconds).getD world.now }

/-- Lets some seconds pass. -/
def advance (seconds : Value) : Action World Unit := do
  let seconds ← Action.ofExcept seconds.toNumber
  modify (·.later seconds)

/-- The world after a pause was asked for, which lasts as long as the timer makes of it. -/
def afterPause (world : World) (seconds : Value) : World :=
  let asked := { world with pauses := world.pauses ++ [seconds] }
  match world.timer.take seconds with
  | .ok number => asked.later number
  | .error _ => asked

/-- Pauses for some seconds. A pause that the timer does not take is asked for but lasts no time. -/
def pause (seconds : Value) : Action World Unit := do
  let taken := (← get).timer.take seconds
  modify (·.afterPause seconds)
  Action.ofExcept (taken.map fun _ => ())

/-- Reports a count of uploaded bytes. -/
def report (count : Int) : Action World Unit :=
  modify fun world => { world with progress := world.progress ++ [count] }

/-- Sends a request and takes the reply to it. -/
def exchange (request : Request) : Action World Response := do
  let reply := (← get).replies.head?.getD silence
  modify (·.afterRequest request)
  Action.ofExcept reply.outcome

/-- Takes random bytes. -/
def randomBytes (count : Nat) : Action World Bytes := do
  let (bytes, entropy) := (← get).entropy.take count
  modify ({ · with entropy })
  pure bytes

/-- Takes a random text of 32 bytes in base64url. -/
def randomText : Action World String := return Text.Base64Url.encode (← randomBytes 32)

end World

end OAuthClient
