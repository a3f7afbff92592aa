import OAuthClient.Exchange.Retry

/-!
# HTTP clients

Sends requests with a client's own timeout and retries. Headers that are given replace those that
the kind of body implies.
-/

namespace OAuthClient

namespace HttpClient

/-- The seconds for which an answer is waited for when nothing else is said. -/
def defaultTimeout : Int := 30

/-- How often a request is sent at most when nothing else is said. -/
def defaultAttempts : Nat := 3

/-- The seconds of the first pause when nothing else is said. -/
def defaultDelay : Int := 1

end HttpClient

/-- How often a request is sent at most. -/
inductive AttemptLimit where
  /-- A number of times, at least once. -/
  | times (count : Nat) (pos : 0 < count := by decide)
  /-- A number above one that is no integer by its format; nothing can be sent so many times. -/
  | uncountable (limit : Double)

namespace AttemptLimit

/-- A request is sent just once. -/
def once : AttemptLimit := .times 1

/-- The limit that a value says; numbers below one count as one. -/
def ofValue : Value → Except Failure AttemptLimit
  | .int i => .ok (.times (Nat.max 1 i.toNat) (Nat.le_max_left 1 i.toNat))
  | .bool _ => .ok once
  | .real x => .ok (if x.compareInt 1 = some .gt then .uncountable x else once)
  | _ => .error .wrongKind

/-- The limit as a value. -/
def toValue : AttemptLimit → Value
  | .times count _ => .int count
  | .uncountable limit => .real limit

end AttemptLimit

/-- How requests are sent. -/
structure HttpClient where
  /-- How long an answer is waited for. -/
  timeout : Value := .int HttpClient.defaultTimeout
  /-- How often a request is sent at most. -/
  limit : AttemptLimit := .times HttpClient.defaultAttempts
  /-- The seconds of the first pause between two attempts. -/
  delay : Value := .int HttpClient.defaultDelay

namespace HttpClient

/-- A client with some settings. -/
def ofSettings (timeout attempts delay : Value) : Except Failure HttpClient :=
  (AttemptLimit.ofValue attempts).map fun limit => { timeout, limit, delay }

/-- Sends a request until an answer arrives or the attempts are used up. -/
def send (client : HttpClient) (method : String) (url : Value) (headers : Members)
    (payload : Payload) : Action World Response :=
  match client.limit with
  | .times count _ =>
      retry count client.delay World.pause
        (World.exchange { method, url, headers, payload, timeout := client.timeout })
  | .uncountable _ => throw .wrongKind

/-- The headers of a body of some kind with further ones. -/
def withKind (kind : String) (headers : Members) : Members :=
  Assoc.update [("Content-Type", .text kind)] headers

/-- Posts a form. -/
def postForm (client : HttpClient) (url : Value) (fields headers : Members)
    (params : Option Members) (auth : Option (Value × Value)) : Action World Response :=
  client.send "POST" url (withKind "application/x-www-form-urlencoded" headers)
    (.form fields params auth)

/-- Posts a JSON value. -/
def postJson (client : HttpClient) (url body : Value) (headers : Members) :
    Action World Response :=
  client.send "POST" url (withKind "application/json" headers) (.json body)

/-- Puts bytes at an address. -/
def put (client : HttpClient) (url : Value) (data : Bytes) (headers : Members) :
    Action World Response :=
  client.send "PUT" url headers (.bytes data)

/-- Gets what is at an address. -/
def fetch (client : HttpClient) (url : Value) (headers : Members) : Action World Response :=
  client.send "GET" url headers .none

/-- Deletes what is at an address. -/
def delete (client : HttpClient) (url : Value) (headers : Members) : Action World Response :=
  client.send "DELETE" url headers .none

end HttpClient

end OAuthClient
