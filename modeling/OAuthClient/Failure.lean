import OAuthClient.DeviceCode.Event
import OAuthClient.Json.Value

/-!
# Failures

Every way in which an operation of the library can fail, each with what is known about its cause,
and the wording of its message.
-/

namespace OAuthClient

/-- How a request can fail before an answer arrives. These failures are retried. -/
inductive TransportFault where
  /-- No connection was made or kept. -/
  | connection
  /-- No answer came in time. -/
  | timeout
  /-- The exchange broke the rules of HTTP. -/
  | protocol
  deriving DecidableEq, Repr

/-- An error body of the token endpoint. -/
structure ServiceError where
  /-- The error code. -/
  error : Value
  /-- What the service says about the error. -/
  description : Value
  /-- The status of the answer, if there was one. -/
  status : Option Int
  /-- The codes that the service adds. -/
  codes : List Value := []
  /-- The trace identifier that the service adds. -/
  trace : Value := .null
  /-- The correlation identifier that the service adds. -/
  correlation : Value := .null

/-- What ended the polling of a device code. -/
inductive PollStop where
  /-- A known event. -/
  | event (event : PollEvent)
  /-- An error that is no known event. -/
  | unknown (error : Value)

/-- The error that a stop carries on the wire. -/
def PollStop.error : PollStop → Value
  | .event known => .text known.code
  | .unknown value => value

/-- A failure of an operation. -/
inductive Failure where
  /-- A value that a request or an answer needs is missing or not acceptable. -/
  | authorization (name reason : String)
  /-- A token request got no answer or one that cannot be used. -/
  | execution (reason : String) (status : Option Int)
  /-- The token endpoint answered with an error. -/
  | service (error : ServiceError)
  /-- Polling a device code ended without a token. -/
  | polling (stop : PollStop) (description : Value) (status : Option Int)
  /-- The redirect after sign-in carried an error. -/
  | redirect (error description uri : Value)
  /-- A certificate or a private key cannot be used. -/
  | certificate (reason : String)
  /-- A request of an upload got an unexpected answer. -/
  | upload (reason : String) (status : Option Int)
  /-- A request failed before an answer arrived. -/
  | transport (fault : TransportFault) (reason : String)
  /-- The user stopped the program. -/
  | interrupted
  /-- An answer that must be JSON is not. -/
  | malformedBody
  /-- A value is of the right kind but not acceptable. -/
  | invalid (reason : String)
  /-- A value is of a kind that the operation does not take. -/
  | wrongKind
  /-- A value or a credential does not have the part or the operation asked for. -/
  | noSuchPart
  /-- An object lacks a member that it must have. -/
  | missingMember
  /-- A text that must be ASCII is not. -/
  | notAscii
  /-- A number or a date lies outside the range that can be represented. -/
  | outOfRange
  /-- Nothing is left to hand out. -/
  | exhausted
  /-- There is no file at a path. -/
  | noSuchFile
  /-- A credential of an open kind has no grant of its own. -/
  | noGrant
  /-- A request was to be tried less than once. -/
  | noAttempts
  /-- A command-line argument is not acceptable. -/
  | badArgument (reason : String)
  /-- A value cannot be shown in a table. -/
  | notShowable

namespace Failure

/-- A required value is missing. -/
def required (name : String) : Failure := .authorization name ("Required value missing: " ++ name)

/-- An error code with its description, if there is one. -/
def described (error description : Value) : String :=
  if description.isPresent then error.plainText ++ ": " ++ description.plainText
  else error.plainText

/-- What is said of a failure. Failures without words of their own say nothing. -/
def message : Failure → String
  | .authorization name reason => name ++ ": " ++ reason
  | .execution reason _ => reason
  | .service error => described error.error error.description
  | .polling stop description _ => described stop.error description
  | .redirect error description _ => described error description
  | .certificate reason => reason
  | .upload reason _ => reason
  | .transport _ reason => reason
  | .invalid reason => reason
  | .noAttempts => "retry_request called with max_retries < 1"
  | .badArgument reason => reason
  | _ => ""

/-- Whether a failure is one of the library's own, as opposed to one of transport, of the caller's
values or of the environment. -/
def isOwn : Failure → Bool
  | .authorization .. | .execution .. | .service _ | .polling .. | .redirect .. | .certificate _
  | .upload .. => true
  | _ => false

/-- Whether a failure came from the exchange with the service; an answer that is not JSON counts. -/
def isExchange : Failure → Bool
  | .transport .. | .malformedBody => true
  | _ => false

end Failure

end OAuthClient
