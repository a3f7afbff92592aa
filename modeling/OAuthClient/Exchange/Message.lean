import OAuthClient.Json.Coerce
import OAuthClient.Text.Utf8

/-!
# Requests and answers

What is sent to a service and what comes back. The body of an answer is its text; an answer counts
as good unless its status is that of a client or a server error.
-/

namespace OAuthClient

/-- What a request carries. -/
inductive Payload where
  /-- Nothing. -/
  | none
  /-- A form, the parameters of the URL and the name and password of the sender, the last two where
  there are any. -/
  | form (fields : Members) (params : Option Members) (auth : Option (Value × Value))
  | json (body : Value)
  | bytes (data : Bytes)

/-- A request as it is sent. -/
structure Request where
  method : String
  /-- The address; the service names some of the addresses, and whatever it names is used. -/
  url : Value
  headers : Members
  /-- What it carries. -/
  payload : Payload := .none
  /-- How long an answer is waited for. -/
  timeout : Value

/-- An answer. -/
structure Response where
  status : Int
  /-- The text of the body. -/
  text : String
  deriving DecidableEq, Repr

namespace Response

/-- Whether the status is not that of an error. -/
def isOk (response : Response) : Bool := !(400 ≤ response.status && response.status < 600)

/-- The JSON value of the body. -/
def json (response : Response) : Except Failure Value :=
  match Json.parse response.text with
  | .ok value => .ok value
  | .error fault => .error fault.toFailure

/-- The JSON value of the body; a body that is not JSON counts as an empty object. -/
def jsonOrEmpty (response : Response) : Value := response.json.toOption.getD (.object [])

end Response

/-- What becomes of a request. -/
inductive Reply where
  /-- An answer arrives. -/
  | response (response : Response)
  /-- No answer arrives; the request may be sent again. -/
  | fault (fault : TransportFault) (reason : String)
  /-- The exchange breaks off for a reason that sending again does not mend. -/
  | stop (failure : Failure)

/-- The outcome of a request. -/
def Reply.outcome : Reply → Except Failure Response
  | .response answer => .ok answer
  | .fault kind reason => .error (.transport kind reason)
  | .stop failure => .error failure

end OAuthClient
