import OAuthClient.Identity.Redaction
import OAuthClient.Text.Form
import OAuthClient.Text.Percent
import OAuthClient.Text.Url

/-!
# Redirects after sign-in

What the authorization endpoint sends back in the fragment or the query of the redirect URI, and the
check that the response belongs to the request.
-/

namespace OAuthClient

/-- The error codes that the authorization endpoint is known to send back. -/
inductive RedirectError where
  /-- The request was malformed. -/
  | invalidRequest
  /-- The application may not use the flow. -/
  | unauthorizedClient
  /-- The user refused. -/
  | accessDenied
  /-- The response type is not supported. -/
  | unsupportedResponseType
  /-- A scope is unknown or malformed. -/
  | invalidScope
  /-- The service failed. -/
  | serverError
  /-- The service is overloaded. -/
  | temporarilyUnavailable
  /-- The resource is unknown. -/
  | invalidResource
  /-- The user has to sign in. -/
  | loginRequired
  /-- The user has to take part. -/
  | interactionRequired
  deriving DecidableEq, Repr

namespace RedirectError

/-- All known errors. -/
def all : List RedirectError :=
  [.invalidRequest, .unauthorizedClient, .accessDenied, .unsupportedResponseType, .invalidScope,
    .serverError, .temporarilyUnavailable, .invalidResource, .loginRequired, .interactionRequired]

/-- The code of an error. -/
def code : RedirectError → String
  | .invalidRequest => "invalid_request"
  | .unauthorizedClient => "unauthorized_client"
  | .accessDenied => "access_denied"
  | .unsupportedResponseType => "unsupported_response_type"
  | .invalidScope => "invalid_scope"
  | .serverError => "server_error"
  | .temporarilyUnavailable => "temporarily_unavailable"
  | .invalidResource => "invalid_resource"
  | .loginRequired => "login_required"
  | .interactionRequired => "interaction_required"

/-- The error with a code. -/
def ofCode? (code : String) : Option RedirectError := all.find? (·.code == code)

theorem ofCode?_code (error : RedirectError) : ofCode? error.code = some error := by
  cases error <;> decide

end RedirectError

/-- The values that a redirect carries. -/
structure Redirect where
  /-- A code that can be redeemed. -/
  code : Value := .null
  /-- A token about the user. -/
  idToken : Value := .null
  /-- How many seconds the access token lasts. -/
  expiresIn : Option Int := none
  /-- A token for a resource. -/
  accessToken : Value := .null
  /-- The value that the request carried. -/
  state : Value := .null
  /-- The session of the user. -/
  sessionState : Value := .null
  /-- The nonce that the request carried. -/
  nonce : Value := .null
  /-- The error code. -/
  error : Value := .null
  /-- What the service says about the error. -/
  errorDescription : Value := .null
  /-- Where the error is described. -/
  errorUri : Value := .null
  /-- All other values. -/
  additional : Members := []
  /-- Whether debug text shows personal data and secrets. -/
  logPii : Bool := false

namespace Redirect

/-- The names of the values with a meaning of their own. -/
def knownNames : List String :=
  ["code", "id_token", "expires_in", "access_token", "state", "session_state", "nonce", "error",
    "error_description", "error_uri"]

/-- The seconds that a value says; one that says no integer is ignored. -/
def secondsOf : Value → Except Failure (Option Int)
  | .null => .ok none
  | value =>
      match value.toInteger with
      | .ok seconds => .ok (some seconds)
      | .error (.invalid _) => .ok none
      | .error failure => .error failure

/-- The redirect with some named values. -/
def ofMembers (values : Members) (logPii : Bool) : Except Failure Redirect := do
  let expiresIn ← secondsOf (Value.member values "expires_in")
  pure {
    expiresIn, logPii
    code := Value.member values "code"
    idToken := Value.member values "id_token"
    accessToken := Value.member values "access_token"
    state := Value.member values "state"
    sessionState := Value.member values "session_state"
    nonce := Value.member values "nonce"
    error := Value.member values "error"
    errorDescription := Value.member values "error_description"
    errorUri := Value.member values "error_uri"
    additional := Value.without knownNames values }

/-- The named values of a form; the last value of a repeated name counts. -/
def valuesOf (form : String) : Members :=
  Assoc.ofPairs ((Text.Form.decode false form).map fun (name, value) => (name, .text value))

/-- The redirect to a URL: its fragment or, without one, its query. -/
def ofUrl (url : String) (logPii : Bool) : Except Failure Redirect :=
  match Text.Url.split? url.toList with
  | none => .error (.invalid "")
  | some parts =>
      let carried := if parts.fragment.isEmpty then parts.query else parts.fragment
      if carried.isEmpty then .error (.authorization "url" "Redirect URL has no query or fragment")
      else ofMembers (valuesOf (String.ofList carried)) logPii

/-- The known error that a redirect carries. An error that is no text is not known. -/
def knownError (redirect : Redirect) : Option RedirectError :=
  redirect.error.text?.bind RedirectError.ofCode?

/-- Whether a redirect carries an error. -/
def isError (redirect : Redirect) : Bool := !redirect.error.isNull

/-- Fails when a redirect carries an error. -/
def check (redirect : Redirect) : Except Failure Redirect :=
  if redirect.isError then
    .error (.redirect redirect.error redirect.errorDescription redirect.errorUri)
  else .ok redirect

/-- Fails unless a redirect brings back the value that its request carried. Only ASCII texts can be
compared. -/
def checkState (redirect : Redirect) (expected : Value) : Except Failure Redirect := do
  if redirect.state.isNull then throw mismatch
  match redirect.state, expected with
  | .text returned, .text sent =>
      if returned.toList.all Text.Percent.isAscii && sent.toList.all Text.Percent.isAscii then
        if returned = sent then pure redirect else throw mismatch
      else throw .wrongKind
  | _, _ => throw .wrongKind
where
  /-- The failure of a redirect that answers another request. -/
  mismatch : Failure := .authorization "state" "State does not match the authorization request"

/-- The debug text of a redirect. -/
def describe (redirect : Redirect) : String :=
  let shown (value : Value) := (masked redirect.logPii value).quotedText
  "AuthorizationResponse(code=" ++ shown redirect.code ++ ", id_token=" ++ shown redirect.idToken ++
    ", access_token=" ++ shown redirect.accessToken ++ ", state=" ++ redirect.state.quotedText ++
    ", error=" ++ redirect.error.quotedText ++ ", error_description=" ++
    redirect.errorDescription.quotedText ++ ")"

end Redirect

end OAuthClient
