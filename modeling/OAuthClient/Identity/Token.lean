import OAuthClient.Calendar.Instant
import OAuthClient.Identity.Redaction
import OAuthClient.Text.Blank

/-!
# Access tokens

The answer of the token endpoint, when it expires, and its form as a JSON object. Only the access
token is required; a lifetime that cannot be read counts as one hour.
-/

namespace OAuthClient

/-- An access token with what came along with it. -/
structure Token where
  /-- The token itself. -/
  accessToken : Value
  /-- How the token is presented. -/
  tokenType : Value := .text "Bearer"
  /-- The lifetime in seconds. -/
  expiresIn : Value
  /-- The lifetime in seconds while the service is unavailable. -/
  extExpiresIn : Value := .null
  /-- The scopes of the token. -/
  scope : Value := .list []
  /-- A token that yields further tokens. -/
  refreshToken : Value := .null
  /-- A token about the user. -/
  idToken : Value := .null
  /-- The value that the request carried. -/
  state : Value := .null
  /-- The identifier under which the service logs the request. -/
  correlationId : Value := .null
  /-- What the service says about the client. -/
  clientInfo : Value := .null
  /-- When the token was received. -/
  timestamp : Instant
  /-- When the token expires. -/
  expiresOn : Instant
  /-- All other members of the answer. -/
  additional : Members := []
  /-- Whether debug text shows personal data and secrets. -/
  logPii : Bool := false

namespace Token

/-- The lifetime in seconds when the service says none. -/
def defaultLifetime : Int := 3600

/-- The seconds before its expiry at which a token is no longer used from the cache. -/
def refreshBuffer : Int := 300

/-- The names of the members with a meaning of their own. -/
def knownNames : List String :=
  ["access_token", "token_type", "expires_in", "ext_expires_in", "scope", "refresh_token",
    "id_token", "state", "correlation_id", "client_info"]

/-- The seconds that a value says, if it says any; an infinite number of seconds is refused. -/
def secondsOf : Value → Except Failure (Option Int)
  | .null => .ok none
  | value =>
      match value.toInteger with
      | .ok seconds => .ok (some seconds)
      | .error .outOfRange => .error .outOfRange
      | .error _ => .ok none

/-- The scopes that an answer lists: a text's words or a value's items. -/
def scopesOf : Value → Except Failure (List Value)
  | .text s => .ok ((Text.wordsOf s).map .text)
  | value => if value.isPresent then value.toItems else .ok []

/-- The token of an answer that is received when the clock shows a time. -/
def ofResponse (body : Value) (logPii : Bool) (clock : Number) : Except Failure Token := do
  let members ← body.toMembers
  let member := Value.member members
  unless (member "access_token").isPresent do
    throw (.authorization "access_token" "Token response has no access_token")
  let expiresIn := (← secondsOf (member "expires_in")).getD defaultLifetime
  let extExpiresIn ← secondsOf (member "ext_expires_in")
  let scope ← scopesOf (member "scope")
  let received ← Instant.ofSeconds clock
  let expiresOn ← received.plus (.whole expiresIn)
  pure {
    expiresOn, logPii
    expiresIn := .int expiresIn
    accessToken := member "access_token"
    tokenType := (member "token_type").orElse (.text "Bearer")
    extExpiresIn := (extExpiresIn.map Value.int).getD .null
    scope := .list scope
    refreshToken := member "refresh_token"
    idToken := member "id_token"
    state := member "state"
    correlationId := member "correlation_id"
    clientInfo := member "client_info"
    timestamp := received
    additional := Value.without knownNames members }

/-- A token of parts by name. It is received at the time that the clock shows and expires at the end
of its lifetime unless other instants are given. -/
def ofParts (parts : Members) (clock : Number) (received expiresOn : Option Instant) :
    Except Failure Token := do
  let part := Value.member parts
  let known := knownNames ++ ["additional_fields", "log_pii"]
  unless parts.all fun (name, _) => known.contains name do throw .wrongKind
  let some accessToken := Assoc.get? "access_token" parts | throw .wrongKind
  let expiresIn := (Assoc.get? "expires_in" parts).getD (.int defaultLifetime)
  let timestamp ← received.elim (Instant.ofSeconds clock) pure
  let expiresOn ← match expiresOn with
    | some expiresOn => pure expiresOn
    | none => timestamp.plus (← expiresIn.toNumber)
  pure {
    accessToken, expiresIn, timestamp, expiresOn
    tokenType := (Assoc.get? "token_type" parts).getD (.text "Bearer")
    extExpiresIn := part "ext_expires_in"
    scope := (Assoc.get? "scope" parts).getD (.list [])
    refreshToken := part "refresh_token"
    idToken := part "id_token"
    state := part "state"
    correlationId := part "correlation_id"
    clientInfo := part "client_info"
    additional := (part "additional_fields").members?.getD []
    logPii := (part "log_pii").isPresent }

/-- Whether a token has expired at an instant. -/
def isExpired (token : Token) (now : Instant) : Bool := token.expiresOn.micros ≤ now.micros

/-- Whether a token has expired or will within some seconds of an instant. -/
def isExpiredWithin (token : Token) (buffer : Number) (now : Instant) : Except Failure Bool :=
  (token.expiresOn.minus buffer).map fun limit => decide (limit.micros ≤ now.micros)

/-- The whole seconds until a token expires; none once it has. -/
def remaining (token : Token) (now : Instant) : Option Int :=
  if token.isExpired now then none
  else some ((token.expiresOn.micros - now.micros) / Instant.perSecond)

/-- A token with another refresh token. -/
def withRefreshToken (token : Token) (refreshToken : Value) : Token := { token with refreshToken }

/-- The header that presents a token. -/
def bearerHeader (token : Token) : Members :=
  [("Authorization", .text ("Bearer " ++ token.accessToken.plainText))]

/-- The texts of the scopes, separated by spaces. -/
def scopeText (token : Token) : Except Failure String := do
  Value.joinTexts " " (← token.scope.toItems)

/-- The members that are written only when they are present, with their names. -/
def optionalMembers (token : Token) : Members :=
  [("ext_expires_in", token.extExpiresIn), ("refresh_token", token.refreshToken),
    ("id_token", token.idToken), ("state", token.state), ("correlation_id", token.correlationId),
    ("client_info", token.clientInfo)]

/-- The JSON object of a token. -/
def toMembers (token : Token) : Except Failure Members := do
  let scope ← token.scopeText
  let required : Members :=
    [("access_token", token.accessToken), ("token_type", token.tokenType),
      ("expires_in", token.expiresIn), ("scope", .text scope)]
  let optional := token.optionalMembers.filter fun (_, value) => !value.isNull
  pure (Assoc.update token.additional (required ++ optional))

/-- The debug text of a token. -/
def describe (token : Token) : String :=
  let shown (value : Value) := (masked token.logPii value).quotedText
  "Token(token_type=" ++ token.tokenType.quotedText ++ ", expires_in=" ++
    token.expiresIn.quotedText ++ ", scope=" ++ token.scope.quotedText ++ ", expires_on=" ++
    Text.quoted token.expiresOn.isoText ++ ", access_token=" ++ shown token.accessToken ++
    ", refresh_token=" ++ shown token.refreshToken ++ ", id_token=" ++ shown token.idToken ++ ")"

end Token

end OAuthClient
