/-!
# OAuth parameters

The names of the parameters on the wire, and which of them carry secrets.
-/

namespace OAuthClient

/-- A parameter of a request. -/
inductive Parameter where
  /-- The identifier of the application. -/
  | clientId
  /-- The secret of the application. -/
  | clientSecret
  /-- Where the user is sent back to. -/
  | redirectUri
  /-- The code that sign-in yielded. -/
  | authorizationCode
  /-- A token for a resource. -/
  | accessToken
  /-- A token that yields further tokens. -/
  | refreshToken
  /-- How the response to sign-in is carried. -/
  | responseMode
  /-- What sign-in yields. -/
  | responseType
  /-- A value that the response brings back. -/
  | state
  /-- The identifier of the session. -/
  | sessionState
  /-- How the request proves its right to a token. -/
  | grantType
  /-- A value that the ID token brings back. -/
  | nonce
  /-- What the user is asked. -/
  | prompt
  /-- A token about the user. -/
  | idToken
  /-- The resource that is asked for. -/
  | resource
  /-- The domain of the user. -/
  | domainHint
  /-- The scopes that are asked for. -/
  | scope
  /-- The name of the user. -/
  | loginHint
  /-- A signed statement of the application. -/
  | clientAssertion
  /-- The kind of that statement. -/
  | clientAssertionType
  /-- The secret of a proof key. -/
  | codeVerifier
  /-- The challenge of a proof key. -/
  | codeChallenge
  /-- How the challenge was made. -/
  | codeChallengeMethod
  /-- Whether an administrator consented. -/
  | adminConsent
  /-- The name of the user who signs in by password. -/
  | username
  /-- The password of the user. -/
  | password
  /-- The code that another device shows. -/
  | deviceCode
  /-- The token that is exchanged on behalf of its user. -/
  | assertion
  /-- What the exchanged token is for. -/
  | requestedTokenUse
  deriving DecidableEq, Repr

namespace Parameter

/-- All parameters. -/
def all : List Parameter :=
  [.clientId, .clientSecret, .redirectUri, .authorizationCode, .accessToken, .refreshToken,
    .responseMode, .responseType, .state, .sessionState, .grantType, .nonce, .prompt, .idToken,
    .resource, .domainHint, .scope, .loginHint, .clientAssertion, .clientAssertionType,
    .codeVerifier, .codeChallenge, .codeChallengeMethod, .adminConsent, .username, .password,
    .deviceCode, .assertion, .requestedTokenUse]

/-- The name of a parameter on the wire. -/
def wireName : Parameter → String
  | .clientId => "client_id"
  | .clientSecret => "client_secret"
  | .redirectUri => "redirect_uri"
  | .authorizationCode => "code"
  | .accessToken => "access_token"
  | .refreshToken => "refresh_token"
  | .responseMode => "response_mode"
  | .responseType => "response_type"
  | .state => "state"
  | .sessionState => "session_state"
  | .grantType => "grant_type"
  | .nonce => "nonce"
  | .prompt => "prompt"
  | .idToken => "id_token"
  | .resource => "resource"
  | .domainHint => "domain_hint"
  | .scope => "scope"
  | .loginHint => "login_hint"
  | .clientAssertion => "client_assertion"
  | .clientAssertionType => "client_assertion_type"
  | .codeVerifier => "code_verifier"
  | .codeChallenge => "code_challenge"
  | .codeChallengeMethod => "code_challenge_method"
  | .adminConsent => "admin_consent"
  | .username => "username"
  | .password => "password"
  | .deviceCode => "device_code"
  | .assertion => "assertion"
  | .requestedTokenUse => "requested_token_use"

/-- The parameter with a name on the wire. -/
def ofWireName? (name : String) : Option Parameter := all.find? (·.wireName == name)

/-- Whether a parameter carries a secret or an identity that debug text must not show. -/
def isSensitive : Parameter → Bool
  | .clientId | .clientSecret | .accessToken | .refreshToken | .idToken | .codeVerifier
  | .codeChallenge | .password | .authorizationCode | .clientAssertion | .assertion
  | .deviceCode => true
  | _ => false

theorem ofWireName?_wireName (parameter : Parameter) :
    ofWireName? parameter.wireName = some parameter := by
  cases parameter <;> decide

theorem wireName_inj {p q : Parameter} (h : p.wireName = q.wireName) : p = q := by
  have := congrArg ofWireName? h
  simpa [ofWireName?_wireName] using this

end Parameter

end OAuthClient
