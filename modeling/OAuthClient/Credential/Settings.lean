import OAuthClient.Credential.Form

/-!
# Credentials from settings

Which settings each kind of credential takes and needs. A setting that the kind does not take, and
one that it needs and does not get, is refused.
-/

namespace OAuthClient

/-- The kinds of credentials. -/
inductive CredentialKind where
  /-- Redeems an authorization code. -/
  | authorizationCode
  /-- Redeems an authorization code and signs assertions. -/
  | authorizationCodeCertificate
  /-- Redeems an authorization code of an OpenID sign-in. -/
  | openId
  /-- An application with a secret. -/
  | clientSecret
  /-- An application that signs assertions. -/
  | clientCertificate
  /-- An application whose proof is left open. -/
  | clientCredentials
  /-- Signs a user in on another device. -/
  | deviceCode
  /-- Acts for the user who called the application. -/
  | onBehalfOf
  /-- Signs a user in by name and password. -/
  | password
  /-- The grant is left open. -/
  | unspecified
  deriving DecidableEq, Repr

/-- The settings of a credential: named values, and how an assertion is given, if one is. -/
structure CredentialSettings where
  /-- The named values. -/
  values : Members := []
  /-- How an assertion is given. -/
  assertion : Option AssertionSetting := none

namespace CredentialKind

/-- The names of the values that a kind needs. -/
def needs : CredentialKind → List String
  | .clientSecret => ["client_secret"]
  | .onBehalfOf => ["user_assertion"]
  | .password => ["username", "password"]
  | _ => []

/-- The names of the values that a kind takes beside those it needs. -/
def options : CredentialKind → List String
  | .authorizationCode | .openId =>
      ["authorization_code", "client_secret", "refresh_token", "code_verifier"]
  | .authorizationCodeCertificate => ["authorization_code", "refresh_token", "code_verifier"]
  | .clientSecret => ["use_basic_auth"]
  | .deviceCode => ["device_code", "refresh_token"]
  | .onBehalfOf => ["client_secret"]
  | _ => []

/-- Whether a kind takes an assertion. -/
def takesAssertion : CredentialKind → Bool
  | .authorizationCodeCertificate | .clientCertificate | .onBehalfOf => true
  | _ => false

/-- Whether a kind needs an assertion, be it null. -/
def needsAssertion (kind : CredentialKind) : Bool := kind == .clientCertificate

/-- Whether settings are those that a kind takes and needs. -/
def accepts (kind : CredentialKind) (settings : CredentialSettings) : Bool :=
  let names := settings.values.map Prod.fst
  kind.needs.all names.contains &&
    names.all (fun name => kind.needs.contains name || kind.options.contains name) &&
    (kind.takesAssertion || settings.assertion.isNone) &&
    (!kind.needsAssertion || settings.assertion.isSome)

end CredentialKind

namespace CredentialSettings

/-- The value of a name. -/
def value (settings : CredentialSettings) (name : String) : Value :=
  Value.member settings.values name

/-- The assertion that the settings mean, if any. -/
def resolveAssertion (settings : CredentialSettings) : Except Failure (Option ClientAssertion) :=
  match settings.assertion with
  | none => .ok none
  | some setting => setting.resolve

/-- Whether the settings mean no assertion at all. -/
def lacksAssertion (settings : CredentialSettings) : Bool :=
  match settings.assertion with
  | none | some (.text .null) => true
  | _ => false

/-- Fails when the settings give both a code and a refresh token. -/
def requireOneGrant (settings : CredentialSettings) : Except Failure Unit :=
  if (settings.value "authorization_code").isPresent &&
      (settings.value "refresh_token").isPresent then
    .error (.authorization "authorization_code"
      ("Authorization code and refresh token cannot be set at the same time" ++
        " - choose one or the other"))
  else .ok ()

/-- The grant for an authorization code. -/
def codeGrant (settings : CredentialSettings) (openId : Bool) (proof : ClientProof) : Grant :=
  .authorizationCode openId (settings.value "authorization_code") (settings.value "code_verifier")
    proof

/-- The grant of a kind with some settings. -/
def grant (settings : CredentialSettings) : CredentialKind → Except Failure Grant
  | .authorizationCode => do
      settings.requireOneGrant
      pure (settings.codeGrant false (.secret (settings.value "client_secret") false))
  | .openId => do
      settings.requireOneGrant
      pure (settings.codeGrant true (.secret (settings.value "client_secret") false))
  | .authorizationCodeCertificate => do
      settings.requireOneGrant
      pure (settings.codeGrant false (.assertion (← settings.resolveAssertion)))
  | .clientSecret =>
      .ok (.clientCredentials (some (.secret (settings.value "client_secret")
        (settings.value "use_basic_auth").isPresent)))
  | .clientCertificate => do
      pure (.clientCredentials (some (.assertion (← settings.resolveAssertion))))
  | .clientCredentials => .ok (.clientCredentials none)
  | .deviceCode => .ok (.deviceCode (settings.value "device_code"))
  | .onBehalfOf => do
      if (settings.value "client_secret").isNull && settings.lacksAssertion then
        throw (.authorization "client_secret" "A client secret or client assertion is required")
      let proof := match ← settings.resolveAssertion with
        | some assertion => ClientProof.assertion (some assertion)
        | none => .secret (settings.value "client_secret") false
      pure (.onBehalfOf (settings.value "user_assertion") proof)
  | .password => .ok (.password (settings.value "username") (settings.value "password"))
  | .unspecified => .ok .unspecified

end CredentialSettings

/-- The credential of a kind with some settings. -/
def Credential.ofSettings (kind : CredentialKind) (config : AppConfig) (client : HttpClient)
    (settings : CredentialSettings) : Except Failure Credential := do
  unless kind.accepts settings do throw .wrongKind
  let grant ← settings.grant kind
  pure { config, client, grant, refreshToken := settings.value "refresh_token" }

end OAuthClient
