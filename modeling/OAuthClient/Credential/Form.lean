import OAuthClient.Credential.Basic
import OAuthClient.Identity.ParameterMap

/-!
# Token request forms

The form by which each grant asks for a token. A credential that holds a refresh token redeems that;
otherwise it presents its own grant.
-/

namespace OAuthClient

namespace ClientProof

/-- Adds a secret to a form and says which parameters it makes required. -/
def addSecret (map : ParameterMap) (secret : Value) (basic : Bool) :
    Except Failure (ParameterMap × List Parameter) := do
  unless secret.isPresent do throw (.required Parameter.clientSecret.wireName)
  if Text.isBlankText (← secret.toText) then throw (.required Parameter.clientSecret.wireName)
  if basic then pure (map, [])
  else pure (map.insert .clientSecret secret, [.clientSecret])

/-- Adds an assertion to a form and says which parameters it makes required. -/
def addAssertion (map : ParameterMap) (config : AppConfig) :
    Option ClientAssertion → Action World (ParameterMap × List Parameter)
  | none => throw (.required Parameter.clientAssertion.wireName)
  | some given => do
      let signed ← given.value (.text config.clientId) config.tenant
      let map := (map.insert .clientAssertion signed).insertText .clientAssertionType
        ClientAssertion.kind
      pure (map, [.clientAssertion, .clientAssertionType])

/-- Adds a proof to a form and says which parameters it makes required. -/
def addTo (proof : ClientProof) (map : ParameterMap) (config : AppConfig) :
    Action World (ParameterMap × List Parameter) :=
  match proof with
  | .secret word basic => Action.ofExcept (addSecret map word basic)
  | .assertion given => addAssertion map config given

/-- Adds the proof of a client that redeems a code: one without a secret may rely on a verifier. -/
def addToCode (proof : ClientProof) (verifier : Value) (map : ParameterMap) (config : AppConfig) :
    Action World (ParameterMap × List Parameter) :=
  match proof with
  | .secret .null _ =>
      if verifier.isPresent then pure (map, []) else proof.addTo map config
  | _ => proof.addTo map config

end ClientProof

namespace Credential

/-- The fields of a form. -/
abbrev Fields := List (String × String)

/-- The scope of an application that asks for no other. -/
def defaultScope : String := "https://graph.microsoft.com/.default"

/-- The kind of grant that a form for a device code names. -/
def deviceCodeKind : String := "urn:ietf:params:oauth:grant-type:device_code"

/-- The kind of grant that a form on behalf of a user names. -/
def onBehalfOfKind : String := "urn:ietf:params:oauth:grant-type:jwt-bearer"

/-- The scopes that a credential asks for. -/
def scopes (credential : Credential) : List Value :=
  match credential.grant with
  | .authorizationCode true .. => .text "openid" :: credential.config.scope
  | .clientCredentials _ =>
      if credential.config.scope.isEmpty then [.text defaultScope] else credential.config.scope
  | _ => credential.config.scope

/-- The parameters that every form of an application starts with. -/
def identified (config : AppConfig) : ParameterMap :=
  ({ logPii := config.logPii } : ParameterMap).insertText .clientId config.clientId

/-- The parameters that every form of a credential starts with. -/
def started (credential : Credential) : ParameterMap :=
  (identified credential.config).addScopes credential.scopes

/-- Fails when a text is blank. -/
def requireWords (value : Value) (parameter : Parameter) (reason : String) :
    Except Failure Unit := do
  if Text.isBlankText (← value.toText) then throw (.authorization parameter.wireName reason)

/-- The form that redeems a refresh token. -/
def refreshForm (map : ParameterMap) (token : Value) (proof : List Parameter) :
    Except Failure Fields :=
  ((map.insertText .grantType "refresh_token").insert .refreshToken token).toForm [.scope]
    ([.clientId, .refreshToken, .grantType] ++ proof)

/-- The form that redeems an authorization code. -/
def codeForm (map : ParameterMap) (config : AppConfig) (code verifier : Value)
    (proof : List Parameter) : Except Failure Fields :=
  let map := (map.insertText .grantType "authorization_code").insert .authorizationCode code
  let map := (map.insert .redirectUri config.redirectUri).insert .codeVerifier verifier
  map.toForm [.scope, .codeVerifier]
    ([.clientId, .redirectUri, .authorizationCode, .grantType] ++ proof)

/-- The form of a grant for an authorization code. -/
def authorizationCodeForm (credential : Credential) (code verifier : Value)
    (proof : ClientProof) : Action World Fields := do
  let map := credential.started
  let token := credential.refreshToken
  if !token.isNull then
    Action.ofExcept (requireWords token .refreshToken "Refresh token is empty")
    let (map, required) ← proof.addToCode verifier map credential.config
    Action.ofExcept (refreshForm map token required)
  else if !code.isNull then
    Action.ofExcept (requireWords code .authorizationCode "Authorization code is empty")
    let (map, required) ← proof.addToCode verifier map credential.config
    Action.ofExcept (codeForm map credential.config code verifier required)
  else throw (.authorization "code or refresh_token"
    "Either authorization code or refresh token is required")

/-- The form by which an application asks for a token of its own. -/
def clientCredentialsForm (credential : Credential) :
    Option ClientProof → Action World Fields
  | none => throw .noGrant
  | some proof => do
      let map := credential.started.insertText .grantType "client_credentials"
      let (map, required) ← proof.addTo map credential.config
      Action.ofExcept (map.toForm [] ([.clientId, .grantType, .scope] ++ required))

/-- The form of a grant for a device code. -/
def deviceCodeForm (credential : Credential) (code : Value) : Except Failure Fields := do
  let map := credential.started
  let token := credential.refreshToken
  if !token.isNull then
    requireWords token .refreshToken "Refresh token is empty"
    refreshForm map token []
  else if !code.isNull then
    requireWords code .deviceCode "Device code is empty"
    ((map.insertText .grantType deviceCodeKind).insert .deviceCode code).toForm [.scope]
      [.clientId, .deviceCode, .grantType]
  else throw (.authorization "device_code or refresh_token"
    "Either device code or refresh token is required")

/-- The form of a grant on behalf of a user. -/
def onBehalfOfForm (credential : Credential) (assertion : Value) (proof : ClientProof) :
    Action World Fields := do
  let (map, required) ← proof.addTo credential.started credential.config
  if credential.refreshToken.isPresent then
    Action.ofExcept (refreshForm map credential.refreshToken required)
  else
    let map := (map.insertText .grantType onBehalfOfKind).insert .assertion assertion
    let map := map.insertText .requestedTokenUse "on_behalf_of"
    Action.ofExcept (map.toForm []
      ([.clientId, .grantType, .assertion, .requestedTokenUse, .scope] ++ required))

/-- Fails when a value is missing or blank. -/
def requirePresent (value : Value) (parameter : Parameter) : Except Failure Unit := do
  unless value.isPresent do throw (.required parameter.wireName)
  if Text.isBlankText (← value.toText) then throw (.required parameter.wireName)

/-- The form of a grant by name and password. -/
def passwordForm (credential : Credential) (username password : Value) :
    Except Failure Fields := do
  if credential.refreshToken.isPresent then
    refreshForm credential.started credential.refreshToken []
  else
    requirePresent username .username
    requirePresent password .password
    let map := credential.started.insertText .grantType "password"
    ((map.insert .username username).insert .password password).toForm [.scope]
      [.clientId, .grantType, .username, .password]

/-- The form by which a credential asks for a token. -/
def form (credential : Credential) : Action World Fields :=
  match credential.grant with
  | .unspecified => throw .noGrant
  | .authorizationCode _ code verifier proof =>
      credential.authorizationCodeForm code verifier proof
  | .clientCredentials proof => credential.clientCredentialsForm proof
  | .deviceCode code => Action.ofExcept (credential.deviceCodeForm code)
  | .onBehalfOf assertion proof => credential.onBehalfOfForm assertion proof
  | .password username password => Action.ofExcept (credential.passwordForm username password)

end Credential

end OAuthClient
