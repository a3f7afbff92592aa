import OAuthClient.Identity.AppConfig
import OAuthClient.Identity.ParameterMap
import OAuthClient.Identity.ProofKey
import OAuthClient.Identity.SignIn

/-!
# Authorization URLs

The URL to which a user or an administrator is sent. What a URL needs is checked when its query is
made, the prompts and the kind of its options already when it is opened. An ID token is never asked
for in the query of the response: its response mode is the fragment unless it is posted.
-/

namespace OAuthClient

/-- What a user signs in for. -/
inductive SignInFlow where
  /-- A code that is redeemed for tokens. -/
  | code
  /-- OpenID Connect; the scope for it is always asked for. -/
  | openId
  /-- Tokens in the response itself. -/
  | implicit
  deriving DecidableEq, Repr

/-- The options of a sign-in URL once they are checked. -/
structure SignIn where
  /-- What the user signs in for. -/
  flow : SignInFlow
  /-- What sign-in yields, a set. -/
  responseTypes : List Value
  /-- How the response is carried. -/
  responseMode : Value
  /-- A value that the response brings back. -/
  state : Value
  /-- A value that the ID token brings back. -/
  nonce : Value
  /-- What the user is asked, in order. -/
  prompts : List String
  /-- The domain of the user. -/
  domainHint : Value
  /-- The name of the user. -/
  loginHint : Value
  /-- The challenge of a proof key. -/
  codeChallenge : Value
  /-- How the challenge was made. -/
  codeChallengeMethod : Value

/-- What an authorization URL is for. -/
inductive AuthorizationPurpose where
  /-- A user signs in. -/
  | signIn (options : SignIn)
  /-- An administrator consents to what an application may do on its own. -/
  | adminConsent (state : Value)
  /-- Left open; there is no query then. -/
  | unspecified

/-- An authorization URL that is being made. -/
structure AuthorizationUrl where
  /-- The application. -/
  config : AppConfig
  /-- What the URL is for. -/
  purpose : AuthorizationPurpose

namespace SignInFlow

/-- The response type of a flow when none is given. -/
def defaultResponseType : SignInFlow → String
  | .implicit => "token"
  | _ => "code"

/-- The response mode of a flow when none is given. -/
def defaultResponseMode : SignInFlow → Value
  | .implicit => .text "fragment"
  | _ => .null

/-- Whether a flow takes an option; only a code can be bound to a proof key. -/
def takes (flow : SignInFlow) (option : String) : Bool :=
  flow == .code || (option != "code_challenge" && option != "code_challenge_method")

/-- The response types of the OpenID flow. -/
def openIdResponseTypes : List String := ["code", "id_token", "code id_token", "id_token token"]

/-- The response types of the implicit flow. -/
def implicitResponseTypes : List String := ["token", "id_token", "id_token token"]

end SignInFlow

namespace SignIn

/-- The options of a sign-in URL, checked. An OpenID sign-in without a nonce gets a random one. -/
def ofOptions (flow : SignInFlow) (options : SignInOptions) : Action World SignIn := do
  let given ← Action.ofExcept (Choice.ofValue options.responseType)
  let prompts ← Action.ofExcept (Choice.promptsOf options.prompt)
  let responseTypes := if given.isEmpty then [.text flow.defaultResponseType] else given
  let nonce ←
    if flow == .openId && !options.nonce.isPresent then do pure (Value.text (← World.randomText))
    else pure options.nonce
  pure {
    flow, responseTypes, nonce, prompts
    responseMode := options.responseMode.getD flow.defaultResponseMode
    state := options.state
    domainHint := options.domainHint
    loginHint := options.loginHint
    codeChallenge := options.codeChallenge
    codeChallengeMethod := options.codeChallengeMethod }

/-- Whether the sign-in yields an ID token in its response. -/
def yieldsIdToken (options : SignIn) : Bool := Choice.contains options.responseTypes "id_token"

/-- The response mode that is asked for: an ID token must never travel in the query. -/
def safeResponseMode (options : SignIn) : Value :=
  if options.yieldsIdToken && !options.responseMode.same (.text "form_post") then .text "fragment"
  else options.responseMode

/-- The optional parameters of every sign-in URL. -/
def commonParameters : List Parameter :=
  [.responseMode, .state, .prompt, .loginHint, .domainHint]

/-- The parameters of a sign-in URL, without the proof key. -/
def parameters (options : SignIn) (config : AppConfig) (scopes : List Value) :
    Except Failure ParameterMap := do
  let map : ParameterMap := { logPii := config.logPii }
  let map := (map.insertText .clientId config.clientId).addScopes scopes
  let map ← map.responseTypes (.list options.responseTypes)
  let map := map.insert .state options.state
  let map := map.insert .nonce options.nonce
  let map := map.insert .domainHint options.domainHint
  let map := map.insert .loginHint options.loginHint
  let map :=
    if options.prompts.isEmpty then map
    else map.insertText .prompt (String.intercalate " " options.prompts)
  pure ((map.insert .responseMode options.safeResponseMode).insert .redirectUri config.redirectUri)

/-- A map with the proof key of a sign-in. -/
def withProofKey (options : SignIn) (map : ParameterMap) : ParameterMap :=
  if options.codeChallenge.isPresent then
    (map.insert .codeChallenge options.codeChallenge).insert .codeChallengeMethod
      (options.codeChallengeMethod.orElse (.text ProofKey.digestMethod))
  else map

end SignIn

namespace AuthorizationUrl

/-- Fails when a value is missing or blank. -/
def require (value : Value) (parameter : Parameter) : Except Failure Unit :=
  if value.isNull || Text.isBlankText value.plainText then .error (.required parameter.wireName)
  else .ok ()

/-- Fails when there are no scopes. -/
def requireScope (config : AppConfig) : Except Failure Unit :=
  if config.scope.isEmpty then .error (.required Parameter.scope.wireName) else .ok ()

/-- What is said when the OpenID flow does not take a response type. -/
def openIdRefusal : Failure :=
  .authorization "response_type"
    ("response_type is not supported - supported response types are: " ++
      String.intercalate ", " (SignInFlow.openIdResponseTypes.map fun s => "`" ++ s ++ "`"))

/-- The query of a sign-in for a code. -/
def codeQuery (config : AppConfig) (options : SignIn) : Except Failure String := do
  require config.redirectUri .redirectUri
  requireScope config
  let map ← options.parameters config config.scope
  (options.withProofKey map).toQuery
    (SignIn.commonParameters ++ [.nonce, .codeChallenge, .codeChallengeMethod])
    [.clientId, .responseType, .redirectUri, .scope]

/-- The query of an OpenID sign-in. -/
def openIdQuery (config : AppConfig) (options : SignIn) : Except Failure String := do
  let requested ← Choice.sortedText options.responseTypes
  unless SignInFlow.openIdResponseTypes.contains requested do throw openIdRefusal
  let map ← options.parameters config (.text "openid" :: config.scope)
  map.toQuery (SignIn.commonParameters ++ [.redirectUri]) [.clientId, .responseType, .scope, .nonce]

/-- The query of a sign-in for tokens in the response. -/
def implicitQuery (config : AppConfig) (options : SignIn) : Except Failure String := do
  let requested ← Choice.sortedText options.responseTypes
  unless SignInFlow.implicitResponseTypes.contains requested do
    throw (.authorization "response_type" ("Unsupported response_type: " ++ requested))
  if options.yieldsIdToken then require options.nonce .nonce
  require config.redirectUri .redirectUri
  requireScope config
  let map ← options.parameters config config.scope
  map.toQuery (SignIn.commonParameters ++ [.nonce]) [.clientId, .responseType, .redirectUri, .scope]

/-- The query for the consent of an administrator. -/
def consentQuery (config : AppConfig) (state : Value) : Except Failure String := do
  require config.redirectUri .redirectUri
  let map : ParameterMap := { logPii := config.logPii }
  let map := (map.insertText .clientId config.clientId).insert .redirectUri config.redirectUri
  (map.insert .state state).toQuery [.state] [.clientId, .redirectUri]

/-- The query of a URL. -/
def query (url : AuthorizationUrl) : Except Failure String :=
  match url.purpose with
  | .signIn options =>
      match options.flow with
      | .code => codeQuery url.config options
      | .openId => openIdQuery url.config options
      | .implicit => implicitQuery url.config options
  | .adminConsent state => consentQuery url.config state
  | .unspecified => .error .noGrant

/-- The address without the query. -/
def endpoint (url : AuthorizationUrl) : String :=
  match url.purpose with
  | .adminConsent _ => url.config.cloud.adminConsentEndpoint url.config.authority
  | _ => url.config.cloud.authorizationEndpoint url.config.authority

/-- A query with the extra parameters of the application. -/
def withExtra (config : AppConfig) (query : String) : String :=
  if config.extraQuery.isEmpty then query
  else
    let extra := Text.Form.encode
      (config.extraQuery.map fun (name, value) => (name, value.plainText))
    if query.isEmpty then extra else query ++ "&" ++ extra

/-- The whole URL. -/
def render (url : AuthorizationUrl) : Except Failure String :=
  url.query.map fun query => url.endpoint ++ "?" ++ withExtra url.config query

/-- The nonce that the URL carries, if it is for a sign-in. -/
def nonce (url : AuthorizationUrl) : Value :=
  match url.purpose with
  | .signIn options => options.nonce
  | _ => .null

/-- The URL with a proof key; only a sign-in for a code can have one. -/
def withProofKey (url : AuthorizationUrl) (key : ProofKey) : Except Failure AuthorizationUrl :=
  match url.purpose with
  | .signIn options =>
      if options.flow == .code then
        .ok { url with purpose := .signIn { options with
          codeChallenge := key.challenge, codeChallengeMethod := key.method } }
      else .error .noSuchPart
  | _ => .error .noSuchPart

/-- Opens the URL of a sign-in with options by name; options that the flow does not take are
refused. -/
def openSignIn (flow : SignInFlow) (config : AppConfig) (options : Members) :
    Action World AuthorizationUrl := do
  unless options.all fun (name, _) => flow.takes name do throw .wrongKind
  let options ← SignIn.ofOptions flow (← Action.ofExcept (SignInOptions.ofMembers options))
  pure { config, purpose := .signIn options }

/-- Opens the URL for the consent of an administrator with options by name. -/
def openConsent (config : AppConfig) (options : Members) : Except Failure AuthorizationUrl :=
  if options.all fun (name, _) => name == "state" then
    .ok { config, purpose := .adminConsent (Value.member options "state") }
  else .error .wrongKind

/-- Opens a URL whose purpose is left open. -/
def openUnspecified (config : AppConfig) (options : Members) : Except Failure AuthorizationUrl :=
  if options.isEmpty then .ok { config, purpose := .unspecified } else .error .wrongKind

end AuthorizationUrl

end OAuthClient
