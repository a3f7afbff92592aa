import OAuthClient.Credential.Form
import OAuthClient.Identity.Token
import OAuthClient.Identity.TokenCache

/-!
# Acquiring tokens

Asking the token endpoint for a token, keeping the answer in a cache, and taking it from there while
it is good for some minutes more. The operations work on a credential, the cache it uses and the
world. Nothing is stored unless the whole exchange succeeded.
-/

namespace OAuthClient

/-- The error that an answer of the token endpoint carries. An answer without an error code gets one
from its status, and one without a description is described by its body. -/
def ServiceError.ofResponse (response : Response) : Except Failure ServiceError := do
  let members := response.jsonOrEmpty.members?.getD []
  let member := Value.member members
  let codes := member "error_codes"
  pure {
    error := (member "error").orElse (.text ("http_" ++ toString response.status))
    description := (member "error_description").orElse (.text response.text)
    status := some response.status
    codes := ← if codes.isPresent then codes.toItems else pure []
    trace := member "trace_id"
    correlation := member "correlation_id" }

/-- The token of an answer that is received when the clock shows a time. -/
def Token.ofAnswer (response : Response) (logPii : Bool) (clock : Number) :
    Except Failure Token := do
  unless response.isOk do throw (.service (← ServiceError.ofResponse response))
  match response.json with
  | .ok body => Token.ofResponse body logPii clock
  | .error _ => throw (.execution "Token endpoint returned a non-JSON body" (some response.status))

/-- A request whose failures in transport are told as failures to execute it. -/
def asExecution (what : String) (request : Action World Response) : Action World Response := do
  match ← request.attempt with
  | .ok response => pure response
  | .error failure =>
      match failure with
      | .transport _ reason => throw (.execution (what ++ " failed: " ++ reason) none)
      | _ => throw failure

namespace Credential

/-- Posts a form of a credential with the headers and the parameters of its application. -/
def post (credential : Credential) (what uri : String) (fields : Fields)
    (auth : Option (Value × Value)) : Action World Response :=
  let extra := credential.config.extraQuery
  asExecution (what ++ " to " ++ uri)
    (credential.client.postForm (.text uri) (fields.map fun (name, text) => (name, .text text))
      credential.config.extraHeaders (if extra.isEmpty then none else some extra) auth)

/-- Asks the token endpoint for a token. -/
def execute (credential : Credential) : Action World Response := do
  let fields ← credential.form
  credential.post "Token request" credential.config.tokenEndpoint fields credential.requestAuth?

end Credential

/-- A credential with the cache it uses and the world it acts in. -/
structure Context where
  credential : Credential
  /-- The cache, which other credentials may use as well. -/
  cache : TokenCache Token := {}
  world : World

namespace Context

/-- An operation on the world. -/
def inWorld {α : Type} (action : Action World α) : Action Context α := fun context =>
  let (outcome, world) := action.perform context.world
  (outcome, { context with world })

/-- The token that is cached for the credential's application. -/
def cached? (context : Context) : Option Token :=
  context.cache.get? context.credential.config.cacheId

/-- Changes the credential. -/
def setCredential (change : Credential → Credential) : Action Context Unit :=
  modify fun context => { context with credential := change context.credential }

/-- Changes the credential where that is possible. -/
def changeCredential (change : Credential → Except Failure Credential) : Action Context Unit := do
  let credential ← Action.ofExcept (change (← get).credential)
  setCredential fun _ => credential

/-- Asks the token endpoint for a token. -/
def execute : Action Context Response := do inWorld (← get).credential.execute

/-- The token as it is kept: one without a refresh token inherits that of the credential. -/
def inheriting (credential : Credential) (token : Token) : Token :=
  if token.refreshToken.isPresent && credential.supportsRefresh then token
  else if credential.refreshToken.isPresent && !token.refreshToken.isPresent then
    token.withRefreshToken credential.refreshToken
  else token

/-- The credential once it has obtained a token: it takes over the refresh token, if it can redeem
one. -/
def renewed (credential : Credential) (token : Token) : Credential :=
  if token.refreshToken.isPresent && credential.supportsRefresh then
    credential.setRefreshToken token.refreshToken
  else credential

/-- Keeps a token in the cache and its refresh token in the credential. -/
def keep (context : Context) (token : Token) : Context :=
  { context with
    credential := renewed context.credential token
    cache := context.cache.store context.credential.config.cacheId
      (inheriting context.credential token) }

/-- Keeps a token and yields it as it is kept. -/
def storeToken (token : Token) : Action Context Token := do
  let context ← get
  set (context.keep token)
  pure (inheriting context.credential token)

/-- The token of an answer that has just arrived. -/
def readToken (response : Response) : Action Context Token := do
  let context ← get
  Action.ofExcept
    (Token.ofAnswer response context.credential.config.logPii context.world.now)

/-- Obtains a token by the credential's grant and keeps it. -/
def getToken : Action Context Token := do
  let response ← execute
  let token ← readToken response
  storeToken token

/-- Takes the token from the cache while it is good; otherwise redeems its refresh token or runs the
grant. -/
def fromCache : Action Context Token := do
  let context ← get
  match context.cached? with
  | none => getToken
  | some token =>
      let now ← Action.ofExcept context.world.instant
      let stale ← Action.ofExcept (token.isExpiredWithin (.whole Token.refreshBuffer) now)
      if !stale then pure token
      else
        if token.refreshToken.isPresent && context.credential.supportsRefresh then
          setCredential (·.setRefreshToken token.refreshToken)
        getToken

/-- Obtains a token without asking anybody when the cache has a good one, unless the cache is to be
bypassed. -/
def getTokenSilent : Action Context Token := do
  match (← get).credential.config.force with
  | .never => fromCache
  | .once => do
      setCredential (·.withForce .never)
      getToken
  | .always => getToken

/-- Removes the cached token. -/
def clearCache : Action Context Unit :=
  modify fun context =>
    { context with cache := context.cache.evict context.credential.config.cacheId }

end Context

end OAuthClient
