import OAuthClient.Credential.Context
import OAuthClient.Identity.AuthorizationUrl
import OAuthClient.Identity.IdToken

/-!
# Credentials and sign-in

The authorization URL that belongs to a credential, and the ID token that an OpenID credential
obtains along with its access token.
-/

namespace OAuthClient

/-- Opens the authorization URL that leads to a credential's grant, with options by name. -/
def Credential.openUrl (credential : Credential) (options : Members) :
    Action World AuthorizationUrl :=
  match credential.grant with
  | .authorizationCode true .. => AuthorizationUrl.openSignIn .openId credential.config options
  | .authorizationCode .. => AuthorizationUrl.openSignIn .code credential.config options
  | .clientCredentials _ =>
      Action.ofExcept (AuthorizationUrl.openConsent credential.config options)
  | _ => throw .noSuchPart

namespace Context

/-- Obtains a token and yields the ID token that came along with it, if any. -/
def getIdToken : Action Context (Option IdToken) := do
  match (← get).credential.grant with
  | .authorizationCode true .. => do
      let token ← getTokenSilent
      if token.idToken.isPresent then
        pure (some {
          idToken := token.idToken
          state := token.state
          logPii := (← get).credential.config.logPii })
      else pure none
  | _ => throw .noSuchPart

end Context

end OAuthClient
