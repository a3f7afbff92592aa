import OAuthClient.Exchange.Client
import OAuthClient.Identity.AppConfig
import OAuthClient.Identity.Assertion
import OAuthClient.Identity.ProofKey

/-!
# Credentials

The grants by which an application obtains tokens, what each of them holds, and how a credential
changes when it is given a code or a refresh token. A code and a refresh token exclude each other:
whichever is set last is the one that will be redeemed.
-/

namespace OAuthClient

/-- How an application proves who it is. -/
inductive ClientProof where
  /-- By a secret, sent as HTTP credentials when `basic` holds and in the form otherwise. -/
  | secret (secret : Value) (basic : Bool)
  /-- By a signed assertion. -/
  | assertion (assertion : Option ClientAssertion)

/-- What entitles to a token. -/
inductive Grant where
  /-- Nothing; the grant is left open. -/
  | unspecified
  /-- A code from a sign-in, bound to a proof key when there is a verifier. -/
  | authorizationCode (openId : Bool) (code verifier : Value) (proof : ClientProof)
  /-- The application itself. Without a proof that is left open, too. -/
  | clientCredentials (proof : Option ClientProof)
  /-- A code for a sign-in on another device. -/
  | deviceCode (code : Value)
  /-- The token with which a user called the application. -/
  | onBehalfOf (assertion : Value) (proof : ClientProof)
  /-- The name and the password of a user. -/
  | password (username password : Value)

/-- A grant as an application uses it. -/
structure Credential where
  /-- The application. -/
  config : AppConfig
  /-- How requests are sent. -/
  client : HttpClient
  /-- What entitles to a token. -/
  grant : Grant
  /-- A token that yields further tokens. -/
  refreshToken : Value := .null

namespace Grant

/-- The name of a grant in messages and debug text. -/
def name : Grant → String
  | .unspecified => "TokenCredentialExecutor"
  | .authorizationCode true .. => "OpenIdCredential"
  | .authorizationCode _ _ _ (.secret ..) => "AuthorizationCodeCredential"
  | .authorizationCode _ _ _ (.assertion _) => "AuthorizationCodeCertificateCredential"
  | .clientCredentials none => "ClientCredentialsCredential"
  | .clientCredentials (some (.secret ..)) => "ClientSecretCredential"
  | .clientCredentials (some (.assertion _)) => "ClientCertificateCredential"
  | .deviceCode _ => "DeviceCodeCredential"
  | .onBehalfOf .. => "OnBehalfOfCredential"
  | .password .. => "ResourceOwnerPasswordCredential"

/-- Whether a grant can redeem refresh tokens. -/
def supportsRefresh : Grant → Bool
  | .unspecified | .clientCredentials _ => false
  | _ => true

/-- A grant without its code. -/
def withoutCode : Grant → Grant
  | .authorizationCode openId _ verifier proof => .authorizationCode openId .null verifier proof
  | .deviceCode _ => .deviceCode .null
  | grant => grant

/-- The authorization code of a grant for one. -/
def authorizationCode? : Grant → Option Value
  | .authorizationCode _ code _ _ => some code
  | _ => none

/-- The verifier of a grant for an authorization code. -/
def codeVerifier? : Grant → Option Value
  | .authorizationCode _ _ verifier _ => some verifier
  | _ => none

/-- The device code of a grant for one. -/
def deviceCode? : Grant → Option Value
  | .deviceCode code => some code
  | _ => none

end Grant

namespace Credential

/-- Whether a credential can redeem refresh tokens. -/
def supportsRefresh (credential : Credential) : Bool := credential.grant.supportsRefresh

/-- A credential that will redeem a refresh token next. -/
def setRefreshToken (credential : Credential) (token : Value) : Credential :=
  { credential with refreshToken := token, grant := credential.grant.withoutCode }

/-- A credential that is given a refresh token, if it can redeem one. -/
def withRefreshToken (credential : Credential) (token : Value) : Except Failure Credential :=
  if credential.supportsRefresh then .ok (credential.setRefreshToken token)
  else .error (.authorization "refresh_token"
    (credential.grant.name ++ " cannot redeem refresh tokens"))

/-- A credential that will redeem an authorization code next. -/
def withAuthorizationCode (credential : Credential) (code : Value) : Except Failure Credential :=
  match credential.grant with
  | .authorizationCode openId _ verifier proof =>
      .ok { credential with
        grant := .authorizationCode openId code verifier proof, refreshToken := .null }
  | _ => .error .noSuchPart

/-- A credential that will redeem a device code next. -/
def withDeviceCode (credential : Credential) (code : Value) : Except Failure Credential :=
  match credential.grant with
  | .deviceCode _ => .ok { credential with grant := .deviceCode code, refreshToken := .null }
  | _ => .error .noSuchPart

/-- A credential whose authorization code is bound to a proof key. -/
def withProofKey (credential : Credential) (key : ProofKey) : Except Failure Credential :=
  match credential.grant with
  | .authorizationCode openId code _ proof =>
      .ok { credential with grant := .authorizationCode openId code key.verifier proof }
  | _ => .error .noSuchPart

/-- The application's name and secret, for a credential that could send them as HTTP credentials. -/
def nameAndSecret? (credential : Credential) : Option (Value × Value) :=
  match credential.grant with
  | .clientCredentials (some (.secret secret _)) => some (.text credential.config.clientId, secret)
  | _ => none

/-- The HTTP credentials that are sent. -/
def requestAuth? (credential : Credential) : Option (Value × Value) :=
  match credential.grant with
  | .clientCredentials (some (.secret _ true)) => credential.nameAndSecret?
  | _ => none

/-- A credential with another setting for bypassing the cache. -/
def withForce (credential : Credential) (force : ForceRefresh) : Credential :=
  { credential with config := { credential.config with force } }

/-- The debug text of a credential. -/
def describe (credential : Credential) : String :=
  credential.grant.name ++ "(client_id=" ++
    (masked credential.config.logPii (.text credential.config.clientId)).quotedText ++
    ", authority=" ++ Text.quoted credential.config.authority.name ++ ")"

end Credential

end OAuthClient
