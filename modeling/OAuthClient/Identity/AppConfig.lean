import OAuthClient.Identity.Authority
import OAuthClient.Text.Base64Url

/-!
# Application configuration

What all credentials of one application registration share, and the key under which its tokens are
cached.
-/

namespace OAuthClient

/-- Whether the cache is bypassed when a token is wanted. -/
inductive ForceRefresh where
  /-- The cache is used. -/
  | never
  /-- The cache is bypassed the next time only. -/
  | once
  /-- The cache is bypassed every time. -/
  | always
  deriving DecidableEq, Repr

/-- The word for a setting. -/
def ForceRefresh.word : ForceRefresh → String
  | .never => "never"
  | .once => "once"
  | .always => "always"

/-- The setting of a word. -/
def ForceRefresh.ofWord? (word : String) : Option ForceRefresh :=
  [.never, .once, .always].find? (·.word == word)

/-- An application registration as its credentials use it. -/
structure AppConfig where
  /-- The identifier of the application, without blank ends. -/
  clientId : String
  /-- The tenant, if one is set or named by the authority. -/
  tenant : Value
  /-- Which accounts may sign in. -/
  authority : Authority
  /-- The cloud of the registration. -/
  cloud : Cloud
  /-- The scopes to ask for. -/
  scope : List Value
  /-- Where the user is sent back to after sign-in. -/
  redirectUri : Value
  /-- Parameters that are added to every query. -/
  extraQuery : Members
  /-- Headers that are added to every token request. -/
  extraHeaders : Members
  /-- Whether the cache is bypassed. -/
  force : ForceRefresh
  /-- Whether debug text shows personal data and secrets. -/
  logPii : Bool

/-- How an authority is given. -/
inductive AuthoritySetting where
  | known (authority : Authority)
  /-- By a value that names it; null leaves it to the tenant. -/
  | named (value : Value)

/-- The settings of an application registration as they are given. -/
structure AppSettings where
  /-- The identifier of the application. -/
  clientId : Value
  tenant : Value := .null
  authority : AuthoritySetting := .named .null
  cloud : Cloud := .worldwide
  /-- The scopes, as a text of words or as something whose items are scopes. -/
  scope : Value := .list []
  /-- Where the user is sent back to. -/
  redirectUri : Value := .null
  /-- Parameters that are added to every query. -/
  extraQuery : Members := []
  /-- Headers that are added to every token request. -/
  extraHeaders : Members := []
  /-- Whether the cache is bypassed. -/
  force : ForceRefresh := .never
  /-- Whether debug text shows personal data and secrets. -/
  logPii : Bool := false

namespace AppConfig

/-- The scopes that a setting lists: a text's words or a value's items. -/
def scopeItems : Value → Except Failure (List Value)
  | .text s => .ok ((Text.wordsOf s).map .text)
  | value => value.toItems

/-- The authority and the tenant that settings mean: without an authority the tenant names it, and
without a tenant the authority does. -/
def resolveAuthority (tenant : Value) : AuthoritySetting → Authority × Value
  | .known authority => (authority, if tenant.isNull then authority.tenant else tenant)
  | .named .null => (.ofValue tenant, tenant)
  | .named value =>
      let authority := Authority.ofValue value
      (authority, if tenant.isNull then authority.tenant else tenant)

/-- The configuration of some settings; the identifier must not be blank. -/
def ofSettings (settings : AppSettings) : Except Failure AppConfig :=
  if !settings.clientId.isPresent || Text.isBlankText settings.clientId.plainText then
    .error (.required "client_id")
  else do
    let (authority, tenant) := resolveAuthority settings.tenant settings.authority
    let scope ← scopeItems settings.scope
    pure {
      clientId := Text.trimmed settings.clientId.plainText
      tenant, authority, scope
      cloud := settings.cloud
      redirectUri := settings.redirectUri
      extraQuery := settings.extraQuery
      extraHeaders := settings.extraHeaders
      force := settings.force
      logPii := settings.logPii }

/-- The configuration for another tenant. -/
def withTenant (config : AppConfig) (tenant : Value) : AppConfig :=
  let authority := Authority.ofValue tenant
  { config with authority, tenant := if tenant.isNull then authority.tenant else tenant }

/-- The text that the key of the cache encodes: the tenant, if there is one, and the identifier. -/
def cacheName (config : AppConfig) : String :=
  if config.tenant.isPresent then config.tenant.plainText ++ "," ++ config.clientId
  else config.clientId

/-- The key under which tokens are cached. -/
def cacheId (config : AppConfig) : String :=
  Text.Base64Url.encode (Text.Utf8.ofString config.cacheName)

/-- Where tokens are asked for. -/
def tokenEndpoint (config : AppConfig) : String := config.cloud.tokenEndpoint config.authority

end AppConfig

end OAuthClient
