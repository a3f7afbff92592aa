import OAuthClient.Json.Coerce

/-!
# Authorities and clouds

Who may sign in and where. The endpoints of a cloud carry the name of the authority as a path
segment.
-/

namespace OAuthClient

/-- The public cloud and the national ones. -/
inductive Cloud where
  /-- The public cloud. -/
  | worldwide
  /-- The cloud in China. -/
  | china
  /-- The cloud in Germany. -/
  | germany
  /-- The cloud of the US government. -/
  | usGovernment
  deriving DecidableEq, Repr

/-- The address of a cloud. -/
def Cloud.address : Cloud → String
  | .worldwide => "https://login.microsoftonline.com"
  | .china => "https://login.chinacloudapi.cn"
  | .germany => "https://login.microsoftonline.de"
  | .usGovernment => "https://login.microsoftonline.us"

/-- Which accounts may sign in. -/
structure Authority where
  /-- The path segment that names the accounts. -/
  name : String
  deriving DecidableEq, Repr

namespace Authority

/-- All accounts. -/
def common : Authority := ⟨"common"⟩

/-- The names of the authorities that are not a tenant of their own. -/
def wellKnown : List String := ["common", "organizations", "consumers", "adfs"]

/-- Whether an authority is one of the well-known ones, in whatever case. ASCII letters suffice: no
other character has a letter of these names as its lower-case form. -/
def isWellKnown (authority : Authority) : Bool := wellKnown.contains authority.name.toLower

/-- The tenant of an authority; the well-known ones have none. -/
def tenant (authority : Authority) : Value :=
  if authority.isWellKnown then .null else .text authority.name

/-- The authority that a value names; without a name it is that of all accounts. -/
def ofValue (value : Value) : Authority :=
  if value.isPresent && !Text.isBlankText value.plainText then ⟨Text.trimmed value.plainText⟩
  else common

end Authority

namespace Cloud

/-- An address below the authority. -/
def path (cloud : Cloud) (authority : Authority) (rest : String) : String :=
  cloud.address ++ "/" ++ authority.name ++ rest

/-- Where a user is sent to sign in. -/
def authorizationEndpoint (cloud : Cloud) (authority : Authority) : String :=
  cloud.path authority "/oauth2/v2.0/authorize"

/-- Where tokens are asked for. -/
def tokenEndpoint (cloud : Cloud) (authority : Authority) : String :=
  cloud.path authority "/oauth2/v2.0/token"

/-- Where device codes are asked for. -/
def deviceCodeEndpoint (cloud : Cloud) (authority : Authority) : String :=
  cloud.path authority "/oauth2/v2.0/devicecode"

/-- Where an administrator is sent to consent. -/
def adminConsentEndpoint (cloud : Cloud) (authority : Authority) : String :=
  cloud.path authority "/adminconsent"

/-- The issuer that ID tokens name. -/
def issuer (cloud : Cloud) (authority : Authority) : String := cloud.path authority "/v2.0"

/-- Where the OpenID configuration is found. -/
def openIdConfiguration (cloud : Cloud) (authority : Authority) : String :=
  cloud.issuer authority ++ "/.well-known/openid-configuration"

end Cloud

end OAuthClient
