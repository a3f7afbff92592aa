import OAuthClient.Credential.Settings

/-!
# Credentials from the environment

The credential that the variables of an environment describe: an application with a secret if they
are complete for one, else a user with a password. An empty variable counts as missing.
-/

namespace OAuthClient

/-- The variables of an environment. -/
abbrev Environment := List (String × String)

namespace Environment

/-- The variable for the tenant. -/
def tenantId : String := "AZURE_TENANT_ID"

/-- The variable for the identifier of the application. -/
def clientId : String := "AZURE_CLIENT_ID"

/-- The variable for the secret of the application. -/
def clientSecret : String := "AZURE_CLIENT_SECRET"

/-- The variable for the name of a user. -/
def username : String := "AZURE_USERNAME"

/-- The variable for the password of a user. -/
def password : String := "AZURE_PASSWORD"

/-- The variable for the user whose drive takes uploads. -/
def userId : String := "GRAPH_USER_ID"

/-- The value of a variable, unless it is missing or empty. -/
def get? (environment : Environment) (name : String) : Option String :=
  (Assoc.get? name environment).filter (!·.isEmpty)

/-- The value of a variable or null. -/
def value (environment : Environment) (name : String) : Value :=
  ((environment.get? name).map Value.text).getD .null

/-- The variables that an application with a secret needs. -/
def secretVariables : List String := [tenantId, clientId, clientSecret]

/-- The variables that an application with a secret still needs. -/
def missing (environment : Environment) : List String :=
  secretVariables.filter fun name => (environment.get? name).isNone

/-- The configuration of the application. -/
def config (environment : Environment) (scope : Value) : Except Failure AppConfig :=
  AppConfig.ofSettings {
    clientId := environment.value Environment.clientId
    tenant := environment.value tenantId
    scope := scope.orElse (.list []) }

/-- The credential of an application with a secret, if the variables for it are complete. -/
def secretCredential (environment : Environment) (scope : Value) (client : HttpClient) :
    Except Failure (Option Credential) := do
  if environment.missing.isEmpty then
    pure (some {
      config := ← environment.config scope
      client
      grant := .clientCredentials (some (.secret (environment.value clientSecret) false)) })
  else pure none

/-- The credential of a user with a password, if the variables for it are complete. -/
def passwordCredential (environment : Environment) (scope : Value) (client : HttpClient) :
    Except Failure (Option Credential) := do
  let complete := [clientId, username, password].all fun name =>
    (environment.get? name).isSome
  if complete then
    pure (some {
      config := ← environment.config scope
      client
      grant := .password (environment.value username) (environment.value password) })
  else pure none

/-- The credential that an environment describes. -/
def credential (environment : Environment) (scope : Value) (client : HttpClient) :
    Except Failure Credential := do
  if let some credential ← environment.secretCredential scope client then return credential
  if let some credential ← environment.passwordCredential scope client then return credential
  throw (.authorization "environment"
    ("Set AZURE_TENANT_ID, AZURE_CLIENT_ID and AZURE_CLIENT_SECRET, " ++
      "or AZURE_CLIENT_ID, AZURE_USERNAME and AZURE_PASSWORD"))

end Environment

end OAuthClient
