import OAuthClient.CommandLine.Grammar
import OAuthClient.Identity.Authority
import OAuthClient.Text.Integer
import OAuthClient.Upload.Ranges

/-!
# The commands and their arguments

The commands of the program, the options of each, and their values when they are not given.
-/

namespace OAuthClient.CommandLine

/-- The words for the clouds, in alphabetical order. -/
def clouds : List (String × Cloud) :=
  [("china", .china), ("germany", .germany), ("public", .worldwide), ("usgov", .usGovernment)]

/-- What an authorization URL is wanted for. -/
inductive UrlFlow where
  | code
  /-- A code bound to a proof key. -/
  | proofKey
  /-- OpenID Connect. -/
  | openId
  /-- Tokens in the response. -/
  | implicit
  | adminConsent
  deriving DecidableEq, Repr

/-- The words for the flows. -/
def flows : List (String × UrlFlow) :=
  [("code", .code), ("pkce", .proofKey), ("openid", .openId), ("implicit", .implicit),
    ("admin-consent", .adminConsent)]

/-- The thing of a word that was given, or the usual one. -/
def ofWord {α : Type} (words : List (String × α)) (usual : α) (word : Option (Given String)) :
    Given α :=
  word.elim (.value usual) (Given.map fun word => (Assoc.get? word words).getD usual)

/-- The word of a thing. -/
def wordOf {α : Type} [DecidableEq α] (words : List (String × α)) (thing : α) : String :=
  ((words.find? fun entry => entry.2 = thing).map Prod.fst).getD ""

/-- The options by which an application is named. -/
structure ApplicationArguments where
  /-- The identifier of the application. -/
  clientId : Option (Given String) := none
  tenant : Option (Given String) := none
  cloud : Given Cloud := .value .worldwide
  scope : List String := []

/-- The options of an authorization URL. -/
structure UrlArguments where
  application : ApplicationArguments
  /-- What the URL is wanted for. -/
  flow : Given UrlFlow := .value .code
  /-- Where the user is sent back to. -/
  redirectUri : Option (Given String) := none
  /-- A value that the response brings back. -/
  state : Option (Given String) := none
  /-- A value that the ID token brings back. -/
  nonce : Option (Given String) := none
  /-- What the user is asked. -/
  prompt : Option (List String) := none
  /-- The name of the user. -/
  loginHint : Option (Given String) := none
  /-- What sign-in is to yield. -/
  responseType : Option (List String) := none

/-- The options of an upload. -/
structure UploadArguments where
  /-- The file. -/
  path : String
  /-- The folder in the drive. -/
  folder : Given String := .value ""
  chunkSize : Given Int := .value ChunkSize.standard
  /-- The user whose drive takes the file. -/
  userId : Option (Given String) := none
  /-- Whether no progress is shown. -/
  noProgress : Bool := false

/-- A command with its arguments. -/
inductive Command where
  /-- No command. -/
  | none
  /-- Prints an authorization URL. -/
  | authorizationUrl (arguments : UrlArguments)
  /-- Obtains a token for the credential of the environment. -/
  | token (scope : List String)
  /-- Signs a user in on another device. -/
  | deviceCode (application : ApplicationArguments)
  /-- Uploads a file. -/
  | upload (arguments : UploadArguments)

/-- The arguments of the program. -/
structure Arguments where
  /-- Whether more is logged. -/
  verbose : Bool := false
  command : Command := .none

/-- The size of chunks that a text says. -/
def chunkSizeOf (text : String) : Except Failure Int :=
  match Text.readInteger text.toList with
  | .error fault => .error (.badArgument (fault.message text))
  | .ok size =>
      match ChunkSize.check size with
      | .ok _ => .ok size
      | .error failure => .error (.badArgument failure.message)

/-- The option that asks for help. -/
def helpOption : OptionSpec := { key := "help", names := ["-h", "--help"], arity := .none }

/-- The option for scopes. -/
def scopeOption : OptionSpec := { key := "scope", names := ["-s", "--scope"], arity := .many }

/-- The options by which an application is named. -/
def applicationOptions : List OptionSpec :=
  [{ key := "client_id", names := ["--client-id"] },
    { key := "tenant", names := ["--tenant"] },
    { key := "cloud", names := ["--cloud"], accepts := (clouds.map Prod.fst).contains },
    scopeOption]

/-- The grammar of the whole command line. -/
def mainGrammar : Grammar :=
  { options := [helpOption, { key := "verbose", names := ["-v", "--verbose"], arity := .none }]
    operand := .command }

/-- The grammar of the command for authorization URLs. -/
def urlGrammar : Grammar :=
  { options := [helpOption] ++ applicationOptions ++
      [{ key := "flow", names := ["-f", "--flow"], accepts := (flows.map Prod.fst).contains },
        { key := "redirect_uri", names := ["-r", "--redirect-uri"] },
        { key := "state", names := ["--state"] },
        { key := "nonce", names := ["--nonce"] },
        { key := "prompt", names := ["--prompt"], arity := .many },
        { key := "login_hint", names := ["--login-hint"] },
        { key := "response_type", names := ["--response-type"], arity := .many }] }

/-- The grammar of the command for tokens. -/
def tokenGrammar : Grammar := { options := [helpOption, scopeOption] }

/-- The grammar of the command for device codes. -/
def deviceCodeGrammar : Grammar := { options := helpOption :: applicationOptions }

/-- The grammar of the command for uploads. -/
def uploadGrammar : Grammar :=
  { options := [helpOption,
      { key := "remote_folder", names := ["-r", "--remote-folder"] },
      { key := "chunk_size", names := ["-c", "--chunk-size"],
        accepts := fun text => (chunkSizeOf text).toBool },
      { key := "user_id", names := ["-u", "--user-id"] },
      { key := "no_progress", names := ["--no-progress"], arity := .none }]
    operand := .value "local_file_path" }

/-- The application that was named. -/
def applicationOf (reading : Reading) : ApplicationArguments :=
  { clientId := reading.value? "client_id"
    tenant := reading.value? "tenant"
    cloud := ofWord clouds .worldwide (reading.value? "cloud")
    scope := (reading.values? "scope").getD [] }

/-- The arguments of an authorization URL that were given. -/
def urlArgumentsOf (reading : Reading) : UrlArguments :=
  { application := applicationOf reading
    flow := ofWord flows .code (reading.value? "flow")
    redirectUri := reading.value? "redirect_uri"
    state := reading.value? "state"
    nonce := reading.value? "nonce"
    prompt := reading.values? "prompt"
    loginHint := reading.value? "login_hint"
    responseType := reading.values? "response_type" }

/-- The arguments of an upload that were given. -/
def uploadArgumentsOf (reading : Reading) : UploadArguments :=
  let sizeOf (text : String) := (chunkSizeOf text).toOption.getD ChunkSize.standard
  { path := ((reading.values? "local_file_path").bind List.head?).getD ""
    folder := (reading.value? "remote_folder").getD (.value "")
    chunkSize := (reading.value? "chunk_size").elim (.value ChunkSize.standard) (.map sizeOf)
    userId := reading.value? "user_id"
    noProgress := reading.has "no_progress" }

/-- The subcommands: how the arguments of each are read, and what they mean. -/
def subcommands : List (String × Grammar × (Reading → Command)) :=
  [("auth-url", urlGrammar, fun reading => .authorizationUrl (urlArgumentsOf reading)),
    ("token", tokenGrammar, fun reading => .token ((reading.values? "scope").getD [])),
    ("device-code", deviceCodeGrammar, fun reading => .deviceCode (applicationOf reading)),
    ("upload", uploadGrammar, fun reading => .upload (uploadArgumentsOf reading))]

/-- Whether a character is a decimal digit of any script. -/
def isDigit (c : Char) : Bool := (Text.decimalDigit? c).isSome

/-- Reads the arguments of the program; arguments without a meaning are refused. -/
def Arguments.read (arguments : List String) : Except Exit Arguments := do
  let reading ← mainGrammar.read isDigit arguments
  let verbose := reading.has "verbose"
  match reading.command with
  | none => if reading.leftover then throw .misuse else pure { verbose }
  | some (name, rest) =>
      match Assoc.get? name subcommands with
      | none => throw .misuse
      | some (grammar, meaning) =>
          let inner ← grammar.read isDigit rest
          if reading.leftover || inner.leftover then throw .misuse
          else pure { verbose, command := meaning inner }

end OAuthClient.CommandLine
