import OAuthClient.CommandLine.Arguments
import OAuthClient.Credential.DeviceSignIn
import OAuthClient.Credential.Environment
import OAuthClient.Display.Panel
import OAuthClient.Identity.AuthorizationUrl
import OAuthClient.Upload.Uploader

/-!
# Running a command

What each command does and prints, and the status with which the program ends. Failures of the
library, of transport and interruptions by the user are told on the console; every other failure
ends the program as it is.
-/

namespace OAuthClient.CommandLine

/-- A console in the world, and the size of the file for which a progress bar was shown, if one
was. -/
structure Console where
  world : World
  /-- What was printed. -/
  printed : List Printed := []
  /-- The size that a progress bar counts up to. -/
  barTotal : Option Nat := none

/-- How a command ended: at once, with a status. -/
inductive Ending where
  /-- The command did its work. -/
  | finished
  /-- The program ends with a status. -/
  | exited (status : Int)
  deriving DecidableEq, Repr

/-- What came of a run of the program. -/
structure Outcome where
  /-- The status, unless the program just ended. -/
  status : Option Int
  /-- Whether the usage was printed. -/
  usage : Bool := false
  /-- The console afterwards. -/
  console : Console

namespace Console

/-- Prints on the console. -/
def print (item : Printed) : Action Console Unit :=
  modify fun console => { console with printed := console.printed ++ [item] }

/-- An operation on the world. -/
def inWorld {α : Type} (action : Action World α) : Action Console α := fun console =>
  let (outcome, world) := action.perform console.world
  (outcome, { console with world })

/-- An operation of a credential with an empty cache. -/
def withCredential {α : Type} (credential : Credential) (action : Action Context α) :
    Action Console α := fun console =>
  let (outcome, context) := action.perform { credential, world := console.world }
  (outcome, { console with world := context.world })

end Console

/-- A list of texts as a value, or null. -/
def textsValue (texts : Option (List String)) : Value :=
  (texts.map fun texts => Value.list (texts.map .text)).getD .null

/-- What was given, as a value: an empty list when it was dropped. -/
def Given.toValue {α : Type} (valueOf : α → Value) (given : Given α) : Value :=
  given.toOption.elim (.list []) valueOf

/-- What an option was given, as a value: null when it does not occur. -/
def givenValue (given : Option (Given String)) : Value :=
  given.elim .null (Given.toValue .text)

/-- An argument, unless it is empty; then a variable of the environment. -/
def orVariable (argument : Option (Given String)) (environment : Environment) (name : String) :
    Option String :=
  ((argument.bind Given.toOption).filter (!·.isEmpty)).or (Assoc.get? name environment)

/-- The configuration of the application that arguments and environment name. A cloud whose word was
dropped is none. -/
def configOf (application : ApplicationArguments) (redirectUri : Option (Given String))
    (environment : Environment) : Except Failure AppConfig := do
  let .value cloud := application.cloud | throw .wrongKind
  let tenant := orVariable application.tenant environment Environment.tenantId
  AppConfig.ofSettings {
    cloud
    clientId := .text ((orVariable application.clientId environment Environment.clientId).getD "")
    tenant := (tenant.map Value.text).getD .null
    scope := .list (application.scope.map .text)
    redirectUri := givenValue redirectUri }

/-- The options of a sign-in URL that arguments give. -/
def signInOptions (arguments : UrlArguments) : Members :=
  [("state", givenValue arguments.state), ("prompt", textsValue arguments.prompt),
    ("login_hint", givenValue arguments.loginHint),
    ("response_type", textsValue arguments.responseType), ("nonce", givenValue arguments.nonce)]

/-- Opens the URL that arguments ask for, with a new proof key if they ask for one. -/
def openUrl (config : AppConfig) (arguments : UrlArguments) :
    Action World (AuthorizationUrl × Option ProofKey) := do
  let options := signInOptions arguments
  match arguments.flow with
  | .value .adminConsent =>
      let state := [("state", givenValue arguments.state)]
      return (← Action.ofExcept (AuthorizationUrl.openConsent config state), none)
  | .value .openId => return (← AuthorizationUrl.openSignIn .openId config options, none)
  | .value .implicit => return (← AuthorizationUrl.openSignIn .implicit config options, none)
  | .value .code | .dropped => return (← AuthorizationUrl.openSignIn .code config options, none)
  | .value .proofKey =>
      let url ← AuthorizationUrl.openSignIn .code config options
      let key ← ProofKey.new
      return (← Action.ofExcept (url.withProofKey key), some key)

/-- The URL that arguments ask for, the proof key and the nonce that it carries. -/
def buildUrl (arguments : UrlArguments) (environment : Environment) :
    Action World (String × Option ProofKey × Value) := do
  let config ← Action.ofExcept
    (configOf arguments.application arguments.redirectUri environment)
  let (url, key) ← openUrl config arguments
  return (← Action.ofExcept url.render, key, url.nonce)

/-- Prints an authorization URL. -/
def runUrl (arguments : UrlArguments) (environment : Environment) : Action Console Ending := do
  let (url, key, nonce) ← Console.inWorld (buildUrl arguments environment)
  Console.print (.ofSignInUrl url)
  if let some key := key then
    Console.print (.line ("[yellow]Keep this code verifier for the token request:[/yellow] " ++
      key.verifier.plainText))
  unless nonce.isNull do
    Console.print (.line ("[yellow]Check the ID token against this nonce:[/yellow] " ++
      nonce.plainText))
  pure .finished

/-- Obtains a token for the credential of the environment. -/
def runToken (scope : List String) (environment : Environment) : Action Console Ending := do
  let credential ← Action.ofExcept (environment.credential (.list (scope.map .text)) {})
  let token ← Console.withCredential credential Context.getTokenSilent
  Console.print (← Action.ofExcept (Printed.ofToken token))
  pure .finished

/-- Signs a user in on another device. -/
def runDeviceCode (application : ApplicationArguments) (environment : Environment) :
    Action Console Ending := do
  let config ← Action.ofExcept (configOf application none environment)
  let credential : Credential := { config, client := {}, grant := .deviceCode .null }
  let (code, credential) ← Console.withCredential credential do
    let code ← Context.requestDeviceCode
    return (code, (← get).credential)
  Console.print (.ofDeviceCode code)
  let token ← Console.withCredential credential (Context.awaitSignIn code)
  Console.print (← Action.ofExcept (Printed.ofToken token))
  pure .finished

/-- Uploads a file. -/
def runUpload (arguments : UploadArguments) (environment : Environment) (store : FileStore) :
    Action Console Ending := do
  match (orVariable arguments.userId environment Environment.userId).filter (!·.isEmpty) with
  | none =>
      Console.print
        (.line "❌ [bold red]ERROR: Missing required environment variable: GRAPH_USER_ID")
      pure (.exited 1)
  | some userId =>
      match store.read? arguments.path with
      | none =>
          Console.print (.line ("\n❌ [bold red]ERROR: The path '" ++ arguments.path ++
            "' is not a file."))
          pure (.exited 1)
      | some data =>
          let credential ← Action.ofExcept (environment.credential .null {})
          unless arguments.noProgress do
            modify fun console => { console with barTotal := some data.length }
          let task : UploadTask := {
            userId, path := arguments.path
            folder := arguments.folder.toOption.getD ""
            chunkSize := arguments.chunkSize.toValue .int }
          match ← Console.withCredential credential
              (Context.uploadFile store task credential.client) with
          | some item =>
              Console.print (← Action.ofExcept (Printed.ofDriveItem item))
              pure .finished
          | none => throw .noSuchPart

/-- Runs a command. -/
def runCommand (command : Command) (environment : Environment) (store : FileStore) :
    Action Console Ending :=
  match command with
  | .none => pure (.exited 1)
  | .authorizationUrl arguments => runUrl arguments environment
  | .token scope => runToken scope environment
  | .deviceCode application => runDeviceCode application environment
  | .upload arguments => runUpload arguments environment store

/-- What is printed of a failure and the status that it leads to; nothing if it is not told. -/
def told (failure : Failure) : Option (String × Int) :=
  if failure.isOwn then some ("\n❌ [bold red]ERROR: " ++ failure.message, 1)
  else if failure.isExchange then
    some ("\n❌ [bold red]ERROR: Request to Microsoft failed: " ++ failure.message, 1)
  else match failure with
    | .interrupted => some ("\n[yellow]Cancelled.[/yellow]", 130)
    | _ => none

/-- Runs the program with its arguments. -/
def run (arguments : List String) (environment : Environment) (store : FileStore)
    (world : World) : Except Failure Outcome :=
  let console : Console := { world }
  match Arguments.read arguments with
  | .error .help => .ok { status := some 0, usage := true, console }
  | .error .misuse => .ok { status := some 2, console }
  | .ok { command := .none, .. } => .ok { status := some 1, usage := true, console }
  | .ok { command, .. } =>
      match (runCommand command environment store).perform console with
      | (.ok .finished, console) => .ok { status := none, console }
      | (.ok (.exited status), console) => .ok { status := some status, console }
      | (.error failure, console) =>
          match told failure with
          | some (line, status) =>
              .ok { status := some status, console :=
                { console with printed := console.printed ++ [.line line] } }
          | none => .error failure

end OAuthClient.CommandLine
