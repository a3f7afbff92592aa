import OAuthClient.Credential.Context
import OAuthClient.DeviceCode.Offer

/-!
# Signing in on another device

Asks for a device code, has it shown to the user, and polls the token endpoint until the user has
signed in, the service ends the sign-in, or the code expires. Every poll is preceded by a pause of
the current interval, which grows by five seconds whenever the service asks for that.
-/

namespace OAuthClient

/-- One answer to a poll. -/
structure PollResponse where
  /-- The status of the answer. -/
  status : Int
  /-- The event that the answer tells, if it is known. -/
  event : Option PollEvent := none
  /-- The error code. -/
  error : Value := .null
  /-- What the service says about the error. -/
  errorDescription : Value := .null
  /-- The token, once the user has signed in. -/
  token : Option Token := none

namespace PollResponse

/-- Whether an answer brought a token. -/
def isSuccess (answer : PollResponse) : Bool := answer.token.isSome

/-- The event of an error code. -/
def eventOf (error : Value) : Option PollEvent := error.text?.bind PollEvent.ofCode?

/-- An answer that brought no token. -/
def ofResponse (response : Response) : PollResponse :=
  let members := response.jsonOrEmpty.members?.getD []
  let error := Value.member members "error"
  { status := response.status
    event := eventOf error
    error
    errorDescription := Value.member members "error_description" }

/-- Whether polling may go on after an answer. -/
def continues (answer : PollResponse) : Bool :=
  !answer.isSuccess && answer.event.any PollEvent.continues

/-- The seconds by which the interval grows when requests come too fast. -/
def slowDownIncrement : Int := 5

/-- The seconds by which an answer lengthens the interval. -/
def slowing (answer : PollResponse) : Int :=
  if answer.event = some .slowDown then slowDownIncrement else 0

/-- The failure of a sign-in whose polling ended with an answer that brought no token. -/
def failure (answer : PollResponse) : Failure :=
  if answer.event.any PollEvent.continues then
    .polling (.event .expiredToken) (.text "Device code expired before sign-in completed") none
  else
    let stop := match answer.event with
      | some event => PollStop.event event
      | none => .unknown (answer.error.orElse (.text ("http_" ++ toString answer.status)))
    .polling stop answer.errorDescription (some answer.status)

end PollResponse

/-- The answers to the polls for a device code, and the failure that ended them, if any. -/
structure PollRun where
  /-- The answers in order. -/
  answers : List PollResponse := []
  /-- The failure after the last answer. -/
  failure : Option Failure := none

namespace Context

/-- Asks for a device code. -/
def requestDeviceCode : Action Context DeviceCode := do
  let credential := (← get).credential
  let .deviceCode _ := credential.grant | throw .noSuchPart
  let fields ← Action.ofExcept (credential.started.toForm [] [.clientId, .scope])
  let uri := credential.config.cloud.deviceCodeEndpoint credential.config.authority
  let response ← inWorld (credential.post "Device code request" uri fields none)
  unless response.isOk do throw (.service (← Action.ofExcept (ServiceError.ofResponse response)))
  let code ← Action.ofExcept (response.json >>= DeviceCode.ofResponse)
  changeCredential (·.withDeviceCode code.deviceCode)
  pure code

/-- Pauses and polls once; a token is kept. -/
def pollOnce (interval : Int) : Action Context PollResponse := do
  inWorld (World.pause (.int interval))
  let response ← execute
  if response.isOk then
    let token ← storeToken (← readToken response)
    pure { status := response.status, token := some token }
  else pure (PollResponse.ofResponse response)

/-- Polls up to a number of times, at most until the clock reaches a deadline. -/
def pollFrom (deadline : Number) : Nat → Int → StateM Context PollRun
  | 0, _ => pure {}
  | count + 1, interval => do
      match ← (pollOnce interval).run with
      | .error failure => pure { failure := some failure }
      | .ok answer =>
          if answer.continues && !deadline.isAtMost (← get).world.elapsed then
            let rest ← pollFrom deadline count (interval + answer.slowing)
            pure { rest with answers := answer :: rest.answers }
          else pure { answers := [answer] }

/-- The time on the clock at which a device code expires that is given out now; there may be no
number for it. -/
def deadline? (context : Context) (code : DeviceCode) : Option Number :=
  context.world.elapsed.add? (.whole code.expiresIn)

/-- Polls with a device code up to a number of times. -/
def pollWith (code : DeviceCode) (count : Nat) : StateM Context PollRun := do
  match ← (changeCredential (·.withDeviceCode code.deviceCode)).run with
  | .error failure => pure { failure := some failure }
  | .ok _ =>
      match (← get).deadline? code with
      | none => pure { failure := some .outOfRange }
      | some deadline => pollFrom deadline count code.interval

/-- The number of polls after which nothing can follow: each takes a reply, and without one polling
fails. -/
def enoughPolls (context : Context) : Nat := context.world.replies.length + 1

/-- Polls with a device code, or with a new one, up to a number of times. -/
def poll (code : Option DeviceCode) (limit : Option Nat) : StateM Context PollRun := do
  match code with
  | some code => pollWith code (limit.getD (← get).enoughPolls)
  | none =>
      match ← requestDeviceCode.run with
      | .error failure => pure { failure := some failure }
      | .ok code => pollWith code (limit.getD (← get).enoughPolls)

/-- The token that polling ended with. -/
def signedIn (run : PollRun) : Except Failure Token :=
  match run.failure, run.answers.getLast? with
  | some failure, _ => .error failure
  | none, none =>
      .error (.polling (.event .expiredToken)
        (.text "Device code expired before sign-in completed") none)
  | none, some answer =>
      match answer.token with
      | some token => .ok token
      | none => .error answer.failure

/-- Waits until the user has signed in with a device code. -/
def awaitSignIn (code : DeviceCode) : Action Context Token := do
  let run ← (pollWith code (← get).enoughPolls : StateM Context PollRun)
  Action.ofExcept (signedIn run)

end Context

end OAuthClient
