/-!
# Polling events

The errors with which the token endpoint answers while a device code is polled, and which of them
leave the sign-in open.
-/

namespace OAuthClient

/-- An error that the token endpoint answers with while a device code is polled. -/
inductive PollEvent where
  /-- The user has not signed in yet. -/
  | authorizationPending
  /-- The user refused. -/
  | authorizationDeclined
  /-- The device code was not recognized. -/
  | badVerificationCode
  /-- The lifetime of the device code has ended. -/
  | expiredToken
  | accessDenied
  /-- Requests come too fast. -/
  | slowDown
  deriving DecidableEq, Repr

namespace PollEvent

/-- All events. -/
def all : List PollEvent :=
  [.authorizationPending, .authorizationDeclined, .badVerificationCode, .expiredToken,
    .accessDenied, .slowDown]

/-- The error code of an event. -/
def code : PollEvent → String
  | .authorizationPending => "authorization_pending"
  | .authorizationDeclined => "authorization_declined"
  | .badVerificationCode => "bad_verification_code"
  | .expiredToken => "expired_token"
  | .accessDenied => "access_denied"
  | .slowDown => "slow_down"

/-- The event of an error code. -/
def ofCode? (code : String) : Option PollEvent := all.find? (·.code == code)

/-- Whether polling goes on after an event. -/
def continues : PollEvent → Bool
  | .authorizationPending | .badVerificationCode | .slowDown => true
  | _ => false

theorem ofCode?_code (event : PollEvent) : ofCode? event.code = some event := by
  cases event <;> decide

end PollEvent

end OAuthClient
