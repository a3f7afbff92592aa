import OAuthClient.Identity.Redirect
import OAuthClient.Text.Base64Url

/-!
# ID tokens

A token about the user: its header and claims, and the checks that it was issued for this client,
by the expected issuer, in answer to the request, and is in force. Signatures are not checked here.
-/

namespace OAuthClient

/-- A token about the user with what came along with it. -/
structure IdToken where
  /-- The token itself. -/
  idToken : Value
  /-- A code that can be redeemed. -/
  code : Value := .null
  /-- The value that the request carried. -/
  state : Value := .null
  /-- The session of the user. -/
  sessionState : Value := .null
  /-- All other members of the answer. -/
  additional : Members := []
  /-- Whether debug text shows personal data and secrets. -/
  logPii : Bool := false

namespace IdToken

/-- The ID token of an answer. -/
def ofResponse (body : Value) (logPii : Bool) : Except Failure IdToken := do
  let members ← body.toMembers
  let member := Value.member members
  unless (member "id_token").isPresent do throw (.required "id_token")
  pure {
    logPii
    idToken := member "id_token"
    code := member "code"
    state := member "state"
    sessionState := member "session_state"
    additional := Value.without ["id_token", "code", "state", "session_state"] members }

/-- The ID token in the query or the fragment of a redirect. -/
def ofForm (form : String) (logPii : Bool) : Except Failure IdToken :=
  let body := form.toList.dropWhile fun c => c == '#' || c == '?'
  ofResponse (.object (Redirect.valuesOf (String.ofList body))) logPii

/-- The failure of a part that cannot be decoded. -/
def undecodable : Failure := .authorization "id_token" "ID token could not be decoded: "

/-- The JSON value that a part of a token encodes. -/
def decodePart (part : List Char) : Except Failure Value :=
  match (Text.Base64Url.decodePadded? part).bind Text.Utf8.decode? with
  | none => .error undecodable
  | some text =>
      match Json.parseChars text with
      | .ok value => .ok value
      | .error _ => .error undecodable

/-- The JSON value of a part of a token, the parts being separated by dots. -/
def part (token : IdToken) (index : Nat) : Except Failure Value := do
  let text ← token.idToken.toText
  match Text.splitOn (· == '.') text.toList with
  | first :: second :: rest => decodePart ((first :: second :: rest).getD index [])
  | _ => throw (.authorization "id_token" "ID token is not a JWT")

/-- The header of a token. -/
def header (token : IdToken) : Except Failure Value := token.part 0

/-- The claims of a token. -/
def claims (token : IdToken) : Except Failure Value := token.part 1

/-- The seconds by which clocks may differ when nothing else is said. -/
def clockSkew : Int := 120

/-- What a token is checked against. Values that do not count as present are not checked. -/
structure Expectation where
  /-- The client for which the token must be issued. -/
  clientId : Value := .null
  /-- The issuer of the token. -/
  issuer : Value := .null
  /-- The nonce of the request. -/
  nonce : Value := .null
  /-- The seconds by which clocks may differ. -/
  skew : Value := .int clockSkew

/-- The integer of a claim. -/
def numericClaim (claim : Value) (name : String) : Except Failure Int :=
  match claim.toInteger with
  | .ok n => .ok n
  | .error .outOfRange => .error .outOfRange
  | .error _ => .error (.authorization name ("ID token " ++ name ++ " claim is not a number"))

/-- Checks that a token has not expired at a time. -/
def checkExpiry (claims : Members) (now : Int) (expected : Expectation) : Except Failure Unit := do
  match Assoc.get? "exp" claims with
  | none => throw (.authorization "exp" "ID token has no exp claim")
  | some claim =>
      let some earliest := (Number.whole now).sub? (← expected.skew.toNumber)
        | throw .outOfRange
      if (Number.whole (← numericClaim claim "exp")).isBelow earliest then
        throw (.authorization "exp" "ID token is expired")

/-- Checks that a token is already in force at a time. -/
def checkStart (claims : Members) (now : Int) (expected : Expectation) : Except Failure Unit := do
  match Assoc.get? "nbf" claims with
  | none => pure ()
  | some claim =>
      let some latest := (Number.whole now).add? (← expected.skew.toNumber)
        | throw .outOfRange
      if latest.isBelow (.whole (← numericClaim claim "nbf")) then
        throw (.authorization "nbf" "ID token is not yet valid")

/-- Checks the issuer of a token. -/
def checkIssuer (claims : Members) (expected : Expectation) : Except Failure Unit :=
  let issuer := Value.member claims "iss"
  if expected.issuer.isPresent && !issuer.same expected.issuer then
    .error (.authorization "iss" ("ID token issuer " ++ issuer.quotedText ++ " does not match " ++
      expected.issuer.quotedText))
  else .ok ()

/-- The audiences of a token. -/
def audiences (claims : Members) : List Value :=
  match Value.member claims "aud" with
  | .list items => items
  | audience => [audience]

/-- Checks the audience of a token. -/
def checkAudience (claims : Members) (expected : Expectation) : Except Failure Unit :=
  if expected.clientId.isPresent && !(audiences claims).any (·.same expected.clientId) then
    .error (.authorization "aud" "ID token was not issued for this client")
  else .ok ()

/-- Checks the nonce of a token. Only ASCII texts can be compared. -/
def checkNonce (claims : Members) (expected : Expectation) : Except Failure Unit :=
  if !expected.nonce.isPresent then .ok ()
  else match expected.nonce with
    | .text sent =>
        let returned := ((Assoc.get? "nonce" claims).getD (.text "")).plainText
        if returned.toList.all Text.Percent.isAscii && sent.toList.all Text.Percent.isAscii then
          if returned = sent then .ok ()
          else .error (.authorization "nonce" "ID token nonce does not match the nonce sent")
        else .error .wrongKind
    | _ => .error .wrongKind

/-- Whether claims that are no object mention the expiry at all; those that cannot mention anything
are of the wrong kind. -/
def mentionsExpiry : Value → Except Failure Bool
  | .list items => .ok (items.any (·.same (.text "exp")))
  | .text s => .ok (Text.occursIn "exp".toList s.toList)
  | _ => .error .wrongKind

/-- Checks the claims of a token at a time. -/
def checkClaims (claims : Value) (now : Int) (expected : Expectation) : Except Failure Value := do
  match claims with
  | .object claims =>
      checkExpiry claims now expected
      checkStart claims now expected
      checkIssuer claims expected
      checkAudience claims expected
      checkNonce claims expected
      pure (.object claims)
  | other =>
      if ← mentionsExpiry other then
        let some _ := (Number.whole now).sub? (← expected.skew.toNumber) | throw .outOfRange
        throw (.authorization "exp" "ID token exp claim is not a number")
      else throw (.authorization "exp" "ID token has no exp claim")

/-- Checks a token at a time, in seconds since the beginning of 1970, and yields its claims. Any
value that says an integer says a time. -/
def check (token : IdToken) (now : Value) (expected : Expectation) : Except Failure Value := do
  let claims ← token.claims
  checkClaims claims (← now.toInteger) expected

/-- The debug text of an ID token. -/
def describe (token : IdToken) : String :=
  let shown := if token.logPii then token.idToken else .text hidden
  "IdToken(id_token=" ++ shown.quotedText ++ ", code=" ++
    (masked token.logPii token.code).quotedText ++ ", state=" ++ token.state.quotedText ++
    ", session_state=" ++ token.sessionState.quotedText ++ ")"

end IdToken

end OAuthClient
