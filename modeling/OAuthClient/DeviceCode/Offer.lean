import OAuthClient.Json.Coerce

/-!
# Device codes

What the service hands out for a sign-in on another device: a code to poll with, a code and an
address to show to the user, and the pace of the polling.
-/

namespace OAuthClient

/-- The seconds between two polls when the service says none. -/
def DeviceCode.defaultInterval : Int := 5

/-- A device code with what is shown to the user. -/
structure DeviceCode where
  /-- The code to poll with. -/
  deviceCode : Value
  /-- The code that the user enters. -/
  userCode : Value
  /-- Where the user enters it. -/
  verificationUri : Value
  /-- The lifetime in seconds. -/
  expiresIn : Int
  /-- The seconds between two polls. -/
  interval : Int := DeviceCode.defaultInterval
  /-- A ready-made message to the user. -/
  message : Value := .null
  /-- An error code. -/
  error : Value := .null
  /-- What the service says about the error. -/
  errorDescription : Value := .null
  /-- All other members of the answer. -/
  additional : Members := []

namespace DeviceCode

/-- The names of the members that must be there. -/
def requiredNames : List String := ["device_code", "user_code", "verification_uri", "expires_in"]

/-- The names of the members with a meaning of their own. -/
def knownNames : List String :=
  requiredNames ++ ["interval", "message", "error", "error_description"]

/-- Whether a required member is missing: it is null or the empty text. -/
def isMissing : Value → Bool
  | .null => true
  | .text s => s.isEmpty
  | _ => false

/-- The device code of an answer. -/
def ofResponse (body : Value) : Except Failure DeviceCode := do
  let members ← body.toMembers
  let member := Value.member members
  match requiredNames.find? fun name => isMissing (member name) with
  | some name => throw (.authorization name "Device authorization response is incomplete")
  | none =>
      let expiresIn ← (member "expires_in").toInteger
      let interval ← ((member "interval").orElse (.int defaultInterval)).toInteger
      pure {
        expiresIn, interval
        deviceCode := member "device_code"
        userCode := member "user_code"
        verificationUri := member "verification_uri"
        message := member "message"
        error := member "error"
        errorDescription := member "error_description"
        additional := Value.without knownNames members }

/-- The debug text of a device code, which does not show the code to poll with. -/
def describe (code : DeviceCode) : String :=
  "DeviceCode(user_code=" ++ code.userCode.quotedText ++ ", verification_uri=" ++
    code.verificationUri.quotedText ++ ", expires_in=" ++ toString code.expiresIn ++
    ", interval=" ++ toString code.interval ++ ")"

/-- What is said to the user: the service's own message or one made from the code. -/
def instruction (code : DeviceCode) : Value :=
  code.message.orElse (.text ("To sign in, open " ++ code.verificationUri.plainText ++
    " and enter the code " ++ code.userCode.plainText))

end DeviceCode

end OAuthClient
