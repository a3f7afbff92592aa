import OAuthClient.Crypto.Bundle
import OAuthClient.Exchange.World
import OAuthClient.Identity.Redaction
import OAuthClient.Json.Writer

/-!
# Client assertions

A signed statement by which an application proves who it is: a JSON Web Token signed with the key of
a certificate that is registered for the application.
-/

namespace OAuthClient

/-- A certificate with its private key, and the claims of its holder. -/
structure Signer where
  certificate : Certificate
  /-- The key that signs. -/
  key : Rsa.PrivateKey
  /-- Claims that are put into every assertion. -/
  claims : Members := []
  /-- Whether these claims extend the usual ones instead of replacing them. -/
  extendClaims : Bool := true

namespace Signer

/-- The seconds for which an assertion is in force. -/
def lifetime : Int := 600

/-- The signer with a certificate and a loaded key, which must be one for RSA. -/
def ofParts (certificate : Certificate) : LoadedKey → Except Failure Signer
  | .rsa key => .ok { certificate, key }
  | .other _ => .error (.certificate "Client assertions require an RSA private key")

/-- The signer with an armoured certificate and an armoured key. -/
def ofPem (certificate key : String) (password : Option String) : Except Failure Signer :=
  match Certificate.ofPem certificate, LoadedKey.ofPem key password with
  | some certificate, some key => ofParts certificate key
  | _, _ => .error (.certificate "Unable to load certificate or private key: ")

/-- The signer with the key and the certificate of a bundle. -/
def ofBundle (bundle : Bytes) (password : Option String) : Except Failure Signer :=
  match Bundle.load bundle password with
  | none => .error (.certificate "Unable to load PKCS#12 bundle: ")
  | some (some key, some certificate) => ofParts certificate key
  | some _ =>
      .error (.certificate "PKCS#12 bundle must contain a certificate and a private key")

/-- The signer with other claims. -/
def withClaims (signer : Signer) (claims : Members) (extendClaims : Bool) : Signer :=
  { signer with claims, extendClaims }

/-- The digest of the certificate in hexadecimal. -/
def thumbprint (signer : Signer) : String :=
  String.ofList (signer.certificate.thumbprint.flatMap fun b =>
    [Text.hexDigitUpper (b.toNat / 16), Text.hexDigitUpper (b.toNat % 16)])

/-- The digest of the certificate in base64url. -/
def encodedThumbprint (signer : Signer) : String :=
  Text.Base64Url.encode signer.certificate.thumbprint

/-- A random identifier: 16 bytes whose version and variant bits are set, in groups of hexadecimal
digits. -/
def identifierText (bytes : Bytes) : String :=
  let marked := bytes.mapIdx fun i b =>
    if i = 6 then b &&& 0x0f ||| 0x40 else if i = 8 then b &&& 0x3f ||| 0x80 else b
  let digits (first count : Nat) := (marked.drop first).take count |>.flatMap fun b =>
    [Text.hexDigit (b.toNat / 16), Text.hexDigit (b.toNat % 16)]
  String.ofList (['-'].intercalate [digits 0 4, digits 4 2, digits 6 2, digits 8 2, digits 10 6])

/-- The usual claims of an assertion: whom it addresses, when it is in force, a random identifier,
and twice the application that makes it. A time that is not given is the present one. -/
def defaultClaims (clientId tenant now : Value) : Action World Members := do
  let clock := (← get).now
  let now ← Action.ofExcept (if now.isNull then Value.ofNumber clock else now).toInteger
  let identifier ← World.randomBytes 16
  pure [
    ("aud", .text ("https://login.microsoftonline.com/" ++
      (tenant.orElse (.text "common")).plainText ++ "/oauth2/v2.0/token")),
    ("exp", .int (now + lifetime)),
    ("nbf", .int now),
    ("jti", .text (identifierText identifier)),
    ("sub", clientId),
    ("iss", clientId)]

/-- The claims of an assertion. -/
def claimsFor (signer : Signer) (clientId tenant now : Value) : Action World Members := do
  if !signer.claims.isEmpty && !signer.extendClaims then pure signer.claims
  else return Assoc.update (← defaultClaims clientId tenant now) signer.claims

/-- The header of an assertion. -/
def header (signer : Signer) : Value :=
  .object [("alg", .text "RS256"), ("typ", .text "JWT"), ("x5t", .text signer.encodedThumbprint)]

/-- A JSON value in base64url. -/
def encodeJson (value : Value) : String :=
  Text.Base64Url.encode (Text.Utf8.ofString (Json.render value))

/-- The signed token with some claims; an issuer must be a text, and the claims must be such as can
be written. -/
def signClaims (signer : Signer) (claims : Members) : Except Failure String := do
  match Assoc.get? "iss" claims with
  | none | some (.text _) => pure ()
  | some _ => throw .wrongKind
  unless Json.isWritable (.object claims) do throw (.invalid "")
  let content := encodeJson signer.header ++ "." ++ encodeJson (.object claims)
  match signer.key.sign (Text.Utf8.ofString content) with
  | some signature => pure (content ++ "." ++ Text.Base64Url.encode signature)
  | none => throw (.invalid "")

/-- Signs an assertion of an application. -/
def sign (signer : Signer) (clientId tenant now : Value) : Action World String := do
  let claims ← signer.claimsFor clientId tenant now
  Action.ofExcept (signer.signClaims claims)

end Signer

/-- An assertion that is signed already, or the means to sign one. -/
inductive ClientAssertion where
  | signed (assertion : Value)
  /-- A certificate with its key. -/
  | certificate (signer : Signer)

namespace ClientAssertion

/-- The kind of assertion that requests name. -/
def kind : String := "urn:ietf:params:oauth:client-assertion-type:jwt-bearer"

/-- The assertion that is signed already; there must be one. -/
def ofSigned (assertion : Value) : Except Failure ClientAssertion :=
  if assertion.isPresent then .ok (.signed assertion)
  else .error (.certificate "A signed assertion or a certificate is required")

/-- The text of an assertion for an application, signed now if it is not yet. -/
def value (assertion : ClientAssertion) (clientId tenant : Value) : Action World Value :=
  match assertion with
  | .signed text => pure text
  | .certificate signer => return .text (← signer.sign clientId tenant .null)

/-- Whether an assertion is signed with a certificate when it is needed. -/
def hasCertificate : ClientAssertion → Bool
  | .certificate _ => true
  | .signed _ => false

/-- The debug text of an assertion, which shows nothing of it. -/
def describe (_ : ClientAssertion) : String := "ClientAssertion(" ++ hidden ++ ")"

end ClientAssertion

/-- How an assertion is given. -/
inductive AssertionSetting where
  /-- By the text of a value; null means none. -/
  | text (value : Value)
  | signer (signer : Signer)
  | assertion (assertion : ClientAssertion)

/-- The assertion that a setting means, if any. -/
def AssertionSetting.resolve : AssertionSetting → Except Failure (Option ClientAssertion)
  | .text .null => .ok none
  | .text named => (ClientAssertion.ofSigned (.text named.plainText)).map some
  | .signer means => .ok (some (.certificate means))
  | .assertion given => .ok (some given)

end OAuthClient
