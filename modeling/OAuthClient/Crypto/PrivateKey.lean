import OAuthClient.Asn1.Pem
import OAuthClient.Crypto.Rsa

/-!
# Loading private keys

Private keys in armoured text and in the wrapping that names their algorithm. Keys of other
algorithms than RSA are recognized, so that they can be told from text that holds no key.
-/

namespace OAuthClient

/-- A private key as loaded. -/
inductive LoadedKey where
  | rsa (key : Rsa.PrivateKey)
  /-- A key of another algorithm, with the public half if the structure holds it. -/
  | other (publicHalf : Option Bytes)

namespace LoadedKey

/-- The identifier of RSA keys. -/
def rsaIdentifier : Bytes := [0x2a, 0x86, 0x48, 0x86, 0xf7, 0x0d, 0x01, 0x01, 0x01]

/-- The identifiers of the other algorithms whose keys are recognized: keys on prime curves, DSA
keys, and the four kinds of keys on Edwards and Montgomery curves. -/
def otherIdentifiers : List Bytes :=
  [[0x2a, 0x86, 0x48, 0xce, 0x3d, 0x02, 0x01], [0x2a, 0x86, 0x48, 0xce, 0x38, 0x04, 0x01],
    [0x2b, 0x65, 0x6e], [0x2b, 0x65, 0x6f], [0x2b, 0x65, 0x70], [0x2b, 0x65, 0x71]]

/-- The public half that a key on a prime curve may carry. -/
def curvePublicHalf (bytes : Bytes) : Option Bytes := do
  let parts ← Asn1.sequenceOf bytes
  let part ← parts.find? (·.tag = Asn1.Tag.context 1)
  Asn1.only Asn1.Tag.bitString part.content

/-- The key in a structure that names its algorithm. -/
def ofWrapped (bytes : Bytes) : Option LoadedKey := do
  let parts ← Asn1.sequenceOf bytes
  match parts with
  | version :: algorithm :: wrapped :: _ =>
      let version ← version.natural
      let identifier ← (← algorithm.parts Asn1.Tag.sequence).head?
      let identifier ← identifier.contentOf Asn1.Tag.identifier
      let inner ← wrapped.contentOf Asn1.Tag.octetString
      if 1 < version then none
      else if identifier = rsaIdentifier then (Rsa.PrivateKey.ofPkcs1 inner).map .rsa
      else if otherIdentifiers.contains identifier then some (.other (curvePublicHalf inner))
      else none
  | _ => none

/-- The labels of blocks that hold a private key. -/
def labels : List String :=
  ["PRIVATE KEY", "RSA PRIVATE KEY", "EC PRIVATE KEY", "DSA PRIVATE KEY",
    "ENCRYPTED PRIVATE KEY"]

/-- The key in an armoured text. A password is refused for a key that is not encrypted, and an
encrypted key is refused without regard to the password. -/
def ofPem (text : String) (password : Option String) : Option LoadedKey := do
  let block ← Asn1.findBlock labels text
  if block.hasHeaders || password.isSome || block.label = "ENCRYPTED PRIVATE KEY" then none
  else if block.label = "PRIVATE KEY" then ofWrapped block.content
  else if block.label = "RSA PRIVATE KEY" then (Rsa.PrivateKey.ofPkcs1 block.content).map .rsa
  else (Asn1.sequenceOf block.content).map fun _ => .other (curvePublicHalf block.content)

end LoadedKey

end OAuthClient
