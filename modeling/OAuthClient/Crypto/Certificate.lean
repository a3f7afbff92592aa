import OAuthClient.Crypto.PrivateKey
import OAuthClient.Digest.Sha1

/-!
# Certificates

X.509 certificates as far as an assertion needs them: the bytes that their thumbprint is taken of,
and the public key that tells whether a private key belongs to them.
-/

namespace OAuthClient

/-- A certificate. -/
structure Certificate where
  /-- The encoded certificate. -/
  encoded : Bytes
  /-- The public key as encoded in the certificate. -/
  publicKey : Bytes

namespace Certificate

/-- Whether an element is a time of validity. -/
def isTime (element : Asn1.Element) : Bool :=
  element.tag == Asn1.Tag.shortTime || element.tag == Asn1.Tag.generalTime

/-- Whether the parts of a certificate body after its version have the kinds they must have. -/
def hasBodyShape : List Asn1.Element → Bool
  | serial :: algorithm :: issuer :: validity :: subject :: publicKey :: _ =>
      serial.tag == Asn1.Tag.integer && algorithm.tag == Asn1.Tag.sequence &&
        issuer.tag == Asn1.Tag.sequence && subject.tag == Asn1.Tag.sequence &&
        publicKey.tag == Asn1.Tag.sequence &&
        (match validity.parts Asn1.Tag.sequence with
          | some [start, stop] => isTime start && isTime stop
          | _ => false)
  | _ => false

/-- The parts of a certificate body after its version, which may be left out. -/
def afterVersion : List Asn1.Element → List Asn1.Element
  | first :: rest => if first.tag = Asn1.Tag.context 0 then rest else first :: rest
  | [] => []

/-- The certificate that an encoding holds. -/
def ofEncoded (encoded : Bytes) : Option Certificate := do
  let parts ← Asn1.sequenceOf encoded
  match parts with
  | [body, algorithm, signature] =>
      let parts := afterVersion (← body.parts Asn1.Tag.sequence)
      if hasBodyShape parts && algorithm.tag == Asn1.Tag.sequence &&
          signature.tag == Asn1.Tag.bitString then
        let key ← (← parts[5]?).parts Asn1.Tag.sequence
        match key with
        | [_, bits] => do
            let publicKey ← bits.contentOf Asn1.Tag.bitString
            some { encoded, publicKey }
        | _ => none
      else none
  | _ => none

/-- The first certificate in an armoured text. -/
def ofPem (text : String) : Option Certificate := do
  let block ← Asn1.findBlock ["CERTIFICATE", "X509 CERTIFICATE"] text
  ofEncoded block.content

/-- Whether a private key belongs to a certificate. A key whose public half is not known is taken to
belong. -/
def matchesKey (certificate : Certificate) : LoadedKey → Bool
  | .rsa key =>
      match Asn1.sequenceOf (certificate.publicKey.drop 1) with
      | some [n, e] => n.natural == some key.modulus && e.natural == some key.publicExponent
      | _ => false
  | .other publicHalf => publicHalf.all (· == certificate.publicKey)

/-- The SHA-1 digest of the encoding. -/
def thumbprint (certificate : Certificate) : Bytes := Digest.Sha1.digest certificate.encoded

end Certificate

end OAuthClient
