import OAuthClient.Asn1.Der
import OAuthClient.Digest.Sha256

/-!
# RSA signatures

Private keys, their reading from DER, and signatures by the first version of PKCS #1 over SHA-256.
-/

namespace OAuthClient.Rsa

/-- A private key. -/
structure PrivateKey where
  /-- The product of the two primes. -/
  modulus : Nat
  /-- The exponent that checks signatures. -/
  publicExponent : Nat
  /-- The exponent that makes signatures. -/
  privateExponent : Nat

/-- A power modulo a number, by squaring; the fuel bounds the bits of the exponent. -/
def powModAux : Nat → Nat → Nat → Nat → Nat → Nat
  | 0, _, _, _, result => result
  | fuel + 1, base, exponent, modulus, result =>
      if exponent = 0 then result
      else
        let result := if exponent % 2 = 1 then result * base % modulus else result
        powModAux fuel (base * base % modulus) (exponent / 2) modulus result

/-- A power modulo a number. -/
def powMod (base exponent modulus : Nat) : Nat :=
  powModAux (exponent.log2 + 1) (base % modulus) exponent modulus (1 % modulus)

/-- The key in the content of a PKCS #1 structure. The primes must multiply to the modulus and the
two exponents must undo each other modulo each of them. -/
def PrivateKey.ofPkcs1 (bytes : Bytes) : Option PrivateKey := do
  let parts ← Asn1.sequenceOf bytes
  let numbers ← parts.mapM Asn1.Element.natural
  match numbers with
  | [0, n, e, d, p, q, _, _, _] =>
      if 2 < p ∧ 2 < q ∧ n = p * q ∧ e * d % (p - 1) = 1 ∧ e * d % (q - 1) = 1 then
        some { modulus := n, publicExponent := e, privateExponent := d }
      else none
  | _ => none

/-- How many bytes a signature has. -/
def PrivateKey.size (key : PrivateKey) : Nat := (key.modulus.log2 + 8) / 8

/-- What precedes a SHA-256 digest in a signed block: the name of the algorithm in DER. -/
def digestHeader : Bytes :=
  [0x30, 0x31, 0x30, 0x0d, 0x06, 0x09, 0x60, 0x86, 0x48, 0x01, 0x65, 0x03, 0x04, 0x02, 0x01, 0x05,
    0x00, 0x04, 0x20]

/-- The block that is signed: a digest, padded to a size. -/
def signedBlock (size : Nat) (message : Bytes) : Option Bytes :=
  let tail := digestHeader ++ Digest.Sha256.digest message
  if tail.length + 11 ≤ size then
    some (0x00 :: 0x01 :: List.replicate (size - tail.length - 3) 0xff ++ 0x00 :: tail)
  else none

/-- The signature of a message; a key that is too short has none. -/
def PrivateKey.sign (key : PrivateKey) (message : Bytes) : Option Bytes := do
  let block ← signedBlock key.size message
  some (Digest.bigEndian key.size
    (powMod (Digest.ofBigEndian block) key.privateExponent key.modulus))

end OAuthClient.Rsa
