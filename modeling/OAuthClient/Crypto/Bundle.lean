import OAuthClient.Crypto.Certificate

/-!
# Key bundles

PKCS #12 bundles whose contents are not encrypted: their integrity check by a password, the private
key and the certificate that belongs to it.
-/

namespace OAuthClient.Bundle

/-- A digest with blocks of 64 bytes. -/
abbrev Hash := Bytes → Bytes

/-- A keyed digest of a message. -/
def keyedDigest (hash : Hash) (key message : Bytes) : Bytes :=
  let key := if 64 < key.length then hash key else key
  let key := key ++ List.replicate (64 - key.length) 0
  hash (key.map (· ^^^ 0x5c) ++ hash (key.map (· ^^^ 0x36) ++ message))

/-- A byte sequence repeated to fill whole blocks of 64 bytes. -/
def fillBlocks (bytes : Bytes) : Bytes :=
  let size := (bytes.length + 63) / 64 * 64
  ((List.replicate 64 bytes).flatten).take size

/-- The result of a digest applied again and again. -/
def iterate (hash : Hash) : Nat → Bytes → Bytes
  | 0, bytes => bytes
  | n + 1, bytes => iterate hash n (hash bytes)

/-- The key of the integrity check, made of a password in its two-byte form. -/
def integrityKey (hash : Hash) (password salt : Bytes) (rounds : Nat) : Bytes :=
  iterate hash rounds (List.replicate 64 3 ++ fillBlocks salt ++ fillBlocks password)

/-- The UTF-16 units of a character. -/
def unitsOf (c : Char) : List Nat :=
  let n := c.toNat
  if n < 0x10000 then [n] else [0xd800 + (n - 0x10000) / 0x400, 0xdc00 + (n - 0x10000) % 0x400]

/-- A password in two-byte form, closed by a zero. -/
def twoByteForm (password : String) : Bytes :=
  (password.toList.flatMap unitsOf ++ [0]).flatMap (Digest.bigEndian 2)

/-- The forms in which a password is tried; no password and an empty one are tried in both. -/
def passwordForms : Option String → List Bytes
  | none => [[], twoByteForm ""]
  | some password => if password.isEmpty then [[], twoByteForm ""] else [twoByteForm password]

/-- The digest that an identifier names. -/
def hashOf (identifier : Bytes) : Option Hash :=
  if identifier = [0x60, 0x86, 0x48, 0x01, 0x65, 0x03, 0x04, 0x02, 0x01] then
    some Digest.Sha256.digest
  else if identifier = [0x2b, 0x0e, 0x03, 0x02, 0x1a] then some Digest.Sha1.digest
  else none

/-- Whether the integrity check of a content succeeds with a password. -/
def checks (content : Bytes) (password : Option String) (check : Asn1.Element) : Option Bool := do
  let parts ← check.parts Asn1.Tag.sequence
  match parts with
  | digestInfo :: salt :: rest =>
      match ← digestInfo.parts Asn1.Tag.sequence with
      | [algorithm, expected] =>
          let identifier ← (← algorithm.parts Asn1.Tag.sequence).head?
          let hash ← hashOf (← identifier.contentOf Asn1.Tag.identifier)
          let salt ← salt.contentOf Asn1.Tag.octetString
          let expected ← expected.contentOf Asn1.Tag.octetString
          let rounds ← match rest with
            | [] => some 1
            | count :: _ => count.natural
          some ((passwordForms password).any fun form =>
            keyedDigest hash (integrityKey hash form salt rounds) content == expected)
      | _ => none
  | _ => none

/-- The end of the identifiers of plain content. -/
def plainContent : Bytes := [0x2a, 0x86, 0x48, 0x86, 0xf7, 0x0d, 0x01, 0x07, 0x01]

/-- The bytes of a content that is not encrypted. -/
def plainBytes (element : Asn1.Element) : Option Bytes := do
  match ← element.parts Asn1.Tag.sequence with
  | [identifier, wrapped] =>
      let identifier ← identifier.contentOf Asn1.Tag.identifier
      let content ← wrapped.contentOf (Asn1.Tag.context 0)
      if identifier = plainContent then Asn1.only Asn1.Tag.octetString content else none
  | _ => none

/-- What a bag of a bundle holds. -/
inductive Item where
  /-- A private key. -/
  | key (key : LoadedKey)
  | certificate (certificate : Certificate)

/-- The start of the identifiers of bags. -/
def bagIdentifier (n : UInt8) : Bytes :=
  [0x2a, 0x86, 0x48, 0x86, 0xf7, 0x0d, 0x01, 0x0c, 0x0a, 0x01, n]

/-- What a bag holds; a bag that is encrypted or of another kind is refused. -/
def itemOf (bag : Asn1.Element) : Option Item := do
  match ← bag.parts Asn1.Tag.sequence with
  | identifier :: wrapped :: _ =>
      let identifier ← identifier.contentOf Asn1.Tag.identifier
      let content ← wrapped.contentOf (Asn1.Tag.context 0)
      if identifier = bagIdentifier 1 then (LoadedKey.ofWrapped content).map .key
      else if identifier = bagIdentifier 3 then
        match ← Asn1.sequenceOf content with
        | [_, wrapped] =>
            let octets ← wrapped.contentOf (Asn1.Tag.context 0)
            let encoded ← Asn1.only Asn1.Tag.octetString octets
            (Certificate.ofEncoded encoded).map .certificate
        | _ => none
      else none
  | _ => none

/-- The items of the contents of a bundle. -/
def itemsOf (content : Bytes) : Option (List Item) := do
  let contents ← Asn1.sequenceOf content
  let bags ← contents.mapM fun element => do Asn1.sequenceOf (← plainBytes element)
  bags.flatten.mapM itemOf

/-- The private key of a bundle and the certificate that belongs to it. Without a key there is no
certificate either. -/
def chosen (items : List Item) : Option LoadedKey × Option Certificate :=
  let key := items.findSome? fun
    | .key key => some key
    | .certificate _ => none
  let certificate := key.bind fun key => items.findSome? fun
    | .key _ => none
    | .certificate certificate => if certificate.matchesKey key then some certificate else none
  (key, certificate)

/-- The private key and the certificate of a bundle, or nothing when it cannot be read or its
integrity check fails. -/
def load (bytes : Bytes) (password : Option String) :
    Option (Option LoadedKey × Option Certificate) := do
  match ← Asn1.sequenceOf bytes with
  | version :: authenticated :: rest =>
      let content ← plainBytes authenticated
      let sound ← match rest with
        | [] => some true
        | check :: _ => checks content password check
      if version.natural = some 3 ∧ sound then (itemsOf content).map chosen else none
  | _ => none

end OAuthClient.Bundle
