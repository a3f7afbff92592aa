import OAuthClient.Digest.Sha256
import OAuthClient.Exchange.World
import OAuthClient.Text.Percent

/-!
# Proof keys

A proof key binds the redemption of an authorization code to the request that led to it: the request
carries a challenge, the SHA-256 digest of a verifier, and the redemption carries the verifier.
-/

namespace OAuthClient

/-- A verifier with its challenge. -/
structure ProofKey where
  /-- The secret that the redemption carries. -/
  verifier : Value
  /-- The challenge that the request carries. -/
  challenge : Value
  /-- How the challenge is made from the verifier. -/
  method : Value

namespace ProofKey

/-- The name of the method that takes the SHA-256 digest. -/
def digestMethod : String := "S256"

/-- The number of characters of a challenge. -/
def challengeLength : Nat := 43

/-- The challenge of a verifier, which must be ASCII. -/
def challengeFor (verifier : String) : Except Failure String :=
  if verifier.toList.all Text.Percent.isAscii then
    .ok (Text.Base64Url.encode (Digest.Sha256.digest (Text.Utf8.ofString verifier)))
  else .error .notAscii

/-- A key of given parts; only the size of the challenge is checked. -/
def ofParts (verifier challenge method : Value) : Except Failure ProofKey := do
  if (← challenge.size) = challengeLength then pure { verifier, challenge, method }
  else throw (.authorization "code_challenge" "Code challenge must be 43 characters")

/-- A key of parts by name; the method need not be given. -/
def ofMembers (parts : Members) : Except Failure ProofKey :=
  let names := parts.map Prod.fst
  let known := ["code_verifier", "code_challenge", "code_challenge_method"]
  if (known.take 2).all names.contains && names.all known.contains then
    ofParts (Value.member parts "code_verifier") (Value.member parts "code_challenge")
      ((Assoc.get? "code_challenge_method" parts).getD (.text digestMethod))
  else .error .wrongKind

/-- A new random verifier and its challenge. -/
def newPair : Action World (String × String) := do
  let verifier ← World.randomText
  pure (verifier, ← Action.ofExcept (challengeFor verifier))

/-- A new random key. -/
def new : Action World ProofKey := do
  let (verifier, challenge) ← newPair
  Action.ofExcept (ofParts (.text verifier) (.text challenge) (.text digestMethod))

/-- The debug text of a key, which shows neither verifier nor challenge. -/
def describe (key : ProofKey) : String :=
  "ProofKeyCodeExchange(code_challenge_method=" ++ key.method.quotedText ++ ")"

end ProofKey

end OAuthClient
