import OAuthClient.Identity.Assertion
import OAuthClient.Identity.IdToken
import OAuthClient.Proofs.ActionLaws
import OAuthClient.Proofs.Base64Laws
import OAuthClient.Proofs.FormEncoding
import OAuthClient.Proofs.JsonRoundTrip

/-! # Signed assertions read as tokens

An assertion that was signed reads, as a token, as the header and the claims
that went into it. Whether it is signed at all depends on two sizes only: that
of the key, which must hold the signed block, and that of the integers among
the claims.
-/

namespace OAuthClient

/-! ### Signatures -/

namespace Rsa

/-- The bytes that a signed block takes at least. -/
def leastSize : Nat := 62

theorem sign_isSome_iff (key : PrivateKey) (message : Bytes) :
    (key.sign message).isSome = true ↔ leastSize ≤ key.size := by
  have hlength : (digestHeader ++ Digest.Sha256.digest message).length = 51 := by
    rw [List.length_append, Digest.Sha256.length_digest]
    rfl
  unfold PrivateKey.sign signedBlock
  dsimp only
  rw [hlength]
  by_cases h : 51 + 11 ≤ key.size
  · simp [h, leastSize]
  · simp [h, leastSize]

end Rsa

/-! ### The parts of a token -/

namespace IdToken

/-- A part is read as the JSON text that was encoded in it. -/
theorem decodePart_encode_iff (text : String) (value : Value) :
    decodePart (Text.Base64Url.encode (Text.Utf8.ofString text)).toList = .ok value ↔
      Json.parse text = .ok value := by
  rw [decodePart, Text.Base64Url.encode, String.toList_ofList,
    Text.Base64Url.decodePadded?_encodeChars, Option.bind_some, Text.Utf8.ofString,
    Text.Utf8.decode?_encode, Json.parse]
  dsimp only
  cases Json.parseChars text.toList with
  | ok read => simp
  | error fault => simp

theorem decodePart_encodeJson {value : Value} (h : Json.Plain value) :
    decodePart (Signer.encodeJson value).toList = .ok value := by
  rw [Signer.encodeJson, decodePart_encode_iff]
  exact Json.parse_render h

theorem part_of_parts {token : IdToken} {first second third : String}
    (hparts : ∀ part ∈ [first, second, third], Text.Base64Url.IsText part)
    (htoken : token.idToken = .text (first ++ "." ++ second ++ "." ++ third)) (index : Nat) :
    token.part index =
      decodePart ([first.toList, second.toList, third.toList].getD index []) := by
  have hdot : ∀ part ∈ [first, second, third], ∀ c ∈ part.toList, (c == '.') = false := by
    intro part hpart c hc
    rw [beq_eq_false_iff_ne]
    rintro rfl
    have htext := hparts part hpart _ hc
    revert htext
    decide
  have htext : (first ++ "." ++ second ++ "." ++ third).toList =
      first.toList ++ '.' :: (second.toList ++ '.' :: third.toList) := by simp
  have hsplit : Text.splitOn (· == '.') (first ++ "." ++ second ++ "." ++ third).toList =
      [first.toList, second.toList, third.toList] := by
    rw [htext, Text.splitOn_append_cons _ rfl, Text.splitOn_append_cons _ rfl,
      Text.splitOn_of_not_cut (hdot first (by simp)),
      Text.splitOn_of_not_cut (hdot second (by simp)),
      Text.splitOn_of_not_cut (hdot third (by simp))]
    rfl
  have hbind (text : String) (read : String → Except Failure Value) :
      ((Value.text text).toText >>= read) = read text := rfl
  rw [part, htoken, hbind, hsplit]

end IdToken

namespace Signer

/-! ### The claims -/

/-- The claims of an application at a time that are not its own. -/
def usualClaims (clientId : String) (tenant : Value) (seconds : Int) (identifier : Bytes) :
    Members := [
  ("aud", .text ("https://login.microsoftonline.com/" ++
    (tenant.orElse (.text "common")).plainText ++ "/oauth2/v2.0/token")),
  ("exp", .int (seconds + 600)),
  ("nbf", .int seconds),
  ("jti", .text (identifierText identifier)),
  ("sub", .text clientId),
  ("iss", .text clientId)]

variable {signer : Signer} {clientId : String} {tenant now : Value} {world : World} {seconds : Int}

theorem defaultClaims_perform
    (hclock : (if now.isNull then Value.ofNumber world.now else now).toInteger = .ok seconds) :
    (defaultClaims (.text clientId) tenant now).perform world =
      (.ok (usualClaims clientId tenant seconds (world.entropy.take 16).1),
        { world with entropy := (world.entropy.take 16).2 }) := by
  rw [defaultClaims, Action.perform_bind, Action.perform_get]
  dsimp only
  rw [Action.perform_bind, Action.perform_ofExcept, hclock]
  rfl

/-- The claims that are signed. -/
def signedClaims (signer : Signer) (usual : Members) : Members :=
  if signer.claims ≠ [] ∧ signer.extendClaims = false then signer.claims
  else Assoc.update usual signer.claims

theorem claimsFor_perform
    (hclock : (if now.isNull then Value.ofNumber world.now else now).toInteger = .ok seconds) :
    ((signer.claimsFor (.text clientId) tenant now).perform world).1 = .ok
      (signer.signedClaims (usualClaims clientId tenant seconds (world.entropy.take 16).1)) := by
  have hreplaces : (!signer.claims.isEmpty && !signer.extendClaims) = true ↔
      signer.claims ≠ [] ∧ signer.extendClaims = false := by simp
  unfold claimsFor signedClaims
  by_cases h : signer.claims ≠ [] ∧ signer.extendClaims = false
  · rw [if_pos (hreplaces.mpr h), if_pos h]
    rfl
  · rw [if_neg fun hif => h (hreplaces.mp hif), if_neg h, Action.perform_bind,
      defaultClaims_perform hclock]
    rfl

theorem nodup_usualClaims (identifier : Bytes) :
    ((usualClaims clientId tenant seconds identifier).map Prod.fst).Nodup := by
  change ["aud", "exp", "nbf", "jti", "sub", "iss"].Nodup
  decide

/-- Of the usual claims only the times could be too long to be written. -/
theorem plain_of_mem_usualClaims {identifier : Bytes} {member : String × Value}
    (hmem : member ∈ usualClaims clientId tenant seconds identifier)
    (hwritable : Json.isWritable member.2 = true) : Json.Plain member.2 := by
  simp only [usualClaims, List.mem_cons, List.not_mem_nil, or_false] at hmem
  rcases hmem with rfl | rfl | rfl | rfl | rfl | rfl
  · exact .text _
  · exact .int hwritable
  · exact .int hwritable
  · exact .text _
  · exact .text _
  · exact .text _

theorem plain_signedClaims {identifier : Bytes} (hplain : Json.Plain (.object signer.claims))
    (hwritable : Json.isWritable (.object
      (signer.signedClaims (usualClaims clientId tenant seconds identifier))) = true) :
    Json.Plain (.object
      (signer.signedClaims (usualClaims clientId tenant seconds identifier))) := by
  unfold signedClaims at *
  split at hwritable
  next h => rwa [if_pos h]
  next h =>
    rw [if_neg h]
    apply Json.Plain.object (Assoc.nodup_keys_update _ (nodup_usualClaims identifier))
    intro member hmem
    have hmember := Json.membersWritable_iff.mp hwritable member hmem
    rcases Assoc.mem_update hmem with hmem | hmem
    · exact plain_of_mem_usualClaims hmem hmember
    · exact (Json.plain_object_iff.mp hplain).2 member hmem

theorem issuer_signedClaims {identifier : Bytes} (hnodup : (signer.claims.map Prod.fst).Nodup)
    (hissuer : ∀ issuer, Assoc.get? "iss" signer.claims = some issuer → ∃ s, issuer = .text s)
    {issuer : Value}
    (h : Assoc.get? "iss"
      (signer.signedClaims (usualClaims clientId tenant seconds identifier)) = some issuer) :
    ∃ s, issuer = .text s := by
  unfold signedClaims at h
  split at h
  next => exact hissuer issuer h
  next =>
    rw [Assoc.get?_update _ hnodup, Option.or_eq_some_iff] at h
    rcases h with h | ⟨-, h⟩
    · exact hissuer issuer h
    · exact ⟨clientId, (Option.some.inj h).symm⟩

/-! ### The assertion -/

/-- What an assertion with some claims is read as. -/
structure Says (signer : Signer) (claims : Members) (assertion : String) : Prop where
  parts : ∃ header payload signature, assertion = header ++ "." ++ payload ++ "." ++ signature ∧
    ∀ part ∈ [header, payload, signature], Text.Base64Url.IsText part
  header : ∀ token : IdToken, token.idToken = .text assertion →
    token.header = .ok (.object [("alg", .text "RS256"), ("typ", .text "JWT"),
      ("x5t", .text signer.encodedThumbprint)])
  claims : ∀ token : IdToken, token.idToken = .text assertion →
    token.claims = .ok (.object claims)

theorem plain_header (signer : Signer) : Json.Plain signer.header := by
  apply Json.Plain.object
  · change ["alg", "typ", "x5t"].Nodup
    decide
  · intro member hmem
    simp only [List.mem_cons, List.not_mem_nil, or_false] at hmem
    rcases hmem with rfl | rfl | rfl <;> exact .text _

theorem says_of_parts {claims : Members} (hplain : Json.Plain (.object claims))
    (signature : Bytes) :
    signer.Says claims (encodeJson signer.header ++ "." ++ encodeJson (.object claims) ++ "." ++
      Text.Base64Url.encode signature) := by
  have hparts : ∀ part ∈ [encodeJson signer.header, encodeJson (.object claims),
      Text.Base64Url.encode signature], Text.Base64Url.IsText part := by
    simp only [List.mem_cons, List.not_mem_nil, or_false]
    rintro _ (rfl | rfl | rfl) <;> exact Text.Base64Url.isText_encode _
  constructor
  · exact ⟨_, _, _, rfl, hparts⟩
  · intro token htoken
    rw [IdToken.header, IdToken.part_of_parts hparts htoken]
    exact IdToken.decodePart_encodeJson signer.plain_header
  · intro token htoken
    rw [IdToken.claims, IdToken.part_of_parts hparts htoken]
    exact IdToken.decodePart_encodeJson hplain

theorem signClaims_eq {claims : Members}
    (hissuer : ∀ issuer, Assoc.get? "iss" claims = some issuer → ∃ s, issuer = .text s) :
    signer.signClaims claims =
      let content := encodeJson signer.header ++ "." ++ encodeJson (.object claims)
      if Json.isWritable (.object claims) then
        match signer.key.sign (Text.Utf8.ofString content) with
        | some signature => .ok (content ++ "." ++ Text.Base64Url.encode signature)
        | none => .error (.invalid "")
      else .error (.invalid "") := by
  unfold signClaims
  cases hget : Assoc.get? "iss" claims with
  | none => cases hwritable : Json.isWritable (.object claims) <;> rfl
  | some issuer =>
      obtain ⟨s, rfl⟩ := hissuer issuer hget
      cases hwritable : Json.isWritable (.object claims) <;> rfl

theorem signClaims_says {claims : Members} (hplain : Json.Plain (.object claims))
    (hissuer : ∀ issuer, Assoc.get? "iss" claims = some issuer → ∃ s, issuer = .text s)
    (hkey : Rsa.leastSize ≤ signer.key.size) :
    ∃ assertion, signer.signClaims claims = .ok assertion ∧ signer.Says claims assertion := by
  have hsome := fun message => (Rsa.sign_isSome_iff signer.key message).mpr hkey
  obtain ⟨signature, hsignature⟩ := Option.isSome_iff_exists.mp (hsome _)
  refine ⟨_, ?_, says_of_parts hplain signature⟩
  rw [signClaims_eq hissuer]
  dsimp only
  rw [if_pos hplain.isWritable, hsignature]

theorem signClaims_error {claims : Members}
    (hissuer : ∀ issuer, Assoc.get? "iss" claims = some issuer → ∃ s, issuer = .text s)
    (h : ¬ (Rsa.leastSize ≤ signer.key.size ∧ Json.isWritable (.object claims) = true)) :
    signer.signClaims claims = .error (.invalid "") := by
  rw [signClaims_eq hissuer]
  dsimp only
  split
  next hwritable =>
    have hnone := fun message => mt (Rsa.sign_isSome_iff signer.key message).mp
      fun hkey => h ⟨hkey, hwritable⟩
    rw [Option.not_isSome_iff_eq_none.mp (hnone _)]
  next => rfl

/-- Claims can be signed exactly with a key that is long enough and where each can be written, and
then they read back. -/
theorem signClaims_readsBack {claims : Members}
    (hplain : Json.isWritable (.object claims) = true → Json.Plain (.object claims))
    (hissuer : ∀ issuer, Assoc.get? "iss" claims = some issuer → ∃ s, issuer = .text s) :
    ((∃ assertion, signer.signClaims claims = .ok assertion) ↔
      Rsa.leastSize ≤ signer.key.size ∧ Json.isWritable (.object claims) = true) ∧
    ∀ assertion, signer.signClaims claims = .ok assertion → signer.Says claims assertion := by
  by_cases h : Rsa.leastSize ≤ signer.key.size ∧ Json.isWritable (.object claims) = true
  · obtain ⟨assertion, hsigned, hsays⟩ := signClaims_says (hplain h.2) hissuer h.1
    refine ⟨iff_of_true ⟨assertion, hsigned⟩ h, fun other hother => ?_⟩
    rwa [← Except.ok.inj (hsigned.symm.trans hother)]
  · have hfailed := signClaims_error hissuer h
    refine ⟨iff_of_false ?_ h, fun other hother => by cases hfailed.symm.trans hother⟩
    rintro ⟨assertion, hsigned⟩
    cases hfailed.symm.trans hsigned

theorem sign_perform
    (hclock : (if now.isNull then Value.ofNumber world.now else now).toInteger = .ok seconds) :
    ((signer.sign (.text clientId) tenant now).perform world).1 = signer.signClaims
      (signer.signedClaims (usualClaims clientId tenant seconds (world.entropy.take 16).1)) := by
  have hclaims : ((signer.claimsFor (.text clientId) tenant now).perform world).1 = _ :=
    claimsFor_perform hclock
  rw [sign, Action.perform_bind]
  split
  next claims after heq =>
    rw [heq] at hclaims
    rw [Action.perform_ofExcept, Except.ok.inj hclaims]
  next failure after heq =>
    rw [heq] at hclaims
    cases hclaims

/-- The key of two primes. The factor makes the quotient exact. -/
def trialKey (p q factor : Nat) : Rsa.PrivateKey where
  modulus := p * q
  publicExponent := 65537
  privateExponent := (1 + factor * ((p - 1) * (q - 1))) / 65537

def trialSigner : Signer where
  certificate := ⟨[], []⟩
  key := trialKey (2 ^ 256 - 189) (2 ^ 255 - 19) 53116
  claims := [("iss", .text "other"), ("note", .list [.text "a\"é", .object [("b", .null)]])]

def trialWorld : World where
  start := .whole 1700000000
  now := .whole 1700000000
  entropy := ⟨fun _ => 0, 0⟩
  replies := []

theorem plain_trialSigner : Json.Plain (.object trialSigner.claims) := by
  have hnote : Json.Plain (.list [.text "a\"é", .object [("b", .null)]]) := by
    apply Json.Plain.list
    simp only [List.mem_cons, List.not_mem_nil, or_false]
    rintro _ (rfl | rfl)
    · exact .text _
    · exact Json.plain_object_iff.mpr ⟨by decide, by simpa using Json.Plain.null⟩
  apply Json.plain_object_iff.mpr ⟨by decide, _⟩
  simp only [trialSigner, List.mem_cons, List.not_mem_nil, or_false]
  rintro _ (rfl | rfl)
  · exact .text _
  · exact hnote

theorem issuer_trialSigner :
    ∀ issuer, Assoc.get? "iss" trialSigner.claims = some issuer → ∃ s, issuer = .text s := by
  rintro _ ⟨⟩
  exact ⟨"other", rfl⟩

/-- An assertion reads as its header and its claims: the signer's own ones alone if they are to
stand alone, and otherwise the usual ones with the signer's own ones in their place. There is one
exactly if the key is long enough for the signed block and every claim can be written. -/
theorem assertion_reads_back (signer : Signer) (clientId : String) (tenant now : Value)
    (world : World) {seconds : Int} (hplain : Json.Plain (.object signer.claims))
    (hissuer : ∀ issuer, Assoc.get? "iss" signer.claims = some issuer → ∃ s, issuer = .text s)
    (hclock : (if now.isNull then Value.ofNumber world.now else now).toInteger = .ok seconds) :
    let usual := usualClaims clientId tenant seconds (world.entropy.take 16).1
    let claims := signer.signedClaims usual
    let result := ((signer.sign (.text clientId) tenant now).perform world).1
    ((defaultClaims (.text clientId) tenant now).perform world).1 = .ok usual ∧
    (if signer.claims ≠ [] ∧ signer.extendClaims = false then claims = signer.claims
      else (claims.map Prod.fst).Nodup ∧ ∀ name,
        Assoc.get? name claims = (Assoc.get? name signer.claims).or (Assoc.get? name usual)) ∧
    ((∃ assertion, result = .ok assertion) ↔
      Rsa.leastSize ≤ signer.key.size ∧ Json.isWritable (.object claims) = true) ∧
    ∀ assertion, result = .ok assertion → signer.Says claims assertion := by
  intro usual claims result
  have hnodup := (Json.plain_object_iff.mp hplain).1
  have hissuer : ∀ issuer, Assoc.get? "iss" claims = some issuer → ∃ s, issuer = .text s :=
    fun _ => issuer_signedClaims hnodup hissuer
  have hresult : result = signer.signClaims claims := sign_perform hclock
  refine ⟨congrArg Prod.fst (defaultClaims_perform hclock), ?_, ?_⟩
  -- Which claims are signed, and then what comes of signing them.
  · split
    next h => exact if_pos h
    next h =>
      have hclaims : claims = Assoc.update usual signer.claims := if_neg h
      rw [hclaims]
      exact ⟨Assoc.nodup_keys_update _ (nodup_usualClaims _), Assoc.get?_update usual hnodup⟩
  · rw [hresult]
    exact signClaims_readsBack (plain_signedClaims hplain) hissuer

theorem trial_assertion_reads_back : ∃ claims assertion,
    ((trialSigner.sign (.text "client") .null .null).perform trialWorld).1 = .ok assertion ∧
      trialSigner.Says claims assertion ∧ Assoc.get? "iss" claims = some (.text "other") ∧
      Assoc.get? "exp" claims = some (.int 1700000600) := by
  have hread := assertion_reads_back trialSigner "client" .null .null trialWorld
    plain_trialSigner issuer_trialSigner rfl
  dsimp only at hread
  obtain ⟨-, -, hsigned, hsays⟩ := hread
  obtain ⟨assertion, hsigned⟩ := hsigned.mpr (by decide +kernel)
  exact ⟨_, assertion, hsigned, hsays assertion hsigned, rfl, rfl⟩

/-- The last second that can be written. -/
def lastSecond : Int := 10 ^ Text.integerDigitLimit - 1

/-- A key of 48 bytes cannot hold the signed block, and after the last second that can be written
no expiry can. -/
theorem short_key_and_late_clock_fail :
    (∀ assertion, ((({ trialSigner with
      key := trialKey (2 ^ 192 - 237) (2 ^ 191 - 19) 39040 } : Signer).sign
        (.text "client") .null .null).perform trialWorld).1 ≠ .ok assertion) ∧
    ∀ assertion, ((trialSigner.sign (.text "client") .null (.int lastSecond)).perform
      trialWorld).1 ≠ .ok assertion := by
  constructor
  · intro assertion hsigned
    rw [sign_perform rfl] at hsigned
    cases hsigned.symm.trans (signClaims_error
      (fun _ => issuer_signedClaims (by decide) issuer_trialSigner) (by decide +kernel))
  · intro assertion hsigned
    rw [sign_perform rfl] at hsigned
    cases hsigned.symm.trans (signClaims_error
      (fun _ => issuer_signedClaims (by decide) issuer_trialSigner) (by decide +kernel))

end Signer

end OAuthClient
