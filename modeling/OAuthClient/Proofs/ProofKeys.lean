import OAuthClient.Proofs.Base64Laws
import OAuthClient.Proofs.GrantRuns
import OAuthClient.Proofs.UrlFields

/-! # Proof keys from end to end

A new key always has a verifier and the challenge of that verifier. The URL of a
sign-in that is given the key carries the challenge, the redemption of the code
carries the verifier, and a refresh token is redeemed without it, whatever else
is done with the credential in between.
-/

namespace OAuthClient

/-! ### New keys -/

theorem Text.Base64Url.isBlankText_encode {bytes : Bytes} (hne : (encode bytes).length ≠ 0) :
    isBlankText (encode bytes) = false := by
  have hdigit : ∀ n < 64, isBlank (digit n) = false := by decide +kernel
  rw [encode, String.length_ofList] at hne
  rw [isBlankText, allBlank, encode, String.toList_ofList, List.all_eq_false]
  cases hchars : encodeChars bytes with
  | nil =>
      rw [hchars] at hne
      exact absurd rfl hne
  | cons c rest =>
      have hc : c ∈ encodeChars bytes := by simp [hchars]
      obtain ⟨n, hn, rfl⟩ := exists_digit_of_mem hc
      exact ⟨_, List.mem_cons_self, by simp [hdigit n hn]⟩

namespace ProofKey

/-- A verifier that is random, and its challenge. -/
def verifierOf (entropy : Entropy) : String := Text.Base64Url.encode (entropy.take 32).1

/-- The challenge of an ASCII verifier. -/
def challengeOf (verifier : String) : String :=
  Text.Base64Url.encode (Digest.Sha256.digest (Text.Utf8.ofString verifier))

theorem challengeFor_encode (bytes : Bytes) :
    challengeFor (Text.Base64Url.encode bytes) =
      .ok (challengeOf (Text.Base64Url.encode bytes)) := by
  rw [challengeFor, if_pos]
  · rfl
  · rw [List.all_eq_true, Text.Base64Url.encode, String.toList_ofList]
    exact fun c hc => decide_eq_true (Text.Base64Url.isAscii_of_mem_encodeChars c hc)

theorem length_challengeOf (verifier : String) : (challengeOf verifier).length = 43 := by
  rw [challengeOf, Text.Base64Url.length_encode, Digest.Sha256.length_digest]

theorem length_verifierOf (entropy : Entropy) : (verifierOf entropy).length = 43 := by
  rw [verifierOf, Text.Base64Url.length_encode]
  simp [Entropy.take]

theorem ofParts_of_length {challenge : String} (hlength : challenge.length = challengeLength)
    (verifier method : Value) :
    ofParts verifier (.text challenge) method =
      .ok { verifier, challenge := .text challenge, method } := by
  rw [ofParts, Value.size]
  simp only [bind, Except.bind, hlength, if_true]
  rfl

theorem randomText_perform (world : World) :
    World.randomText.perform world =
      (.ok (verifierOf world.entropy), { world with entropy := (world.entropy.take 32).2 }) := rfl

theorem newPair_perform (world : World) :
    newPair.perform world =
      (.ok (verifierOf world.entropy, challengeOf (verifierOf world.entropy)),
        { world with entropy := (world.entropy.take 32).2 }) := by
  have hchallenge : challengeFor (verifierOf world.entropy) =
      .ok (challengeOf (verifierOf world.entropy)) := challengeFor_encode _
  rw [newPair, Action.perform_bind_of_ok (randomText_perform world), hchallenge]
  rfl

theorem new_perform (world : World) :
    (ProofKey.new.perform world).1 =
      .ok { verifier := .text (verifierOf world.entropy),
            challenge := .text (challengeOf (verifierOf world.entropy)),
            method := .text digestMethod } := by
  rw [ProofKey.new, Action.perform_bind_of_ok (newPair_perform world)]
  dsimp only
  rw [Action.perform_ofExcept, ofParts_of_length (length_challengeOf _)]

end ProofKey

/-! ### The URL of the sign-in -/

namespace AuthorizationUrl

/-- A URL with a key asks with the challenge of the key. -/
theorem value?_withProofKey {url keyed : AuthorizationUrl} {key : ProofKey} {challenge : String}
    (h : url.withProofKey key = .ok keyed) (hchallenge : key.challenge = .text challenge)
    (hmethod : key.method = .text ProofKey.digestMethod)
    (hfilled : Text.isBlankText challenge = false) :
    keyed.config = url.config ∧
      (∀ parameter ∈ [Parameter.codeChallenge, .codeChallengeMethod],
        parameter ∈ keyed.required ++ keyed.optional) ∧
      keyed.value? .codeChallenge = some challenge ∧
      keyed.value? .codeChallengeMethod = some ProofKey.digestMethod := by
  have hpresent : (Value.text challenge).isPresent = true := by
    cases hempty : challenge.isEmpty with
    | false => rw [Value.isPresent, hempty]; rfl
    | true =>
        rw [String.isEmpty_iff.mp hempty] at hfilled
        cases hfilled
  unfold withProofKey at h
  split at h
  next options hpurpose =>
    split at h
    next hflow =>
      rw [beq_iff_eq] at hflow
      cases h
      simp only [required, optional, value?, SignIn.value?, hchallenge, hmethod, hpresent, if_true,
        Value.filled?_text, hfilled, Bool.false_eq_true, if_false, hflow, true_and]
      exact ⟨by decide, rfl⟩
    next => cases h
  next => cases h

end AuthorizationUrl

/-! ### The redemption of the code -/

namespace Credential

variable {credential given : Credential} {code verifier : Value} {proof : ClientProof}
  {fields : Fields} {world : World}

theorem get?_codeVerifier_refreshForm {map : ParameterMap} {token : Value}
    {required : List Parameter} (hproof : required ∈ GrantKind.proofs)
    (h : refreshForm map token required = .ok fields) :
    Assoc.get? "code_verifier" fields = none := by
  have hverifier := ParameterMap.get?_toForm h .codeVerifier
  have hproofs : ∀ required ∈ GrantKind.proofs,
      Parameter.codeVerifier ∉ [.clientId, .refreshToken, .grantType] ++ required ++ [.scope] := by
    decide
  rw [if_neg (hproofs required hproof)] at hverifier
  exact hverifier

theorem get?_codeVerifier_codeForm {map : ParameterMap} {config : AppConfig}
    {required : List Parameter} (hmap : map.get? .codeVerifier = none)
    (h : codeForm map config code verifier required = .ok fields) :
    Assoc.get? "code_verifier" fields = verifier.filled? := by
  have hverifier := ParameterMap.get?_toForm h .codeVerifier
  rw [if_pos (by simp), ParameterMap.get?_insert_self _ (by decide),
    ParameterMap.get?_insert_of_ne _ _ (by decide), ParameterMap.get?_insert_of_ne _ _ (by decide),
    ParameterMap.insertText, ParameterMap.get?_insert_of_ne _ _ (by decide), hmap,
    Option.or_none] at hverifier
  exact hverifier

/-- A form that redeems a code has the verifier, and one that redeems a refresh token has none. -/
theorem codeVerifier_of_authorizationCodeForm
    (h : ((credential.authorizationCodeForm code verifier proof).perform world).1 = .ok fields) :
    (Assoc.get? "grant_type" fields = some "authorization_code" ∧
        Assoc.get? "code_verifier" fields = verifier.filled?) ∨
      (Assoc.get? "grant_type" fields = some "refresh_token" ∧
        Assoc.get? "code_verifier" fields = none) := by
  have hstarted := credential.get?_started .codeVerifier (by decide) (by decide)
  unfold authorizationCodeForm at h
  dsimp only at h
  split at h
  next =>
    obtain ⟨_, reached, _, h⟩ := Action.of_perform_bind_ok h
    obtain ⟨⟨map, required⟩, _, hadded, h⟩ := Action.of_perform_bind_ok h
    obtain ⟨hmap, hproof⟩ := ClientProof.addToCode_filled credential.started_isFilled hadded
    rw [Action.perform_ofExcept] at h
    exact .inr ⟨(refreshForm_isForm hmap hproof h).word, get?_codeVerifier_refreshForm hproof h⟩
  next =>
    split at h
    next =>
      obtain ⟨_, reached, _, h⟩ := Action.of_perform_bind_ok h
      obtain ⟨⟨map, required⟩, _, hadded, h⟩ := Action.of_perform_bind_ok h
      obtain ⟨hmap, hproof⟩ := ClientProof.addToCode_filled credential.started_isFilled hadded
      rw [Action.perform_ofExcept] at h
      have hnone := (ClientProof.get?_addToCode hadded (by decide)).trans hstarted
      exact .inl ⟨(codeForm_isForm hmap hproof h).word, get?_codeVerifier_codeForm hnone h⟩
    next => cases h

theorem codeVerifier_of_form {verifier : String} (hfilled : Text.isBlankText verifier = false)
    (hgrant : credential.grant.codeVerifier? = some (.text verifier))
    (h : (credential.form.perform world).1 = .ok fields) :
    (Assoc.get? "grant_type" fields = some "authorization_code" ∧
        Assoc.get? "code_verifier" fields = some verifier) ∨
      (Assoc.get? "grant_type" fields = some "refresh_token" ∧
        Assoc.get? "code_verifier" fields = none) := by
  rw [form] at h
  cases hkind : credential.grant with
  | authorizationCode openId code held proof =>
      rw [hkind] at hgrant h
      cases hgrant
      have hform := codeVerifier_of_authorizationCodeForm h
      rwa [Value.filled?_text, hfilled] at hform
  | _ =>
      rw [hkind] at hgrant
      cases hgrant

theorem codeVerifier?_withProofKey {key : ProofKey} (h : credential.withProofKey key = .ok given) :
    given.grant.codeVerifier? = some key.verifier := by
  unfold withProofKey at h
  split at h <;> cases h
  rfl

theorem codeVerifier?_given {input : CredentialInput} (hinput : ∀ key, input ≠ .proofKey key)
    (h : credential.given input = .ok given) :
    given.grant.codeVerifier? = credential.grant.codeVerifier? := by
  obtain ⟨config, client, grant, refreshToken⟩ := credential
  cases input with
  | authorizationCode code =>
      cases grant <;> cases h
      rfl
  | refreshToken token =>
      simp only [Credential.given, withRefreshToken] at h
      split at h <;> cases h
      exact Grant.Remains.codeVerifier? (.inr rfl)
  | deviceCode code =>
      cases grant <;> cases h
      rfl
  | proofKey key => exact absurd rfl (hinput key)

end Credential

namespace Context

/-- An act that gives no other key leaves the verifier as it is. -/
theorem act_codeVerifier? {act : CredentialAct} (hact : ∀ key, act ≠ .give (.proofKey key))
    (context : Context) : (act.apply context).credential.grant.codeVerifier? =
      context.credential.grant.codeVerifier? := by
  cases act with
  | perform step => exact (apply_remains step context).codeVerifier?
  | give input =>
      rcases changeCredential_cases (·.given input) context with heq | ⟨credential, hgiven, heq⟩ <;>
        rw [CredentialAct.apply, heq]
      refine Credential.codeVerifier?_given ?_ hgiven
      rintro key rfl
      exact hact key rfl

theorem enact_codeVerifier? {acts : List CredentialAct}
    (hacts : ∀ act ∈ acts, ∀ key, act ≠ .give (.proofKey key)) (context : Context) :
    (context.enact acts).credential.grant.codeVerifier? =
      context.credential.grant.codeVerifier? := by
  induction acts generalizing context with
  | nil => rfl
  | cons act acts ih =>
      rw [List.forall_mem_cons] at hacts
      exact (ih hacts.2 _).trans (act_codeVerifier? hacts.1 context)

end Context

/-- A new key binds the redemption of a code to the sign-in: it is a verifier of 43 characters and
its challenge, the URL of the sign-in has the challenge, and every form for the code has the
verifier, which no form for a refresh token has. -/
theorem new_key_binds (world : World) :
    ∃ key verifier challenge, (ProofKey.new.perform world).1 = .ok key ∧
      key.verifier = .text verifier ∧ key.challenge = .text challenge ∧
      verifier.length = 43 ∧ Text.Base64Url.IsText verifier ∧ challenge.length = 43 ∧
      ProofKey.challengeFor verifier = .ok challenge ∧
      (∀ url keyed text, AuthorizationUrl.withProofKey url key = .ok keyed →
        keyed.render = .ok text →
        ∃ query, text = keyed.endpoint ++ "?" ++ query ∧
          (∀ value, ("code_challenge", value) ∈ Text.Form.decode true query ↔
            value = challenge ∨
              ("code_challenge", value) ∈ AuthorizationUrl.extraFields url.config) ∧
          ∀ value, ("code_challenge_method", value) ∈ Text.Form.decode true query ↔
            value = "S256" ∨
              ("code_challenge_method", value) ∈ AuthorizationUrl.extraFields url.config) ∧
      ∀ (credential : Credential) (context : Context) (acts : List CredentialAct) fields moment,
        credential.withProofKey key = .ok context.credential →
        (∀ act ∈ acts, ∀ other, act ≠ .give (.proofKey other)) →
        ((context.enact acts).credential.form.perform moment).1 = .ok fields →
        (Assoc.get? "grant_type" fields = some "authorization_code" ∧
            Assoc.get? "code_verifier" fields = some verifier) ∨
          (Assoc.get? "grant_type" fields = some "refresh_token" ∧
            Assoc.get? "code_verifier" fields = none) := by
  have hverifier := ProofKey.length_verifierOf world.entropy
  have hchallenge := ProofKey.length_challengeOf (ProofKey.verifierOf world.entropy)
  refine ⟨_, _, _, ProofKey.new_perform world, rfl, rfl, hverifier,
    Text.Base64Url.isText_encode _, hchallenge, ProofKey.challengeFor_encode _, ?_, ?_⟩
  · intro url keyed text hkeyed hrender
    obtain ⟨query, rfl, hdecode⟩ := AuthorizationUrl.render_ok hrender
    have hfilled : Text.isBlankText (ProofKey.challengeOf (ProofKey.verifierOf world.entropy)) =
        false :=
      Text.Base64Url.isBlankText_encode (by rw [← ProofKey.challengeOf, hchallenge]; decide)
    obtain ⟨hconfig, hasked, hvalue, hmethod⟩ :=
      AuthorizationUrl.value?_withProofKey hkeyed rfl rfl hfilled
    refine ⟨query, rfl, fun value => ?_, fun value => ?_⟩
    · rw [hdecode, ← hconfig]
      exact AuthorizationUrl.mem_fields_iff (hasked .codeChallenge (by decide)) hvalue
    · rw [hdecode, ← hconfig]
      exact AuthorizationUrl.mem_fields_iff (hasked .codeChallengeMethod (by decide)) hmethod
  · intro credential context acts fields moment hgiven hacts hform
    have hheld := (Context.enact_codeVerifier? hacts context).trans
      (Credential.codeVerifier?_withProofKey hgiven)
    have hfilled : Text.isBlankText (ProofKey.verifierOf world.entropy) = false :=
      Text.Base64Url.isBlankText_encode (by rw [← ProofKey.verifierOf, hverifier]; decide)
    exact Credential.codeVerifier_of_form hfilled hheld hform

/-- The verifier of a world that is random in zeros only. -/
def ProofKey.trialVerifier : String := String.ofList (List.replicate 43 'A')

/-- A sign-in for a code with a challenge. -/
def AuthorizationUrl.keyTrial (codeChallenge codeChallengeMethod : Value) : AuthorizationUrl where
  config := trialApp
  purpose := .signIn {
    flow := .code
    responseTypes := [.text "code"]
    responseMode := .null
    state := .null
    nonce := .null
    prompts := []
    domainHint := .null
    loginHint := .null
    codeChallenge, codeChallengeMethod }

theorem AuthorizationUrl.exists_render_keyTrial (challenge method : Value) :
    ∃ text, (keyTrial challenge method).render = .ok text := by
  have hquery : ∃ query, (keyTrial challenge method).query = .ok query := by
    refine ⟨_, (query_eq_ok_iff rfl).mpr ⟨⟨"code", rfl, ?_⟩, ?_, rfl⟩⟩
    · trivial
    · change ∀ parameter ∈ [Parameter.clientId, .responseType, .redirectUri, .scope], _
      have hid : (Value.text trialApp.clientId).filled?.isSome = true := by decide
      have hredirect : trialApp.redirectUri.filled?.isSome = true := by decide
      have htype : (Value.text "code").filled?.isSome = true := by decide
      have hscope : (ParameterMap.scopeText? trialApp.scope).isSome = true := by decide
      simp only [List.forall_mem_cons, List.not_mem_nil, false_implies, implies_true, and_true]
      exact ⟨hid, htype, hredirect, hscope⟩
  obtain ⟨query, hquery⟩ := hquery
  rw [render, hquery]
  exact ⟨_, rfl⟩

/-- A public client with a code that is bound to a verifier. -/
def Context.keyed (verifier : Value) : Context where
  credential := {
    config := AuthorizationUrl.trialApp
    client := .standard
    grant := .authorizationCode false (.text "code") verifier (.secret .null false) }
  cache := {}
  world := AuthorizationUrl.trialWorld

theorem trial_key_binds :
    ∃ key challenge keyed query fields,
      (ProofKey.new.perform AuthorizationUrl.trialWorld).1 = .ok key ∧
      ProofKey.challengeFor ProofKey.trialVerifier = .ok challenge ∧
      AuthorizationUrl.withProofKey (.keyTrial .null .null) key = .ok keyed ∧
      keyed.render = .ok (keyed.endpoint ++ "?" ++ query) ∧
      ("code_challenge", challenge) ∈ Text.Form.decode true query ∧
      (Context.keyed .null).credential.withProofKey key =
        .ok (Context.keyed (.text ProofKey.trialVerifier)).credential ∧
      ((Context.keyed (.text ProofKey.trialVerifier)).credential.form.perform
        AuthorizationUrl.trialWorld).1 = .ok fields ∧
      Assoc.get? "code_verifier" fields = some ProofKey.trialVerifier := by
  obtain ⟨key, verifier, challenge, hnew, hverifier, hchallenge, -, -, -, hpair, hurl, hforms⟩ :=
    new_key_binds AuthorizationUrl.trialWorld
  obtain rfl : verifier = ProofKey.trialVerifier := by
    have hsame := hnew.symm.trans (ProofKey.new_perform AuthorizationUrl.trialWorld)
    rw [Except.ok.inj hsame] at hverifier
    exact (Value.text.inj hverifier).symm.trans (by decide +kernel)
  obtain ⟨held, asked, method⟩ := key
  cases hverifier
  cases hchallenge
  obtain ⟨text, hrender⟩ := AuthorizationUrl.exists_render_keyTrial (.text challenge) method
  obtain ⟨query, rfl, hcarried, -⟩ := hurl (.keyTrial .null .null) _ text rfl hrender
  have hform : ∃ fields, ((Context.keyed (.text ProofKey.trialVerifier)).credential.form.perform
      AuthorizationUrl.trialWorld).1 = .ok fields ∧
      Assoc.get? "grant_type" fields = some "authorization_code" := ⟨_, rfl, by decide⟩
  obtain ⟨fields, hform, hkind⟩ := hform
  refine ⟨_, challenge, _, query, fields, hnew, hpair, rfl, hrender, (hcarried _).mpr (.inl rfl),
    rfl, hform, ?_⟩
  rcases hforms (Context.keyed .null).credential (.keyed (.text ProofKey.trialVerifier)) [] fields
    AuthorizationUrl.trialWorld rfl (by rintro _ ⟨⟩) hform with ⟨-, hfield⟩ | ⟨hother, -⟩
  · exact hfield
  · exact absurd (Option.some.inj (hkind.symm.trans hother)) (by decide)

end OAuthClient
