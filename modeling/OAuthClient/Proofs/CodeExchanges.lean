import OAuthClient.Credential.Settings
import OAuthClient.Proofs.GrantKeys

/-! # Proof in a code exchange

A form that redeems an authorization code has to show that it comes from the
application that asked for the code: by a secret, by an assertion or by the
verifier of a proof key. It does so unless the application relies on a verifier
that is blank: such a verifier counts as given, but it is not sent.
-/

namespace OAuthClient

/-- Whether the fields of a form show which application sends it. -/
def IsAuthenticated (fields : Credential.Fields) : Prop :=
  ∃ parameter ∈ [Parameter.clientSecret, .clientAssertion, .codeVerifier],
    (Assoc.get? parameter.wireName fields).isSome = true

instance (fields : Credential.Fields) : Decidable (IsAuthenticated fields) := by
  unfold IsAuthenticated
  infer_instance

theorem ParameterMap.get?_isSome_of_mem_required {map : ParameterMap}
    {optional required : List Parameter} {fields : Credential.Fields}
    (h : map.toForm optional required = .ok fields) {parameter : Parameter}
    (hmem : parameter ∈ required) : (Assoc.get? parameter.wireName fields).isSome = true := by
  rw [get?_toForm h, if_pos (List.mem_append_left _ hmem)]
  exact get?_isSome_of_toForm h hmem

namespace ClientProof

/-- Whether a proof is sent in the form; a secret can be sent as HTTP credentials instead. -/
def IsInForm : ClientProof → Prop
  | .secret _ basic => basic = false
  | .assertion _ => True

/-- Whether a client relies on a verifier that is given but blank. -/
def ReliesOnBlank (proof : ClientProof) (verifier : Value) : Prop :=
  proof = .secret .null false ∧ verifier.isPresent = true ∧
    Text.isBlankText verifier.plainText = true

variable {proof : ClientProof} {verifier : Value} {map added : ParameterMap} {config : AppConfig}
  {required : List Parameter} {world after : World}

theorem mem_required_of_addTo (hproof : proof.IsInForm)
    (h : (proof.addTo map config).perform world = (.ok (added, required), after)) :
    .clientSecret ∈ required ∨ .clientAssertion ∈ required := by
  cases proof with
  | secret word basic =>
      obtain rfl : basic = false := hproof
      rw [addTo, Action.perform_ofExcept] at h
      obtain ⟨s, -, -, hadded⟩ := addSecret_ok (Prod.mk.inj h).1
      cases hadded
      exact .inl (List.mem_singleton.mpr rfl)
  | assertion given =>
      cases given with
      | none => cases h
      | some given =>
          rw [addTo, addAssertion, Action.perform_bind] at h
          split at h
          next signed reached hsigned =>
            cases h
            exact .inr List.mem_cons_self
          next => cases h

/-- What a client adds that redeems a code: a proof of its own, or nothing when it has no secret and
a verifier is given. -/
theorem addToCode_cases (hproof : proof.IsInForm)
    (h : (proof.addToCode verifier map config).perform world = (.ok (added, required), after)) :
    (proof ≠ .secret .null false ∧ (.clientSecret ∈ required ∨ .clientAssertion ∈ required)) ∨
      (proof = .secret .null false ∧ verifier.isPresent = true ∧ added = map ∧ required = []) := by
  unfold addToCode at h
  split at h
  next basic =>
    obtain rfl : basic = false := hproof
    right
    split at h
    next hpresent =>
      cases h
      exact ⟨rfl, hpresent, rfl, rfl⟩
    next => cases h
  next hother => exact .inl ⟨hother false, mem_required_of_addTo hproof h⟩

end ClientProof

namespace Credential

variable {credential : Credential} {openId : Bool} {code verifier : Value} {proof : ClientProof}
  {config : AppConfig} {map : ParameterMap} {required : List Parameter} {fields : Fields}
  {world : World}

/-- Beside a proof of its own, the verifier is what a form can show. -/
theorem codeForm_isAuthenticated_iff (hmap : map.get? .codeVerifier = none)
    (h : codeForm map config code verifier [] = .ok fields) :
    IsAuthenticated fields ↔ verifier.filled?.isSome = true := by
  have hfield (parameter : Parameter) := ParameterMap.get?_toForm h parameter
  have hverifier := hfield .codeVerifier
  rw [if_pos (by decide), ParameterMap.get?_insert_self _ (by decide),
    ParameterMap.get?_insert_of_ne _ _ (by decide), ParameterMap.get?_insert_of_ne _ _ (by decide),
    ParameterMap.insertText, ParameterMap.get?_insert_of_ne _ _ (by decide), hmap,
    Option.or_none] at hverifier
  have hsecret := hfield .clientSecret
  have hassertion := hfield .clientAssertion
  rw [if_neg (by decide)] at hsecret hassertion
  simp only [IsAuthenticated, List.mem_cons, List.not_mem_nil, or_false, exists_eq_or_imp,
    exists_eq_left, hsecret, hassertion, hverifier, Option.isSome_none, Bool.false_eq_true,
    false_or]

/-- A form that redeems a code was made from the code, since no refresh token was there. -/
theorem codeForm_of_word (hgrant : credential.grant = .authorizationCode openId code verifier proof)
    (hform : (credential.form.perform world).1 = .ok fields)
    (hword : Assoc.get? "grant_type" fields = some "authorization_code") :
    ∃ map required reached after,
      (proof.addToCode verifier credential.started credential.config).perform reached =
        (.ok (map, required), after) ∧
      codeForm map credential.config code verifier required = .ok fields := by
  rw [form, hgrant] at hform
  dsimp only at hform
  unfold authorizationCodeForm at hform
  dsimp only at hform
  split at hform
  next =>
    obtain ⟨_, reached, _, hform⟩ := Action.of_perform_bind_ok hform
    obtain ⟨⟨map, required⟩, _, hadded, hform⟩ := Action.of_perform_bind_ok hform
    obtain ⟨hmap, hproof⟩ := ClientProof.addToCode_filled credential.started_isFilled hadded
    rw [Action.perform_ofExcept] at hform
    have hrefresh := (refreshForm_isForm hmap hproof hform).word
    rw [hword] at hrefresh
    exact absurd hrefresh (by decide)
  next =>
    split at hform
    next =>
      obtain ⟨_, reached, _, hform⟩ := Action.of_perform_bind_ok hform
      obtain ⟨⟨map, required⟩, after, hadded, hform⟩ := Action.of_perform_bind_ok hform
      rw [Action.perform_ofExcept] at hform
      exact ⟨map, required, reached, after, hadded, hform⟩
    next => cases hform

/-- The kinds that redeem an authorization code do so with a proof that is sent in the form. -/
theorem grant_of_ofSettings {kind : CredentialKind} {client : HttpClient}
    {settings : CredentialSettings}
    (hkind : kind ∈ [.authorizationCode, .authorizationCodeCertificate, .openId])
    (h : ofSettings kind config client settings = .ok credential) :
    ∃ openId proof, proof.IsInForm ∧
      credential.grant = .authorizationCode openId (settings.value "authorization_code")
        (settings.value "code_verifier") proof := by
  unfold ofSettings at h
  split at h
  next =>
    obtain ⟨grant, hgrant, h⟩ := Failure.of_bind_ok h
    cases h
    simp only [List.mem_cons, List.not_mem_nil, or_false] at hkind
    rcases hkind with rfl | rfl | rfl
    · obtain ⟨_, _, hgrant⟩ := Failure.of_bind_ok hgrant
      cases hgrant
      exact ⟨_, .secret (settings.value "client_secret") false, rfl, rfl⟩
    · obtain ⟨_, _, hgrant⟩ := Failure.of_bind_ok hgrant
      obtain ⟨given, _, hgrant⟩ := Failure.of_bind_ok hgrant
      cases hgrant
      exact ⟨_, .assertion given, trivial, rfl⟩
    · obtain ⟨_, _, hgrant⟩ := Failure.of_bind_ok hgrant
      cases hgrant
      exact ⟨_, .secret (settings.value "client_secret") false, rfl, rfl⟩
  next => cases h

/-- A code exchange is authenticated exactly when its client does not rely on a blank verifier. -/
theorem code_exchange_isAuthenticated_iff
    (hgrant : credential.grant = .authorizationCode openId code verifier proof)
    (hproof : proof.IsInForm) (hform : (credential.form.perform world).1 = .ok fields)
    (hword : Assoc.get? "grant_type" fields = some "authorization_code") :
    IsAuthenticated fields ↔ ¬ proof.ReliesOnBlank verifier := by
  obtain ⟨map, required, reached, after, hadded, hcode⟩ := codeForm_of_word hgrant hform hword
  rcases ClientProof.addToCode_cases hproof hadded with
    ⟨hother, hmem⟩ | ⟨hnull, hpresent, rfl, rfl⟩
  · refine iff_of_true ?_ fun hblank => hother hblank.1
    rcases hmem with hmem | hmem
    · exact ⟨_, by decide,
        ParameterMap.get?_isSome_of_mem_required hcode (List.mem_append_right _ hmem)⟩
    · exact ⟨_, by decide,
        ParameterMap.get?_isSome_of_mem_required hcode (List.mem_append_right _ hmem)⟩
  · rw [codeForm_isAuthenticated_iff (credential.get?_started _ (by decide) (by decide)) hcode,
      Value.filled?, Value.isNull_of_isPresent hpresent, Bool.false_or]
    cases hblank : Text.isBlankText verifier.plainText <;>
      simp [ClientProof.ReliesOnBlank, hnull, hpresent, hblank]

/-- A trial of a client that redeems a code with a verifier and has no proof of its own. -/
def verifierTrial (verifier : String) : Credential where
  config := { Context.trialConfig with redirectUri := .text "https://localhost/callback" }
  client := .standard
  grant := .authorizationCode false (.text "code") (.text verifier) (.secret .null false)

/-- The settings of that trial. -/
def verifierSettings (verifier : String) : CredentialSettings where
  values := [("authorization_code", .text "code"), ("code_verifier", .text verifier)]

theorem ofSettings_verifierSettings (verifier : String) :
    ofSettings .authorizationCode (verifierTrial verifier).config .standard
      (verifierSettings verifier) = .ok (verifierTrial verifier) := rfl

theorem verifier_authenticates_exchange :
    ∃ fields, ((verifierTrial "verifier").form.perform Context.rotationTrial.world).1 =
        .ok fields ∧
      Assoc.get? "grant_type" fields = some "authorization_code" ∧ IsAuthenticated fields := by
  obtain ⟨openId, proof, hproof, hgrant⟩ :=
    grant_of_ofSettings (by decide) (ofSettings_verifierSettings "verifier")
  obtain ⟨fields, hform⟩ : ∃ fields,
      ((verifierTrial "verifier").form.perform Context.rotationTrial.world).1 = .ok fields :=
    ⟨_, rfl⟩
  have hword : Assoc.get? "grant_type" fields = some "authorization_code" := by
    cases hform
    decide
  refine ⟨fields, hform, hword,
    (code_exchange_isAuthenticated_iff hgrant hproof hform hword).mpr fun hblank => ?_⟩
  exact absurd hblank.2.2 (by decide)

theorem blank_verifier_is_not_sent :
    ofSettings .authorizationCode (verifierTrial " ").config .standard (verifierSettings " ") =
        .ok (verifierTrial " ") ∧
      ∃ fields, ((verifierTrial " ").form.perform Context.rotationTrial.world).1 = .ok fields ∧
        Assoc.get? "grant_type" fields = some "authorization_code" ∧ ¬ IsAuthenticated fields := by
  refine ⟨ofSettings_verifierSettings " ", _, rfl, by decide, by decide⟩

end Credential

end OAuthClient
