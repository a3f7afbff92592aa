import OAuthClient.Proofs.FormFields
import OAuthClient.Proofs.TokenExchange

/-! # Forms of grants

The form of a credential that holds a refresh token redeems exactly that token,
and a credential whose inputs are texts gets a form unless one of its inputs is
not acceptable or its assertion cannot be signed.
-/

namespace OAuthClient

theorem Text.isBlankText_of_isEmpty {s : String} (h : s.isEmpty = true) : isBlankText s = true := by
  rw [String.isEmpty_iff.mp h]
  rfl

/-- Whether a value is a text or is missing. -/
def Value.IsTextOrNull (value : Value) : Prop := value = .null ∨ ∃ s, value = .text s

/-- Whether a proof rests on a text, if on anything but an assertion. -/
def ClientProof.IsTextual : ClientProof → Prop
  | .secret word _ => word.IsTextOrNull
  | .assertion _ => True

/-- Whether a grant is one of the eight that can be run and its inputs are texts or missing. -/
def Grant.IsTextual : Grant → Prop
  | .unspecified => False
  | .clientCredentials none => False
  | .authorizationCode _ code _ proof => code.IsTextOrNull ∧ proof.IsTextual
  | .clientCredentials (some proof) => proof.IsTextual
  | .deviceCode code => code.IsTextOrNull
  | .onBehalfOf _ proof => proof.IsTextual
  | .password name word => name.IsTextOrNull ∧ word.IsTextOrNull

/-- The assertion by which a proof is given. -/
def ClientProof.assertion? : ClientProof → Option ClientAssertion
  | .assertion given => given
  | .secret .. => none

/-- The assertion by which the application proves who it is. -/
def Grant.assertion? : Grant → Option ClientAssertion
  | .authorizationCode _ _ _ proof => proof.assertion?
  | .clientCredentials proof => proof.bind ClientProof.assertion?
  | .onBehalfOf _ proof => proof.assertion?
  | _ => none

namespace Credential

/-- Whether a credential is of a kind with a grant of its own and its inputs are texts where they
are given. -/
structure IsTextual (credential : Credential) : Prop where
  grant : credential.grant.IsTextual
  refreshToken : credential.refreshToken.IsTextOrNull

end Credential

/-- Whether the assertion of an application, if it has one, cannot be signed. -/
def SigningFails (given? : Option ClientAssertion) (config : AppConfig) (world : World)
    (failure : Failure) : Prop :=
  ∃ given, given? = some given ∧
    ((given.value (.text config.clientId) config.tenant).perform world).1 = .error failure

namespace ClientProof

variable {proof : ClientProof} {map added : ParameterMap} {config : AppConfig}
  {required : List Parameter} {world after : World} {failure : Failure}

theorem addSecret_text (map : ParameterMap) (s : String) (basic : Bool) :
    addSecret map (.text s) basic =
      if Text.isBlankText s then .error (.required Parameter.clientSecret.wireName)
      else .ok
        (if basic then (map, []) else (map.insert .clientSecret (.text s), [.clientSecret])) := by
  unfold addSecret
  cases hempty : s.isEmpty with
  | true => simp only [Value.isPresent_text, hempty, Text.isBlankText_of_isEmpty hempty]; rfl
  | false =>
      simp only [Value.isPresent_text, hempty, Value.toText, bind, Except.bind]
      cases Text.isBlankText s <;> cases basic <;> rfl

theorem addSecret_of_toText_error (map : ParameterMap) {word : Value} (basic : Bool)
    (hword : word.toText = .error failure) :
    ∃ cause, addSecret map word basic = .error cause := by
  unfold addSecret
  cases word.isPresent with
  | false => exact ⟨_, rfl⟩
  | true =>
      rw [hword]
      exact ⟨failure, rfl⟩

/-- A secret that is accepted is a text that is not blank, and it is added unless it is sent
otherwise. -/
theorem addSecret_ok {word : Value} {basic : Bool}
    (h : addSecret map word basic = .ok (added, required)) :
    ∃ s, word = .text s ∧ Text.isBlankText s = false ∧ (added, required) =
      if basic then (map, []) else (map.insert .clientSecret (.text s), [.clientSecret]) := by
  cases hword : word.toText with
  | error cause =>
      obtain ⟨other, hother⟩ := addSecret_of_toText_error map basic hword
      rw [hother] at h
      cases h
  | ok s =>
      obtain rfl : word = .text s := by
        cases word <;> cases hword
        rfl
      rw [addSecret_text] at h
      split at h
      next => cases h
      next hblank => exact ⟨s, rfl, Bool.eq_false_iff.mpr hblank, (Except.ok.inj h).symm⟩

/-- Adding a proof fails because the secret is missing, because there is no assertion, or with the
signing of the assertion. -/
theorem addTo_error (hproof : proof.IsTextual)
    (h : ((proof.addTo map config).perform world).1 = .error failure) :
    failure.IsAuthorization ∨ SigningFails proof.assertion? config world failure := by
  cases proof with
  | secret word basic =>
      rw [addTo, Action.perform_ofExcept] at h
      left
      rcases hproof with rfl | ⟨s, rfl⟩
      · cases h
        exact Failure.required_isAuthorization _
      · rw [addSecret_text] at h
        split at h <;> cases h
        exact Failure.required_isAuthorization _
  | assertion given =>
      cases given with
      | none =>
          cases h
          exact .inl (Failure.required_isAuthorization _)
      | some given =>
          rcases Action.of_perform_bind_error h with h | ⟨signed, reached, _, h⟩
          · exact .inr ⟨given, rfl, h⟩
          · cases h

/-- A proof adds nothing but a secret or an assertion. -/
theorem get?_addTo (h : (proof.addTo map config).perform world = (.ok (added, required), after))
    {parameter : Parameter}
    (hparameter : parameter ∉ [.clientSecret, .clientAssertion, .clientAssertionType]) :
    added.get? parameter = map.get? parameter := by
  simp only [List.mem_cons, List.not_mem_nil, or_false, not_or] at hparameter
  obtain ⟨hsecret, hassertion, hkind⟩ := hparameter
  cases proof with
  | secret word basic =>
      rw [addTo, Action.perform_ofExcept] at h
      obtain ⟨s, -, -, hadded⟩ := addSecret_ok (Prod.mk.inj h).1
      split at hadded <;> cases hadded
      · rfl
      · exact ParameterMap.get?_insert_of_ne _ _ hsecret
  | assertion given =>
      cases given with
      | none => cases h
      | some given =>
          rw [addTo, addAssertion, Action.perform_bind] at h
          split at h
          next signed reached hsigned =>
            cases h
            rw [ParameterMap.insertText, ParameterMap.get?_insert_of_ne _ _ hkind,
              ParameterMap.get?_insert_of_ne _ _ hassertion]
          next cause reached hsigned => cases h

theorem addToCode_eq (proof : ClientProof) (verifier : Value) (map : ParameterMap)
    (config : AppConfig) :
    proof.addToCode verifier map config = pure (map, []) ∨
      proof.addToCode verifier map config = proof.addTo map config := by
  unfold addToCode
  split
  next =>
    split
    · exact .inl rfl
    · exact .inr rfl
  next => exact .inr rfl

theorem addToCode_error {verifier : Value} (hproof : proof.IsTextual)
    (h : ((proof.addToCode verifier map config).perform world).1 = .error failure) :
    failure.IsAuthorization ∨ SigningFails proof.assertion? config world failure := by
  rcases proof.addToCode_eq verifier map config with heq | heq
  · rw [heq] at h
    cases h
  · rw [heq] at h
    exact addTo_error hproof h

theorem get?_addToCode {verifier : Value}
    (h : (proof.addToCode verifier map config).perform world = (.ok (added, required), after))
    {parameter : Parameter}
    (hparameter : parameter ∉ [.clientSecret, .clientAssertion, .clientAssertionType]) :
    added.get? parameter = map.get? parameter := by
  rcases proof.addToCode_eq verifier map config with heq | heq
  · rw [heq] at h
    cases h
    rfl
  · rw [heq] at h
    exact get?_addTo h hparameter

end ClientProof

namespace Credential

variable {credential : Credential} {world : World} {failure : Failure} {fields : Fields}

theorem requireWords_text (s : String) (parameter : Parameter) (reason : String) :
    requireWords (.text s) parameter reason =
      if Text.isBlankText s then .error (.authorization parameter.wireName reason)
      else .ok () := rfl

theorem requirePresent_text (s : String) (parameter : Parameter) :
    requirePresent (.text s) parameter =
      if Text.isBlankText s then .error (.required parameter.wireName) else .ok () := by
  unfold requirePresent
  cases hempty : s.isEmpty with
  | true => simp only [Value.isPresent_text, hempty, Text.isBlankText_of_isEmpty hempty]; rfl
  | false => simp only [Value.isPresent_text, hempty]; rfl

/-- The parameters that a form starts with hold the application's name and scopes only. -/
theorem get?_started (credential : Credential) (parameter : Parameter)
    (hid : parameter ≠ .clientId) (hscope : parameter ≠ .scope) :
    credential.started.get? parameter = none := by
  rw [started, ParameterMap.get?_addScopes_of_ne _ _ hscope, identified, ParameterMap.insertText,
    ParameterMap.get?_insert_of_ne _ _ hid, ParameterMap.get?_of_ne_scope _ hscope]
  rfl

/-- The form that redeems a refresh token names that grant and carries that token. -/
theorem get?_refreshForm {map : ParameterMap} {token : String} {proof : List Parameter}
    (hmap : map.get? .refreshToken = none)
    (h : refreshForm map (.text token) proof = .ok fields) :
    Assoc.get? "grant_type" fields = some "refresh_token" ∧
      Assoc.get? "refresh_token" fields = some token := by
  have hkind := ParameterMap.get?_toForm h .grantType
  have htoken := ParameterMap.get?_toForm h .refreshToken
  -- The token is required, so it is not blank where there is a form.
  have hvalue := ParameterMap.get?_isSome_of_toForm h
    (show Parameter.refreshToken ∈ [.clientId, .refreshToken, .grantType] ++ proof by simp)
  rw [if_pos (by simp), ParameterMap.get?_insert_of_ne _ _ (by decide), ParameterMap.insertText,
    ParameterMap.get?_insert_text _ (by decide)] at hkind
  rw [ParameterMap.get?_insert_text _ (by decide), ParameterMap.insertText,
    ParameterMap.get?_insert_of_ne _ _ (by decide), hmap] at hvalue htoken
  refine ⟨hkind, ?_⟩
  rw [if_pos (by simp)] at htoken
  split at hvalue
  next => cases hvalue
  next hblank => exact htoken.trans (if_neg hblank)

theorem refreshForm_error {map : ParameterMap} {token : Value} {proof : List Parameter}
    (h : refreshForm map token proof = .error failure) : failure.IsAuthorization :=
  ParameterMap.toForm_error h

/-- A credential for an authorization code that holds a refresh token redeems that. -/
theorem authorizationCodeForm_of_refreshToken {token : String} (code verifier : Value)
    (proof : ClientProof) (htoken : credential.refreshToken = .text token) :
    credential.authorizationCodeForm code verifier proof = (do
      Action.ofExcept (requireWords (.text token) .refreshToken "Refresh token is empty")
      let (map, required) ← proof.addToCode verifier credential.started credential.config
      Action.ofExcept (refreshForm map (.text token) required)) := by
  unfold authorizationCodeForm
  rw [htoken]
  rfl

/-- A credential for an authorization code that holds no refresh token redeems its code. -/
theorem authorizationCodeForm_of_code (code : String) (verifier : Value) (proof : ClientProof)
    (htoken : credential.refreshToken = .null) :
    credential.authorizationCodeForm (.text code) verifier proof = (do
      Action.ofExcept (requireWords (.text code) .authorizationCode "Authorization code is empty")
      let (map, required) ← proof.addToCode verifier credential.started credential.config
      Action.ofExcept (codeForm map credential.config (.text code) verifier required)) := by
  unfold authorizationCodeForm
  rw [htoken]
  rfl

/-- A credential for a device code that holds a refresh token redeems that. -/
theorem deviceCodeForm_of_refreshToken {token : String} (code : Value)
    (htoken : credential.refreshToken = .text token) :
    credential.deviceCodeForm code =
      if Text.isBlankText token then
        .error (.authorization Parameter.refreshToken.wireName "Refresh token is empty")
      else refreshForm credential.started (.text token) [] := by
  unfold deviceCodeForm
  rw [htoken]
  change (do
    requireWords (.text token) .refreshToken "Refresh token is empty"
    refreshForm credential.started (.text token) []) = _
  rw [requireWords_text]
  split <;> rfl

/-- A credential that holds a refresh token asks with the form that redeems it. -/
theorem form_of_refreshToken {token : String} (hrefresh : credential.supportsRefresh = true)
    (htoken : credential.refreshToken = .text token) (hne : token.isEmpty = false)
    (h : (credential.form.perform world).1 = .ok fields) :
    ∃ map proof, map.get? .refreshToken = none ∧
      refreshForm map (.text token) proof = .ok fields := by
  have hstarted := credential.get?_started .refreshToken (by decide) (by decide)
  have hpresent : credential.refreshToken.isPresent = true := by
    rw [htoken, Value.isPresent_text, hne]
    rfl
  unfold form at h
  split at h
  next hgrant =>
    rw [supportsRefresh, hgrant] at hrefresh
    cases hrefresh
  next openId code verifier proof hgrant =>
    rw [authorizationCodeForm_of_refreshToken code verifier proof htoken] at h
    obtain ⟨_, reached, _, h⟩ := Action.of_perform_bind_ok h
    obtain ⟨⟨map, required⟩, _, hadded, h⟩ := Action.of_perform_bind_ok h
    rw [Action.perform_ofExcept] at h
    exact ⟨map, required, by rw [ClientProof.get?_addToCode hadded (by decide), hstarted], h⟩
  next proof hgrant =>
    rw [supportsRefresh, hgrant] at hrefresh
    cases hrefresh
  next code hgrant =>
    rw [Action.perform_ofExcept, deviceCodeForm_of_refreshToken code htoken] at h
    split at h
    next => cases h
    next => exact ⟨credential.started, [], hstarted, h⟩
  next assertion proof hgrant =>
    obtain ⟨⟨map, required⟩, _, hadded, h⟩ := Action.of_perform_bind_ok h
    simp only [hpresent, if_true, Action.perform_ofExcept] at h
    rw [htoken] at h
    exact ⟨map, required, by rw [ClientProof.get?_addTo hadded (by decide), hstarted], h⟩
  next name word hgrant =>
    rw [Action.perform_ofExcept, passwordForm, if_pos hpresent, htoken] at h
    exact ⟨credential.started, [], hstarted, h⟩

theorem requirePresent_error {value : Value} {parameter : Parameter} (hvalue : value.IsTextOrNull)
    (h : requirePresent value parameter = .error failure) : failure.IsAuthorization := by
  rcases hvalue with rfl | ⟨s, rfl⟩
  · cases h
    exact Failure.required_isAuthorization _
  · rw [requirePresent_text] at h
    split at h
    · cases h
      exact Failure.required_isAuthorization _
    · cases h

theorem requireWords_error {text : String} {parameter : Parameter} {reason : String}
    (h : requireWords (.text text) parameter reason = .error failure) :
    failure.IsAuthorization := by
  rw [requireWords_text] at h
  split at h
  · cases h
    exact ⟨_, _, rfl⟩
  · cases h

/-- What needs words and a proof before it is rendered fails because of its inputs or with the
signing of the assertion. -/
theorem provenForm_error {text : String} {parameter : Parameter} {reason : String}
    {verifier : Value} {proof : ClientProof}
    (render : ParameterMap → List Parameter → Except Failure Fields) (hproof : proof.IsTextual)
    (hrender : ∀ map required failure, render map required = .error failure →
      failure.IsAuthorization)
    (h : ((do
      Action.ofExcept (requireWords (.text text) parameter reason)
      let (map, required) ← proof.addToCode verifier credential.started credential.config
      Action.ofExcept (render map required) : Action World Fields).perform world).1 =
        .error failure) :
    failure.IsAuthorization ∨
      SigningFails proof.assertion? credential.config world failure := by
  rw [Action.perform_ofExcept_bind] at h
  split at h
  next =>
    rcases Action.of_perform_bind_error h with h | ⟨⟨map, required⟩, reached, _, h⟩
    · exact ClientProof.addToCode_error hproof h
    · rw [Action.perform_ofExcept] at h
      exact .inl (hrender map required failure h)
  next cause hcause =>
    cases h
    exact .inl (requireWords_error hcause)

/-- A form that redeems an authorization code or a refresh token fails because of its inputs or with
the signing of the assertion. -/
theorem authorizationCodeForm_error {code verifier : Value} {proof : ClientProof}
    (hcode : code.IsTextOrNull) (hproof : proof.IsTextual)
    (hrefresh : credential.refreshToken.IsTextOrNull)
    (h : ((credential.authorizationCodeForm code verifier proof).perform world).1 =
      .error failure) :
    failure.IsAuthorization ∨
      SigningFails proof.assertion? credential.config world failure := by
  rcases hrefresh with htoken | ⟨token, htoken⟩
  · rcases hcode with rfl | ⟨s, rfl⟩
    · unfold authorizationCodeForm at h
      rw [htoken] at h
      cases h
      exact .inl ⟨_, _, rfl⟩
    · rw [authorizationCodeForm_of_code s verifier proof htoken] at h
      exact provenForm_error
        (fun map required => codeForm map credential.config (.text s) verifier required) hproof
        (fun _ _ _ hcode => ParameterMap.toForm_error hcode) h
  · rw [authorizationCodeForm_of_refreshToken code verifier proof htoken] at h
    exact provenForm_error (fun map required => refreshForm map (.text token) required) hproof
      (fun _ _ _ hrefresh => refreshForm_error hrefresh) h

theorem deviceCodeForm_error {code : Value} (hcode : code.IsTextOrNull)
    (hrefresh : credential.refreshToken.IsTextOrNull)
    (h : credential.deviceCodeForm code = .error failure) : failure.IsAuthorization := by
  rcases hrefresh with htoken | ⟨token, htoken⟩
  · unfold deviceCodeForm at h
    rw [htoken] at h
    rcases hcode with rfl | ⟨s, rfl⟩
    · cases h
      exact ⟨_, _, rfl⟩
    · change (requireWords (.text s) .deviceCode "Device code is empty" >>= fun _ => _) = _ at h
      cases hwords : requireWords (.text s) .deviceCode "Device code is empty" with
      | error cause =>
          rw [hwords] at h
          cases h
          exact requireWords_error hwords
      | ok _ =>
          rw [hwords] at h
          exact ParameterMap.toForm_error h
  · rw [deviceCodeForm_of_refreshToken code htoken] at h
    split at h
    · cases h
      exact ⟨_, _, rfl⟩
    · exact refreshForm_error h

theorem passwordForm_error {name word : Value} (hname : name.IsTextOrNull)
    (hword : word.IsTextOrNull) (h : credential.passwordForm name word = .error failure) :
    failure.IsAuthorization := by
  unfold passwordForm at h
  split at h
  · exact refreshForm_error h
  · cases hfirst : requirePresent name .username with
    | error cause =>
        rw [hfirst] at h
        cases h
        exact requirePresent_error hname hfirst
    | ok _ =>
        cases hsecond : requirePresent word .password with
        | error cause =>
            rw [hfirst, hsecond] at h
            cases h
            exact requirePresent_error hword hsecond
        | ok _ =>
            rw [hfirst, hsecond] at h
            exact ParameterMap.toForm_error h

/-- A form fails because its inputs are not acceptable or with the signing of the assertion. -/
theorem form_error (hcredential : credential.IsTextual)
    (h : (credential.form.perform world).1 = .error failure) :
    failure.IsAuthorization ∨
      SigningFails credential.grant.assertion? credential.config world failure := by
  obtain ⟨hgrant, hrefresh⟩ := hcredential
  unfold form at h
  split at h
  next heq =>
    rw [heq] at hgrant
    exact hgrant.elim
  next openId code verifier proof heq =>
    rw [heq] at hgrant ⊢
    exact authorizationCodeForm_error hgrant.1 hgrant.2 hrefresh h
  next proof heq =>
    rw [heq] at hgrant ⊢
    cases proof with
    | none => exact hgrant.elim
    | some proof =>
        rcases Action.of_perform_bind_error h with h | ⟨⟨map, required⟩, reached, _, h⟩
        · exact ClientProof.addTo_error hgrant h
        · rw [Action.perform_ofExcept] at h
          exact .inl (ParameterMap.toForm_error h)
  next code heq =>
    rw [heq] at hgrant
    rw [Action.perform_ofExcept] at h
    exact .inl (deviceCodeForm_error hgrant hrefresh h)
  next assertion proof heq =>
    rw [heq] at hgrant ⊢
    unfold onBehalfOfForm at h
    rcases Action.of_perform_bind_error h with h | ⟨⟨map, required⟩, reached, _, h⟩
    · exact ClientProof.addTo_error hgrant h
    · left
      dsimp only at h
      split at h <;> rw [Action.perform_ofExcept] at h
      · exact refreshForm_error h
      · exact ParameterMap.toForm_error h
  next name word heq =>
    rw [heq] at hgrant
    rw [Action.perform_ofExcept] at h
    exact .inl (passwordForm_error hgrant.1 hgrant.2 h)

end Credential

end OAuthClient
