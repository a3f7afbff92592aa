import OAuthClient.Proofs.RefreshRotation

/-! # One grant in each request

The form of a credential names one kind of grant and has just the fields that
this kind calls for, none of them blank, with one proof of the application at
most. Whatever was done with the credential before, nothing of another grant is
left in the form, and a secret is sent in one place.
-/

namespace OAuthClient

/-! ### Fields of a form -/

namespace ParameterMap

variable {map : ParameterMap} {optional required : List Parameter}
  {fields : List (String × String)}

/-- Whether no value of a map is blank. -/
structure IsFilled (map : ParameterMap) : Prop where
  parameters : ∀ pair ∈ map.parameters, Text.isBlankText pair.2 = false
  scopes : ∀ scope ∈ map.scopes, Text.isBlankText scope = false

namespace IsFilled

theorem get? (h : map.IsFilled) {parameter : Parameter} {value : String}
    (hvalue : map.get? parameter = some value) : Text.isBlankText value = false := by
  by_cases hscope : parameter = .scope
  · subst hscope
    rw [get?_scope] at hvalue
    split at hvalue
    next => cases hvalue
    next hne =>
      rw [← Option.some.inj hvalue]
      exact Text.isBlankText_intercalate (by simpa using hne) h.scopes " "
  · rw [get?_of_ne_scope _ hscope] at hvalue
    exact h.parameters _ (Assoc.mem_of_get? hvalue)

theorem insert (h : map.IsFilled) (parameter : Parameter) (value : Value) :
    (map.insert parameter value).IsFilled := by
  unfold ParameterMap.insert
  split
  next => exact h
  next hfilled =>
    refine ⟨fun pair hpair => ?_, h.scopes⟩
    rcases Assoc.mem_put hpair with rfl | hpair
    · exact (Bool.or_eq_false_iff.mp (Bool.eq_false_iff.mpr hfilled)).2
    · exact h.parameters pair hpair

theorem insertText (h : map.IsFilled) (parameter : Parameter) (text : String) :
    (map.insertText parameter text).IsFilled := h.insert parameter (.text text)

theorem addScope (h : map.IsFilled) (scope : Value) : (map.addScope scope).IsFilled := by
  unfold ParameterMap.addScope
  split
  next hscope =>
    refine ⟨h.parameters, fun other hother => ?_⟩
    rcases TextSet.mem_insert.mp hother with rfl | hother
    · rw [Text.isBlankText_trimmed]
      simpa using (Bool.and_eq_true_iff.mp hscope).2
    · exact h.scopes other hother
  next => exact h

theorem addScopes (h : map.IsFilled) (scopes : List Value) : (map.addScopes scopes).IsFilled := by
  induction scopes generalizing map with
  | nil => exact h
  | cons scope rest ih => exact ih (h.addScope scope)

end IsFilled

theorem keys_collectRequired {pairs : List (String × String)}
    (h : map.collectRequired required = .ok pairs) :
    pairs.map Prod.fst = required.map Parameter.wireName := by
  induction required generalizing pairs with
  | nil =>
      cases h
      rfl
  | cons parameter rest ih =>
      rw [collectRequired] at h
      split at h
      next => cases h
      next value hvalue =>
        obtain ⟨found, hfound, rfl⟩ := Failure.of_map_ok h
        rw [List.map_cons, List.map_cons, ih hfound]

theorem keys_collectOptional (map : ParameterMap) (optional : List Parameter) :
    (map.collectOptional optional).map Prod.fst =
      (optional.filter map.contains).map Parameter.wireName := by
  induction optional with
  | nil => rfl
  | cons parameter rest ih =>
      rw [collectOptional] at ih ⊢
      cases hvalue : map.get? parameter <;>
        simp [contains, hvalue, ih]

/-- A form with distinct parameters is what was collected for it. -/
theorem collect_of_toForm (hnodup : (required ++ optional).Nodup)
    (h : map.toForm optional required = .ok fields) :
    map.collect optional required = .ok fields ∧
      fields.map Prod.fst =
        (required ++ optional.filter map.contains).map Parameter.wireName := by
  obtain ⟨pairs, hcollect, rfl⟩ := Failure.of_map_ok h
  have hkeys : pairs.map Prod.fst =
      (required ++ optional.filter map.contains).map Parameter.wireName := by
    obtain ⟨found, hfound, rfl⟩ := Failure.of_map_ok hcollect
    rw [List.map_append, List.map_append, keys_collectRequired hfound, keys_collectOptional]
  have hdistinct : (pairs.map Prod.fst).Nodup := by
    have hsub : (required ++ optional.filter map.contains).Nodup :=
      hnodup.sublist (List.filter_sublist.append_left required)
    rw [hkeys]
    exact List.Pairwise.map _ (fun p q hne heq => hne (Parameter.wireName_inj heq)) hsub
  rw [Assoc.ofPairs_of_nodup hdistinct]
  exact ⟨hcollect, hkeys⟩

end ParameterMap

/-- What entitles to a token by one form. -/
inductive GrantKind where
  /-- A token that yields further tokens. -/
  | refreshToken
  /-- A code from a sign-in. -/
  | authorizationCode
  /-- The application itself. -/
  | clientCredentials
  /-- A code for a sign-in on another device. -/
  | deviceCode
  /-- The token with which a user called the application. -/
  | onBehalfOf
  /-- The name and the password of a user. -/
  | password
  deriving DecidableEq, Repr

namespace GrantKind

/-- The word by which a form names a kind of grant. -/
def word : GrantKind → String
  | .refreshToken => "refresh_token"
  | .authorizationCode => "authorization_code"
  | .clientCredentials => "client_credentials"
  | .deviceCode => "urn:ietf:params:oauth:grant-type:device_code"
  | .onBehalfOf => "urn:ietf:params:oauth:grant-type:jwt-bearer"
  | .password => "password"

/-- What a form of a kind has in any case. -/
def required : GrantKind → List Parameter
  | .refreshToken => [.clientId, .refreshToken, .grantType]
  | .authorizationCode => [.clientId, .redirectUri, .authorizationCode, .grantType]
  | .clientCredentials => [.clientId, .grantType, .scope]
  | .deviceCode => [.clientId, .deviceCode, .grantType]
  | .onBehalfOf => [.clientId, .grantType, .assertion, .requestedTokenUse, .scope]
  | .password => [.clientId, .grantType, .username, .password]

/-- What a form of a kind may have besides. -/
def optional : GrantKind → List Parameter
  | .authorizationCode => [.scope, .codeVerifier]
  | .clientCredentials | .onBehalfOf => []
  | .refreshToken | .deviceCode | .password => [.scope]

/-- What a form can have for a proof of the application: nothing, a secret, or an assertion and its
kind. -/
def proofs : List (List Parameter) :=
  [[], [.clientSecret], [.clientAssertion, .clientAssertionType]]

theorem nodup_parameters (kind : GrantKind) :
    ∀ proof ∈ proofs, (kind.required ++ proof ++ kind.optional).Nodup := by
  cases kind <;> decide

end GrantKind

/-- Whether fields are those of one grant: they name its kind and are the ones that it calls for,
with a proof of the application and with some of those that may be left out, and none is blank. -/
structure GrantKind.IsForm (kind : GrantKind) (fields : Credential.Fields) : Prop where
  word : Assoc.get? "grant_type" fields = some kind.word
  keys : ∃ proof ∈ proofs, ∃ extra, List.Sublist extra kind.optional ∧
    fields.map Prod.fst = (kind.required ++ proof ++ extra).map Parameter.wireName
  filled : ∀ field ∈ fields, Text.isBlankText field.2 = false

section Forms

variable {map added : ParameterMap} {kind : GrantKind} {proof : List Parameter}
  {fields : Credential.Fields}

theorem ParameterMap.IsFilled.isForm (hfilled : map.IsFilled)
    (hword : map.get? .grantType = some kind.word) (hproof : proof ∈ GrantKind.proofs)
    (h : map.toForm kind.optional (kind.required ++ proof) = .ok fields) : kind.IsForm fields := by
  have hkind : Parameter.grantType ∈ kind.required ++ proof ++ kind.optional := by
    rw [List.append_assoc]
    exact List.mem_append_left _ (by cases kind <;> decide)
  obtain ⟨hcollect, hkeys⟩ := collect_of_toForm (kind.nodup_parameters proof hproof) h
  refine ⟨?_, ⟨proof, hproof, _, List.filter_sublist, hkeys⟩, fun field hfield => ?_⟩
  · have hfield := get?_toForm h .grantType
    rwa [if_pos hkind, hword] at hfield
  · obtain ⟨parameter, -, -, hvalue⟩ := (mem_collect hcollect).mp hfield
    exact hfilled.get? hvalue

theorem ParameterMap.get?_grantType (map : ParameterMap) (kind : GrantKind) :
    (map.insertText .grantType kind.word).get? .grantType = some kind.word :=
  map.get?_insertText_self (by decide) (by cases kind <;> decide)

namespace ClientProof

theorem addTo_filled {proof : ClientProof} {config : AppConfig} {required : List Parameter}
    {world after : World} (hmap : map.IsFilled)
    (h : (proof.addTo map config).perform world = (.ok (added, required), after)) :
    added.IsFilled ∧ required ∈ GrantKind.proofs := by
  cases proof with
  | secret word basic =>
      rw [addTo, Action.perform_ofExcept] at h
      obtain ⟨s, -, -, hadded⟩ := addSecret_ok (Prod.mk.inj h).1
      split at hadded <;> cases hadded
      · exact ⟨hmap, by decide⟩
      · exact ⟨hmap.insert _ _, by decide⟩
  | assertion given =>
      cases given with
      | none => cases h
      | some given =>
          rw [addTo, addAssertion, Action.perform_bind] at h
          split at h
          next signed reached hsigned =>
            cases h
            exact ⟨(hmap.insert _ _).insertText _ _, by decide⟩
          next => cases h

theorem addToCode_filled {proof : ClientProof} {verifier : Value} {config : AppConfig}
    {required : List Parameter} {world after : World} (hmap : map.IsFilled)
    (h : (proof.addToCode verifier map config).perform world = (.ok (added, required), after)) :
    added.IsFilled ∧ required ∈ GrantKind.proofs := by
  rcases proof.addToCode_eq verifier map config with heq | heq <;> rw [heq] at h
  · cases h
    exact ⟨hmap, by decide⟩
  · exact addTo_filled hmap h

end ClientProof

namespace Credential

variable {credential : Credential} {world : World}

theorem started_isFilled (credential : Credential) : credential.started.IsFilled := by
  have hempty : ({ logPii := credential.config.logPii } : ParameterMap).IsFilled :=
    ⟨by rintro _ ⟨⟩, by rintro _ ⟨⟩⟩
  exact (hempty.insertText _ _).addScopes _

theorem refreshForm_isForm {token : Value} (hmap : map.IsFilled)
    (hproof : proof ∈ GrantKind.proofs) (h : refreshForm map token proof = .ok fields) :
    GrantKind.refreshToken.IsForm fields := by
  refine ((hmap.insertText _ _).insert _ _).isForm ?_ hproof h
  rw [ParameterMap.get?_insert_of_ne _ _ (by decide)]
  exact map.get?_grantType .refreshToken

theorem codeForm_isForm {config : AppConfig} {code verifier : Value} (hmap : map.IsFilled)
    (hproof : proof ∈ GrantKind.proofs) (h : codeForm map config code verifier proof = .ok fields) :
    GrantKind.authorizationCode.IsForm fields := by
  refine ((((hmap.insertText _ _).insert _ _).insert _ _).insert _ _).isForm ?_ hproof h
  rw [ParameterMap.get?_insert_of_ne _ _ (by decide),
    ParameterMap.get?_insert_of_ne _ _ (by decide),
    ParameterMap.get?_insert_of_ne _ _ (by decide)]
  exact map.get?_grantType .authorizationCode

theorem authorizationCodeForm_isForm {code verifier : Value} {proof : ClientProof}
    (h : ((credential.authorizationCodeForm code verifier proof).perform world).1 = .ok fields) :
    ∃ kind : GrantKind, kind.IsForm fields := by
  unfold authorizationCodeForm at h
  dsimp only at h
  split at h
  next =>
    obtain ⟨_, reached, _, h⟩ := Action.of_perform_bind_ok h
    obtain ⟨⟨map, required⟩, _, hadded, h⟩ := Action.of_perform_bind_ok h
    obtain ⟨hmap, hproof⟩ := ClientProof.addToCode_filled credential.started_isFilled hadded
    rw [Action.perform_ofExcept] at h
    exact ⟨_, refreshForm_isForm hmap hproof h⟩
  next =>
    split at h
    next =>
      obtain ⟨_, reached, _, h⟩ := Action.of_perform_bind_ok h
      obtain ⟨⟨map, required⟩, _, hadded, h⟩ := Action.of_perform_bind_ok h
      obtain ⟨hmap, hproof⟩ := ClientProof.addToCode_filled credential.started_isFilled hadded
      rw [Action.perform_ofExcept] at h
      exact ⟨_, codeForm_isForm hmap hproof h⟩
    next => cases h

theorem clientCredentialsForm_isForm {proof : Option ClientProof}
    (h : ((credential.clientCredentialsForm proof).perform world).1 = .ok fields) :
    GrantKind.clientCredentials.IsForm fields := by
  cases proof with
  | none => cases h
  | some proof =>
      obtain ⟨⟨map, required⟩, _, hadded, h⟩ := Action.of_perform_bind_ok h
      obtain ⟨hmap, hproof⟩ :=
        ClientProof.addTo_filled (credential.started_isFilled.insertText _ _) hadded
      rw [Action.perform_ofExcept] at h
      refine hmap.isForm ?_ hproof h
      rw [ClientProof.get?_addTo hadded (by decide)]
      exact credential.started.get?_grantType .clientCredentials

theorem redeemCode_isForm {code : Value} (hmap : map.IsFilled)
    (h : ((map.insertText .grantType deviceCodeKind).insert .deviceCode code).toForm [.scope]
      [.clientId, .deviceCode, .grantType] = .ok fields) : GrantKind.deviceCode.IsForm fields := by
  refine ((hmap.insertText _ _).insert _ _).isForm ?_ (show [] ∈ GrantKind.proofs by decide) h
  rw [ParameterMap.get?_insert_of_ne _ _ (by decide)]
  exact map.get?_grantType .deviceCode

theorem deviceCodeForm_isForm {code : Value} (h : credential.deviceCodeForm code = .ok fields) :
    ∃ kind : GrantKind, kind.IsForm fields := by
  unfold deviceCodeForm at h
  dsimp only at h
  split at h
  next =>
    obtain ⟨_, _, h⟩ := Failure.of_bind_ok h
    exact ⟨_, refreshForm_isForm credential.started_isFilled (by decide) h⟩
  next =>
    split at h
    next =>
      obtain ⟨_, _, h⟩ := Failure.of_bind_ok h
      exact ⟨_, redeemCode_isForm credential.started_isFilled h⟩
    next => cases h

theorem presentAssertion_isForm {assertion : Value} (hmap : map.IsFilled)
    (hproof : proof ∈ GrantKind.proofs)
    (h : (((map.insertText .grantType onBehalfOfKind).insert .assertion assertion).insertText
      .requestedTokenUse "on_behalf_of").toForm []
        ([.clientId, .grantType, .assertion, .requestedTokenUse, .scope] ++ proof) = .ok fields) :
    GrantKind.onBehalfOf.IsForm fields := by
  refine (((hmap.insertText _ _).insert _ _).insertText _ _).isForm ?_ hproof h
  rw [ParameterMap.insertText, ParameterMap.get?_insert_of_ne _ _ (by decide),
    ParameterMap.get?_insert_of_ne _ _ (by decide)]
  exact map.get?_grantType .onBehalfOf

theorem onBehalfOfForm_isForm {assertion : Value} {proof : ClientProof}
    (h : ((credential.onBehalfOfForm assertion proof).perform world).1 = .ok fields) :
    ∃ kind : GrantKind, kind.IsForm fields := by
  unfold onBehalfOfForm at h
  obtain ⟨⟨map, required⟩, _, hadded, h⟩ := Action.of_perform_bind_ok h
  obtain ⟨hmap, hproof⟩ := ClientProof.addTo_filled credential.started_isFilled hadded
  dsimp only at h
  split at h <;> rw [Action.perform_ofExcept] at h
  next => exact ⟨_, refreshForm_isForm hmap hproof h⟩
  next => exact ⟨_, presentAssertion_isForm hmap hproof h⟩

theorem presentPassword_isForm {username password : Value} (hmap : map.IsFilled)
    (h : (((map.insertText .grantType "password").insert .username username).insert .password
      password).toForm [.scope] [.clientId, .grantType, .username, .password] = .ok fields) :
    GrantKind.password.IsForm fields := by
  refine (((hmap.insertText _ _).insert _ _).insert _ _).isForm ?_
    (show [] ∈ GrantKind.proofs by decide) h
  rw [ParameterMap.get?_insert_of_ne _ _ (by decide),
    ParameterMap.get?_insert_of_ne _ _ (by decide)]
  exact map.get?_grantType .password

theorem passwordForm_isForm {username password : Value}
    (h : credential.passwordForm username password = .ok fields) :
    ∃ kind : GrantKind, kind.IsForm fields := by
  unfold passwordForm at h
  split at h
  next => exact ⟨_, refreshForm_isForm credential.started_isFilled (by decide) h⟩
  next =>
    obtain ⟨_, _, h⟩ := Failure.of_bind_ok h
    obtain ⟨_, _, h⟩ := Failure.of_bind_ok h
    exact ⟨_, presentPassword_isForm credential.started_isFilled h⟩

/-- Whatever a credential holds, its form is that of one grant. -/
theorem form_isForm (h : (credential.form.perform world).1 = .ok fields) :
    ∃ kind : GrantKind, kind.IsForm fields := by
  unfold form at h
  split at h
  next => cases h
  next => exact authorizationCodeForm_isForm h
  next => exact ⟨_, clientCredentialsForm_isForm h⟩
  next =>
    rw [Action.perform_ofExcept] at h
    exact deviceCodeForm_isForm h
  next => exact onBehalfOfForm_isForm h
  next =>
    rw [Action.perform_ofExcept] at h
    exact passwordForm_isForm h

end Credential

end Forms

end OAuthClient
