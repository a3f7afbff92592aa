import OAuthClient.Proofs.DeviceSignIns
import OAuthClient.Proofs.SignedAssertions

/-! # Whom an assertion addresses

A signed assertion names the token endpoint of the public cloud, under the tenant
of the application as it was given. The form that carries it is posted to the
token endpoint of the cloud and the authority that the application is configured
for. The two are the same address exactly when the cloud is the public one and
the authority goes by the tenant's name.
-/

namespace OAuthClient

/-! ### Endpoints -/

namespace Cloud

/-- No address of a cloud goes on as that of another one. -/
theorem eq_of_address_starts {first second : Cloud}
    (h : (first.address ++ "/").toList <+: (second.address ++ "/").toList) : first = second := by
  revert h
  cases first <;> cases second <;> decide

/-- A token endpoint tells the cloud and the authority. -/
theorem tokenEndpoint_inj_iff {first second : Cloud} {authority other : Authority} :
    first.tokenEndpoint authority = second.tokenEndpoint other ↔
      first = second ∧ authority = other := by
  refine ⟨fun h => ?_, fun ⟨hcloud, hauthority⟩ => by rw [hcloud, hauthority]⟩
  have hcut : first.address ++ "/" ++ authority.name = second.address ++ "/" ++ other.name :=
    (String.append_left_inj "/oauth2/v2.0/token").mp h
  have hcloud : first = second := by
    have hfirst := (first.address ++ "/").toList.prefix_append authority.name.toList
    have hsecond := (second.address ++ "/").toList.prefix_append other.name.toList
    rw [← String.toList_append] at hfirst hsecond
    rw [hcut] at hfirst
    rcases List.prefix_or_prefix_of_prefix hfirst hsecond with h | h
    · exact eq_of_address_starts h
    · exact (eq_of_address_starts h).symm
  subst hcloud
  obtain ⟨name⟩ := authority
  obtain ⟨otherName⟩ := other
  obtain rfl : name = otherName := (String.append_right_inj _).mp hcut
  exact ⟨rfl, rfl⟩

end Cloud

namespace AppConfig

variable {config : AppConfig}

/-- The name under which the tenant of an application is found; without one, all accounts are. -/
def tenantName (config : AppConfig) : String := (config.tenant.orElse (.text "common")).plainText

/-- The token endpoint of the public cloud for the tenant of an application. -/
def publicEndpoint (config : AppConfig) : String :=
  Cloud.worldwide.tokenEndpoint ⟨config.tenantName⟩

/-- Whether an application asks for tokens at the public cloud and under the name of its tenant. -/
structure AsksForTenant (config : AppConfig) : Prop where
  cloud : config.cloud = .worldwide
  authority : config.authority.name = config.tenantName

theorem publicEndpoint_eq_tokenEndpoint_iff :
    config.publicEndpoint = config.tokenEndpoint ↔ config.AsksForTenant := by
  rw [publicEndpoint, tokenEndpoint, Cloud.tokenEndpoint_inj_iff]
  constructor
  · rintro ⟨hcloud, hauthority⟩
    exact ⟨hcloud.symm, by rw [← hauthority]⟩
  · rintro ⟨hcloud, hauthority⟩
    exact ⟨hcloud.symm, by rw [← hauthority]⟩

theorem tenantName_eq (config : AppConfig) :
    config.tenantName = if config.tenant.isPresent then config.tenant.plainText else "common" := by
  rw [tenantName, Value.orElse]
  cases config.tenant.isPresent <;> rfl

/-- An application of the public cloud for which no authority is set asks for its tenant, unless the
tenant has blank ends. -/
theorem asksForTenant_ofSettings_iff {settings : AppSettings}
    (h : ofSettings settings = .ok config) (hcloud : settings.cloud = .worldwide)
    (hauthority : settings.authority = .named .null) :
    config.AsksForTenant ↔ (settings.tenant.isPresent = true →
      Text.isBlankText settings.tenant.plainText = false ∧
        Text.trimmed settings.tenant.plainText = settings.tenant.plainText) := by
  unfold ofSettings at h
  split at h
  next => cases h
  next =>
    obtain ⟨scope, -, hconfig⟩ := Failure.of_bind_ok h
    have hname : config.authority.name = (Authority.ofValue settings.tenant).name := by
      rw [← Except.ok.inj hconfig, hauthority]
    have htenant : config.tenant = settings.tenant := by
      rw [← Except.ok.inj hconfig, hauthority]
    have hworldwide : config.cloud = .worldwide := by
      rw [← Except.ok.inj hconfig]
      exact hcloud
    have hasks : config.AsksForTenant ↔
        (Authority.ofValue settings.tenant).name = config.tenantName := by
      rw [← hname]
      exact ⟨fun hasks => hasks.authority, fun hnames => ⟨hworldwide, hnames⟩⟩
    rw [hasks, tenantName_eq, htenant, Authority.ofValue]
    cases settings.tenant.isPresent with
    | false => exact iff_of_true rfl nofun
    | true =>
        cases hblank : Text.isBlankText settings.tenant.plainText with
        | true =>
            -- The authority is that of all accounts, whose name is not blank.
            refine iff_of_false (fun hname => ?_) fun hwords => nomatch (hwords rfl).1
            change "common" = settings.tenant.plainText at hname
            rw [← hname] at hblank
            revert hblank
            decide
        | false => exact ⟨fun hname _ => ⟨rfl, hname⟩, fun hwords => (hwords rfl).2⟩

end AppConfig

/-! ### Signing -/

namespace Signer

variable {signer : Signer} {clientId assertion : String} {tenant : Value} {world : World}

theorem signedClaims_of_claims_nil (hclaims : signer.claims = []) (usual : Members) :
    signer.signedClaims usual = usual := by
  rw [signedClaims, hclaims]
  rfl

/-- A signer without claims of its own signs only when the clock can be read. -/
theorem exists_seconds_of_sign (hclaims : signer.claims = [])
    (h : ((signer.sign (.text clientId) tenant .null).perform world).1 = .ok assertion) :
    ∃ seconds, (if Value.null.isNull then Value.ofNumber world.now else .null).toInteger =
      .ok seconds := by
  obtain ⟨claims, reached, hsigned, -⟩ := Action.of_perform_bind_ok h
  have hdefault : signer.claimsFor (.text clientId) tenant .null =
      defaultClaims (.text clientId) tenant .null >>= fun usual =>
        pure (Assoc.update usual signer.claims) := by
    rw [claimsFor, hclaims]
    rfl
  rw [hdefault] at hsigned
  obtain ⟨usual, _, husual, -⟩ := Action.of_perform_bind_ok (congrArg Prod.fst hsigned)
  obtain ⟨state, _, hstate, hrest⟩ := Action.of_perform_bind_ok (congrArg Prod.fst husual)
  cases hstate
  obtain ⟨seconds, _, hseconds, -⟩ := Action.of_perform_bind_ok hrest
  rw [Action.perform_ofExcept] at hseconds
  exact ⟨seconds, congrArg Prod.fst hseconds⟩

/-- Without claims of its own, a signer signs the usual ones. -/
theorem sign_says (hclaims : signer.claims = [])
    (h : ((signer.sign (.text clientId) tenant .null).perform world).1 = .ok assertion) :
    ∃ seconds identifier,
      signer.Says (usualClaims clientId tenant seconds identifier) assertion := by
  have hplain : Json.Plain (.object signer.claims) := by
    rw [hclaims]
    exact Json.plain_object_iff.mpr ⟨List.nodup_nil, by rintro _ ⟨⟩⟩
  have hnodup := (Json.plain_object_iff.mp hplain).1
  have hissuer : ∀ issuer, Assoc.get? "iss" signer.claims = some issuer →
      ∃ s, issuer = .text s := by
    rw [hclaims]
    rintro _ ⟨⟩
  obtain ⟨seconds, hclock⟩ := exists_seconds_of_sign hclaims h
  rw [sign_perform hclock] at h
  have hsays := (signClaims_readsBack (plain_signedClaims hplain)
    fun _ => issuer_signedClaims hnodup hissuer).2 assertion h
  rw [signedClaims_of_claims_nil hclaims] at hsays
  exact ⟨_, _, hsays⟩

end Signer

/-! ### Forms -/

namespace ClientProof

variable {proof : ClientProof} {map added : ParameterMap} {config : AppConfig}
  {required : List Parameter} {world after : World} {signer : Signer}

/-- A proof by a certificate adds what the signer signs then, and makes it required. -/
theorem addTo_of_certificate (hproof : proof.assertion? = some (.certificate signer))
    (h : (proof.addTo map config).perform world = (.ok (added, required), after)) :
    ∃ assertion,
      ((signer.sign (.text config.clientId) config.tenant .null).perform world).1 =
        .ok assertion ∧
      added.get? .clientAssertion = (Value.text assertion).filled?.or (map.get? .clientAssertion) ∧
      .clientAssertion ∈ required := by
  cases proof with
  | secret word basic => cases hproof
  | assertion given =>
      obtain rfl : given = some (.certificate signer) := hproof
      rw [addTo, addAssertion, Action.perform_bind] at h
      split at h
      next signed reached hsigned =>
        cases h
        obtain ⟨assertion, _, hassertion, hvalue⟩ :=
          Action.of_perform_bind_ok (congrArg Prod.fst hsigned)
        obtain rfl : Value.text assertion = signed := Except.ok.inj hvalue
        refine ⟨assertion, congrArg Prod.fst hassertion, ?_, by simp⟩
        rw [ParameterMap.insertText, ParameterMap.get?_insert_of_ne _ _ (by decide),
          ParameterMap.get?_insert_self _ (by decide)]
      next => cases h

theorem addToCode_of_certificate (hproof : proof.assertion? = some (.certificate signer))
    (verifier : Value) : proof.addToCode verifier map config = proof.addTo map config := by
  cases proof with
  | secret word basic => cases hproof
  | assertion given => rfl

end ClientProof

namespace Credential

variable {credential : Credential} {signer : Signer} {fields : Fields} {world : World}

/-- Whether fields carry what a signer signs for an application at some moment. -/
def CarriesSigned (fields : Fields) (signer : Signer) (config : AppConfig) (world : World) : Prop :=
  ∃ assertion,
    ((signer.sign (.text config.clientId) config.tenant .null).perform world).1 = .ok assertion ∧
    Assoc.get? "client_assertion" fields = some assertion

theorem carriesSigned_of_toForm {config : AppConfig} {proof : ClientProof}
    {map added rendered : ParameterMap} {required optional others : List Parameter} {after : World}
    (hproof : proof.assertion? = some (.certificate signer))
    (hmap : map.get? .clientAssertion = none)
    (hadded : (proof.addTo map config).perform world = (.ok (added, required), after))
    (hrendered : rendered.get? .clientAssertion = added.get? .clientAssertion)
    (h : rendered.toForm optional (others ++ required) = .ok fields) :
    CarriesSigned fields signer config world := by
  obtain ⟨assertion, hsigned, hvalue, hrequired⟩ := ClientProof.addTo_of_certificate hproof hadded
  have hmem : Parameter.clientAssertion ∈ others ++ required := List.mem_append_right _ hrequired
  have hfield := ParameterMap.get?_toForm h .clientAssertion
  -- The assertion is required, so it is not blank where there is a form.
  have hfilled := ParameterMap.get?_isSome_of_toForm h hmem
  rw [if_pos (List.mem_append_left _ hmem)] at hfield
  rw [hrendered, hvalue, hmap, Option.or_none, Value.filled?_text] at hfield hfilled
  refine ⟨assertion, hsigned, ?_⟩
  split at hfilled
  next => cases hfilled
  next hblank => exact hfield.trans (if_neg hblank)

theorem authorizationCodeForm_carriesSigned {code verifier : Value} {proof : ClientProof}
    (hproof : proof.assertion? = some (.certificate signer))
    (h : ((credential.authorizationCodeForm code verifier proof).perform world).1 = .ok fields) :
    CarriesSigned fields signer credential.config world := by
  have hstarted := credential.get?_started .clientAssertion (by decide) (by decide)
  unfold authorizationCodeForm at h
  dsimp only at h
  rw [ClientProof.addToCode_of_certificate hproof] at h
  split at h
  next =>
    rw [Action.perform_ofExcept_bind] at h
    split at h
    next =>
      obtain ⟨⟨map, required⟩, _, hadded, h⟩ := Action.of_perform_bind_ok h
      rw [Action.perform_ofExcept] at h
      refine carriesSigned_of_toForm hproof hstarted hadded ?_ h
      rw [ParameterMap.get?_insert_of_ne _ _ (by decide), ParameterMap.insertText,
        ParameterMap.get?_insert_of_ne _ _ (by decide)]
    next => cases h
  next =>
    split at h
    next =>
      rw [Action.perform_ofExcept_bind] at h
      split at h
      next =>
        obtain ⟨⟨map, required⟩, _, hadded, h⟩ := Action.of_perform_bind_ok h
        rw [Action.perform_ofExcept] at h
        refine carriesSigned_of_toForm hproof hstarted hadded ?_ h
        rw [ParameterMap.get?_insert_of_ne _ _ (by decide),
          ParameterMap.get?_insert_of_ne _ _ (by decide),
          ParameterMap.get?_insert_of_ne _ _ (by decide), ParameterMap.insertText,
          ParameterMap.get?_insert_of_ne _ _ (by decide)]
      next => cases h
    next => cases h

theorem clientCredentialsForm_carriesSigned {proof : Option ClientProof}
    (hproof : proof.bind ClientProof.assertion? = some (.certificate signer))
    (h : ((credential.clientCredentialsForm proof).perform world).1 = .ok fields) :
    CarriesSigned fields signer credential.config world := by
  cases proof with
  | none => cases h
  | some proof =>
      obtain ⟨⟨map, required⟩, _, hadded, h⟩ := Action.of_perform_bind_ok h
      rw [Action.perform_ofExcept] at h
      refine carriesSigned_of_toForm hproof ?_ hadded rfl h
      rw [ParameterMap.insertText, ParameterMap.get?_insert_of_ne _ _ (by decide),
        credential.get?_started .clientAssertion (by decide) (by decide)]

theorem onBehalfOfForm_carriesSigned {assertion : Value} {proof : ClientProof}
    (hproof : proof.assertion? = some (.certificate signer))
    (h : ((credential.onBehalfOfForm assertion proof).perform world).1 = .ok fields) :
    CarriesSigned fields signer credential.config world := by
  have hstarted := credential.get?_started .clientAssertion (by decide) (by decide)
  unfold onBehalfOfForm at h
  obtain ⟨⟨map, required⟩, _, hadded, h⟩ := Action.of_perform_bind_ok h
  dsimp only at h
  split at h <;> rw [Action.perform_ofExcept] at h
  next =>
    refine carriesSigned_of_toForm hproof hstarted hadded ?_ h
    rw [ParameterMap.get?_insert_of_ne _ _ (by decide), ParameterMap.insertText,
      ParameterMap.get?_insert_of_ne _ _ (by decide)]
  next =>
    refine carriesSigned_of_toForm hproof hstarted hadded ?_ h
    rw [ParameterMap.insertText, ParameterMap.get?_insert_of_ne _ _ (by decide),
      ParameterMap.get?_insert_of_ne _ _ (by decide), ParameterMap.insertText,
      ParameterMap.get?_insert_of_ne _ _ (by decide)]

/-- The form of an application with a certificate carries what its signer signs then. -/
theorem form_carriesSigned (hproof : credential.grant.assertion? = some (.certificate signer))
    (h : (credential.form.perform world).1 = .ok fields) :
    CarriesSigned fields signer credential.config world := by
  unfold form at h
  split at h
  next => cases h
  next openId code verifier proof hgrant =>
    rw [hgrant] at hproof
    exact authorizationCodeForm_carriesSigned hproof h
  next proof hgrant =>
    rw [hgrant] at hproof
    exact clientCredentialsForm_carriesSigned hproof h
  next code hgrant =>
    rw [hgrant] at hproof
    cases hproof
  next assertion proof hgrant =>
    rw [hgrant] at hproof
    exact onBehalfOfForm_carriesSigned hproof h
  next username password hgrant =>
    rw [hgrant] at hproof
    cases hproof

/-- Whether fields carry an assertion that reads as claims with some address as their audience. -/
def Addresses (fields : Fields) (address : String) : Prop :=
  ∃ assertion, Assoc.get? "client_assertion" fields = some assertion ∧
    ∀ token : IdToken, token.idToken = .text assertion →
      ∃ claims, token.claims = .ok (.object claims) ∧
        Assoc.get? "aud" claims = some (.text address)

/-- An assertion has one audience. -/
theorem Addresses.unique {first second : String} (hfirst : Addresses fields first)
    (hsecond : Addresses fields second) : first = second := by
  obtain ⟨assertion, hassertion, hread⟩ := hfirst
  obtain ⟨other, hother, hreadOther⟩ := hsecond
  obtain rfl : assertion = other := Option.some.inj (hassertion.symm.trans hother)
  obtain ⟨claims, hclaims, haudience⟩ := hread { idToken := .text assertion } rfl
  obtain ⟨others, hothers, hotherAudience⟩ := hreadOther { idToken := .text assertion } rfl
  rw [hclaims] at hothers
  cases hothers
  rw [haudience] at hotherAudience
  cases hotherAudience
  rfl

theorem CarriesSigned.addresses {config : AppConfig} (hclaims : signer.claims = [])
    (h : CarriesSigned fields signer config world) : Addresses fields config.publicEndpoint := by
  obtain ⟨assertion, hsigned, hfield⟩ := h
  obtain ⟨seconds, identifier, hsays⟩ := Signer.sign_says hclaims hsigned
  exact ⟨assertion, hfield, fun token htoken => ⟨_, hsays.claims token htoken, rfl⟩⟩

/-- An application that signs gets a form for a token of its own. -/
theorem exists_form_of_signed {assertion : String}
    (hgrant : credential.grant =
      .clientCredentials (some (.assertion (some (.certificate signer)))))
    (hclient : Text.isBlankText credential.config.clientId = false)
    (hscope : (credential.started.get? .scope).isSome = true)
    (hsigned : ((signer.sign (.text credential.config.clientId) credential.config.tenant
      .null).perform world).1 = .ok assertion)
    (hblank : Text.isBlankText assertion = false) :
    ∃ fields, (credential.form.perform world).1 = .ok fields := by
  rcases hsign : (signer.sign (.text credential.config.clientId) credential.config.tenant
    .null).perform world with ⟨outcome, after⟩
  rw [hsign] at hsigned
  obtain rfl : outcome = .ok assertion := hsigned
  let map := credential.started.insertText .grantType "client_credentials"
  let signed := map.insert .clientAssertion (.text assertion)
  let added := signed.insertText .clientAssertionType ClientAssertion.kind
  have hadded : (ClientProof.addTo (.assertion (some (.certificate signer))) map
      credential.config).perform world =
        (.ok (added, [.clientAssertion, .clientAssertionType]), after) := by
    rw [ClientProof.addTo, ClientProof.addAssertion, Action.perform_bind, ClientAssertion.value,
      Action.perform_bind_of_ok hsign]
    rfl
  have hgrantType : Text.isBlankText "client_credentials" = false := by decide
  have hkind : Text.isBlankText ClientAssertion.kind = false := by decide
  obtain ⟨fields, hfields⟩ : ∃ fields, added.toForm [] [.clientId, .grantType, .scope,
      .clientAssertion, .clientAssertionType] = .ok fields := by
    rw [ParameterMap.exists_toForm_iff]
    simpa (disch := decide) [added, signed, map, ParameterMap.insertText,
      ParameterMap.get?_insert_of_ne, ParameterMap.get?_insert_text, ParameterMap.scopes_insert,
      get?_clientId_started hclient, hgrantType, hkind, hblank] using hscope
  refine ⟨fields, ?_⟩
  rw [form, hgrant]
  change ((ClientProof.addTo (.assertion (some (.certificate signer))) map
      credential.config >>= fun _ => _).perform world).1 = _
  rw [Action.perform_bind_of_ok hadded, Action.perform_ofExcept]
  exact hfields

/-- A signer without claims of its own. -/
def plainSigner : Signer := { Signer.trialSigner with claims := [] }

/-- A trial of an application of some cloud that proves itself by a certificate. -/
def certificateTrial (cloud : Cloud) : Credential where
  config := { Context.trialConfig with cloud }
  client := .standard
  grant := .clientCredentials (some (.assertion (some (.certificate plainSigner))))

theorem exists_form_certificateTrial (cloud : Cloud) :
    ∃ fields, ((certificateTrial cloud).form.perform Signer.trialWorld).1 = .ok fields := by
  have hplain : Json.Plain (.object plainSigner.claims) :=
    Json.plain_object_iff.mpr ⟨List.nodup_nil, by rintro _ ⟨⟩⟩
  have hissuer : ∀ issuer, Assoc.get? "iss" plainSigner.claims = some issuer →
      ∃ s, issuer = .text s := by
    rintro _ ⟨⟩
  let usual := Signer.usualClaims "client" (.text "contoso") 1700000000
    (Signer.trialWorld.entropy.take 16).1
  have hwritable : Json.isWritable (.object (plainSigner.signedClaims usual)) = true := by
    decide +kernel
  obtain ⟨assertion, hsigned, hsays⟩ := Signer.signClaims_says
    (Signer.plain_signedClaims hplain hwritable)
    (fun _ => Signer.issuer_signedClaims (Json.plain_object_iff.mp hplain).1 hissuer)
    (show Rsa.leastSize ≤ plainSigner.key.size by decide +kernel)
  refine exists_form_of_signed rfl (show Text.isBlankText "client" = false by decide)
    (by cases cloud <;> decide +kernel) ((Signer.sign_perform rfl).trans hsigned) ?_
  obtain ⟨header, payload, signature, rfl, -⟩ := hsays.parts
  rw [Text.isBlankText, Text.allBlank, List.all_eq_false]
  exact ⟨'.', by simp, by decide⟩

/-- The form of an application with a certificate addresses the endpoint of the public cloud for its
tenant, and the one that it is posted to only where the two are the same. All that is sent for a
token is that form, and it is posted to the endpoint of the application. -/
theorem assertion_addresses_publicEndpoint
    (hproof : credential.grant.assertion? = some (.certificate signer))
    (hclaims : signer.claims = []) (world : World) :
    (∀ fields, (credential.form.perform world).1 = .ok fields →
      Addresses fields credential.config.publicEndpoint ∧
      (Addresses fields credential.config.tokenEndpoint ↔ credential.config.AsksForTenant)) ∧
    ∀ entry ∈ world.transcript (credential.execute.perform world).2,
      entry.1.url = .text credential.config.tokenEndpoint ∧
      ∃ fields, (credential.form.perform world).1 = .ok fields ∧
        entry.1 = credential.tokenRequest fields := by
  constructor
  · intro fields hform
    have haddresses := (form_carriesSigned hproof hform).addresses hclaims
    refine ⟨haddresses, ?_⟩
    rw [← AppConfig.publicEndpoint_eq_tokenEndpoint_iff]
    exact ⟨haddresses.unique, fun hsame => hsame ▸ haddresses⟩
  · intro entry hentry
    rcases execute_cases (rfl : credential.execute.perform world = (_, _)) with
      ⟨failure, hform, -⟩ | ⟨fields, attempts, hform, -, hdelivers⟩
    · exact absurd hentry ((credential.form_isOffline.sends hform).not_mem_transcript entry)
    · have hrequest := hdelivers.fst_of_mem_transcript hentry
      exact ⟨by rw [hrequest]; rfl, fields, hform, hrequest⟩

/-- At the public cloud, under its tenant's name, an application sends the assertion to the endpoint
that it addresses. -/
theorem worldwide_assertion_addresses_its_endpoint :
    ∃ fields, ((certificateTrial .worldwide).form.perform Signer.trialWorld).1 = .ok fields ∧
      Addresses fields (certificateTrial .worldwide).config.tokenEndpoint := by
  obtain ⟨fields, hform⟩ := exists_form_certificateTrial .worldwide
  have haudience := (assertion_addresses_publicEndpoint
    (show (certificateTrial .worldwide).grant.assertion? = some (.certificate plainSigner) from rfl)
    rfl Signer.trialWorld).1 fields hform
  exact ⟨fields, hform, haudience.2.mpr ⟨rfl, rfl⟩⟩

/-- At a national cloud, an application sends the assertion to another endpoint than the one that it
addresses. -/
theorem national_assertion_addresses_another_endpoint :
    ∃ fields, ((certificateTrial .usGovernment).form.perform Signer.trialWorld).1 = .ok fields ∧
      Addresses fields "https://login.microsoftonline.com/contoso/oauth2/v2.0/token" ∧
      ¬ Addresses fields (certificateTrial .usGovernment).config.tokenEndpoint := by
  obtain ⟨fields, hform⟩ := exists_form_certificateTrial .usGovernment
  have haddresses : Addresses fields (certificateTrial .usGovernment).config.publicEndpoint :=
    (form_carriesSigned rfl hform).addresses rfl
  refine ⟨fields, hform, haddresses, fun hother => ?_⟩
  have hasks := AppConfig.publicEndpoint_eq_tokenEndpoint_iff.mp (haddresses.unique hother)
  exact absurd hasks.cloud (by decide)

end Credential

end OAuthClient
