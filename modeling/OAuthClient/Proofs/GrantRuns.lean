import OAuthClient.Credential.Settings
import OAuthClient.Proofs.GrantKeys

/-! # Requests of a run

Codes, refresh tokens and proof keys may be put into a credential at any time
between its acquisitions. Each request that is sent then carries one grant all
the same, and an application with a secret sends it either in the form or in the
HTTP credentials.
-/

namespace OAuthClient

/-- What can be put into a credential. -/
inductive CredentialInput where
  | authorizationCode (code : Value)
  | refreshToken (token : Value)
  | deviceCode (code : Value)
  | proofKey (key : ProofKey)

/-- A credential that is given something, if it is of a kind that takes it. -/
def Credential.given (credential : Credential) : CredentialInput → Except Failure Credential
  | .authorizationCode code => credential.withAuthorizationCode code
  | .refreshToken token => credential.withRefreshToken token
  | .deviceCode code => credential.withDeviceCode code
  | .proofKey key => credential.withProofKey key

/-- A step of a run in which a credential may be given something, too. -/
inductive CredentialAct where
  | perform (step : CredentialStep)
  | give (input : CredentialInput)

/-- The context after an act, whether it succeeds or not. -/
def CredentialAct.apply (act : CredentialAct) (context : Context) : Context :=
  match act with
  | .perform step => step.apply context
  | .give input => ((Context.changeCredential (·.given input)).perform context).2

/-- The context after some acts. -/
def Context.enact (context : Context) (acts : List CredentialAct) : Context :=
  acts.foldl (fun context act => act.apply context) context

/-- Whether a grant is of a kind that takes no code. -/
def Grant.IsFixed (grant : Grant) : Prop :=
  grant.authorizationCode? = none ∧ grant.deviceCode? = none

theorem Grant.IsFixed.withoutCode {grant : Grant} (h : grant.IsFixed) :
    grant.withoutCode = grant := by
  cases grant with
  | authorizationCode openId code verifier proof => cases h.1
  | deviceCode code => cases h.2
  | _ => rfl

/-- Whether a grant remains of another one: all of it, or all but its code. -/
def Grant.Remains (before after : Grant) : Prop := after = before ∨ after = before.withoutCode

namespace Grant.Remains

variable {before between after : Grant}

theorem trans (h : before.Remains between) (h' : between.Remains after) :
    before.Remains after := by
  have htwice (grant : Grant) : grant.withoutCode.withoutCode = grant.withoutCode := by
    cases grant <;> rfl
  rcases h with rfl | rfl
  · exact h'
  · rcases h' with rfl | rfl
    · exact .inr rfl
    · exact .inr (htwice before)

theorem eq_of_isFixed (h : before.Remains after) (hfixed : before.IsFixed) : after = before :=
  h.elim id fun heq => heq.trans hfixed.withoutCode

theorem codeVerifier? (h : before.Remains after) : after.codeVerifier? = before.codeVerifier? := by
  rcases h with rfl | rfl
  · rfl
  · cases before <;> rfl

end Grant.Remains

namespace Credential

variable {credential given : Credential} {input : CredentialInput}

theorem sameUse_given (h : credential.given input = .ok given) : credential.SameUse given := by
  obtain ⟨config, client, grant, refreshToken⟩ := credential
  cases input with
  | authorizationCode code =>
      cases grant <;> cases h
      exact ⟨rfl, rfl, rfl, rfl⟩
  | refreshToken token =>
      simp only [Credential.given, withRefreshToken] at h
      split at h <;> cases h
      exact sameUse_setRefreshToken _ _
  | deviceCode code =>
      cases grant <;> cases h
      exact ⟨rfl, rfl, rfl, rfl⟩
  | proofKey key =>
      cases grant <;> cases h
      exact ⟨rfl, rfl, rfl, rfl⟩

theorem grant_given (hfixed : credential.grant.IsFixed) (h : credential.given input = .ok given) :
    given.grant = credential.grant := by
  obtain ⟨config, client, grant, refreshToken⟩ := credential
  cases input with
  | authorizationCode code =>
      cases grant <;> cases h
      cases hfixed.1
  | refreshToken token =>
      simp only [Credential.given, withRefreshToken] at h
      split at h <;> cases h
      exact hfixed.withoutCode
  | deviceCode code =>
      cases grant <;> cases h
      cases hfixed.2
  | proofKey key =>
      cases grant <;> cases h
      cases hfixed.1

end Credential

namespace Context

variable {before after context : Context} {outcome : Except Failure Token}

/-! ### What a step leaves of a grant -/

theorem prepared_remains (context : Context) :
    context.credential.grant.Remains context.prepared.credential.grant := by
  rcases context.prepared_cases with ⟨_, heq⟩ | ⟨cached, _, _, _, heq⟩ | ⟨_, heq⟩ <;> rw [heq]
  · exact .inl rfl
  · exact .inr rfl
  · exact .inl rfl

theorem keep_remains (context : Context) (token : Token) :
    context.credential.grant.Remains (context.keep token).credential.grant := by
  unfold keep renewed
  dsimp only
  split
  · exact .inr rfl
  · exact .inl rfl

theorem Asks.remains (h : before.Asks outcome after) :
    before.credential.grant.Remains after.credential.grant := by
  cases h with
  | granted => exact keep_remains _ _
  | _ => exact .inl rfl

/-- A step takes nothing but the code from a grant. -/
theorem apply_remains (step : CredentialStep) (context : Context) :
    context.credential.grant.Remains (step.apply context).credential.grant := by
  cases step with
  | acquire =>
      rcases h : getTokenSilent.perform context with ⟨outcome, after⟩
      rw [CredentialStep.apply, h]
      rcases getTokenSilent_same_or_asks h with rfl | hasks
      · exact .inl rfl
      · exact (prepared_remains context).trans hasks.remains
  | obtain => exact (getToken_asks rfl).remains
  | clear => exact .inl rfl
  | force setting => exact .inl rfl
  | wait seconds => exact .inl rfl

/-! ### Acts -/

theorem changeCredential_cases (change : Credential → Except Failure Credential)
    (context : Context) :
    ((changeCredential change).perform context).2 = context ∨
    ∃ credential, change context.credential = .ok credential ∧
      ((changeCredential change).perform context).2 = { context with credential } := by
  rw [changeCredential, Action.perform_get_bind, Action.perform_ofExcept_bind]
  cases change context.credential with
  | error failure => exact .inl rfl
  | ok credential => exact .inr ⟨credential, rfl, rfl⟩

theorem act_sends (act : CredentialAct) (context : Context) :
    ∃ requests, context.world.Sends (act.apply context).world requests := by
  cases act with
  | perform step => exact apply_sends step context
  | give input =>
      rcases changeCredential_cases (·.given input) context with heq | ⟨credential, _, heq⟩ <;>
        rw [CredentialAct.apply, heq] <;> exact ⟨[], World.Sends.refl _⟩

theorem act_sameUse (act : CredentialAct) (context : Context) :
    context.credential.SameUse (act.apply context).credential := by
  cases act with
  | perform step => exact apply_sameUse step context
  | give input =>
      rcases changeCredential_cases (·.given input) context with heq | ⟨credential, hgiven, heq⟩ <;>
        rw [CredentialAct.apply, heq]
      · exact Credential.SameUse.refl _
      · exact Credential.sameUse_given hgiven

theorem act_grant (hfixed : context.credential.grant.IsFixed) (act : CredentialAct) :
    (act.apply context).credential.grant = context.credential.grant := by
  cases act with
  | perform step => exact (apply_remains step context).eq_of_isFixed hfixed
  | give input =>
      rcases changeCredential_cases (·.given input) context with heq | ⟨credential, hgiven, heq⟩ <;>
        rw [CredentialAct.apply, heq]
      exact Credential.grant_given hfixed hgiven

/-- Whether a request asks for a token with the form of a credential in some state of it. -/
structure AsksWith (context : Context) (request : Request) (asking : Credential)
    (fields : Credential.Fields) : Prop where
  form : ∃ moment, (asking.form.perform moment).1 = .ok fields
  request : request = asking.tokenRequest fields
  sameUse : context.credential.SameUse asking
  grant : context.credential.grant.IsFixed → asking.grant = context.credential.grant

theorem AsksWith.of_later {asking : Credential} {fields : Credential.Fields} {request : Request}
    (hsame : before.credential.SameUse after.credential)
    (hgrant : before.credential.grant.IsFixed → after.credential.grant = before.credential.grant)
    (h : after.AsksWith request asking fields) : before.AsksWith request asking fields := by
  refine ⟨h.form, h.request, hsame.trans h.sameUse, fun hfixed => ?_⟩
  have hafter := hgrant hfixed
  exact (h.grant (by rwa [hafter])).trans hafter

theorem Asks.asksWith (h : before.Asks outcome after) {entry : Request × Reply}
    (hentry : entry ∈ before.world.transcript after.world) :
    ∃ asking fields, before.AsksWith entry.1 asking fields := by
  obtain ⟨fields, hform, hrequest⟩ := h.requests hentry
  exact ⟨before.credential, fields, ⟨_, hform⟩, hrequest, Credential.SameUse.refl _, fun _ => rfl⟩

theorem apply_asksWith (step : CredentialStep) {entry : Request × Reply}
    (hentry : entry ∈ context.world.transcript (step.apply context).world) :
    ∃ asking fields, context.AsksWith entry.1 asking fields := by
  cases step with
  | acquire =>
      rw [CredentialStep.apply] at hentry
      rcases h : getTokenSilent.perform context with ⟨outcome, after⟩
      rw [h] at hentry
      rcases getTokenSilent_same_or_asks h with rfl | hasks
      · exact absurd hentry (World.not_mem_transcript_self _ entry)
      · rw [← prepared_world] at hentry
        obtain ⟨asking, fields, hasking⟩ := hasks.asksWith hentry
        exact ⟨asking, fields,
          hasking.of_later (sameUse_prepared context) (prepared_remains context).eq_of_isFixed⟩
  | obtain => exact (getToken_asks rfl).asksWith hentry
  | clear => exact absurd hentry (World.not_mem_transcript_self _ entry)
  | force setting => exact absurd hentry (World.not_mem_transcript_self _ entry)
  | wait seconds =>
      exact absurd hentry ((World.advance_sends seconds context.world).not_mem_transcript entry)

theorem act_asksWith (act : CredentialAct) {entry : Request × Reply}
    (hentry : entry ∈ context.world.transcript (act.apply context).world) :
    ∃ asking fields, context.AsksWith entry.1 asking fields := by
  cases act with
  | perform step => exact apply_asksWith step hentry
  | give input =>
      have hworld : (CredentialAct.apply (.give input) context).world = context.world := by
        rcases changeCredential_cases (·.given input) context with heq | ⟨credential, _, heq⟩ <;>
          rw [CredentialAct.apply, heq]
      rw [hworld] at hentry
      exact absurd hentry (World.not_mem_transcript_self _ entry)

/-! ### Runs of acts -/

@[simp] theorem enact_nil (context : Context) : context.enact [] = context := rfl

@[simp] theorem enact_cons (context : Context) (act : CredentialAct) (acts : List CredentialAct) :
    context.enact (act :: acts) = (act.apply context).enact acts := rfl

theorem enact_sends (acts : List CredentialAct) (context : Context) :
    ∃ requests, context.world.Sends (context.enact acts).world requests := by
  induction acts generalizing context with
  | nil => exact ⟨[], World.Sends.refl _⟩
  | cons act acts ih =>
      obtain ⟨first, hfirst⟩ := act_sends act context
      obtain ⟨rest, hrest⟩ := ih (act.apply context)
      exact ⟨first ++ rest, hfirst.trans hrest⟩

theorem enact_sameUse (acts : List CredentialAct) (context : Context) :
    context.credential.SameUse (context.enact acts).credential := by
  induction acts generalizing context with
  | nil => exact Credential.SameUse.refl _
  | cons act acts ih => exact (act_sameUse act context).trans (ih _)

theorem enact_grant (acts : List CredentialAct) (hfixed : context.credential.grant.IsFixed) :
    (context.enact acts).credential.grant = context.credential.grant := by
  induction acts generalizing context with
  | nil => rfl
  | cons act acts ih =>
      have hact := act_grant hfixed act
      exact (ih (by rwa [hact])).trans hact

/-- Every request of a run asks for a token with the form of the credential. -/
theorem enact_asksWith (acts : List CredentialAct) {entry : Request × Reply}
    (hentry : entry ∈ context.world.transcript (context.enact acts).world) :
    ∃ asking fields, context.AsksWith entry.1 asking fields := by
  induction acts generalizing context with
  | nil => exact absurd hentry (World.not_mem_transcript_self _ entry)
  | cons act acts ih =>
      obtain ⟨first, hfirst⟩ := act_sends act context
      obtain ⟨rest, hrest⟩ := enact_sends acts (act.apply context)
      rw [enact_cons, hfirst.transcript_trans hrest, List.mem_append] at hentry
      rcases hentry with hentry | hentry
      · exact act_asksWith act hentry
      · obtain ⟨asking, fields, hasking⟩ := ih hentry
        exact ⟨asking, fields, hasking.of_later (act_sameUse act context) (act_grant · act)⟩

end Context

/-! ### Secrets -/

/-- The HTTP credentials that a request carries. -/
def Request.auth? (request : Request) : Option (Value × Value) :=
  match request.payload with
  | .form _ _ auth => auth
  | _ => none

/-- Whether a request carries the secret of an application once: in the HTTP credentials if it is to
be sent there, and otherwise in the form. -/
structure Request.SendsSecret (request : Request) (clientId secret : String) (basic : Bool) :
    Prop where
  auth : request.auth? = if basic then some (.text clientId, .text secret) else none
  field : request.field? "client_secret" = if basic then none else some (.text secret)

theorem Credential.sendsSecret {credential : Credential} {fields : Credential.Fields}
    {world : World} {word : Value} {basic : Bool}
    (hgrant : credential.grant = .clientCredentials (some (.secret word basic)))
    (hform : (credential.form.perform world).1 = .ok fields) :
    ∃ secret, word = .text secret ∧
      (credential.tokenRequest fields).SendsSecret credential.config.clientId secret basic := by
  have hauth : (credential.tokenRequest fields).auth? = credential.requestAuth? := rfl
  have hcredentials :
      ((credential.clientCredentialsForm (some (.secret word basic))).perform world).1 =
        .ok fields := by
    rw [form, hgrant] at hform
    exact hform
  obtain ⟨⟨map, required⟩, _, hadded, hrendered⟩ := Action.of_perform_bind_ok hcredentials
  rw [Action.perform_ofExcept] at hrendered
  rw [ClientProof.addTo, Action.perform_ofExcept] at hadded
  obtain ⟨secret, rfl, hblank, hmap⟩ := ClientProof.addSecret_ok (Prod.mk.inj hadded).1
  have hfield := ParameterMap.get?_toForm hrendered .clientSecret
  refine ⟨secret, rfl, ?_, ?_⟩
  · rw [hauth, requestAuth?, nameAndSecret?, hgrant]
    cases basic <;> rfl
  · rw [field?_tokenRequest]
    cases basic with
    | true =>
        rw [if_pos rfl] at hmap
        cases hmap
        rw [if_neg (by decide)] at hfield
        exact congrArg (Option.map Value.text) hfield
    | false =>
        rw [if_neg Bool.false_ne_true] at hmap
        cases hmap
        rw [if_pos (by decide), ParameterMap.get?_insert_text _ (by decide), hblank] at hfield
        exact congrArg (Option.map Value.text) hfield

theorem Credential.ofSettings_clientSecret {config : AppConfig} {client : HttpClient}
    {settings : CredentialSettings} {credential : Credential}
    (h : ofSettings .clientSecret config client settings = .ok credential) :
    credential.config = config ∧ credential.grant = .clientCredentials (some (.secret
      (settings.value "client_secret") (settings.value "use_basic_auth").isPresent)) := by
  unfold ofSettings at h
  split at h
  next =>
    cases h
    exact ⟨rfl, rfl⟩
  next => cases h

/-- Whether a request sends the secret of the settings once, if the kind of credential has one. -/
def CredentialSettings.SendsSecretOnce (settings : CredentialSettings) (kind : CredentialKind)
    (config : AppConfig) (request : Request) : Prop :=
  kind = .clientSecret → ∃ secret, settings.value "client_secret" = .text secret ∧
    request.SendsSecret config.clientId secret (settings.value "use_basic_auth").isPresent

theorem Credential.sendsSecretOnce {kind : CredentialKind} {config : AppConfig}
    {client : HttpClient} {settings : CredentialSettings} {first asking : Credential}
    {fields : Credential.Fields} {world : World}
    (hfirst : ofSettings kind config client settings = .ok first)
    (hsame : first.SameUse asking) (hgrant : first.grant.IsFixed → asking.grant = first.grant)
    (hform : (asking.form.perform world).1 = .ok fields) :
    settings.SendsSecretOnce kind config (asking.tokenRequest fields) := by
  rintro rfl
  obtain ⟨hconfig, hfirstGrant⟩ := ofSettings_clientSecret hfirst
  have hasking := hgrant (by rw [hfirstGrant]; exact ⟨rfl, rfl⟩)
  obtain ⟨secret, hsecret, hsends⟩ := sendsSecret (hasking.trans hfirstGrant) hform
  rw [hsame.config, hconfig] at hsends
  exact ⟨secret, hsecret, hsends⟩

/-- Whatever was done with a credential of some kind, the form that it has then is that of one
grant, and so is the form of every request that was sent. A secret is sent once in each. -/
theorem each_request_is_one_grant {kind : CredentialKind} {config : AppConfig}
    {client : HttpClient} {settings : CredentialSettings} {start : Context}
    (hstart : Credential.ofSettings kind config client settings = .ok start.credential)
    (acts : List CredentialAct) :
    (∀ fields, ((start.enact acts).credential.form.perform (start.enact acts).world).1 =
        .ok fields →
      (∃ grant : GrantKind, grant.IsForm fields) ∧
      settings.SendsSecretOnce kind config ((start.enact acts).credential.tokenRequest fields)) ∧
    ∀ entry ∈ start.world.transcript (start.enact acts).world,
      (∃ (grant : GrantKind) (asking : Credential) (fields : Credential.Fields),
        grant.IsForm fields ∧ entry.1 = asking.tokenRequest fields) ∧
      settings.SendsSecretOnce kind config entry.1 := by
  constructor
  · intro fields hform
    exact ⟨Credential.form_isForm hform, Credential.sendsSecretOnce hstart
      (Context.enact_sameUse acts start) (Context.enact_grant acts) hform⟩
  · intro entry hentry
    obtain ⟨asking, fields, hasking⟩ := Context.enact_asksWith acts hentry
    obtain ⟨moment, hform⟩ := hasking.form
    obtain ⟨grant, hgrant⟩ := Credential.form_isForm hform
    rw [hasking.request]
    exact ⟨⟨grant, asking, fields, hgrant, rfl⟩,
      Credential.sendsSecretOnce hstart hasking.sameUse hasking.grant hform⟩

/-- A trial of an application that sends its secret as HTTP credentials. -/
def Context.secretTrial : Context where
  credential := {
    config := trialConfig, client := .standard
    grant := .clientCredentials (some (.secret (.text "secret") true)) }
  world := Context.rotationTrial.world

theorem secretTrial_sends_secret_once :
    ∃ fields, (Context.secretTrial.credential.form.perform Context.secretTrial.world).1 =
        .ok fields ∧
      (∃ grant : GrantKind, grant.IsForm fields) ∧
      ∀ entry ∈ Context.secretTrial.world.transcript (Context.secretTrial.enact
          [.give (.authorizationCode (.text "code")), .perform .obtain]).world,
        entry.1.SendsSecret "client" "secret" true := by
  have hstart : Credential.ofSettings .clientSecret Context.trialConfig .standard
      { values := [("client_secret", .text "secret"), ("use_basic_auth", .bool true)] } =
        .ok Context.secretTrial.credential := rfl
  obtain ⟨fields, hform⟩ : ∃ fields,
      (Context.secretTrial.credential.form.perform Context.secretTrial.world).1 = .ok fields :=
    ⟨_, rfl⟩
  refine ⟨fields, hform, ((each_request_is_one_grant hstart []).1 fields hform).1, ?_⟩
  intro entry hentry
  obtain ⟨secret, hsecret, hsends⟩ := ((each_request_is_one_grant hstart _).2 entry hentry).2 rfl
  cases hsecret
  exact hsends

end OAuthClient
