import OAuthClient.Credential.Context
import OAuthClient.Proofs.Transcript

/-! # Token exchanges

What one attempt to obtain a token can do. Making a form sends nothing and
draws random bytes at most; a form that is made is posted, and sent again only
while no answer arrives; and a token is kept only if the answer is one.
-/

namespace OAuthClient

/-- Whether an action draws random bytes at most. -/
def Action.IsOffline {α : Type} (action : Action World α) : Prop :=
  ∀ world, ∃ entropy, (action.perform world).2 = { world with entropy }

namespace Action.IsOffline

variable {α β : Type}

theorem pure (a : α) : IsOffline (Pure.pure a : Action World α) :=
  fun world => ⟨world.entropy, rfl⟩

theorem throw (failure : Failure) : IsOffline (throw failure : Action World α) :=
  fun world => ⟨world.entropy, rfl⟩

theorem get : IsOffline (MonadState.get : Action World World) :=
  fun world => ⟨world.entropy, rfl⟩

theorem ofExcept (result : Except Failure α) : IsOffline (Action.ofExcept result) := by
  intro world
  exact ⟨world.entropy, by rw [perform_ofExcept]⟩

theorem bind {action : Action World α} {next : α → Action World β} (haction : action.IsOffline)
    (hnext : ∀ a, (next a).IsOffline) : (action >>= next).IsOffline := by
  intro world
  obtain ⟨entropy, hentropy⟩ := haction world
  rw [perform_bind]
  split
  next a after heq =>
    rw [heq] at hentropy
    obtain ⟨later, hlater⟩ := hnext a after
    dsimp only at hentropy ⊢
    exact ⟨later, by rw [hlater, hentropy]⟩
  next failure after heq =>
    rw [heq] at hentropy
    exact ⟨entropy, hentropy⟩

theorem randomBytes (count : Nat) : (World.randomBytes count).IsOffline :=
  fun world => ⟨(world.entropy.take count).2, rfl⟩

/-- An offline action sends nothing. -/
theorem sends {action : Action World α} (h : action.IsOffline) {world after : World}
    {outcome : Except Failure α} (hperform : action.perform world = (outcome, after)) :
    world.Sends after [] := by
  obtain ⟨entropy, hentropy⟩ := h world
  rw [hperform] at hentropy
  subst hentropy
  exact ⟨by simp, by simp⟩

end Action.IsOffline

open OAuthClient.Action (IsOffline)

theorem Signer.sign_isOffline (signer : Signer) (clientId tenant now : Value) :
    (signer.sign clientId tenant now).IsOffline := by
  have hdefault : (Signer.defaultClaims clientId tenant now).IsOffline :=
    IsOffline.get.bind fun world => (IsOffline.ofExcept _).bind fun time =>
      (IsOffline.randomBytes 16).bind fun identifier => IsOffline.pure _
  unfold Signer.sign Signer.claimsFor
  split
  · exact (IsOffline.pure _).bind fun claims => IsOffline.ofExcept _
  · exact (hdefault.bind fun claims => IsOffline.pure _).bind fun claims => IsOffline.ofExcept _

theorem ClientAssertion.value_isOffline (assertion : ClientAssertion) (clientId tenant : Value) :
    (assertion.value clientId tenant).IsOffline := by
  cases assertion with
  | signed text => exact IsOffline.pure text
  | certificate signer =>
      exact (signer.sign_isOffline clientId tenant .null).bind fun text => IsOffline.pure _

namespace ClientProof

theorem addTo_isOffline (proof : ClientProof) (map : ParameterMap) (config : AppConfig) :
    (proof.addTo map config).IsOffline := by
  cases proof with
  | secret word basic => exact IsOffline.ofExcept _
  | assertion given =>
      cases given with
      | none => exact IsOffline.throw _
      | some given =>
          exact (given.value_isOffline _ _).bind fun signed => IsOffline.pure _

theorem addToCode_isOffline (proof : ClientProof) (verifier : Value) (map : ParameterMap)
    (config : AppConfig) : (proof.addToCode verifier map config).IsOffline := by
  unfold addToCode
  split
  · split
    · exact IsOffline.pure _
    · exact addTo_isOffline _ map config
  · exact proof.addTo_isOffline map config

end ClientProof

namespace Credential

theorem authorizationCodeForm_isOffline (credential : Credential) (code verifier : Value)
    (proof : ClientProof) : (credential.authorizationCodeForm code verifier proof).IsOffline := by
  have hproof := proof.addToCode_isOffline verifier credential.started credential.config
  unfold authorizationCodeForm
  by_cases htoken : (!credential.refreshToken.isNull) = true
  · simp only [htoken, if_true]
    exact (IsOffline.ofExcept _).bind fun _ => hproof.bind fun _ => IsOffline.ofExcept _
  · by_cases hcode : (!code.isNull) = true
    · simp only [htoken, hcode, if_true]
      exact (IsOffline.ofExcept _).bind fun _ => hproof.bind fun _ => IsOffline.ofExcept _
    · simp only [htoken, hcode]
      exact IsOffline.throw _

theorem onBehalfOfForm_isOffline (credential : Credential) (assertion : Value)
    (proof : ClientProof) : (credential.onBehalfOfForm assertion proof).IsOffline := by
  refine (proof.addTo_isOffline _ _).bind fun added => ?_
  dsimp only
  split
  · exact IsOffline.ofExcept _
  · exact IsOffline.ofExcept _

/-- Making a form sends nothing. -/
theorem form_isOffline (credential : Credential) : credential.form.IsOffline := by
  unfold form
  split
  next => exact IsOffline.throw _
  next => exact credential.authorizationCodeForm_isOffline _ _ _
  next proof _ =>
    cases proof with
    | none => exact IsOffline.throw _
    | some proof => exact (proof.addTo_isOffline _ _).bind fun _ => IsOffline.ofExcept _
  next => exact IsOffline.ofExcept _
  next => exact credential.onBehalfOfForm_isOffline _ _
  next => exact IsOffline.ofExcept _

/-- The request that posts a form of a credential. -/
def formRequest (credential : Credential) (uri : String) (fields : Fields)
    (auth : Option (Value × Value)) : Request where
  method := "POST"
  url := .text uri
  headers := HttpClient.withKind "application/x-www-form-urlencoded" credential.config.extraHeaders
  payload := .form (fields.map fun (name, text) => (name, .text text))
    (if credential.config.extraQuery.isEmpty then none else some credential.config.extraQuery) auth
  timeout := credential.client.timeout

/-- The request by which a credential asks for a token with a form. -/
def tokenRequest (credential : Credential) (fields : Fields) : Request :=
  credential.formRequest credential.config.tokenEndpoint fields credential.requestAuth?

end Credential

/-- Telling transport failures otherwise changes neither the answers nor what is sent. -/
theorem asExecution_perform {what : String} {request : Action World Response}
    {world after : World} {outcome : Except Failure Response}
    (h : (asExecution what request).perform world = (outcome, after)) :
    ∃ result, request.perform world = (result, after) ∧
      ∀ response, outcome = .ok response ↔ result = .ok response := by
  rw [asExecution, Action.perform_attempt_bind] at h
  rcases hresult : request.perform world with ⟨result, reached⟩
  rw [hresult] at h
  cases result with
  | ok answer =>
      obtain ⟨rfl, rfl⟩ := Prod.mk.inj h
      exact ⟨_, rfl, fun response => Iff.rfl⟩
  | error failure =>
      refine ⟨.error failure, ?_⟩
      cases failure <;> (obtain ⟨rfl, rfl⟩ := Prod.mk.inj h; simp)

theorem asExecution_snd (what : String) (request : Action World Response) (world : World) :
    ((asExecution what request).perform world).2 = (request.perform world).2 := by
  rcases h : (asExecution what request).perform world with ⟨outcome, after⟩
  obtain ⟨result, hresult, -⟩ := asExecution_perform h
  rw [hresult]

namespace Credential

theorem post_delivers {credential : Credential} {what uri : String} {fields : Fields}
    {auth : Option (Value × Value)} {world after : World} {outcome : Except Failure Response}
    (h : (credential.post what uri fields auth).perform world = (outcome, after)) :
    ∃ attempts, (credential.client.IsCounted → 0 < attempts) ∧
      world.Delivers after (credential.formRequest uri fields auth) attempts outcome := by
  obtain ⟨result, hresult, hok⟩ := asExecution_perform h
  obtain ⟨attempts, hcounted, hdelivers⟩ := HttpClient.send_delivers hresult
  exact ⟨attempts, hcounted.mpr, hdelivers.congr_outcome hok⟩

/-- Asking the token endpoint either fails with the form or delivers the request that carries the
form. -/
theorem execute_cases {credential : Credential} {world after : World}
    {outcome : Except Failure Response} (h : credential.execute.perform world = (outcome, after)) :
    (∃ failure, credential.form.perform world = (.error failure, after) ∧
      outcome = .error failure) ∨
    ∃ fields attempts, (credential.form.perform world).1 = .ok fields ∧
      (credential.client.IsCounted → 0 < attempts) ∧
      world.Delivers after (credential.tokenRequest fields) attempts outcome := by
  unfold execute at h
  rw [Action.perform_bind] at h
  split at h
  next fields formed hform =>
    obtain ⟨attempts, hcounted, hdelivers⟩ := post_delivers h
    have hsilence := credential.form_isOffline.sends hform
    exact .inr ⟨fields, attempts, by rw [hform], hcounted, hdelivers.after_silence hsilence⟩
  next failure formed hform =>
    obtain ⟨rfl, rfl⟩ := Prod.mk.inj h
    exact .inl ⟨failure, hform, rfl⟩

end Credential

namespace Context

@[simp] theorem inWorld_perform {α : Type} (action : Action World α) (context : Context) :
    (inWorld action).perform context =
      ((action.perform context.world).1,
        { context with world := (action.perform context.world).2 }) := rfl

@[simp] theorem readToken_perform (response : Response) (context : Context) :
    (readToken response).perform context =
      (Token.ofAnswer response context.credential.config.logPii context.world.now, context) := by
  rw [readToken, Action.perform_get_bind, Action.perform_ofExcept]

/-- What asking for a token by the grant can do. Nothing is kept unless a token is granted. -/
inductive Asks (before : Context) : Except Failure Token → Context → Prop where
  /-- There is no form, and nothing is sent. -/
  | unformed {failure : Failure} {world : World}
      (hform : before.credential.form.perform before.world = (.error failure, world)) :
      Asks before (.error failure) { before with world }
  /-- No answer arrives. -/
  | unanswered {fields : Credential.Fields} {attempts : Nat} {failure : Failure} {world : World}
      (hform : (before.credential.form.perform before.world).1 = .ok fields)
      (hcounted : before.credential.client.IsCounted → 0 < attempts)
      (hdelivers : before.world.Delivers world (before.credential.tokenRequest fields) attempts
        (.error failure)) :
      Asks before (.error failure) { before with world }
  /-- The answer is no token. -/
  | refused {fields : Credential.Fields} {attempts : Nat} {response : Response} {world : World}
      {failure : Failure}
      (hform : (before.credential.form.perform before.world).1 = .ok fields)
      (hdelivers : before.world.Delivers world (before.credential.tokenRequest fields) attempts
        (.ok response))
      (hanswer : Token.ofAnswer response before.credential.config.logPii world.now =
        .error failure) :
      Asks before (.error failure) { before with world }
  /-- The answer is a token, which is kept. -/
  | granted {fields : Credential.Fields} {attempts : Nat} {response : Response} {world : World}
      {token : Token}
      (hform : (before.credential.form.perform before.world).1 = .ok fields)
      (hdelivers : before.world.Delivers world (before.credential.tokenRequest fields) attempts
        (.ok response))
      (hanswer : Token.ofAnswer response before.credential.config.logPii world.now = .ok token) :
      Asks before (.ok (inheriting before.credential token))
        (keep { before with world } token)

/-- Obtaining a token asks for it by the grant, and does nothing else. -/
theorem getToken_asks {before after : Context} {outcome : Except Failure Token}
    (h : getToken.perform before = (outcome, after)) : before.Asks outcome after := by
  rcases hexecute : before.credential.execute.perform before.world with ⟨answer, world⟩
  have hcontext : execute.perform before = (answer, { before with world }) := by
    rw [execute, Action.perform_get_bind, inWorld_perform, hexecute]
  rw [getToken, Action.perform_bind, hcontext] at h
  rcases Credential.execute_cases hexecute with
    ⟨failure, hform, rfl⟩ | ⟨fields, attempts, hform, hcounted, hdelivers⟩
  · obtain ⟨rfl, rfl⟩ := Prod.mk.inj h
    exact .unformed hform
  · cases answer with
    | error failure =>
        obtain ⟨rfl, rfl⟩ := Prod.mk.inj h
        exact .unanswered hform hcounted hdelivers
    | ok response =>
        dsimp only at h
        rw [Action.perform_bind, readToken_perform] at h
        cases hanswer : Token.ofAnswer response before.credential.config.logPii world.now with
        | error failure =>
            rw [hanswer] at h
            obtain ⟨rfl, rfl⟩ := Prod.mk.inj h
            exact .refused hform hdelivers hanswer
        | ok token =>
            rw [hanswer] at h
            obtain ⟨rfl, rfl⟩ := Prod.mk.inj h
            exact .granted hform hdelivers hanswer

/-- The cached token if it is good for some minutes more. -/
def goodToken? (context : Context) : Except Failure (Option Token) :=
  match context.cached? with
  | none => .ok none
  | some token =>
      match context.world.instant with
      | .error failure => .error failure
      | .ok now =>
          (token.isExpiredWithin (.whole Token.refreshBuffer) now).map fun stale =>
            if stale then none else some token

/-- The token that is at hand when one is wanted. -/
def usable? (context : Context) : Except Failure (Option Token) :=
  match context.credential.config.force with
  | .never => context.goodToken?
  | _ => .ok none

/-- The context in which the grant is run when no token is at hand: one that will redeem the cached
refresh token, or one that uses the cache the next time. -/
def prepared (context : Context) : Context :=
  match context.credential.config.force with
  | .never =>
      match context.cached? with
      | some token =>
          if token.refreshToken.isPresent && context.credential.supportsRefresh then
            { context with credential := context.credential.setRefreshToken token.refreshToken }
          else context
      | none => context
  | .once => { context with credential := context.credential.withForce .never }
  | .always => context

theorem fromCache_perform (context : Context) (hforce : context.credential.config.force = .never) :
    fromCache.perform context =
      match context.goodToken? with
      | .error failure => (.error failure, context)
      | .ok (some token) => (.ok token, context)
      | .ok none => getToken.perform context.prepared := by
  rw [fromCache, Action.perform_get_bind, goodToken?, prepared, hforce]
  cases context.cached? with
  | none => rfl
  | some token =>
      dsimp only
      rw [Action.perform_ofExcept_bind]
      cases context.world.instant with
      | error failure => rfl
      | ok now =>
          dsimp only
          rw [Action.perform_ofExcept_bind]
          cases token.isExpiredWithin (.whole Token.refreshBuffer) now with
          | error failure => rfl
          | ok stale =>
              cases stale with
              | false => rfl
              | true =>
                  cases token.refreshToken.isPresent && context.credential.supportsRefresh <;> rfl

/-- A token at hand is the answer; without one the grant is run. -/
theorem getTokenSilent_perform (context : Context) :
    getTokenSilent.perform context =
      match context.usable? with
      | .error failure => (.error failure, context)
      | .ok (some token) => (.ok token, context)
      | .ok none => getToken.perform context.prepared := by
  rw [getTokenSilent, Action.perform_get_bind, usable?]
  cases hforce : context.credential.config.force with
  | never => exact context.fromCache_perform hforce
  | once =>
      rw [prepared, hforce]
      rfl
  | always =>
      rw [prepared, hforce]

/-- Whether a silent acquisition yields a token at hand, fails while it looks for one, or runs the
grant. -/
theorem getTokenSilent_cases {before after : Context} {outcome : Except Failure Token}
    (h : getTokenSilent.perform before = (outcome, after)) :
    (∃ failure, before.usable? = .error failure ∧ outcome = .error failure ∧ after = before) ∨
    (∃ token, before.usable? = .ok (some token) ∧ outcome = .ok token ∧ after = before) ∨
    (before.usable? = .ok none ∧ before.prepared.Asks outcome after) := by
  rw [getTokenSilent_perform] at h
  split at h
  next failure heq =>
    obtain ⟨rfl, rfl⟩ := Prod.mk.inj h
    exact .inl ⟨failure, heq, rfl, rfl⟩
  next token heq =>
    obtain ⟨rfl, rfl⟩ := Prod.mk.inj h
    exact .inr (.inl ⟨token, heq, rfl, rfl⟩)
  next heq => exact .inr (.inr ⟨heq, getToken_asks h⟩)

end Context

end OAuthClient
