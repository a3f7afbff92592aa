import OAuthClient.Proofs.TokenReading

/-! # Runs of a credential

What can be done with a credential between two looks at it, and what every run
keeps: the application, the kind of its grant and how requests are sent. Where
the service issues texts only, a run never puts anything else into the
credential or the cache.
-/

namespace OAuthClient

/-- What is done with a credential, or happens to the clock. -/
inductive CredentialStep where
  /-- A token is wanted, from the cache if it has a good one. -/
  | acquire
  /-- A token is obtained by the grant. -/
  | obtain
  /-- The cached token is removed. -/
  | clear
  /-- The setting for bypassing the cache is changed. -/
  | force (setting : ForceRefresh)
  /-- Some seconds pass. -/
  | wait (seconds : Value)

namespace CredentialStep

/-- Whether a token is wanted silently. -/
def isAcquire : CredentialStep → Bool
  | .acquire => true
  | _ => false

/-- Whether a step belongs to a run of silent acquisitions. -/
def isSilent : CredentialStep → Bool
  | .acquire | .wait _ => true
  | _ => false

/-- The context after a step, whether it succeeds or not. -/
def apply (step : CredentialStep) (context : Context) : Context :=
  match step with
  | .acquire => (Context.getTokenSilent.perform context).2
  | .obtain => (Context.getToken.perform context).2
  | .clear => (Context.clearCache.perform context).2
  | .force setting =>
      ((Context.setCredential (·.withForce setting)).perform context).2
  | .wait seconds => ((Context.inWorld (World.advance seconds)).perform context).2

end CredentialStep

namespace Credential

/-- Two states of one credential: they differ at most in the codes and tokens that they hold and in
whether the cache is bypassed. -/
structure SameUse (first second : Credential) : Prop where
  config : second.config = { first.config with force := second.config.force }
  client : second.client = first.client
  supportsRefresh : second.supportsRefresh = first.supportsRefresh
  assertion? : second.grant.assertion? = first.grant.assertion?

namespace SameUse

variable {first second third : Credential}

theorem refl (credential : Credential) : credential.SameUse credential := ⟨rfl, rfl, rfl, rfl⟩

theorem trans (h : first.SameUse second) (h' : second.SameUse third) : first.SameUse third := by
  refine ⟨?_, h'.client.trans h.client, h'.supportsRefresh.trans h.supportsRefresh,
    h'.assertion?.trans h.assertion?⟩
  have hconfig := h'.config
  rw [h.config] at hconfig
  exact hconfig

theorem cacheId (h : first.SameUse second) : second.config.cacheId = first.config.cacheId := by
  rw [h.config]
  rfl

theorem logPii (h : first.SameUse second) : second.config.logPii = first.config.logPii := by
  rw [h.config]

end SameUse

theorem sameUse_setRefreshToken (credential : Credential) (token : Value) :
    credential.SameUse (credential.setRefreshToken token) := by
  refine ⟨rfl, rfl, ?_, ?_⟩
  · unfold supportsRefresh setRefreshToken
    cases credential.grant <;> rfl
  · unfold setRefreshToken
    cases credential.grant <;> rfl

theorem sameUse_withForce (credential : Credential) (force : ForceRefresh) :
    credential.SameUse (credential.withForce force) := ⟨rfl, rfl, rfl, rfl⟩

end Credential

namespace Context

variable {before after : Context} {outcome : Except Failure Token}

/-- The context after some steps. -/
def run (context : Context) (steps : List CredentialStep) : Context :=
  steps.foldl (fun context step => step.apply context) context

@[simp] theorem run_nil (context : Context) : context.run [] = context := rfl

@[simp] theorem run_cons (context : Context) (step : CredentialStep)
    (steps : List CredentialStep) : context.run (step :: steps) = (step.apply context).run steps :=
  rfl

/-- What holds of a context and is kept by every step of a run holds after the run. -/
theorem run_invariant (invariant : Context → Prop) {steps : List CredentialStep}
    (hstep : ∀ context, invariant context → ∀ step ∈ steps, invariant (step.apply context))
    {context : Context} (hcontext : invariant context) : invariant (context.run steps) := by
  induction steps generalizing context with
  | nil => exact hcontext
  | cons step steps ih =>
      exact ih (fun context hcontext step hstep' =>
        hstep context hcontext step (List.mem_cons_of_mem _ hstep'))
        (hstep context hcontext step List.mem_cons_self)

/-! ### What a run keeps of the credential -/

/-- What is prepared before the grant is run: nothing, the cached refresh token, or the use of the
cache the next time. -/
theorem prepared_cases (context : Context) :
    (context.credential.config.force ≠ .once ∧ context.prepared = context) ∨
    (∃ cached, context.credential.config.force = .never ∧ context.cached? = some cached ∧
      cached.refreshToken.isPresent = true ∧ context.prepared =
        { context with credential := context.credential.setRefreshToken cached.refreshToken }) ∨
    (context.credential.config.force = .once ∧ context.prepared =
      { context with credential := context.credential.withForce .never }) := by
  unfold prepared
  cases hforce : context.credential.config.force with
  | never =>
      dsimp only
      split
      next cached hcached =>
        split
        next hrefresh =>
          rw [Bool.and_eq_true] at hrefresh
          exact .inr (.inl ⟨cached, rfl, hcached, hrefresh.1, rfl⟩)
        next => exact .inl ⟨by decide, rfl⟩
      next => exact .inl ⟨by decide, rfl⟩
  | once => exact .inr (.inr ⟨rfl, rfl⟩)
  | always => exact .inl ⟨by decide, rfl⟩

theorem sameUse_prepared (context : Context) :
    context.credential.SameUse context.prepared.credential := by
  rcases context.prepared_cases with ⟨_, heq⟩ | ⟨cached, _, _, _, heq⟩ | ⟨_, heq⟩ <;> rw [heq]
  · exact Credential.SameUse.refl _
  · exact Credential.sameUse_setRefreshToken _ _
  · exact Credential.sameUse_withForce _ _

@[simp] theorem prepared_cache (context : Context) : context.prepared.cache = context.cache := by
  rcases context.prepared_cases with ⟨_, heq⟩ | ⟨cached, _, _, _, heq⟩ | ⟨_, heq⟩ <;> rw [heq]

@[simp] theorem prepared_world (context : Context) : context.prepared.world = context.world := by
  rcases context.prepared_cases with ⟨_, heq⟩ | ⟨cached, _, _, _, heq⟩ | ⟨_, heq⟩ <;> rw [heq]

theorem sameUse_keep (context : Context) (token : Token) :
    context.credential.SameUse (context.keep token).credential := by
  unfold keep renewed
  dsimp only
  split
  · exact Credential.sameUse_setRefreshToken _ _
  · exact Credential.SameUse.refl _

theorem Asks.sameUse (h : before.Asks outcome after) :
    before.credential.SameUse after.credential := by
  cases h with
  | granted => exact sameUse_keep _ _
  | _ => exact Credential.SameUse.refl _

theorem getTokenSilent_sameUse (h : getTokenSilent.perform before = (outcome, after)) :
    before.credential.SameUse after.credential := by
  rcases getTokenSilent_cases h with ⟨_, _, _, rfl⟩ | ⟨_, _, _, rfl⟩ | ⟨_, hasks⟩
  · exact Credential.SameUse.refl _
  · exact Credential.SameUse.refl _
  · exact (sameUse_prepared before).trans hasks.sameUse

theorem apply_sameUse (step : CredentialStep) (context : Context) :
    context.credential.SameUse (step.apply context).credential := by
  cases step with
  | acquire => exact getTokenSilent_sameUse rfl
  | obtain => exact (getToken_asks rfl).sameUse
  | clear => exact Credential.SameUse.refl _
  | force setting => exact Credential.sameUse_withForce _ _
  | wait seconds => exact Credential.SameUse.refl _

theorem run_sameUse (steps : List CredentialStep) (context : Context) :
    context.credential.SameUse (context.run steps).credential :=
  run_invariant (fun reached => context.credential.SameUse reached.credential)
    (fun reached h step _ => h.trans (apply_sameUse step reached)) (Credential.SameUse.refl _)

end Context

/-! ### Texts only -/

namespace Token

variable {logPii : Bool} {clock : Number} {token : Token}

/-- A token comes from an object with an access token, and has the refresh token of that. -/
theorem ofResponse_ok {body : Value} (h : Token.ofResponse body logPii clock = .ok token) :
    ∃ members, body = .object members ∧
      token.refreshToken = Value.member members "refresh_token" := by
  cases body with
  | object members =>
      obtain ⟨-, _, _, _, _, _, -, -, -, -, -, rfl⟩ := ofResponse_object_eq_ok_iff.mp h
      exact ⟨members, rfl, rfl⟩
  | _ => cases h

theorem ofAnswer_ok {response : Response} (h : Token.ofAnswer response logPii clock = .ok token) :
    ∃ members, response.json = .ok (.object members) ∧
      token.refreshToken = Value.member members "refresh_token" := by
  unfold ofAnswer at h
  dsimp only at h
  split at h
  next hok =>
    split at h
    next body hbody =>
      obtain ⟨members, rfl, hrefresh⟩ := ofResponse_ok h
      exact ⟨members, hbody, hrefresh⟩
    next => cases h
  next =>
    obtain ⟨_, _, h⟩ := Failure.of_bind_ok h
    cases h

end Token

theorem Value.eq_some_text {value? : Option Value} {s : String}
    (h : value?.bind Value.text? = some s) : value? = some (.text s) := by
  obtain ⟨value, rfl, hvalue⟩ := Option.bind_eq_some_iff.mp h
  cases value <;> simp_all [Value.text?]

/-- Whether a value is a text if it counts as present. -/
def Value.IsTextIfPresent (value : Value) : Prop := value.isPresent = true → ∃ s, value = .text s

theorem Value.isTextIfPresent_iff (value : Value) :
    value.IsTextIfPresent ↔ (!value.isPresent || value.text?.isSome) = true := by
  cases hpresent : value.isPresent with
  | false => simp [IsTextIfPresent, hpresent]
  | true =>
      rw [IsTextIfPresent, hpresent]
      cases value <;> simp [Value.text?]

instance (value : Value) : Decidable value.IsTextIfPresent :=
  decidable_of_iff _ value.isTextIfPresent_iff.symm

/-- The refresh token in a reply, or null if the answer is an object without one. -/
def Reply.refreshToken? : Reply → Option Value
  | .response answer =>
      (answer.json.toOption.bind Value.members?).map (Value.member · "refresh_token")
  | _ => none

/-- Whether the refresh token in a reply is a text, if there is one. -/
def Reply.IssuesText (reply : Reply) : Prop :=
  ∀ token ∈ reply.refreshToken?, token.IsTextIfPresent

instance (reply : Reply) : Decidable reply.IssuesText :=
  inferInstanceAs (Decidable (∀ token ∈ reply.refreshToken?, token.IsTextIfPresent))

namespace World

theorem replyAt_eq_response {world : World} {index : Nat} {response : Response}
    (h : world.replyAt index = .response response) : Reply.response response ∈ world.replies := by
  unfold replyAt at h
  cases hget : world.replies[index]? with
  | none =>
      rw [hget] at h
      cases h
  | some reply =>
      rw [hget] at h
      obtain rfl : reply = .response response := h
      exact List.mem_of_getElem? hget

theorem Sends.mem_replies {before after : World} {requests : List Request}
    (h : before.Sends after requests) {reply : Reply} (hmem : reply ∈ after.replies) :
    reply ∈ before.replies := by
  rw [h.replies] at hmem
  exact List.mem_of_mem_drop hmem

end World

/-- A token that is granted where texts are issued has a text as its refresh token, if any. -/
theorem World.Delivers.issuesText {before after : World} {request : Request} {attempts : Nat}
    {response : Response} {logPii : Bool} {clock : Number} {token : Token}
    (h : before.Delivers after request attempts (.ok response))
    (htexts : ∀ reply ∈ before.replies, reply.IssuesText)
    (hanswer : Token.ofAnswer response logPii clock = .ok token) :
    token.refreshToken.IsTextIfPresent := by
  obtain ⟨members, hjson, hrefresh⟩ := Token.ofAnswer_ok hanswer
  obtain ⟨hpos, hreply⟩ := (h.answered _).mp rfl
  rw [hrefresh]
  apply htexts _ (replyAt_eq_response hreply)
  rw [Reply.refreshToken?, hjson]
  rfl

/-- Whether nothing but texts is held, cached or issued where a text is expected. -/
structure Context.IsTextual (context : Context) : Prop where
  credential : context.credential.IsTextual
  cached : ∀ token, context.cached? = some token → token.refreshToken.IsTextIfPresent
  replies : ∀ reply ∈ context.world.replies, reply.IssuesText

namespace Grant

theorem IsTextual.withoutCode {grant : Grant} (h : grant.IsTextual) :
    grant.withoutCode.IsTextual := by
  cases grant with
  | authorizationCode openId code verifier proof => exact ⟨.inl rfl, h.2⟩
  | deviceCode code => exact .inl rfl
  | _ => exact h

end Grant

namespace Context

variable {before after context : Context} {outcome : Except Failure Token}

theorem IsTextual.prepared (h : context.IsTextual) : context.prepared.IsTextual := by
  refine ⟨?_, ?_, ?_⟩
  · rcases context.prepared_cases with
      ⟨_, heq⟩ | ⟨cached, _, hcached, hpresent, heq⟩ | ⟨_, heq⟩ <;> rw [heq]
    · exact h.credential
    · obtain ⟨s, hs⟩ := h.cached cached hcached hpresent
      exact ⟨h.credential.grant.withoutCode, .inr ⟨s, hs⟩⟩
    · exact ⟨h.credential.grant, h.credential.refreshToken⟩
  · rw [cached?, prepared_cache, (sameUse_prepared context).cacheId]
    exact h.cached
  · rw [prepared_world]
    exact h.replies

theorem cached?_keep (context : Context) (token : Token) :
    (context.keep token).cached? = some (inheriting context.credential token) := by
  unfold cached?
  rw [(sameUse_keep context token).cacheId]
  exact TokenCache.get?_store_self _ _ _

/-- A token that was issued as a text is kept as one. -/
theorem IsTextual.keep (h : context.IsTextual) {token : Token}
    (htoken : token.refreshToken.IsTextIfPresent) : (context.keep token).IsTextual := by
  refine ⟨?_, ?_, h.replies⟩
  · unfold Context.keep renewed
    dsimp only
    split
    next hrefresh =>
      rw [Bool.and_eq_true] at hrefresh
      exact ⟨h.credential.grant.withoutCode, .inr (htoken hrefresh.1)⟩
    next => exact h.credential
  · intro kept hkept
    rw [cached?_keep] at hkept
    obtain rfl := Option.some.inj hkept
    unfold inheriting
    split
    · exact htoken
    · split
      · intro hpresent
        rcases h.credential.refreshToken with hnull | htext
        · rw [Token.withRefreshToken, hnull] at hpresent
          cases hpresent
        · exact htext
      · exact htoken

theorem IsTextual.inWorld (h : context.IsTextual) {world : World} {requests : List Request}
    (hsends : context.world.Sends world requests) : IsTextual { context with world } :=
  ⟨h.credential, h.cached, fun reply hreply => h.replies reply (hsends.mem_replies hreply)⟩

theorem Asks.isTextual (h : before.Asks outcome after) (htextual : before.IsTextual) :
    after.IsTextual := by
  cases h with
  | unformed hform =>
      exact htextual.inWorld (before.credential.form_isOffline.sends hform)
  | unanswered hform hcounted hdelivers => exact htextual.inWorld hdelivers.sends
  | refused hform hdelivers hanswer => exact htextual.inWorld hdelivers.sends
  | granted hform hdelivers hanswer =>
      exact (htextual.inWorld hdelivers.sends).keep
        (hdelivers.issuesText htextual.replies hanswer)

theorem getTokenSilent_isTextual (h : getTokenSilent.perform before = (outcome, after))
    (htextual : before.IsTextual) : after.IsTextual := by
  rcases getTokenSilent_cases h with ⟨_, _, _, rfl⟩ | ⟨_, _, _, rfl⟩ | ⟨_, hasks⟩
  · exact htextual
  · exact htextual
  · exact hasks.isTextual htextual.prepared

/-- A step keeps a context textual. -/
theorem IsTextual.apply (h : context.IsTextual) (step : CredentialStep) :
    (step.apply context).IsTextual := by
  cases step with
  | acquire => exact getTokenSilent_isTextual rfl h
  | obtain => exact (getToken_asks rfl).isTextual h
  | clear =>
      refine ⟨h.credential, ?_, h.replies⟩
      intro token htoken
      change (context.cache.evict context.credential.config.cacheId).get?
        context.credential.config.cacheId = some token at htoken
      rw [TokenCache.get?_evict_self] at htoken
      cases htoken
  | force setting => exact ⟨⟨h.credential.grant, h.credential.refreshToken⟩, h.cached, h.replies⟩
  | wait seconds => exact h.inWorld (World.advance_sends seconds context.world)

theorem IsTextual.run (h : context.IsTextual) (steps : List CredentialStep) :
    (context.run steps).IsTextual :=
  run_invariant IsTextual (fun _ hreached step _ => hreached.apply step) h

end Context

end OAuthClient
