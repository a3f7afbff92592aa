import OAuthClient.Proofs.SilentAcquisition

/-! # Rotation of refresh tokens

A refresh token is held in two places, the credential and the cached token, and
every acquisition may copy it from either to the other. Whatever fails in
between, the token that is redeemed is the one that was issued last: for a
credential with a cache of its own, whatever is done with it, and for any number
of credentials that share a cache, as long as they use it.
-/

namespace OAuthClient

theorem Assoc.get?_map {κ α β : Type} [DecidableEq κ] (f : α → β) (key : κ)
    (pairs : List (κ × α)) :
    get? key (pairs.map fun pair => (pair.1, f pair.2)) = (get? key pairs).map f := by
  induction pairs with
  | nil => rfl
  | cons pair rest ih =>
      obtain ⟨k, value⟩ := pair
      by_cases hkey : k = key <;> simp [get?, hkey, ih]

/-- Whether a value is a text that is not empty. -/
def Value.IsToken (value : Value) : Prop := ∃ s, value = .text s ∧ s.isEmpty = false

theorem Value.IsToken.isPresent {value : Value} (h : value.IsToken) : value.isPresent = true := by
  obtain ⟨s, rfl, hne⟩ := h
  rw [Value.isPresent_text, hne]
  rfl

theorem Value.IsTextIfPresent.isToken {value : Value} (h : value.IsTextIfPresent)
    (hpresent : value.isPresent = true) : value.IsToken := by
  obtain ⟨s, rfl⟩ := h hpresent
  refine ⟨s, rfl, ?_⟩
  rw [Value.isPresent_text] at hpresent
  cases hempty : s.isEmpty with
  | true =>
      rw [hempty] at hpresent
      exact Bool.noConfusion hpresent
  | false => rfl

namespace Request

/-- A field of the form that a request carries. -/
def field? (request : Request) (name : String) : Option Value :=
  match request.payload with
  | .form fields _ _ => Assoc.get? name fields
  | _ => none

/-- Whether a request redeems a refresh token. -/
def Redeems (request : Request) (token : Value) : Prop :=
  request.field? "grant_type" = some (.text "refresh_token") ∧
    request.field? "refresh_token" = some token

end Request

theorem Credential.field?_tokenRequest (credential : Credential) (fields : Fields)
    (name : String) :
    (credential.tokenRequest fields).field? name = (Assoc.get? name fields).map .text :=
  Assoc.get?_map Value.text name fields

/-- The refresh token that the service issued between two worlds, if it issued one: that of the last
answer, if this is a token. -/
def World.issued? (before after : World) (logPii : Bool) : Option Value :=
  match (before.transcript after).getLast? with
  | some (_, .response response) =>
      match Token.ofAnswer response logPii after.now with
      | .ok token => if token.refreshToken.isPresent then some token.refreshToken else none
      | .error _ => none
  | _ => none

namespace Context

variable {before after context : Context} {outcome : Except Failure Token}
  {known : Option Value}

/-- The refresh token that the service issued between two states, if it issued one. -/
def issued? (before after : Context) : Option Value :=
  before.world.issued? after.world before.credential.config.logPii

theorem issued?_of_silent (h : before.world.transcript after.world = []) :
    before.issued? after = none := by
  rw [issued?, World.issued?, h]
  rfl

theorem issued?_prepared (before after : Context) :
    before.prepared.issued? after = before.issued? after := by
  rw [issued?, issued?, prepared_world, (sameUse_prepared before).logPii]

/-- A run of the grant that ends with a token keeps it, and any other changes nothing and is no
issue of a refresh token. -/
theorem Asks.issued?_cases (h : before.Asks outcome after)
    (htexts : ∀ reply ∈ before.world.replies, reply.IssuesText) :
    (before.issued? after = none ∧ after.credential = before.credential ∧
      after.cache = before.cache) ∨
    ∃ token world, token.refreshToken.IsTextIfPresent ∧ after = keep { before with world } token ∧
      before.issued? after =
        if token.refreshToken.isPresent then some token.refreshToken else none := by
  cases h with
  | unformed hform =>
      have hsends := before.credential.form_isOffline.sends hform
      exact .inl ⟨issued?_of_silent hsends.transcript_eq, rfl, rfl⟩
  | unanswered hform hcounted hdelivers =>
      rename_i attempts failure world
      refine .inl ⟨?_, rfl, rfl⟩
      by_cases hpos : 0 < attempts
      · rw [issued?, World.issued?, hdelivers.getLast?_transcript hpos]
        cases hreply : before.world.replyAt (attempts - 1) with
        | response response => cases (hdelivers.answered response).mpr ⟨hpos, hreply⟩
        | fault fault reason => rfl
        | stop cause => rfl
      · obtain rfl := Nat.eq_zero_of_not_pos hpos
        exact issued?_of_silent hdelivers.transcript_eq
  | refused hform hdelivers hanswer =>
      rename_i world failure
      obtain ⟨hpos, hreply⟩ := (hdelivers.answered _).mp rfl
      refine .inl ⟨?_, rfl, rfl⟩
      rw [issued?, World.issued?, hdelivers.getLast?_transcript hpos, hreply]
      dsimp only
      rw [hanswer]
  | granted hform hdelivers hanswer =>
      rename_i world token
      obtain ⟨hpos, hreply⟩ := (hdelivers.answered _).mp rfl
      refine .inr ⟨token, world, hdelivers.issuesText htexts hanswer, rfl, ?_⟩
      change before.world.issued? world before.credential.config.logPii = _
      rw [World.issued?, hdelivers.getLast?_transcript hpos, hreply]
      dsimp only
      rw [hanswer]

/-- Every request of a run of the grant carries the form of the credential. -/
theorem Asks.requests (h : before.Asks outcome after) {entry : Request × Reply}
    (hentry : entry ∈ before.world.transcript after.world) :
    ∃ fields, (before.credential.form.perform before.world).1 = .ok fields ∧
      entry.1 = before.credential.tokenRequest fields := by
  cases h with
  | unformed hform =>
      have hsends := before.credential.form_isOffline.sends hform
      exact absurd hentry (hsends.not_mem_transcript entry)
  | unanswered hform hcounted hdelivers =>
      exact ⟨_, hform, hdelivers.fst_of_mem_transcript hentry⟩
  | refused hform hdelivers hanswer =>
      exact ⟨_, hform, hdelivers.fst_of_mem_transcript hentry⟩
  | granted hform hdelivers hanswer =>
      exact ⟨_, hform, hdelivers.fst_of_mem_transcript hentry⟩

/-- A credential that holds a refresh token sends that. -/
theorem Asks.redeems (h : before.Asks outcome after)
    (hsupports : before.credential.supportsRefresh = true) {token : Value} (htoken : token.IsToken)
    (hheld : before.credential.refreshToken = token) {entry : Request × Reply}
    (hentry : entry ∈ before.world.transcript after.world) : entry.1.Redeems token := by
  obtain ⟨s, rfl, hne⟩ := htoken
  obtain ⟨fields, hform, hrequest⟩ := h.requests hentry
  obtain ⟨map, proof, hmap, hrefresh⟩ := Credential.form_of_refreshToken hsupports hheld hne hform
  obtain ⟨hkind, hfield⟩ := Credential.get?_refreshForm hmap hrefresh
  rw [hrequest, Request.Redeems, Credential.field?_tokenRequest, Credential.field?_tokenRequest,
    hkind, hfield]
  exact ⟨rfl, rfl⟩

/-! ### Both places -/

/-- Whether the credential holds a refresh token, and so does every cached token. -/
structure Carries (context : Context) (token : Value) : Prop where
  isToken : token.IsToken
  held : context.credential.refreshToken = token
  cached : ∀ kept, context.cached? = some kept → kept.refreshToken = token

theorem Carries.of_eq {token : Value} (h : before.Carries token)
    (hheld : after.credential.refreshToken = before.credential.refreshToken)
    (hcached : after.cached? = before.cached?) : after.Carries token :=
  ⟨h.isToken, hheld.trans h.held, fun kept hkept => h.cached kept (hcached.symm.trans hkept)⟩

theorem cached?_eq_of_cache_eq (hcredential : before.credential.SameUse after.credential)
    (hcache : after.cache = before.cache) : after.cached? = before.cached? := by
  rw [cached?, cached?, hcache, hcredential.cacheId]

/-- A refresh token that is issued is kept in both places. -/
theorem keep_carries_issued (context : Context)
    (hsupports : context.credential.supportsRefresh = true) {token : Token}
    (htoken : token.refreshToken.IsToken) :
    (context.keep token).Carries token.refreshToken := by
  have hrefresh : (token.refreshToken.isPresent && context.credential.supportsRefresh) = true := by
    rw [htoken.isPresent, hsupports]
    rfl
  refine ⟨htoken, ?_, ?_⟩
  · change (renewed context.credential token).refreshToken = _
    rw [renewed, if_pos hrefresh]
    rfl
  · intro kept hkept
    rw [cached?_keep, inheriting, if_pos hrefresh] at hkept
    obtain rfl := Option.some.inj hkept
    rfl

/-- Where none is issued, the cached token inherits that of the credential. -/
theorem keep_carries_held (context : Context) {token : Token} {held : Value} (hheld : held.IsToken)
    (hcredential : context.credential.refreshToken = held)
    (hnone : token.refreshToken.isPresent = false) : (context.keep token).Carries held := by
  have hrefresh : (token.refreshToken.isPresent && context.credential.supportsRefresh) = false := by
    rw [hnone]
    rfl
  refine ⟨hheld, ?_, ?_⟩
  · change (renewed context.credential token).refreshToken = _
    rw [renewed, hrefresh]
    exact hcredential
  · intro kept hkept
    rw [cached?_keep, inheriting, hrefresh, hcredential, hheld.isPresent, hnone] at hkept
    obtain rfl := Option.some.inj hkept
    rfl

/-- Running the grant keeps the last refresh token in both places, whether it is the known one or
newly issued. -/
theorem Asks.carries (h : before.Asks outcome after)
    (hsupports : before.credential.supportsRefresh = true)
    (htexts : ∀ reply ∈ before.world.replies, reply.IssuesText)
    (hknown : ∀ token, known = some token → before.Carries token) :
    ∀ token, (before.issued? after).or known = some token → after.Carries token := by
  intro last hlast
  rcases h.issued?_cases htexts with ⟨hnone, hcredential, hcache⟩ |
    ⟨token, world, htext, rfl, hissued⟩
  · rw [hnone, Option.none_or] at hlast
    exact (hknown last hlast).of_eq (by rw [hcredential])
      (cached?_eq_of_cache_eq h.sameUse hcache)
  · cases hpresent : token.refreshToken.isPresent with
    | true =>
        rw [hissued, hpresent, if_pos rfl, Option.some_or] at hlast
        obtain rfl := Option.some.inj hlast
        exact keep_carries_issued { before with world } hsupports (htext.isToken hpresent)
    | false =>
        rw [hissued, hpresent, if_neg Bool.false_ne_true, Option.none_or] at hlast
        have hcarries := hknown last hlast
        exact keep_carries_held { before with world } hcarries.isToken hcarries.held hpresent

/-- A run of the grant leaves a token in the cache unless it issued none. -/
theorem Asks.cached?_cases (h : before.Asks outcome after)
    (htexts : ∀ reply ∈ before.world.replies, reply.IssuesText) :
    (before.issued? after = none ∧ after.cached? = before.cached?) ∨
      ∃ kept, after.cached? = some kept := by
  rcases h.issued?_cases htexts with ⟨hnone, _, hcache⟩ | ⟨token, world, _, rfl, _⟩
  · exact .inl ⟨hnone, cached?_eq_of_cache_eq h.sameUse hcache⟩
  · exact .inr ⟨_, cached?_keep _ _⟩

theorem Carries.prepared {token : Value} (h : context.Carries token) :
    context.prepared.Carries token := by
  refine ⟨h.isToken, ?_, ?_⟩
  · rcases context.prepared_cases with ⟨_, heq⟩ | ⟨cached, _, hcached, _, heq⟩ | ⟨_, heq⟩ <;>
      rw [heq]
    · exact h.held
    · exact h.cached cached hcached
    · exact h.held
  · rw [cached?_eq_of_cache_eq (sameUse_prepared context) (prepared_cache context)]
    exact h.cached

/-! ### A credential with a cache of its own -/

/-- A silent acquisition sends nothing and changes nothing, or prepares the credential and runs the
grant. -/
theorem getTokenSilent_same_or_asks (h : getTokenSilent.perform before = (outcome, after)) :
    after = before ∨ before.prepared.Asks outcome after := by
  rcases getTokenSilent_cases h with ⟨_, _, _, rfl⟩ | ⟨_, _, _, rfl⟩ | ⟨_, hasks⟩
  · exact .inl rfl
  · exact .inl rfl
  · exact .inr hasks

theorem carries_of_silent (hsilent : before.world.transcript after.world = [])
    (hkeeps : ∀ token, before.Carries token → after.Carries token)
    (hknown : ∀ token, known = some token → before.Carries token) :
    ∀ token, (before.issued? after).or known = some token → after.Carries token := by
  intro token htoken
  rw [issued?_of_silent hsilent, Option.none_or] at htoken
  exact hkeeps token (hknown token htoken)

/-- Every step keeps the last refresh token in both places. -/
theorem apply_carries (hsupports : context.credential.supportsRefresh = true)
    (htexts : ∀ reply ∈ context.world.replies, reply.IssuesText) (step : CredentialStep)
    (hknown : ∀ token, known = some token → context.Carries token) :
    ∀ token, (context.issued? (step.apply context)).or known = some token →
      (step.apply context).Carries token := by
  cases step with
  | acquire =>
      rw [CredentialStep.apply]
      rcases h : getTokenSilent.perform context with ⟨outcome, after⟩
      rcases getTokenSilent_same_or_asks h with rfl | hasks
      · exact carries_of_silent (World.transcript_self _) (fun _ hcarries => hcarries) hknown
      · rw [← issued?_prepared]
        rw [← prepared_world] at htexts
        exact hasks.carries ((sameUse_prepared context).supportsRefresh.trans hsupports) htexts
          fun token htoken => (hknown token htoken).prepared
  | obtain => exact (getToken_asks rfl).carries hsupports htexts hknown
  | clear =>
      -- The cached token is gone, and the credential still holds the refresh token.
      refine carries_of_silent (World.transcript_self _) (fun token hcarries => ?_) hknown
      refine ⟨hcarries.isToken, hcarries.held, fun kept hkept => ?_⟩
      cases (TokenCache.get?_evict_self _ _).symm.trans hkept
  | force setting =>
      exact carries_of_silent (World.transcript_self _) (fun _ h => h.of_eq rfl rfl) hknown
  | wait seconds =>
      exact carries_of_silent (World.advance_sends seconds context.world).transcript_eq
        (fun _ h => h.of_eq rfl rfl) hknown

/-- Every request of a step redeems the last refresh token. -/
theorem apply_redeems (hsupports : context.credential.supportsRefresh = true) {token : Value}
    (hcarries : context.Carries token) (step : CredentialStep) {entry : Request × Reply}
    (hentry : entry ∈ context.world.transcript (step.apply context).world) :
    entry.1.Redeems token := by
  cases step with
  | acquire =>
      rw [CredentialStep.apply] at hentry
      rcases h : getTokenSilent.perform context with ⟨outcome, after⟩
      rw [h] at hentry
      rcases getTokenSilent_same_or_asks h with rfl | hasks
      · exact absurd hentry (World.not_mem_transcript_self _ entry)
      · rw [← prepared_world] at hentry
        exact hasks.redeems ((sameUse_prepared context).supportsRefresh.trans hsupports)
          hcarries.isToken hcarries.prepared.held hentry
  | obtain => exact (getToken_asks rfl).redeems hsupports hcarries.isToken hcarries.held hentry
  | clear => exact absurd hentry (World.not_mem_transcript_self _ entry)
  | force setting => exact absurd hentry (World.not_mem_transcript_self _ entry)
  | wait seconds =>
      exact absurd hentry ((World.advance_sends seconds context.world).not_mem_transcript entry)

theorem Asks.sends (h : before.Asks outcome after) :
    ∃ requests, before.world.Sends after.world requests := by
  cases h with
  | unformed hform => exact ⟨[], before.credential.form_isOffline.sends hform⟩
  | unanswered hform hcounted hdelivers => exact ⟨_, hdelivers.sends⟩
  | refused hform hdelivers hanswer => exact ⟨_, hdelivers.sends⟩
  | granted hform hdelivers hanswer => exact ⟨_, hdelivers.sends⟩

theorem getTokenSilent_sends (h : getTokenSilent.perform before = (outcome, after)) :
    ∃ requests, before.world.Sends after.world requests := by
  rcases getTokenSilent_same_or_asks h with rfl | hasks
  · exact ⟨[], World.Sends.refl _⟩
  · rw [← prepared_world]
    exact hasks.sends

theorem apply_sends (step : CredentialStep) (context : Context) :
    ∃ requests, context.world.Sends (step.apply context).world requests := by
  cases step with
  | acquire => exact getTokenSilent_sends rfl
  | obtain => exact (getToken_asks rfl).sends
  | clear => exact ⟨[], World.Sends.refl _⟩
  | force setting => exact ⟨[], World.Sends.refl _⟩
  | wait seconds => exact ⟨[], World.advance_sends seconds context.world⟩

/-- The refresh token that was issued last, when one is known before some steps. -/
def latest? (known : Option Value) (context : Context) : List CredentialStep → Option Value
  | [] => known
  | step :: steps =>
      latest? ((context.issued? (step.apply context)).or known) (step.apply context) steps

/-- A run keeps the last refresh token in both places. -/
theorem run_carries {steps : List CredentialStep}
    (hsupports : context.credential.supportsRefresh = true)
    (htexts : ∀ reply ∈ context.world.replies, reply.IssuesText)
    (hknown : ∀ token, known = some token → context.Carries token) {token : Value}
    (hlatest : latest? known context steps = some token) : (context.run steps).Carries token := by
  induction steps generalizing context known with
  | nil => exact hknown token hlatest
  | cons step steps ih =>
      -- The induction is on the steps with the known token free: every step may issue a new one.
      obtain ⟨requests, hsends⟩ := apply_sends step context
      rw [run_cons]
      refine ih ((apply_sameUse step context).supportsRefresh.trans hsupports) ?_
        (apply_carries hsupports htexts step hknown) hlatest
      exact fun reply hreply => htexts reply (hsends.mem_replies hreply)

end Context

/-! ### Credentials that share a cache -/

/-- Credentials that use one cache in one world. -/
structure CredentialPool (ι : Type) where
  credential : ι → Credential
  cache : TokenCache Token
  world : World

/-- What is done in a pool. -/
inductive PoolStep (ι : Type) where
  /-- One of the credentials acquires a token silently. -/
  | acquire (member : ι)
  /-- Some seconds pass. -/
  | wait (seconds : Value)

namespace CredentialPool

variable {ι : Type} {pool : CredentialPool ι} {key : String}
  {known : Option Value}

/-- What one of the credentials works on. -/
def context (pool : CredentialPool ι) (member : ι) : Context where
  credential := pool.credential member
  cache := pool.cache
  world := pool.world

/-- Whether all credentials can redeem refresh tokens, use the cache and find their token under one
key. -/
structure Shares (pool : CredentialPool ι) (key : String) : Prop where
  supportsRefresh : ∀ member, (pool.credential member).supportsRefresh = true
  force : ∀ member, (pool.credential member).config.force = .never
  cacheId : ∀ member, (pool.credential member).config.cacheId = key

/-- Whether a refresh token is cached under a key. -/
def Caches (pool : CredentialPool ι) (key : String) (token : Value) : Prop :=
  token.IsToken ∧ ∃ kept, pool.cache.get? key = some kept ∧ kept.refreshToken = token

theorem Shares.cached?_context (h : pool.Shares key) (member : ι) :
    (pool.context member).cached? = pool.cache.get? key := by
  rw [← h.cacheId member]
  rfl

/-- A credential of the pool that runs its grant holds the cached refresh token. -/
theorem Caches.prepared {token : Value} (h : pool.Caches key token) (hshares : pool.Shares key)
    (member : ι) : (pool.context member).prepared.Carries token := by
  obtain ⟨htoken, kept, hkept, rfl⟩ := h
  have hcached := (hshares.cached?_context member).trans hkept
  have hforce : (pool.context member).credential.config.force = .never := hshares.force member
  have hrefresh : (kept.refreshToken.isPresent &&
      (pool.context member).credential.supportsRefresh) = true := by
    rw [htoken.isPresent]
    exact hshares.supportsRefresh member
  refine ⟨htoken, ?_, ?_⟩
  · rw [Context.prepared, hforce]
    dsimp only
    rw [hcached]
    dsimp only
    rw [if_pos hrefresh]
    rfl
  · intro other hother
    rw [Context.cached?_eq_of_cache_eq (Context.sameUse_prepared _) (Context.prepared_cache _),
      hcached] at hother
    obtain rfl := Option.some.inj hother
    rfl

variable [DecidableEq ι]

/-- The pool once one of its credentials has done something. -/
def withContext (pool : CredentialPool ι) (member : ι) (context : Context) : CredentialPool ι where
  credential other := if other = member then context.credential else pool.credential other
  cache := context.cache
  world := context.world

/-- The pool after a step, whether it succeeds or not. -/
def after (pool : CredentialPool ι) : PoolStep ι → CredentialPool ι
  | .acquire member =>
      pool.withContext member (Context.getTokenSilent.perform (pool.context member)).2
  | .wait seconds => { pool with world := ((World.advance seconds).perform pool.world).2 }

/-- The refresh token that the service issues in a step, if it issues one. -/
def issued? (pool : CredentialPool ι) : PoolStep ι → Option Value
  | .acquire member =>
      (pool.context member).issued? (Context.getTokenSilent.perform (pool.context member)).2
  | .wait _ => none

/-- The pool after some steps. -/
def run (pool : CredentialPool ι) (steps : List (PoolStep ι)) : CredentialPool ι :=
  steps.foldl after pool

/-- The refresh token that was issued last, when one is known before some steps. -/
def latest? (known : Option Value) (pool : CredentialPool ι) :
    List (PoolStep ι) → Option Value
  | [] => known
  | step :: steps => latest? ((pool.issued? step).or known) (pool.after step) steps

theorem Shares.after (h : pool.Shares key) (step : PoolStep ι) : (pool.after step).Shares key := by
  cases step with
  | acquire member =>
      have huse : (pool.context member).credential.SameUse
          (Context.getTokenSilent.perform (pool.context member)).2.credential :=
        Context.getTokenSilent_sameUse rfl
      have hforce := Context.getTokenSilent_force (pool.context member)
      rw [show (pool.context member).credential.config.force = .never from h.force member,
        if_neg (by decide)] at hforce
      refine ⟨?_, ?_, ?_⟩ <;> intro other <;>
        rw [CredentialPool.after, withContext] <;> dsimp only <;> split
      · exact huse.supportsRefresh.trans (h.supportsRefresh member)
      · exact h.supportsRefresh other
      · exact hforce
      · exact h.force other
      · exact huse.cacheId.trans (h.cacheId member)
      · exact h.cacheId other
  | wait seconds => exact ⟨h.supportsRefresh, h.force, h.cacheId⟩

/-- Every step keeps the last refresh token in the cache. -/
theorem after_caches (hshares : pool.Shares key)
    (htexts : ∀ reply ∈ pool.world.replies, reply.IssuesText) (step : PoolStep ι)
    (hknown : ∀ token, known = some token → pool.Caches key token) :
    ∀ token, (pool.issued? step).or known = some token → (pool.after step).Caches key token := by
  cases step with
  | acquire member =>
      rw [issued?, CredentialPool.after]
      rcases h : Context.getTokenSilent.perform (pool.context member) with ⟨outcome, after⟩
      have hkey : after.cached? = after.cache.get? key := by
        rw [Context.cached?, (Context.getTokenSilent_sameUse h).cacheId]
        exact congrArg after.cache.get? (hshares.cacheId member)
      rcases Context.getTokenSilent_same_or_asks h with rfl | hasks
      · dsimp only
        rw [Context.issued?_of_silent (World.transcript_self _), Option.none_or]
        exact hknown
      · dsimp only
        intro token htoken
        rw [← Context.issued?_prepared] at htoken
        have hreplies : ∀ reply ∈ (pool.context member).prepared.world.replies,
            reply.IssuesText := by
          rw [Context.prepared_world]
          exact htexts
        have hsupports := (Context.sameUse_prepared (pool.context member)).supportsRefresh.trans
          (hshares.supportsRefresh member)
        have hcarries := hasks.carries hsupports hreplies
          (fun token htoken => (hknown token htoken).prepared hshares member) token htoken
        refine ⟨hcarries.isToken, ?_⟩
        -- Where nothing is issued, the key may keep the entry that it had.
        rcases hasks.cached?_cases hreplies with ⟨hnone, hcached⟩ | ⟨kept, hkept⟩
        · rw [hnone, Option.none_or] at htoken
          obtain ⟨_, kept, hkept, hrefresh⟩ := hknown token htoken
          refine ⟨kept, ?_, hrefresh⟩
          change after.cache.get? key = some kept
          rw [← hkey, hcached, Context.cached?_eq_of_cache_eq (Context.sameUse_prepared _)
            (Context.prepared_cache _), hshares.cached?_context member, hkept]
        · exact ⟨kept, hkey.symm.trans hkept, hcarries.cached kept hkept⟩
  | wait seconds =>
      rw [issued?, Option.none_or]
      exact hknown

/-- Every request of a step redeems the last refresh token. -/
theorem after_redeems (hshares : pool.Shares key) {token : Value} (hcaches : pool.Caches key token)
    (step : PoolStep ι) {entry : Request × Reply}
    (hentry : entry ∈ pool.world.transcript (pool.after step).world) : entry.1.Redeems token := by
  cases step with
  | acquire member =>
      rw [CredentialPool.after] at hentry
      rcases h : Context.getTokenSilent.perform (pool.context member) with ⟨outcome, after⟩
      rw [h] at hentry
      rcases Context.getTokenSilent_same_or_asks h with rfl | hasks
      · exact absurd hentry (World.not_mem_transcript_self _ entry)
      · have hcarries := hcaches.prepared hshares member
        have hsupports := (Context.sameUse_prepared (pool.context member)).supportsRefresh.trans
          (hshares.supportsRefresh member)
        refine hasks.redeems hsupports hcarries.isToken hcarries.held ?_
        rw [Context.prepared_world]
        exact hentry
  | wait seconds =>
      have hsends := World.advance_sends seconds pool.world
      exact absurd hentry (hsends.not_mem_transcript entry)

theorem after_sends (pool : CredentialPool ι) (step : PoolStep ι) :
    ∃ requests, pool.world.Sends (pool.after step).world requests := by
  cases step with
  | acquire member =>
      have hsends : ∃ requests, (pool.context member).world.Sends
          (Context.getTokenSilent.perform (pool.context member)).2.world requests :=
        Context.getTokenSilent_sends rfl
      exact hsends
  | wait seconds => exact ⟨[], World.advance_sends seconds pool.world⟩

/-- A run keeps the last refresh token in the cache. -/
theorem run_caches {steps : List (PoolStep ι)} (hshares : pool.Shares key)
    (htexts : ∀ reply ∈ pool.world.replies, reply.IssuesText)
    (hknown : ∀ token, known = some token → pool.Caches key token) {token : Value}
    (hlatest : latest? known pool steps = some token) :
    (pool.run steps).Shares key ∧ (pool.run steps).Caches key token := by
  induction steps generalizing pool known with
  | nil => exact ⟨hshares, hknown token hlatest⟩
  | cons step steps ih =>
      obtain ⟨requests, hsends⟩ := after_sends pool step
      refine ih (hshares.after step) ?_ (after_caches hshares htexts step hknown) hlatest
      exact fun reply hreply => htexts reply (hsends.mem_replies hreply)

end CredentialPool

/-- Once a refresh token was issued, the last one issued is what every further request redeems and
what is cached: in every run of credentials that share a cache and use it, and in every run of one
credential with a cache of its own. A run goes call by call: each call is one step that ends before
the next one begins, so that what several credentials do is ordered, but not interleaved within a
call. -/
theorem refresh_rotation {ι : Type} [DecidableEq ι] :
    (∀ (pool : CredentialPool ι) (key : String) (steps : List (PoolStep ι)) (token : Value),
      pool.Shares key → (∀ reply ∈ pool.world.replies, reply.IssuesText) →
      CredentialPool.latest? none pool steps = some token →
        (∃ kept, (pool.run steps).cache.get? key = some kept ∧ kept.refreshToken = token) ∧
        ∀ step, ∀ entry ∈ (pool.run steps).world.transcript ((pool.run steps).after step).world,
          entry.1.Redeems token) ∧
    ∀ (start : Context) (steps : List CredentialStep) (token : Value),
      start.credential.supportsRefresh = true →
      (∀ reply ∈ start.world.replies, reply.IssuesText) →
      Context.latest? none start steps = some token →
        (∀ kept, (start.run steps).cached? = some kept → kept.refreshToken = token) ∧
        ∀ step : CredentialStep, ∀ entry ∈ (start.run steps).world.transcript
          (step.apply (start.run steps)).world, entry.1.Redeems token := by
  constructor
  · intro pool key steps token hshares htexts hlatest
    obtain ⟨hshared, hcaches⟩ :=
      CredentialPool.run_caches hshares htexts (by rintro _ ⟨⟩) hlatest
    exact ⟨hcaches.2, fun step entry => CredentialPool.after_redeems hshared hcaches step⟩
  · intro start steps token hsupports htexts hlatest
    have hcarries := Context.run_carries hsupports htexts (by rintro _ ⟨⟩) hlatest
    have hrun := (Context.run_sameUse steps start).supportsRefresh.trans hsupports
    exact ⟨hcarries.cached, fun step entry => Context.apply_redeems hrun hcarries step⟩

/-- A trial of a password at the beginning of 1970, where the first of two tokens has a refresh
token. -/
def Context.rotationTrial : Context where
  credential := (trial (.password (.text "user") (.text "word")) 0 trialToken).credential
  world := {
    start := .whole 0, now := .whole 0, entropy := ⟨fun _ => 0, 0⟩
    replies := [
      .response ⟨200, "\x7b\"access_token\":\"a\",\"refresh_token\":\"first\"\x7d"⟩,
      .response ⟨200, "\x7b\"access_token\":\"b\"\x7d"⟩] }

/-- Two credentials that share a cache. -/
def CredentialPool.rotationTrial : CredentialPool Bool where
  credential _ := Context.rotationTrial.credential
  cache := {}
  world := Context.rotationTrial.world

theorem rotationTrial_keeps_first :
    (∃ kept, (CredentialPool.rotationTrial.run
        [.acquire true, .wait (.int 3400), .acquire false]).cache.get?
          Context.trialConfig.cacheId = some kept ∧ kept.refreshToken = .text "first") ∧
      ∀ kept, (Context.rotationTrial.run
        [.obtain, .clear, .force .always, .acquire]).cached? = some kept →
          kept.refreshToken = .text "first" :=
  ⟨(refresh_rotation.1 CredentialPool.rotationTrial _
      [.acquire true, .wait (.int 3400), .acquire false] _
      ⟨fun _ => rfl, fun _ => rfl, fun _ => rfl⟩ (by decide +kernel)
      (Value.eq_some_text (by decide +kernel))).1,
    ((@refresh_rotation Bool _).2 Context.rotationTrial
      [.obtain, .clear, .force .always, .acquire] _ rfl (by decide +kernel)
      (Value.eq_some_text (by decide +kernel))).1⟩

end OAuthClient
