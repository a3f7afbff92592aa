import OAuthClient.Proofs.SilentAcquisition

/-! # What a failed acquisition leaves behind

A silent acquisition that fails has stored nothing. Two things were done before
its outcome was known and are not taken back: a bypass of the cache for one time
is used up, and the refresh token of a cached token that is about to expire has
taken the place of the code in the credential.
-/

namespace OAuthClient.Context

variable {before after context : Context} {token : Value} {failure : Failure}

/-- Whether a silent acquisition takes a refresh token over from the cache before it runs the grant:
the cache may be used, the cached token is about to expire, and its refresh token can be
redeemed. -/
def TakesOver (context : Context) (token : Value) : Prop :=
  context.credential.config.force = .never ∧ context.credential.supportsRefresh = true ∧
    token.isPresent = true ∧ ∃ cached now, context.cached? = some cached ∧
      cached.refreshToken = token ∧ context.world.instant = .ok now ∧
        cached.isExpiredWithin (.whole Token.refreshBuffer) now = .ok true

/-- What a failed acquisition leaves behind: the cache as it was, and the credential as it was but
for the bypass that it used up or the refresh token that it took over. -/
structure FailsLeaving (before after : Context) : Prop where
  cache : after.cache = before.cache
  always : before.credential.config.force = .always → after.credential = before.credential
  once : before.credential.config.force = .once →
    after.credential = before.credential.withForce .never
  /-- After a bypass was used up, the cached token counts again. -/
  next : before.credential.config.force = .once → ∀ token, token.ExpiresInRange →
    after.cached? = some token →
      (∃ now, after.world.instant = .ok now ∧ token.IsGoodAt now) →
        getTokenSilent.perform after = (.ok token, after)
  takesOver : ∀ token, before.TakesOver token →
    after.credential = before.credential.setRefreshToken token
  keeps : before.credential.config.force = .never → (∀ token, ¬ before.TakesOver token) →
    after.credential = before.credential

/-- A run of the grant that fails changes neither the credential nor the cache. -/
theorem Asks.credential_of_error (h : before.Asks (.error failure) after) :
    after.credential = before.credential := by
  cases h <;> rfl

theorem Asks.cache_of_error (h : before.Asks (.error failure) after) :
    after.cache = before.cache := by
  cases h <;> rfl

/-- Only a cache that may be used is looked into. -/
theorem force_of_usable?_error (h : context.usable? = .error failure) :
    context.credential.config.force = .never := by
  apply Decidable.byContradiction
  intro hne
  rw [usable?_of_ne_never hne] at h
  cases h

/-- A refresh token is taken over only where no token is at hand. -/
theorem TakesOver.usable? (h : context.TakesOver token) : context.usable? = .ok none := by
  obtain ⟨hforce, _, _, cached, now, hcached, _, hnow, hstale⟩ := h
  simp [Context.usable?, goodToken?, hforce, hcached, hnow, hstale, Except.map]

theorem TakesOver.prepared (h : context.TakesOver token) :
    context.prepared.credential = context.credential.setRefreshToken token := by
  obtain ⟨hforce, hsupports, hpresent, cached, now, hcached, hrefresh, _, _⟩ := h
  subst hrefresh
  simp [Context.prepared, hforce, hcached, hpresent, hsupports]

/-- A cached token whose refresh token is taken over is one that is about to expire. -/
theorem takesOver_of_usable? (hforce : context.credential.config.force = .never)
    (husable : context.usable? = .ok none) (hsupports : context.credential.supportsRefresh = true)
    {cached : Token} (hcached : context.cached? = some cached)
    (hpresent : cached.refreshToken.isPresent = true) :
    context.TakesOver cached.refreshToken := by
  simp only [Context.usable?, goodToken?, hforce, hcached] at husable
  split at husable
  next cause hcause => cases husable
  next now hnow =>
    cases hstale : cached.isExpiredWithin (.whole Token.refreshBuffer) now with
    | error cause =>
        rw [hstale] at husable
        cases husable
    | ok stale =>
        rw [hstale] at husable
        cases stale with
        | false => cases husable
        | true => exact ⟨hforce, hsupports, hpresent, cached, now, hcached, rfl, hnow, hstale⟩

theorem prepared_of_not_takesOver (hforce : context.credential.config.force = .never)
    (husable : context.usable? = .ok none) (hnone : ∀ token, ¬ context.TakesOver token) :
    context.prepared = context := by
  unfold Context.prepared
  rw [hforce]
  dsimp only
  split
  next cached hcached =>
    split
    next hrefresh =>
      rw [Bool.and_eq_true] at hrefresh
      exact absurd (takesOver_of_usable? hforce husable hrefresh.2 hcached hrefresh.1) (hnone _)
    next => rfl
  next => rfl

theorem prepared_of_once (h : context.credential.config.force = .once) :
    context.prepared.credential = context.credential.withForce .never := by
  rw [Context.prepared, h]

theorem prepared_of_always (h : context.credential.config.force = .always) :
    context.prepared = context := by
  rw [Context.prepared, h]

/-- A token that is cached and good is yielded without a request. -/
theorem getTokenSilent_of_good {token : Token} {now : Instant}
    (hforce : context.credential.config.force = .never) (hexpiry : token.ExpiresInRange)
    (hcached : context.cached? = some token) (hnow : context.world.instant = .ok now)
    (hgood : token.IsGoodAt now) : getTokenSilent.perform context = (.ok token, context) := by
  have husable : context.usable? = .ok (some token) := by
    rcases goodToken?_of_cached hcached hnow hexpiry with ⟨_, heq⟩ | ⟨hstale, _⟩
    · rw [usable?, hforce]
      exact heq
    · exact absurd hgood hstale
  rw [getTokenSilent_perform, husable]

/-- A silent acquisition that fails, for whatever reason, stores nothing and changes the credential
in these two ways only. -/
theorem failed_acquisition_leaves (h : getTokenSilent.perform before = (.error failure, after)) :
    before.FailsLeaving after := by
  rcases getTokenSilent_cases h with
    ⟨cause, husable, _, rfl⟩ | ⟨_, _, houtcome, _⟩ | ⟨husable, hasks⟩
  · -- Nothing was done when the look into the cache failed.
    have hforce := force_of_usable?_error husable
    refine ⟨rfl, fun _ => rfl, ?_, ?_, ?_, fun _ _ => rfl⟩
    · intro honce
      rw [hforce] at honce
      cases honce
    · intro honce
      rw [hforce] at honce
      cases honce
    · intro token htakes
      rw [htakes.usable?] at husable
      cases husable
  · cases houtcome
  · have hcredential := hasks.credential_of_error
    have hcache := hasks.cache_of_error
    rw [prepared_cache] at hcache
    refine ⟨hcache, ?_, ?_, ?_, ?_, ?_⟩
    · intro halways
      rw [hcredential, prepared_of_always halways]
    · intro honce
      rw [hcredential, prepared_of_once honce]
    · rintro honce token hexpiry hcached ⟨now, hnow, hgood⟩
      refine getTokenSilent_of_good ?_ hexpiry hcached hnow hgood
      rw [hcredential, prepared_of_once honce]
      rfl
    · intro token htakes
      rw [hcredential, htakes.prepared]
    · intro hforce hnone
      rw [hcredential, prepared_of_not_takesOver hforce husable hnone]

/-- A trial of a code where the cached token is about to expire and nobody answers. -/
def codeTrial : Context :=
  trial (.authorizationCode false (.text "code") .null (.secret (.text "secret") false)) 3590
    (trialToken.withRefreshToken (.text "refresh"))

/-- A trial of a secret where the cache is to be bypassed once and nobody answers. -/
def bypassTrial : Context :=
  { trial trialGrant 0 trialToken with
    credential := (trial trialGrant 0 trialToken).credential.withForce .once }

theorem codeTrial_takesOver : codeTrial.TakesOver (.text "refresh") :=
  ⟨rfl, rfl, rfl, _, ⟨3590000000⟩, rfl, rfl, rfl, rfl⟩

theorem codeTrial_leaves_refresh_token :
    (getTokenSilent.perform codeTrial).1.isOk = false ∧
      (getTokenSilent.perform codeTrial).2.credential =
        codeTrial.credential.setRefreshToken (.text "refresh") := by
  have hfails : (getTokenSilent.perform codeTrial).1.isOk = false := by decide +kernel
  obtain ⟨failure, hperform⟩ := Action.exists_error hfails
  exact ⟨hfails, (failed_acquisition_leaves hperform).takesOver _ codeTrial_takesOver⟩

/-- Whether an acquisition that fails would leave everything as it was. -/
def KeepsAllOnFailure (context : Context) : Prop :=
  ∀ failure after, getTokenSilent.perform context = (.error failure, after) →
    after.credential.config.force = context.credential.config.force ∧
      after.cache = context.cache ∧ after.credential.grant = context.credential.grant ∧
        after.credential.refreshToken = context.credential.refreshToken

/-- A bypass is used up and a code is lost, though the acquisition fails. -/
theorem failure_uses_up_bypass_and_code :
    ¬ bypassTrial.KeepsAllOnFailure ∧ ¬ codeTrial.KeepsAllOnFailure := by
  constructor
  · intro hkeeps
    have hfails : (getTokenSilent.perform bypassTrial).1.isOk = false := by decide +kernel
    obtain ⟨failure, hperform⟩ := Action.exists_error hfails
    have hforce : (getTokenSilent.perform bypassTrial).2.credential.config.force = .never := by
      decide +kernel
    rw [(hkeeps _ _ hperform).1] at hforce
    cases hforce
  · intro hkeeps
    have hfails : (getTokenSilent.perform codeTrial).1.isOk = false := by decide +kernel
    obtain ⟨failure, hperform⟩ := Action.exists_error hfails
    have hcode : ((getTokenSilent.perform codeTrial).2.credential.grant.authorizationCode?.bind
        Value.text?) = none := by decide +kernel
    rw [(hkeeps _ _ hperform).2.2.1] at hcode
    cases hcode

end OAuthClient.Context
