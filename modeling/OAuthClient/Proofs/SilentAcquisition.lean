import OAuthClient.Proofs.CredentialRuns

/-! # Silent acquisition

When a token is wanted silently, either the cached one is at hand and nothing
else happens, or the grant is run once. This holds wherever a run of a
credential has led; what a run changes is what it holds and caches, and that the
cache is not bypassed again once it was to be bypassed one time.
-/

namespace OAuthClient

namespace Token

/-- Whether a token is good for some minutes after an instant. -/
def IsGoodAt (token : Token) (now : Instant) : Prop :=
  now.micros < token.expiresOn.micros - refreshBuffer * Instant.perSecond

/-- Whether a token expires at a date that is not within some minutes of the first one. -/
def ExpiresInRange (token : Token) : Prop :=
  Instant.first.micros ≤ token.expiresOn.micros - refreshBuffer * Instant.perSecond ∧
    token.expiresOn.micros ≤ Instant.last.micros

instance (token : Token) (now : Instant) : Decidable (token.IsGoodAt now) :=
  inferInstanceAs (Decidable (_ < _))

instance (token : Token) : Decidable token.ExpiresInRange :=
  inferInstanceAs (Decidable (_ ∧ _))

variable {token : Token}

theorem isExpiredWithin_refreshBuffer (h : token.ExpiresInRange) (now : Instant) :
    ∃ stale, token.isExpiredWithin (.whole refreshBuffer) now = .ok stale ∧
      (stale = false ↔ token.IsGoodAt now) := by
  obtain ⟨hfirst, hlast⟩ := h
  have hpositive : 0 ≤ refreshBuffer * Instant.perSecond := by decide
  have hvalid : (Instant.mk (token.expiresOn.micros + -(refreshBuffer * Instant.perSecond))).isValid
      = true := by
    simp only [Instant.isValid, Bool.and_eq_true, decide_eq_true_eq]
    exact ⟨by omega, by omega⟩
  refine ⟨decide (token.expiresOn.micros + -(refreshBuffer * Instant.perSecond) ≤ now.micros),
    ?_, ?_⟩
  · rw [isExpiredWithin, Instant.minus, Instant.microsOf]
    simp only [bind, Except.bind, Instant.plusMicros, hvalid, if_true, Except.map]
  · rw [decide_eq_false_iff_not, IsGoodAt]
    omega

end Token

namespace Context

variable {context before after : Context} {outcome : Except Failure Token}

/-- Whether the cache may be used and holds a token that is good for some minutes. -/
def HasAtHand (context : Context) (token : Token) : Prop :=
  context.credential.config.force = .never ∧ context.cached? = some token ∧
    ∃ now, context.world.instant = .ok now ∧ token.IsGoodAt now

/-- Whether it cannot be told if the cached token is good, because the clock shows no date. -/
def LacksDate (context : Context) (failure : Failure) : Prop :=
  context.credential.config.force = .never ∧ context.cached?.isSome = true ∧
    context.world.instant = .error failure

/-- Whether a run of the grant redeems a refresh token: the cache may be used and holds it, and the
credential is of a kind that can redeem it. -/
def Redeems (context : Context) (token : String) : Prop :=
  context.credential.config.force = .never ∧ context.credential.supportsRefresh = true ∧
    token.isEmpty = false ∧ ∃ cached, context.cached? = some cached ∧
      cached.refreshToken = .text token

/-- The grant has a form, and that is posted once. The request is sent again only while no answer
arrives. -/
structure PostsForm (before : Context) (fields : Credential.Fields)
    (outcome : Except Failure Token) (after : Context) : Prop where
  form : (before.prepared.credential.form.perform before.world).1 = .ok fields
  /-- All requests are the same. -/
  request : ∀ entry ∈ before.world.transcript after.world,
    entry.1 = before.prepared.credential.tokenRequest fields
  /-- A request after which another is sent did not arrive. -/
  repeated : ∀ entry ∈ (before.world.transcript after.world).dropLast,
    ∃ fault reason, entry.2.outcome = .error (.transport fault reason)
  sent : before.credential.client.IsCounted → before.world.transcript after.world ≠ []
  refresh : ∀ token, before.Redeems token →
    Assoc.get? "grant_type" fields = some "refresh_token" ∧
      Assoc.get? "refresh_token" fields = some token
  /-- A token is the one of the answer, with the refresh token of the credential if the answer has
  none. -/
  answer : ∀ token, outcome = .ok token → ∃ response answered,
    (before.world.transcript after.world).getLast? =
        some (before.prepared.credential.tokenRequest fields, .response response) ∧
      Token.ofAnswer response before.credential.config.logPii after.world.now = .ok answered ∧
      token = inheriting before.prepared.credential answered

/-- The grant is run once: either its form is posted, or there is none and nothing is sent. -/
inductive RunsGrant (before : Context) (outcome : Except Failure Token) (after : Context) : Prop
  | posted (fields : Credential.Fields) (h : before.PostsForm fields outcome after)
  /-- An input is not acceptable or the assertion cannot be signed. -/
  | unformed (failure : Failure)
      (form : (before.prepared.credential.form.perform before.world).1 = .error failure)
      (failed : outcome = .error failure)
      (cause : failure.IsAuthorization ∨ SigningFails before.credential.grant.assertion?
        before.credential.config before.world failure)
      (silent : before.world.transcript after.world = [])

/-- What a silent acquisition does. -/
structure AcquiresSilently (before : Context) (outcome : Except Failure Token) (after : Context) :
    Prop where
  /-- There is a token without a request exactly when one is at hand. -/
  unasked : (∃ token, outcome = .ok token) ∧ before.world.transcript after.world = [] ↔
    ∃ token, before.HasAtHand token
  atHand : ∀ token, before.HasAtHand token → outcome = .ok token ∧ after = before
  undated : ∀ failure, before.LacksDate failure → outcome = .error failure ∧ after = before
  otherwise : (∀ token, ¬ before.HasAtHand token) → (∀ failure, ¬ before.LacksDate failure) →
    before.RunsGrant outcome after
  /-- Only a bypass for one time is used up. -/
  force : after.credential.config.force =
    if before.credential.config.force = .once then .never else before.credential.config.force
  /-- A token that is acquired is the one that is cached then. -/
  cached : ∀ token, outcome = .ok token → after.cached? = some token

/-! ### Looking for a token at hand -/

theorem usable?_of_ne_never (h : context.credential.config.force ≠ .never) :
    context.usable? = .ok none := by
  unfold usable?
  cases hforce : context.credential.config.force with
  | never => exact absurd hforce h
  | once => rfl
  | always => rfl

theorem goodToken?_of_cached {token : Token} {now : Instant}
    (hcached : context.cached? = some token) (hnow : context.world.instant = .ok now)
    (hexpiry : token.ExpiresInRange) :
    (token.IsGoodAt now ∧ context.goodToken? = .ok (some token)) ∨
      (¬ token.IsGoodAt now ∧ context.goodToken? = .ok none) := by
  obtain ⟨stale, hstale, hgood⟩ := Token.isExpiredWithin_refreshBuffer hexpiry now
  rw [goodToken?, hcached]
  dsimp only
  rw [hnow]
  dsimp only
  rw [hstale, ← hgood]
  cases stale with
  | false => exact .inl ⟨rfl, rfl⟩
  | true => exact .inr ⟨Bool.noConfusion, rfl⟩

/-- The cache yields a token that is at hand, fails where the clock shows no date, and yields
nothing otherwise. -/
theorem usable?_cases (hexpiry : ∀ token, context.cached? = some token → token.ExpiresInRange) :
    (∃ failure, context.usable? = .error failure ∧ context.LacksDate failure) ∨
    (∃ token, context.usable? = .ok (some token) ∧ context.HasAtHand token) ∨
    (context.usable? = .ok none ∧ (∀ token, ¬ context.HasAtHand token) ∧
      ∀ failure, ¬ context.LacksDate failure) := by
  by_cases hforce : context.credential.config.force = .never
  · have husable : context.usable? = context.goodToken? := by rw [usable?, hforce]
    rw [husable]
    cases hcached : context.cached? with
    | none =>
        refine .inr (.inr ⟨by rw [goodToken?, hcached], ?_, ?_⟩)
        · intro token hhand
          rw [hhand.2.1] at hcached
          cases hcached
        · intro failure hlacks
          have hsome := hlacks.2.1
          rw [hcached] at hsome
          exact Bool.noConfusion hsome
    | some token =>
        cases hnow : context.world.instant with
        | error failure =>
            refine .inl ⟨failure, ?_, hforce, by rw [hcached]; rfl, hnow⟩
            rw [goodToken?, hcached]
            dsimp only
            rw [hnow]
        | ok now =>
            rcases goodToken?_of_cached hcached hnow (hexpiry token hcached) with
              ⟨hgood, heq⟩ | ⟨hstale, heq⟩
            · exact .inr (.inl ⟨token, heq, hforce, hcached, now, hnow, hgood⟩)
            · refine .inr (.inr ⟨heq, ?_, ?_⟩)
              · rintro other ⟨_, hother, time, htime, hgood⟩
                obtain rfl := Option.some.inj (hcached.symm.trans hother)
                obtain rfl := Except.ok.inj (hnow.symm.trans htime)
                exact hstale hgood
              · intro failure hlacks
                cases hnow.symm.trans hlacks.2.2
  · exact .inr (.inr ⟨usable?_of_ne_never hforce, fun token h => hforce h.1,
      fun failure h => hforce h.1⟩)

/-! ### Running the grant -/

/-- The credential redeems the cached refresh token if it is to. -/
theorem Redeems.prepared {token : String} (h : context.Redeems token) :
    context.prepared.credential.refreshToken = .text token := by
  obtain ⟨hforce, hsupports, hne, cached, hcached, htoken⟩ := h
  have hpresent : cached.refreshToken.isPresent = true := by
    rw [htoken, Value.isPresent_text, hne]
    rfl
  rw [Context.prepared, hforce]
  dsimp only
  rw [hcached]
  dsimp only
  rw [hpresent, hsupports]
  exact htoken

theorem Redeems.form {token : String} {fields : Credential.Fields} (h : context.Redeems token)
    (hform : (context.prepared.credential.form.perform context.world).1 = .ok fields) :
    Assoc.get? "grant_type" fields = some "refresh_token" ∧
      Assoc.get? "refresh_token" fields = some token := by
  have hsupports : context.prepared.credential.supportsRefresh = true :=
    (sameUse_prepared context).supportsRefresh.trans h.2.1
  obtain ⟨map, proof, hmap, hrefresh⟩ :=
    Credential.form_of_refreshToken hsupports h.prepared h.2.2.1 hform
  exact Credential.get?_refreshForm hmap hrefresh

theorem postsForm_of_delivers {fields : Credential.Fields} {attempts : Nat}
    {delivered : Except Failure Response}
    (hform : (before.prepared.credential.form.perform before.world).1 = .ok fields)
    (hcounted : before.credential.client.IsCounted → 0 < attempts)
    (hdelivers : before.world.Delivers after.world
      (before.prepared.credential.tokenRequest fields) attempts delivered)
    (hanswer : ∀ token, outcome = .ok token → ∃ response answered, delivered = .ok response ∧
      Token.ofAnswer response before.credential.config.logPii after.world.now = .ok answered ∧
      token = inheriting before.prepared.credential answered) :
    before.PostsForm fields outcome after where
  form := hform
  request entry hentry := hdelivers.fst_of_mem_transcript hentry
  repeated entry hentry := by
    rw [hdelivers.transcript_eq, ← List.map_dropLast, List.mem_map] at hentry
    obtain ⟨index, hindex, rfl⟩ := hentry
    exact hdelivers.repeated_of_mem hindex
  sent hclient := by
    have hpos := hcounted hclient
    rw [hdelivers.transcript_eq]
    intro hnil
    have hlength := congrArg List.length hnil
    rw [List.length_map, List.length_range, List.length_nil] at hlength
    omega
  refresh token hredeems := hredeems.form hform
  answer token htoken := by
    obtain ⟨response, answered, rfl, hanswered, hkept⟩ := hanswer token htoken
    obtain ⟨hpos, hreply⟩ := (hdelivers.answered response).mp rfl
    refine ⟨response, answered, ?_, hanswered, hkept⟩
    rw [hdelivers.getLast?_transcript hpos, hreply]

theorem Asks.runsGrant (h : before.prepared.Asks outcome after) (htexts : before.IsTextual) :
    before.RunsGrant outcome after := by
  have huse := sameUse_prepared before
  have hworld := prepared_world before
  cases h with
  | unformed hform =>
      rename_i failure world
      rw [hworld] at hform
      refine .unformed failure (by rw [hform]) rfl ?_ ?_
      · have hcause := Credential.form_error htexts.prepared.credential (by rw [hform])
        rw [huse.assertion?, huse.config] at hcause
        exact hcause
      · exact (before.prepared.credential.form_isOffline.sends hform).transcript_eq
  | unanswered hform hcounted hdelivers =>
      rw [hworld] at hform hdelivers
      rw [huse.client] at hcounted
      exact .posted _
        (postsForm_of_delivers hform hcounted hdelivers (by rintro _ ⟨⟩))
  | refused hform hdelivers hanswer =>
      rw [hworld] at hform hdelivers
      exact .posted _ (postsForm_of_delivers hform (fun _ => ((hdelivers.answered _).mp rfl).1)
        hdelivers (by rintro _ ⟨⟩))
  | granted hform hdelivers hanswer =>
      rw [hworld] at hform hdelivers
      rw [huse.logPii] at hanswer
      refine .posted _ (postsForm_of_delivers hform (fun _ => ((hdelivers.answered _).mp rfl).1)
        hdelivers fun token htoken => ?_)
      exact ⟨_, _, rfl, hanswer, (Except.ok.inj htoken).symm⟩

/-- Running the grant yields a token only by a request. -/
theorem Asks.transcript_ne_nil {token : Token} (h : before.Asks (.ok token) after) :
    before.world.transcript after.world ≠ [] := by
  cases h with
  | granted hform hdelivers hanswer =>
      have hlast := hdelivers.getLast?_transcript ((hdelivers.answered _).mp rfl).1
      intro hnil
      cases (congrArg List.getLast? hnil).symm.trans hlast

theorem Asks.cached? {token : Token} (h : before.Asks (.ok token) after) :
    after.cached? = some token := by
  cases h with
  | granted => exact cached?_keep _ _

theorem renewed_force (credential : Credential) (token : Token) :
    (renewed credential token).config.force = credential.config.force := by
  unfold renewed
  split <;> rfl

theorem Asks.force (h : before.Asks outcome after) :
    after.credential.config.force = before.credential.config.force := by
  cases h with
  | granted => exact renewed_force _ _
  | _ => rfl

theorem prepared_force (context : Context) :
    context.prepared.credential.config.force =
      if context.credential.config.force = .once then .never
      else context.credential.config.force := by
  rcases context.prepared_cases with
    ⟨hforce, heq⟩ | ⟨cached, hforce, _, _, heq⟩ | ⟨hforce, heq⟩ <;> rw [heq]
  · rw [if_neg hforce]
  · rw [if_neg (by rw [hforce]; decide)]
    rfl
  · rw [if_pos hforce]
    rfl

/-! ### The whole acquisition -/

theorem HasAtHand.not_lacksDate {token : Token} (h : context.HasAtHand token) (failure : Failure) :
    ¬ context.LacksDate failure := by
  obtain ⟨_, _, now, hnow, _⟩ := h
  intro hlacks
  cases hnow.symm.trans hlacks.2.2

theorem HasAtHand.acquiresSilently {token : Token} (h : context.HasAtHand token) :
    context.AcquiresSilently (.ok token) context where
  unasked := ⟨fun _ => ⟨token, h⟩, fun _ => ⟨⟨token, rfl⟩, World.transcript_self _⟩⟩
  atHand other hother := by
    obtain rfl := Option.some.inj (h.2.1.symm.trans hother.2.1)
    exact ⟨rfl, rfl⟩
  undated failure hlacks := absurd hlacks (h.not_lacksDate failure)
  otherwise hhand _ := absurd h (hhand token)
  force := by rw [if_neg (by rw [h.1]; decide)]
  cached other hother := by
    obtain rfl := Except.ok.inj hother
    exact h.2.1

theorem LacksDate.acquiresSilently {failure : Failure} (h : context.LacksDate failure) :
    context.AcquiresSilently (.error failure) context where
  unasked := by
    constructor
    · rintro ⟨⟨token, htoken⟩, _⟩
      cases htoken
    · rintro ⟨token, hhand⟩
      exact absurd h (hhand.not_lacksDate failure)
  atHand token hhand := absurd h (hhand.not_lacksDate failure)
  undated other hother := by
    obtain rfl := Except.error.inj (h.2.2.symm.trans hother.2.2)
    exact ⟨rfl, rfl⟩
  otherwise _ hlacks := absurd h (hlacks failure)
  force := by rw [if_neg (by rw [h.1]; decide)]
  cached := by rintro _ ⟨⟩

theorem Asks.acquiresSilently (h : before.prepared.Asks outcome after) (htexts : before.IsTextual)
    (hhand : ∀ token, ¬ before.HasAtHand token) (hlacks : ∀ failure, ¬ before.LacksDate failure) :
    before.AcquiresSilently outcome after where
  unasked := by
    constructor
    · rintro ⟨⟨token, rfl⟩, hsilent⟩
      rw [← prepared_world before] at hsilent
      exact absurd hsilent h.transcript_ne_nil
    · rintro ⟨token, htoken⟩
      exact absurd htoken (hhand token)
  atHand token htoken := absurd htoken (hhand token)
  undated failure hfailure := absurd hfailure (hlacks failure)
  otherwise _ _ := h.runsGrant htexts
  force := by rw [h.force, prepared_force]
  cached token htoken := by
    subst htoken
    exact h.cached?

/-- A silent acquisition by a credential whose inputs are texts. -/
theorem getTokenSilent_acquiresSilently (htexts : context.IsTextual)
    (hexpiry : ∀ token, context.cached? = some token → token.ExpiresInRange)
    (h : getTokenSilent.perform context = (outcome, after)) :
    context.AcquiresSilently outcome after := by
  rw [getTokenSilent_perform] at h
  rcases usable?_cases hexpiry with
    ⟨failure, heq, hlacks⟩ | ⟨token, heq, hhand⟩ | ⟨heq, hhand, hlacks⟩
  · rw [heq] at h
    obtain ⟨rfl, rfl⟩ := Prod.mk.inj h
    exact hlacks.acquiresSilently
  · rw [heq] at h
    obtain ⟨rfl, rfl⟩ := Prod.mk.inj h
    exact hhand.acquiresSilently
  · rw [heq] at h
    exact (getToken_asks h).acquiresSilently htexts hhand hlacks

theorem getTokenSilent_force (context : Context) :
    (getTokenSilent.perform context).2.credential.config.force =
      if context.credential.config.force = .once then .never
      else context.credential.config.force := by
  rcases h : getTokenSilent.perform context with ⟨outcome, after⟩
  rcases getTokenSilent_cases h with ⟨_, heq, _, rfl⟩ | ⟨_, heq, _, rfl⟩ | ⟨_, hasks⟩
  · rw [if_neg]
    intro hforce
    rw [usable?_of_ne_never (by rw [hforce]; decide)] at heq
    cases heq
  · rw [if_neg]
    intro hforce
    rw [usable?_of_ne_never (by rw [hforce]; decide)] at heq
    cases heq
  · rw [hasks.force, prepared_force]

/-- In a run of silent acquisitions a bypass for one time lasts until the first of them, and every
other setting stays. -/
theorem run_force {steps : List CredentialStep} (hsteps : ∀ step ∈ steps, step.isSilent = true)
    (context : Context) :
    (context.run steps).credential.config.force =
      if context.credential.config.force = .once ∧ steps.any CredentialStep.isAcquire = true
      then .never else context.credential.config.force := by
  induction steps generalizing context with
  | nil => simp
  | cons step steps ih =>
      rw [run_cons, ih fun other hother => hsteps other (List.mem_cons_of_mem _ hother)]
      cases step with
      | acquire =>
          have hforce := getTokenSilent_force context
          rw [CredentialStep.apply, hforce]
          by_cases honce : context.credential.config.force = .once
          · simp [honce, CredentialStep.isAcquire]
          · simp [honce]
      | wait seconds => rfl
      | obtain => cases hsteps _ List.mem_cons_self
      | clear => cases hsteps _ List.mem_cons_self
      | force setting => cases hsteps _ List.mem_cons_self

/-- Wherever a run of silent acquisitions has led, the next one yields the token at hand without
asking for it, or runs the grant once. -/
theorem silent_acquisition_after_run (start : Context) (steps : List CredentialStep)
    (hsteps : ∀ step ∈ steps, step.isSilent = true) (htexts : start.IsTextual)
    (hexpiry : ∀ token, (start.run steps).cached? = some token → token.ExpiresInRange) :
    ((start.run steps).credential.config.force =
      if start.credential.config.force = .once ∧ steps.any CredentialStep.isAcquire = true
      then .never else start.credential.config.force) ∧
    (start.run steps).AcquiresSilently (getTokenSilent.perform (start.run steps)).1
      (getTokenSilent.perform (start.run steps)).2 :=
  ⟨run_force hsteps start, getTokenSilent_acquiresSilently (htexts.run steps) hexpiry rfl⟩

/-- An application that is tried out. -/
def trialConfig : AppConfig where
  clientId := "client"
  tenant := .text "contoso"
  authority := ⟨"contoso"⟩
  cloud := .worldwide
  scope := []
  redirectUri := .null
  extraQuery := []
  extraHeaders := []
  force := .never
  logPii := false

/-- A trial of a grant at some time with a cached token. -/
def trial (grant : Grant) (seconds : Int) (cached : Token) : Context where
  credential := { config := trialConfig, client := .standard, grant }
  cache := ⟨[(trialConfig.cacheId, cached)]⟩
  world := {
    start := .whole seconds, now := .whole seconds, entropy := ⟨fun _ => 0, 0⟩, replies := [] }

/-- A token that expires an hour after the beginning of 1970. -/
def trialToken : Token where
  accessToken := .text "access"
  expiresIn := .int 3600
  timestamp := ⟨0⟩
  expiresOn := ⟨3600000000⟩

/-- The grant of an application with a secret. -/
def trialGrant : Grant := .clientCredentials (some (.secret (.text "secret") false))

theorem trialGrant_isTextual : trialGrant.IsTextual := .inr ⟨_, rfl⟩

theorem cached?_trial (grant : Grant) (seconds : Int) (cached : Token) :
    (trial grant seconds cached).cached? = some cached :=
  Assoc.get?_put_self trialConfig.cacheId cached []

theorem trial_isTextual {grant : Grant} (hgrant : grant.IsTextual) (seconds : Int) :
    (trial grant seconds trialToken).IsTextual := by
  refine ⟨⟨hgrant, .inl rfl⟩, ?_, by rintro _ ⟨⟩⟩
  intro token htoken hpresent
  rw [cached?_trial] at htoken
  obtain rfl := Option.some.inj htoken
  cases hpresent

theorem expiresInRange_of_cached {context : Context} (h : context.cached? = some trialToken) :
    ∀ token, context.cached? = some token → token.ExpiresInRange := by
  intro token htoken
  obtain rfl := Option.some.inj (h.symm.trans htoken)
  decide

theorem trial_yields_cached :
    (getTokenSilent.perform ((trial trialGrant 0 trialToken).run [.wait (.int 60), .acquire])).1 =
      .ok trialToken := by
  have h := silent_acquisition_after_run (trial trialGrant 0 trialToken)
    [.wait (.int 60), .acquire] (by decide) (trial_isTextual trialGrant_isTextual 0)
    (expiresInRange_of_cached rfl)
  exact (h.2.atHand trialToken ⟨rfl, rfl, ⟨60000000⟩, rfl, by decide⟩).1

/-- The grant of an application with a certificate, whose claims name an issuer that is no text. -/
def unsignableGrant : Grant :=
  .clientCredentials (some (.assertion (some (.certificate
    { certificate := ⟨[], []⟩, key := ⟨1, 1, 1⟩, claims := [("iss", .int 5)] }))))

theorem unsignableGrant_isTextual : unsignableGrant.IsTextual := trivial

/-- Whether a silent acquisition fails without a request and for another reason than an input of the
grant that is not acceptable, though no token is at hand. -/
structure FailsUnasked (context : Context) : Prop where
  texts : context.IsTextual
  expiry : ∀ token, context.cached? = some token → token.ExpiresInRange
  noToken : ∀ token, ¬ context.HasAtHand token
  silent : context.world.transcript (getTokenSilent.perform context).2.world = []
  failed : ∃ failure, (getTokenSilent.perform context).1 = .error failure ∧
    ¬ failure.IsAuthorization

/-- An assertion that cannot be signed keeps the grant from being run. -/
theorem unsignable_assertion_fails_unasked :
    (trial unsignableGrant 3600 trialToken).FailsUnasked := by
  refine ⟨trial_isTextual unsignableGrant_isTextual 3600, expiresInRange_of_cached rfl, ?_, rfl,
    .wrongKind, rfl, by rintro ⟨_, _, ⟨⟩⟩⟩
  rintro token ⟨_, hcached, now, hnow, hgood⟩
  obtain rfl := Option.some.inj (show some trialToken = some token from hcached)
  obtain rfl := Except.ok.inj (show Except.ok (Instant.mk 3600000000) = Except.ok now from hnow)
  exact absurd hgood (by decide)

end Context

end OAuthClient
