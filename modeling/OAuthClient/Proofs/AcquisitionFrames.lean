import OAuthClient.Proofs.CacheKeys
import OAuthClient.Proofs.DevicePolling
import OAuthClient.Proofs.FailedAcquisition
import OAuthClient.Proofs.Retries

/-! # What an acquisition writes

Obtaining a token and asking for a device code write nothing before they cannot
fail any more. Whatever goes wrong, the cache and the credential are as they
were. A token that is obtained is stored under one key, and only a refresh token
that comes with it takes the place of what the credential held.
-/

namespace OAuthClient

theorem Grant.withoutCode_withoutCode (grant : Grant) :
    grant.withoutCode.withoutCode = grant.withoutCode := by
  cases grant <;> rfl

namespace Context

variable {before after : Context} {failure : Failure} {token : Token}

/-! ### Asking for a device code -/

/-- The request for a device code with a form. -/
def codeRequest (credential : Credential) (fields : Credential.Fields) : Action World Response :=
  credential.post "Device code request"
    (credential.config.cloud.deviceCodeEndpoint credential.config.authority) fields none

/-- The device code in an answer, or what an answer without one is told as. -/
def offeredCode (response : Response) : Except Failure DeviceCode :=
  if response.isOk then response.json >>= DeviceCode.ofResponse
  else ServiceError.ofResponse response >>= fun error => .error (.service error)

/-- A context that holds a new device code. -/
def withCode (context : Context) (code : DeviceCode) : Context :=
  { context with credential := context.credential.forDeviceCode code.deviceCode }

theorem requestDeviceCode_perform {held : Value} (context : Context)
    (hgrant : context.credential.grant = .deviceCode held) :
    requestDeviceCode.perform context =
      match context.credential.started.toForm [] [.clientId, .scope] with
      | .error failure => (.error failure, context)
      | .ok fields =>
          match (codeRequest context.credential fields).perform context.world with
          | (.error failure, world) => (.error failure, { context with world })
          | (.ok response, world) =>
              match offeredCode response with
              | .error failure => (.error failure, { context with world })
              | .ok code => (.ok code, { context with world }.withCode code) := by
  obtain ⟨⟨config, client, grant, refreshToken⟩, cache, world⟩ := context
  obtain rfl : grant = .deviceCode held := hgrant
  rw [requestDeviceCode, Action.perform_get_bind]
  dsimp only
  rw [Action.perform_ofExcept_bind]
  split
  next fields hfields =>
    rw [hfields, Action.perform_bind, inWorld_perform]
    rcases hpost : (codeRequest ⟨config, client, .deviceCode held, refreshToken⟩ fields).perform
      world with ⟨answer, reached⟩
    rw [codeRequest] at hpost
    dsimp only at hpost ⊢
    rw [hpost, codeRequest, hpost]
    cases answer with
    | error failure => rfl
    | ok response =>
        dsimp only
        rw [offeredCode]
        cases response.isOk with
        | false => cases ServiceError.ofResponse response <;> rfl
        | true =>
            rw [if_pos rfl, if_pos rfl, Action.perform_ofExcept_bind]
            cases response.json >>= DeviceCode.ofResponse <;> rfl
  next failure hfields => rw [hfields]

/-- No other grant asks for a device code. -/
theorem requestDeviceCode_perform_of_ne (context : Context)
    (hgrant : ∀ held, context.credential.grant ≠ .deviceCode held) :
    requestDeviceCode.perform context = (.error .noSuchPart, context) := by
  obtain ⟨⟨config, client, grant, refreshToken⟩, cache, world⟩ := context
  rw [requestDeviceCode, Action.perform_get_bind]
  cases grant with
  | deviceCode held => exact absurd rfl (hgrant held)
  | _ => rfl

/-- A request for a device code that fails changes the world only. -/
theorem requestDeviceCode_of_error
    (h : requestDeviceCode.perform before = (.error failure, after)) :
    after = { before with world := after.world } := by
  by_cases hgrant : ∃ held, before.credential.grant = .deviceCode held
  · obtain ⟨held, hgrant⟩ := hgrant
    rw [requestDeviceCode_perform before hgrant] at h
    split at h
    next => obtain ⟨-, rfl⟩ := Prod.mk.inj h; rfl
    next =>
      split at h
      next => obtain ⟨-, rfl⟩ := Prod.mk.inj h; rfl
      next =>
        split at h
        next => obtain ⟨-, rfl⟩ := Prod.mk.inj h; rfl
        next => cases h
  · rw [requestDeviceCode_perform_of_ne before (not_exists.mp hgrant)] at h
    obtain ⟨-, rfl⟩ := Prod.mk.inj h
    rfl

/-! ### Obtaining a token -/

/-- What an operation that fails leaves: everything that is held and kept, as it was. -/
structure Untouched (before after : Context) : Prop where
  cache : after.cache = before.cache
  credential : after.credential = before.credential

/-- What a token that is obtained changes. -/
structure Receives (before : Context) (token : Token) (after : Context) : Prop where
  cached : after.cache.get? before.credential.config.cacheId = some token
  others : ∀ key, key ≠ before.credential.config.cacheId →
    after.cache.get? key = before.cache.get? key
  config : after.credential.config = before.credential.config
  client : after.credential.client = before.credential.client
  /-- Of the grant, only the code can be gone. -/
  withoutCode : after.credential.grant.withoutCode = before.credential.grant.withoutCode
  /-- What the credential held gives way to nothing but a refresh token in the answer. -/
  renewed : after.credential ≠ before.credential → before.credential.supportsRefresh = true ∧
    ∃ answer members, before.world.lastAnswer? after.world = some answer ∧
      answer.json = .ok (.object members) ∧
      (Value.member members "refresh_token").isPresent = true ∧
      after.credential =
        before.credential.setRefreshToken (Value.member members "refresh_token")

theorem withoutCode_setRefreshToken (credential : Credential) (token : Value) :
    (credential.setRefreshToken token).grant.withoutCode = credential.grant.withoutCode :=
  credential.grant.withoutCode_withoutCode

/-- A credential takes a refresh token over only if there is one and it can redeem it. -/
theorem renewed_cases (credential : Credential) (token : Token) :
    renewed credential token = credential ∨
      (credential.supportsRefresh = true ∧ token.refreshToken.isPresent = true ∧
        renewed credential token = credential.setRefreshToken token.refreshToken) := by
  unfold renewed
  split
  next hboth =>
    rw [Bool.and_eq_true] at hboth
    exact .inr ⟨hboth.2, hboth.1, rfl⟩
  next => exact .inl rfl

theorem Asks.receives (h : before.Asks (.ok token) after) : before.Receives token after := by
  have hothers : ∀ key, key ≠ before.credential.config.cacheId →
      after.cache.get? key = before.cache.get? key := fun _ hkey => h.get?_of_ne hkey
  cases h with
  | @granted fields attempts response world issued hform hdelivers hanswer =>
      have hlast : before.world.lastAnswer? world = some response := hdelivers.lastAnswer?_eq
      obtain ⟨members, hjson, hrefresh⟩ := Token.ofAnswer_ok hanswer
      have hcached := TokenCache.get?_store_self before.cache before.credential.config.cacheId
        (inheriting before.credential issued)
      have hkept : ({ before with world }.keep issued).credential =
        renewed before.credential issued := rfl
      -- The credential is the only other thing that is written.
      rcases renewed_cases before.credential issued with heq | ⟨hsupports, hpresent, heq⟩
      · rw [heq] at hkept
        exact ⟨hcached, hothers, by rw [hkept], by rw [hkept], by rw [hkept],
          fun hchanged => absurd hkept hchanged⟩
      · rw [heq, hrefresh] at hkept
        rw [hrefresh] at hpresent
        refine ⟨hcached, hothers, by rw [hkept]; rfl, by rw [hkept]; rfl, ?_, ?_⟩
        · rw [hkept, withoutCode_setRefreshToken]
        · exact fun _ => ⟨hsupports, response, members, hlast, hjson, hpresent, hkept⟩

/-- Whatever the credential, the state and what happens in transit or at the service: an operation
that fails leaves the cache and the credential as they were, and a token that is obtained is kept
under the key of its application. -/
theorem acquisitions_are_atomic (before : Context) :
    (∀ failure after, getToken.perform before = (.error failure, after) →
      before.Untouched after) ∧
    (∀ failure after, requestDeviceCode.perform before = (.error failure, after) →
      before.Untouched after) ∧
    ∀ token after, getToken.perform before = (.ok token, after) → before.Receives token after := by
  refine ⟨?_, ?_, ?_⟩
  · intro failure after hperform
    have hasks := getToken_asks hperform
    exact ⟨hasks.cache_of_error, hasks.credential_of_error⟩
  · intro failure after hperform
    rw [requestDeviceCode_of_error hperform]
    exact ⟨rfl, rfl⟩
  · intro token after hperform
    exact (getToken_asks hperform).receives

/-- A trial of a password with a cached token and an answer of the service. -/
def answerTrial (answer : String) : Context where
  credential := { codeTrial.credential with grant := .password (.text "user") (.text "word") }
  cache := codeTrial.cache
  world := { codeTrial.world with replies := [.response ⟨200, answer⟩] }

/-- An answer with a new refresh token. -/
def grantedAnswer : String := "\x7b\"access_token\":\"new\",\"refresh_token\":\"next\"\x7d"

/-- An answer with a new refresh token and a lifetime that cannot be read. -/
def unreadableAnswer : String :=
  "\x7b\"access_token\":\"new\",\"refresh_token\":\"next\",\"expires_in\":1e999\x7d"

theorem answerTrial_untouched_or_receives :
    (∃ failure after, getToken.perform (answerTrial unreadableAnswer) = (.error failure, after) ∧
      (answerTrial unreadableAnswer).Untouched after) ∧
    ∃ token after, getToken.perform (answerTrial grantedAnswer) = (.ok token, after) ∧
      (answerTrial grantedAnswer).Receives token after := by
  have hfails : (getToken.perform (answerTrial unreadableAnswer)).1.isOk = false := by
    decide +kernel
  have hgrants : (getToken.perform (answerTrial grantedAnswer)).1.isOk = true := by
    decide +kernel
  obtain ⟨failure, hfailed⟩ := Action.exists_error hfails
  obtain ⟨token, hgranted⟩ := Action.exists_ok hgrants
  exact ⟨⟨_, _, hfailed, (acquisitions_are_atomic _).1 _ _ hfailed⟩,
    _, _, hgranted, (acquisitions_are_atomic _).2.2 _ _ hgranted⟩

end Context

end OAuthClient
