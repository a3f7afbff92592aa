import OAuthClient.Proofs.AcquisitionFrames
import OAuthClient.Proofs.UrlFields

/-! # Sign-ins on another device

How a sign-in ends is told by the last answer to its polls. It yields a token
exactly when one of them is answered with a token, which is then kept. All other
ends keep nothing, and the failure says what the last answer told, or that the
code expired if that answer had left the sign-in open.
-/

namespace OAuthClient

/-- The member of an answer's body, which is null if there is none. -/
def Response.tells (response : Response) (name : String) : Value :=
  Value.member (response.jsonOrEmpty.members?.getD []) name

namespace PollResponse

/-- What a sign-in yields that ends with an answer. -/
def verdict (answer : PollResponse) : Except Failure Token :=
  match answer.token with
  | some token => .ok token
  | none => .error answer.failure

variable {response : Response} {event : PollEvent} {error : Value}

theorem eventOf_code (event : PollEvent) : eventOf (.text event.code) = some event :=
  event.ofCode?_code

theorem eq_of_eventOf (h : eventOf error = some event) : error = .text event.code := by
  obtain ⟨text, htext, hcode⟩ := Option.bind_eq_some_iff.mp h
  have hfound := List.find?_some hcode
  rw [beq_iff_eq] at hfound
  cases error with
  | text s =>
      cases htext
      rw [hfound]
  | _ => cases htext

/-- The failure of a sign-in that ends with an error of the service: what the error says, unless it
leaves the sign-in open. -/
structure Refuses (response : Response) (failure : Failure) : Prop where
  expired : ∀ event ∈ [PollEvent.authorizationPending, .badVerificationCode, .slowDown],
    response.tells "error" = .text event.code →
      failure = .polling (.event .expiredToken)
        (.text "Device code expired before sign-in completed") none
  stopped : ∀ event ∈ [PollEvent.authorizationDeclined, .expiredToken, .accessDenied],
    response.tells "error" = .text event.code →
      failure = .polling (.event event) (response.tells "error_description") (some response.status)
  unknown : (response.tells "error").isPresent = true →
    (∀ event : PollEvent, response.tells "error" ≠ .text event.code) →
      failure = .polling (.unknown (response.tells "error")) (response.tells "error_description")
        (some response.status)
  unnamed : (response.tells "error").isPresent = false →
    failure = .polling (.unknown (.text ("http_" ++ toString response.status)))
      (response.tells "error_description") (some response.status)

theorem failure_of_event (herror : response.tells "error" = .text event.code) :
    (ofResponse response).failure =
      if event.continues then .polling (.event .expiredToken)
        (.text "Device code expired before sign-in completed") none
      else .polling (.event event) (response.tells "error_description") (some response.status) := by
  have hevent : (ofResponse response).event = some event := by
    change eventOf (response.tells "error") = some event
    rw [herror, eventOf_code]
  rw [failure, hevent, Option.any_some]
  rfl

theorem failure_of_no_event
    (herror : ∀ event : PollEvent, response.tells "error" ≠ .text event.code) :
    (ofResponse response).failure =
      .polling (.unknown ((response.tells "error").orElse
        (.text ("http_" ++ toString response.status)))) (response.tells "error_description")
        (some response.status) := by
  have hevent : (ofResponse response).event = none :=
    Option.eq_none_iff_forall_ne_some.mpr fun event hevent => herror event (eq_of_eventOf hevent)
  rw [failure, hevent, Option.any_none, if_neg Bool.false_ne_true]
  rfl

theorem refuses_failure (response : Response) : Refuses response (ofResponse response).failure where
  expired event hevent herror := by
    rw [failure_of_event herror, if_pos ((PollRound.mem_continuing_iff event).mp hevent)]
  stopped event hevent herror := by
    have hstops : ∀ event ∈ [PollEvent.authorizationDeclined, .expiredToken, .accessDenied],
        event.continues = false := by decide
    rw [failure_of_event herror, hstops event hevent, if_neg Bool.false_ne_true]
  unknown hpresent herror := by
    rw [failure_of_no_event herror, Value.orElse, if_pos hpresent]
  unnamed habsent := by
    rw [failure_of_no_event, Value.orElse, habsent, if_neg Bool.false_ne_true]
    intro event herror
    rw [herror] at habsent
    cases event <;> cases habsent

end PollResponse

namespace Context

variable {context before after : Context} {run : PollRun} {deadline : Number}

/-! ### How polling ends -/

/-- A sign-in yields what its last poll does. -/
theorem signedIn_of_yields {outcomes : List (Except Failure PollResponse)}
    {outcome : Except Failure PollResponse}
    (hyields : outcomes = run.answers.map Except.ok ++ run.failure.toList.map Except.error)
    (hlast : outcomes.getLast? = some outcome) :
    signedIn run = outcome >>= PollResponse.verdict := by
  subst hyields
  cases hfailure : run.failure with
  | some failure =>
      rw [hfailure] at hlast
      obtain rfl : Except.error failure = outcome := by simpa using hlast
      rw [signedIn, hfailure]
      rfl
  | none =>
      rw [hfailure] at hlast
      have hanswers : run.answers.getLast?.map Except.ok = some outcome := by simpa using hlast
      obtain ⟨answer, hanswer, rfl⟩ := Option.map_eq_some_iff.mp hanswers
      rw [signedIn, hfailure, hanswer]
      rfl

/-- An answer that leaves the sign-in open does not change how it ends. -/
theorem signedIn_cons {answer : PollResponse} (hcontinues : answer.continues = true) :
    signedIn { run with answers := answer :: run.answers } = signedIn run := by
  rw [PollResponse.continues, Bool.and_eq_true, Bool.not_eq_true', PollResponse.isSuccess,
    Option.isSome_eq_false_iff, Option.isNone_iff_eq_none] at hcontinues
  obtain ⟨htoken, hevent⟩ := hcontinues
  obtain ⟨answers, failure⟩ := run
  cases failure with
  | some failure => rfl
  | none =>
      cases answers with
      | nil =>
          -- With no other answer, the code counts as expired, and so it does without this one.
          simp [signedIn, htoken, PollResponse.failure, hevent]
      | cons next rest => rfl

/-- A poll brings a token, which is kept, or changes the world only. -/
theorem pollOnce_keeps {interval : Int} {outcome : Except Failure PollResponse}
    (h : (pollOnce interval).perform before = (outcome, after)) :
    (∃ answer token, outcome = .ok answer ∧ answer.token = some token ∧
      after.cache.get? before.credential.config.cacheId = some token) ∨
    ((∀ answer, outcome = .ok answer → answer.token = none) ∧
      after = { before with world := after.world }) := by
  rw [pollOnce_perform] at h
  split at h
  next response world hexecute =>
    split at h
    next hok =>
      split at h
      next token htoken =>
        obtain ⟨rfl, rfl⟩ := Prod.mk.inj h
        exact .inl ⟨_, _, rfl, rfl, TokenCache.get?_store_self _ _ _⟩
      next failure hfailure =>
        obtain ⟨rfl, rfl⟩ := Prod.mk.inj h
        exact .inr ⟨by rintro _ ⟨⟩, rfl⟩
    next hok =>
      obtain ⟨rfl, rfl⟩ := Prod.mk.inj h
      exact .inr ⟨by rintro _ ⟨⟩; rfl, rfl⟩
  next failure world hexecute =>
    obtain ⟨rfl, rfl⟩ := Prod.mk.inj h
    exact .inr ⟨by rintro _ ⟨⟩, rfl⟩

/-- What a sign-in leaves in the cache: the token that it yields, or what was there. -/
structure Leaves (before after : Context) (outcome : Except Failure Token) : Prop where
  cached : ∀ token, outcome = .ok token →
    after.cache.get? before.credential.config.cacheId = some token
  unchanged : ∀ failure, outcome = .error failure → after.cache = before.cache

theorem pollFrom_leaves (deadline : Number) (count : Nat) (interval : Int) (context : Context) :
    context.Leaves ((pollFrom deadline count interval).run context).2
      (signedIn ((pollFrom deadline count interval).run context).1) := by
  induction count generalizing interval context with
  | zero => exact ⟨by rintro _ ⟨⟩, fun _ _ => rfl⟩
  | succ count ih =>
      rw [pollFrom_succ]
      rcases hperform : (pollOnce interval).perform context with ⟨outcome, after⟩
      cases outcome with
      | error failure =>
          rcases pollOnce_keeps hperform with ⟨_, _, ⟨⟩, _⟩ | ⟨-, hafter⟩
          refine ⟨by rintro _ ⟨⟩, fun _ _ => ?_⟩
          dsimp only
          rw [hafter]
      | ok answer =>
          dsimp only
          split
          next hmore =>
            -- Polling goes on only behind an answer without a token, which wrote nothing.
            have hcontinues := ((Bool.and_eq_true _ _).mp hmore).1
            rw [signedIn_cons hcontinues]
            rcases pollOnce_keeps hperform with ⟨_, token, ⟨⟩, htoken, _⟩ | ⟨-, hafter⟩
            · rw [PollResponse.continues, PollResponse.isSuccess, htoken] at hcontinues
              cases hcontinues
            · have hrest := ih (interval + answer.slowing) after
              rw [hafter] at hrest ⊢
              exact ⟨hrest.cached, hrest.unchanged⟩
          next hdone =>
            have hverdict : signedIn { answers := [answer] } = answer.verdict := rfl
            rw [hverdict, PollResponse.verdict]
            rcases pollOnce_keeps hperform with ⟨_, token, ⟨⟩, htoken, hcached⟩ | ⟨hnone, hafter⟩
            · rw [htoken]
              refine ⟨?_, by rintro _ ⟨⟩⟩
              rintro _ ⟨⟩
              exact hcached
            · rw [hnone answer rfl]
              refine ⟨by rintro _ ⟨⟩, fun _ _ => ?_⟩
              rw [hafter]

end Context

/-! ### The request for a device code -/

/-- A scope that is there and not blank is sent. -/
theorem ParameterMap.scopeText?_isSome {scopes : List Value} {scope : Value}
    (hscope : scope ∈ scopes) (hpresent : scope.isPresent = true)
    (hwords : Text.isBlankText scope.plainText = false) : (scopeText? scopes).isSome = true := by
  have hasked : scopeOf? scope = some (Text.trimmed scope.plainText) := by
    rw [scopeOf?, hpresent, hwords]
    rfl
  have hmember : Text.trimmed scope.plainText ∈ TextSet.ofList (scopes.filterMap scopeOf?) :=
    TextSet.mem_ofList.mpr (List.mem_filterMap.mpr ⟨scope, hscope, hasked⟩)
  rw [scopeText?, if_neg]
  · rfl
  · intro hempty
    rw [List.isEmpty_iff.mp hempty] at hmember
    cases hmember

namespace Credential

variable {credential : Credential}

/-- Whether a credential can begin a sign-in on another device: it is for device codes, and its
application has an identifier and asks for some scope. -/
structure CanBegin (credential : Credential) : Prop where
  grant : ∃ held, credential.grant = .deviceCode held
  clientId : Text.isBlankText credential.config.clientId = false
  scope : ∃ scope ∈ credential.config.scope,
    scope.isPresent = true ∧ Text.isBlankText scope.plainText = false

theorem CanBegin.exists_form (h : credential.CanBegin) :
    ∃ fields, credential.started.toForm [] [.clientId, .scope] = .ok fields := by
  obtain ⟨held, hgrant⟩ := h.grant
  have hscopes : credential.scopes = credential.config.scope := by rw [scopes, hgrant]
  have hscope : credential.started.get? .scope =
      ParameterMap.scopeText? credential.config.scope := by
    rw [started, ParameterMap.get?_scope_addScopes _ _ (ParameterMap.scopes_insert _ _ _), hscopes]
  apply ParameterMap.exists_toForm
  intro parameter hparameter
  rcases List.mem_pair.mp hparameter with rfl | rfl
  · rw [get?_clientId_started h.clientId]
    rfl
  · obtain ⟨scope, hmember, hpresent, hwords⟩ := h.scope
    rw [hscope]
    exact ParameterMap.scopeText?_isSome hmember hpresent hwords

end Credential

namespace Context

variable {context : Context} {code : DeviceCode}

/-- Whether the service answers the request for a device code with one, perhaps after some faults in
transport. -/
def IsOffered (context : Context) (code : DeviceCode) : Prop :=
  ∃ (round : PutRound) (rest : List Reply), context.world.replies = round.replies ++ rest ∧
    context.credential.client.Reaches round ∧ offeredCode round.answer = .ok code

theorem requestDeviceCode_of_isOffered (hbegin : context.credential.CanBegin)
    (hoffer : context.IsOffered code) :
    ∃ world, requestDeviceCode.perform context =
      (.ok code, { context with world }.withCode code) := by
  obtain ⟨held, hgrant⟩ := hbegin.grant
  obtain ⟨fields, hfields⟩ := hbegin.exists_form
  obtain ⟨round, rest, hreplies, hreaches, hcode⟩ := hoffer
  obtain ⟨world, hanswer⟩ : ∃ world, (codeRequest context.credential fields).perform
      context.world = (.ok round.answer, world) := by
    rw [codeRequest, Credential.post, asExecution, Action.perform_attempt_bind,
      HttpClient.postForm]
    obtain ⟨world, hsend, -⟩ := HttpClient.send_of_reaches hreaches hreplies _ _ _ _
    rw [hsend]
    exact ⟨world, rfl⟩
  rw [requestDeviceCode_perform context hgrant, hfields]
  dsimp only
  rw [hanswer]
  dsimp only
  rw [hcode]
  exact ⟨world, rfl⟩

/-! ### The whole sign-in -/

/-- A sign-in on another device, but for what is shown to the user in between. -/
def signInOnDevice : Action Context Token := requestDeviceCode >>= awaitSignIn

theorem awaitSignIn_perform (code : DeviceCode) (context : Context) :
    (awaitSignIn code).perform context =
      (signedIn ((pollWith code context.enoughPolls).run context).1,
        ((pollWith code context.enoughPolls).run context).2) := by
  rw [awaitSignIn, Action.perform_get_bind, Action.perform_bind]
  change (Action.ofExcept (signedIn ((pollWith code context.enoughPolls).run context).1)).perform
    ((pollWith code context.enoughPolls).run context).2 = _
  rw [Action.perform_ofExcept]

/-- How a sign-in ends whose polls were made in some rounds until some deadline. -/
structure SignInEnds (context : Context) (deadline : Number) (rounds : List PollRound)
    (outcome : Except Failure Token) : Prop where
  /-- A token is yielded exactly when a poll is answered without an error, if such answers are
  tokens. -/
  signedIn_iff :
    (∀ round ∈ rounds, ∀ response, round.delivered = .ok response → response.isOk = true →
      ∃ token, Token.ofAnswer response context.credential.config.logPii round.after.now =
        .ok token) →
    ((∃ token, outcome = .ok token) ↔
      ∃ round ∈ rounds, ∃ response, round.delivered = .ok response ∧ response.isOk = true)
  granted : ∀ round response, rounds.getLast? = some round → round.delivered = .ok response →
    response.isOk = true →
      outcome = Token.ofAnswer response context.credential.config.logPii round.after.now
  refused : ∀ round response, rounds.getLast? = some round → round.delivered = .ok response →
    response.isOk = false →
      ∃ failure, outcome = .error failure ∧ PollResponse.Refuses response failure
  /-- An error that leaves the sign-in open is the last one only where the code has expired. -/
  expired : ∀ round, rounds.getLast? = some round →
    (∃ event ∈ [PollEvent.authorizationPending, .badVerificationCode, .slowDown],
      round.event? = some event) → deadline.isAtMost round.after.elapsed = true
  unanswered : ∀ round failure, rounds.getLast? = some round → round.delivered = .error failure →
    outcome = .error failure

end Context

namespace PollTrace

variable {credential : Credential} {request : Request} {code : DeviceCode} {deadline : Number}
  {start stop : World} {rounds : List PollRound} {run : PollRun} {round : PollRound}
  {response : Response}

/-- A poll that is answered without an error is the last one. -/
theorem getLast?_of_isOk (h : PollTrace credential request code deadline start rounds run stop)
    (hround : round ∈ rounds) (hdelivered : round.delivered = .ok response)
    (hok : response.isOk = true) : rounds.getLast? = some round := by
  obtain ⟨k, hk, rfl⟩ := List.mem_iff_getElem.mp hround
  have hlast : ¬ k + 1 < rounds.length := by
    rw [h.followed k hk]
    rintro ⟨⟨event, -, hevent⟩, -⟩
    rw [PollRound.event?, hdelivered] at hevent
    dsimp only at hevent
    rw [if_pos hok] at hevent
    cases hevent
  obtain rfl : k = rounds.length - 1 := by omega
  rw [List.getLast?_eq_getElem?, List.getElem?_eq_getElem hk]

/-- The last error leaves the sign-in open only where the code has expired. -/
theorem isAtMost_of_open (h : PollTrace credential request code deadline start rounds run stop)
    (hlast : rounds.getLast? = some round)
    (hopen : ∃ event ∈ [PollEvent.authorizationPending, .badVerificationCode, .slowDown],
      round.event? = some event) : deadline.isAtMost round.after.elapsed = true := by
  have hlength := List.length_pos_iff.mpr h.nonempty
  rw [List.getLast?_eq_getElem?, List.getElem?_eq_getElem (by omega)] at hlast
  obtain rfl := Option.some.inj hlast
  have hstops := (h.followed (rounds.length - 1) (by omega)).not.mp (by omega)
  rw [PollRound.GoesOn, not_and, Bool.not_eq_false] at hstops
  exact hstops hopen

theorem signedIn_eq (h : PollTrace credential request code deadline start rounds run stop)
    (hlast : rounds.getLast? = some round) :
    Context.signedIn run = round.outcome credential.config.logPii >>= PollResponse.verdict :=
  Context.signedIn_of_yields h.yields (by rw [List.getLast?_map, hlast]; rfl)

theorem signedIn_of_isOk (h : PollTrace credential request code deadline start rounds run stop)
    (hlast : rounds.getLast? = some round) (hdelivered : round.delivered = .ok response)
    (hok : response.isOk = true) :
    Context.signedIn run =
      Token.ofAnswer response credential.config.logPii round.after.now := by
  rw [h.signedIn_eq hlast, PollRound.outcome_of_ok hdelivered, PollResponse.read, if_pos hok]
  cases Token.ofAnswer response credential.config.logPii round.after.now <;> rfl

theorem signedIn_of_not_isOk (h : PollTrace credential request code deadline start rounds run stop)
    (hlast : rounds.getLast? = some round) (hdelivered : round.delivered = .ok response)
    (hok : response.isOk = false) :
    Context.signedIn run = .error (PollResponse.ofResponse response).failure := by
  rw [h.signedIn_eq hlast, PollRound.outcome_of_ok hdelivered, PollResponse.read, hok,
    if_neg Bool.false_ne_true]
  rfl

theorem signedIn_of_error (h : PollTrace credential request code deadline start rounds run stop)
    (hlast : rounds.getLast? = some round) {failure : Failure}
    (hdelivered : round.delivered = .error failure) : Context.signedIn run = .error failure := by
  rw [h.signedIn_eq hlast, PollRound.outcome_of_error hdelivered]
  rfl

/-- A sign-in yields a token only after a poll that was answered without an error. -/
theorem exists_isOk_of_signedIn
    (h : PollTrace credential request code deadline start rounds run stop) {token : Token}
    (htoken : Context.signedIn run = .ok token) :
    ∃ round ∈ rounds, ∃ response, round.delivered = .ok response ∧ response.isOk = true := by
  have hlast := List.getLast?_eq_some_getLast h.nonempty
  refine ⟨_, List.getLast_mem h.nonempty, ?_⟩
  cases hdelivered : (rounds.getLast h.nonempty).delivered with
  | error failure => cases (h.signedIn_of_error hlast hdelivered).symm.trans htoken
  | ok response =>
      refine ⟨response, rfl, ?_⟩
      cases hok : response.isOk with
      | true => rfl
      | false => cases (h.signedIn_of_not_isOk hlast hdelivered hok).symm.trans htoken

end PollTrace

namespace Context

variable {context : Context} {code : DeviceCode}

theorem signInEnds_of_trace {request : Request} {deadline : Number} {start stop : World}
    {rounds : List PollRound} {run : PollRun}
    (htrace : PollTrace (context.credential.forDeviceCode code.deviceCode) request code deadline
      start rounds run stop) :
    SignInEnds context deadline rounds (signedIn run) where
  signedIn_iff htokens := by
    constructor
    · rintro ⟨token, htoken⟩
      exact htrace.exists_isOk_of_signedIn htoken
    · rintro ⟨round, hround, response, hdelivered, hok⟩
      have hlast := htrace.getLast?_of_isOk hround hdelivered hok
      rw [htrace.signedIn_of_isOk hlast hdelivered hok]
      exact htokens round hround response hdelivered hok
  granted _ _ hlast hdelivered hok := htrace.signedIn_of_isOk hlast hdelivered hok
  refused _ response hlast hdelivered hok :=
    ⟨_, htrace.signedIn_of_not_isOk hlast hdelivered hok, PollResponse.refuses_failure response⟩
  expired _ hlast hopen := htrace.isAtMost_of_open hlast hopen
  unanswered _ _ hlast hdelivered := htrace.signedIn_of_error hlast hdelivered

/-- Waiting for a sign-in leaves the token that it yields, or what was there. -/
theorem awaitSignIn_leaves (hgrant : ∃ held, context.credential.grant = .deviceCode held)
    (code : DeviceCode) : context.Leaves ((awaitSignIn code).perform context).2
      ((awaitSignIn code).perform context).1 := by
  obtain ⟨held, hgrant⟩ := hgrant
  rw [awaitSignIn_perform, pollWith_run code _ hgrant]
  cases context.deadline? code with
  | none => exact ⟨by rintro _ ⟨⟩, fun _ _ => rfl⟩
  | some deadline =>
      have hpolls := pollFrom_leaves deadline context.enoughPolls code.interval
        { context with credential := context.credential.forDeviceCode code.deviceCode }
      exact ⟨hpolls.cached, hpolls.unchanged⟩

/-- A sign-in with a device code that the service offers, whatever it answers to the polls. Where no
clock can show when the code expires, there is no poll and the sign-in fails. -/
theorem device_sign_in_ends {word : String} (hbegin : context.credential.CanBegin)
    (hoffer : context.IsOffered code) (hcode : code.deviceCode = .text word)
    (hword : Text.isBlankText word = false) (hinterval : 1 ≤ code.interval) :
    ∃ shown fields, requestDeviceCode.perform context = (.ok code, shown) ∧
      context.Leaves (signInOnDevice.perform context).2 (signInOnDevice.perform context).1 ∧
      (shown.deadline? code = none →
        (signInOnDevice.perform context).1 = .error .outOfRange ∧
          (signInOnDevice.perform context).2.world = shown.world) ∧
      ∀ deadline, shown.deadline? code = some deadline →
        ∃ rounds, PollTrace (context.credential.forDeviceCode code.deviceCode)
            ((context.credential.forDeviceCode code.deviceCode).tokenRequest fields) code deadline
            shown.world rounds ((poll (some code) none).run shown).1
            ((poll (some code) none).run shown).2.world ∧
          SignInEnds context deadline rounds (signInOnDevice.perform context).1 := by
  obtain ⟨world, hrequest⟩ := requestDeviceCode_of_isOffered hbegin hoffer
  let shown : Context := { context with world }.withCode code
  have hgrant : shown.credential.grant = .deviceCode code.deviceCode := rfl
  have hsignIn : signInOnDevice.perform context = (awaitSignIn code).perform shown :=
    Action.perform_bind_of_ok hrequest
  have hleaves : context.Leaves (signInOnDevice.perform context).2
      (signInOnDevice.perform context).1 := by
    rw [hsignIn]
    have hawait := shown.awaitSignIn_leaves ⟨_, hgrant⟩ code
    exact ⟨hawait.cached, hawait.unchanged⟩
  obtain ⟨fields, -, -, hholds⟩ := exists_holdsCode
    (show Text.isBlankText shown.credential.config.clientId = false from hbegin.clientId)
    hcode hword
  refine ⟨shown, fields, hrequest, hleaves, fun hdeadline => ?_, fun deadline hdeadline => ?_⟩
  · rw [hsignIn, awaitSignIn_perform, pollWith_of_no_deadline hgrant hdeadline]
    exact ⟨rfl, rfl⟩
  · obtain ⟨rounds, htrace⟩ := pollWith_trace hgrant hholds hdeadline hinterval
    rw [hsignIn, awaitSignIn_perform]
    exact ⟨rounds, htrace, signInEnds_of_trace htrace⟩

/-- The answer with which a device code is offered on trial. -/
def trialOffer : Response where
  status := 200
  text := "\x7b\"device_code\":\"device\",\"user_code\":\"user\"," ++
    "\"verification_uri\":\"https://device.example\",\"expires_in\":10,\"interval\":4\x7d"

/-- A trial of a sign-in where the service is not reached at once and the user takes a while. -/
def signInTrial : Context where
  credential := { pollingTrial.credential with
    config := { trialConfig with scope := [.text "User.Read"] } }
  world := { pollingTrial.world with
    replies := [
      .fault .timeout "read",
      .response trialOffer,
      .response ⟨400, "\x7b\"error\":\"authorization_pending\"\x7d"⟩,
      .response ⟨200, "\x7b\"access_token\":\"new\"\x7d"⟩] }

theorem exists_offeredCode_trialOffer : ∃ code, offeredCode trialOffer = .ok code ∧
    code.deviceCode = .text "device" ∧ code.interval = 4 := by
  have htext : ((offeredCode trialOffer).toOption.map (·.deviceCode)).bind Value.text? =
      some "device" := by decide +kernel
  have hword := Value.eq_some_text htext
  have hinterval : (offeredCode trialOffer).toOption.map (·.interval) = some 4 := by
    decide +kernel
  cases hoffered : offeredCode trialOffer with
  | error failure =>
      rw [hoffered] at hinterval
      cases hinterval
  | ok code =>
      rw [hoffered] at hword hinterval
      exact ⟨code, rfl, Option.some.inj hword, Option.some.inj hinterval⟩

theorem signInTrial_keeps_token :
    signInTrial.credential.CanBegin ∧ (∃ code, signInTrial.IsOffered code) ∧
      ∃ token, (signInOnDevice.perform signInTrial).1 = .ok token ∧
        (signInOnDevice.perform signInTrial).2.cache.get? signInTrial.credential.config.cacheId =
          some token := by
  have hbegin : signInTrial.credential.CanBegin :=
    ⟨⟨_, rfl⟩, by decide, ⟨_, List.mem_cons_self, by decide, by decide⟩⟩
  obtain ⟨code, hcode, hword, hinterval⟩ := exists_offeredCode_trialOffer
  have hoffer : signInTrial.IsOffered code :=
    ⟨⟨[(.timeout, "read")], trialOffer⟩, _, rfl, HttpClient.standard_reaches (by decide), hcode⟩
  obtain ⟨_, _, -, hleaves, -⟩ :=
    device_sign_in_ends hbegin hoffer hword (by decide) (by omega)
  have hok : (signInOnDevice.perform signInTrial).1.isOk = true := by decide +kernel
  obtain ⟨token, hperform⟩ := Action.exists_ok hok
  have htoken := congrArg Prod.fst hperform
  exact ⟨hbegin, ⟨code, hoffer⟩, token, htoken, hleaves.cached token htoken⟩

end Context

end OAuthClient
