import OAuthClient.Credential.DeviceSignIn
import OAuthClient.Proofs.ExactTime
import OAuthClient.Proofs.GrantKeys

/-! # Polling with a device code

Polling is a sequence of rounds, each a pause and one request for the same device
code. An answer that leaves the sign-in open is followed by another round as long
as the clock has not reached the deadline, and nothing else is. Since every round
takes at least the first interval, the lifetime of the code bounds their number,
unless the readings of the clock are rounded. A clock that cannot show the
deadline ends the polling before the first round, and a pause that the timer
refuses ends it before a request.
-/

namespace OAuthClient

theorem ParameterMap.exists_collectRequired {map : ParameterMap} {required : List Parameter}
    (hvalues : ∀ parameter ∈ required, (map.get? parameter).isSome = true) :
    ∃ pairs, map.collectRequired required = .ok pairs := by
  induction required with
  | nil => exact ⟨[], rfl⟩
  | cons parameter rest ih =>
      obtain ⟨pairs, hpairs⟩ := ih fun other hother => hvalues other (List.mem_cons_of_mem _ hother)
      obtain ⟨value, hvalue⟩ := Option.isSome_iff_exists.mp (hvalues parameter List.mem_cons_self)
      rw [collectRequired, hvalue]
      dsimp only
      rw [hpairs]
      exact ⟨_, rfl⟩

theorem ParameterMap.exists_toForm {map : ParameterMap} {required : List Parameter}
    (hvalues : ∀ parameter ∈ required, (map.get? parameter).isSome = true)
    (optional : List Parameter) : ∃ fields, map.toForm optional required = .ok fields := by
  obtain ⟨pairs, hpairs⟩ := exists_collectRequired hvalues
  rw [toForm, collect, hpairs]
  exact ⟨_, rfl⟩

/-- There is a form exactly when every parameter that it requires has a value. -/
theorem ParameterMap.exists_toForm_iff {map : ParameterMap}
    {optional required : List Parameter} :
    (∃ fields, map.toForm optional required = .ok fields) ↔
      ∀ parameter ∈ required, (map.get? parameter).isSome = true :=
  ⟨fun ⟨_, h⟩ _ hmem => get?_isSome_of_toForm h hmem, fun h => exists_toForm h optional⟩

namespace Credential

variable {credential : Credential}

/-- A credential that has been given a device code. -/
def forDeviceCode (credential : Credential) (code : Value) : Credential :=
  { credential with grant := .deviceCode code, refreshToken := .null }

theorem get?_clientId_started (hclient : Text.isBlankText credential.config.clientId = false) :
    credential.started.get? .clientId = some credential.config.clientId := by
  rw [started, ParameterMap.get?_addScopes_of_ne _ _ (by decide)]
  exact ParameterMap.get?_insertText_self _ (by decide) hclient

/-- A credential that holds a device code and no refresh token asks with just that code. -/
theorem deviceCodeForm_of_code {code : String} (htoken : credential.refreshToken = .null)
    (hclient : Text.isBlankText credential.config.clientId = false)
    (hcode : Text.isBlankText code = false) :
    ∃ fields, credential.deviceCodeForm (.text code) = .ok fields ∧
      GrantKind.deviceCode.IsForm fields ∧ Assoc.get? "device_code" fields = some code := by
  let map := (credential.started.insertText .grantType deviceCodeKind).insert .deviceCode
    (.text code)
  have hid : map.get? .clientId = some credential.config.clientId := by
    rw [ParameterMap.get?_insert_of_ne _ _ (by decide), ParameterMap.insertText,
      ParameterMap.get?_insert_of_ne _ _ (by decide), get?_clientId_started hclient]
  have hdevice : map.get? .deviceCode = some code :=
    ParameterMap.get?_insertText_self _ (by decide) hcode
  have hkind : map.get? .grantType = some deviceCodeKind := by
    rw [ParameterMap.get?_insert_of_ne _ _ (by decide)]
    exact ParameterMap.get?_grantType _ .deviceCode
  obtain ⟨fields, hform⟩ : ∃ fields,
      map.toForm [.scope] [.clientId, .deviceCode, .grantType] = .ok fields := by
    apply ParameterMap.exists_toForm
    simp [hid, hdevice, hkind]
  refine ⟨_, ?_, redeemCode_isForm credential.started_isFilled hform, ?_⟩
  · unfold deviceCodeForm
    rw [htoken]
    change (requireWords (.text code) .deviceCode "Device code is empty" >>= fun _ => _) = _
    rw [requireWords_text, hcode]
    exact hform
  · have hfield := ParameterMap.get?_toForm hform .deviceCode
    rwa [if_pos (by decide), hdevice] at hfield

end Credential

/-- Pauses and then runs the grant once. -/
def Credential.executeAfter (credential : Credential) (interval : Int) : Action World Response := do
  World.pause (.int interval)
  credential.execute

theorem Credential.executeAfter_perform (credential : Credential) (interval : Int)
    (world : World) :
    (credential.executeAfter interval).perform world =
      match world.timer.take (.int interval) with
      | .ok _ => credential.execute.perform (world.afterPause (.int interval))
      | .error failure => (.error failure, world.afterPause (.int interval)) := by
  rw [executeAfter, Action.perform_bind, World.pause_perform]
  cases world.timer.take (.int interval) <;> rfl

/-! ### Rounds -/

/-- What a poll makes of an answer that arrives when the clock shows a time: a token, or what the
answer tells if it is that of an error. -/
def PollResponse.read (response : Response) (logPii : Bool) (clock : Number) :
    Except Failure PollResponse :=
  if response.isOk then
    (Token.ofAnswer response logPii clock).map fun token =>
      { status := response.status, token := some token }
  else .ok (.ofResponse response)

/-- One round of polling: a pause, and a request that is sent until an answer arrives or the
attempts are used up. -/
structure PollRound where
  /-- The seconds of the pause. -/
  interval : Int
  /-- The world before the pause. -/
  before : World
  /-- What becomes of the request. -/
  delivered : Except Failure Response
  /-- The world after the request. -/
  after : World

namespace PollRound

/-- The world after the pause. -/
def paused (round : PollRound) : World := round.before.afterPause (.int round.interval)

/-- How long the pause lasts, if the timer takes it. -/
def taken (round : PollRound) : Except Failure Number :=
  round.before.timer.take (.int round.interval)

/-- What a round yields. -/
def outcome (round : PollRound) (logPii : Bool) : Except Failure PollResponse :=
  round.delivered >>= fun response => PollResponse.read response logPii round.after.now

/-- The event that an error tells. -/
def event? (round : PollRound) : Option PollEvent :=
  match round.delivered with
  | .ok response => if response.isOk then none else (PollResponse.ofResponse response).event
  | .error _ => none

/-- Whether an error asks for fewer requests. -/
def slowsDown (round : PollRound) : Bool := round.event? == some .slowDown

/-- Whether an error leaves the sign-in open and the clock is still before the deadline. -/
def GoesOn (round : PollRound) (deadline : Number) : Prop :=
  (∃ event ∈ [PollEvent.authorizationPending, .badVerificationCode, .slowDown],
    round.event? = some event) ∧ deadline.isAtMost round.after.elapsed = false

/-- Whether a round sends one request of a credential, as often as its client does that. A pause
that the timer refuses comes before no request. -/
structure Performs (round : PollRound) (credential : Credential) (request : Request) : Prop where
  performed : (credential.executeAfter round.interval).perform round.before =
    (round.delivered, round.after)
  delivers : ∃ attempts,
    ((∃ seconds, round.taken = .ok seconds) → credential.client.IsCounted → 0 < attempts) ∧
    round.paused.Delivers round.after request attempts round.delivered
  refused : ∀ failure, round.taken = .error failure →
    round.delivered = .error failure ∧ round.after = round.paused

variable {round : PollRound} {credential : Credential} {request : Request} {logPii : Bool}
  {deadline : Number}

theorem outcome_of_error {failure : Failure} (h : round.delivered = .error failure) :
    round.outcome logPii = .error failure := by
  rw [outcome, h]
  rfl

theorem outcome_of_ok {response : Response} (h : round.delivered = .ok response) :
    round.outcome logPii = PollResponse.read response logPii round.after.now := by
  rw [outcome, h]
  rfl

/-- What the answer of a round tells, seen from what the round yields. -/
theorem answer_of_outcome {answer : PollResponse} (h : round.outcome logPii = .ok answer) :
    (answer.isSuccess = true ∧ round.event? = none ∧ answer.event = none) ∨
      (answer.isSuccess = false ∧ round.event? = answer.event) := by
  cases hdelivered : round.delivered with
  | error failure => cases (outcome_of_error hdelivered).symm.trans h
  | ok response =>
      rw [outcome_of_ok hdelivered, PollResponse.read] at h
      have hevent : round.event? =
          if response.isOk then none else (PollResponse.ofResponse response).event := by
        rw [event?, hdelivered]
      rw [hevent]
      cases hok : response.isOk with
      | true =>
          rw [hok, if_pos rfl] at h
          obtain ⟨token, -, rfl⟩ := Failure.of_map_ok h
          exact .inl ⟨rfl, rfl, rfl⟩
      | false =>
          rw [hok, if_neg Bool.false_ne_true] at h
          cases h
          exact .inr ⟨rfl, rfl⟩

theorem mem_continuing_iff (event : PollEvent) :
    event ∈ [PollEvent.authorizationPending, .badVerificationCode, .slowDown] ↔
      event.continues = true := by
  cases event <;> decide

theorem goesOn_iff {answer : PollResponse} (h : round.outcome logPii = .ok answer) :
    round.GoesOn deadline ↔
      (answer.continues && !deadline.isAtMost round.after.elapsed) = true := by
  have hcontinues : (∃ event ∈ [PollEvent.authorizationPending, .badVerificationCode, .slowDown],
      round.event? = some event) ↔ answer.continues = true := by
    simp only [mem_continuing_iff]
    rw [PollResponse.continues]
    rcases answer_of_outcome h with ⟨hsuccess, hnone, -⟩ | ⟨hsuccess, hevent⟩
    · simp [hsuccess, hnone]
    · rw [hevent, hsuccess]
      cases answer.event <;> simp
  rw [GoesOn, hcontinues, Bool.and_eq_true, Bool.not_eq_true']

theorem slowing_of_outcome {answer : PollResponse} (h : round.outcome logPii = .ok answer) :
    answer.slowing = if round.slowsDown then 5 else 0 := by
  have hevent : answer.event = round.event? := by
    rcases answer_of_outcome h with ⟨-, hnone, hevent⟩ | ⟨-, hevent⟩
    · rw [hnone, hevent]
    · exact hevent.symm
  simp only [PollResponse.slowing, PollResponse.slowDownIncrement, slowsDown, hevent, beq_iff_eq]

theorem GoesOn.exists_delivered (h : round.GoesOn deadline) :
    ∃ response, round.delivered = .ok response := by
  obtain ⟨⟨event, -, hevent⟩, -⟩ := h
  cases hdelivered : round.delivered with
  | error failure =>
      rw [event?, hdelivered] at hevent
      cases hevent
  | ok response => exact ⟨response, rfl⟩

theorem GoesOn.exists_answer (h : round.GoesOn deadline) (logPii : Bool) :
    ∃ answer, round.outcome logPii = .ok answer := by
  obtain ⟨response, hdelivered⟩ := h.exists_delivered
  obtain ⟨⟨event, -, hevent⟩, -⟩ := h
  rw [event?, hdelivered] at hevent
  dsimp only at hevent
  rw [outcome_of_ok hdelivered, PollResponse.read]
  cases hok : response.isOk with
  | true =>
      rw [hok] at hevent
      cases hevent
  | false => exact ⟨_, rfl⟩

/-- A round that is answered takes a reply of the service. -/
theorem Performs.replies_lt (h : round.Performs credential request) {response : Response}
    (hanswer : round.delivered = .ok response) :
    round.after.replies.length < round.before.replies.length := by
  obtain ⟨attempts, -, hdelivers⟩ := h.delivers
  obtain ⟨hpos, hreply⟩ := (hdelivers.answered response).mp hanswer
  have hmem := World.replyAt_eq_response hreply
  have hlength := congrArg List.length hdelivers.sends.replies
  rw [List.length_drop, List.length_replicate] at hlength
  have hpaused : round.paused.replies = round.before.replies :=
    (World.afterPause_sends (.int round.interval) round.before).replies
  rw [hpaused] at hmem hlength
  have hnonempty := List.length_pos_of_mem hmem
  omega

end PollRound

/-! ### Runs of rounds -/

/-- What polling yields when it ends with the outcome of a round. -/
def PollRun.ofOutcome : Except Failure PollResponse → PollRun
  | .ok answer => { answers := [answer] }
  | .error failure => { failure := some failure }

/-- What polling does from some world on, with some interval. -/
inductive Polls (credential : Credential) (request : Request) (deadline : Number) :
    World → Int → List PollRound → PollRun → World → Prop where
  | last (round : PollRound) (hround : round.Performs credential request)
      (hstops : ¬ round.GoesOn deadline) :
      Polls credential request deadline round.before round.interval [round]
        (.ofOutcome (round.outcome credential.config.logPii)) round.after
  /-- A round that is followed by another one. -/
  | more (round : PollRound) (hround : round.Performs credential request)
      (hgoes : round.GoesOn deadline) {answer : PollResponse}
      (hanswer : round.outcome credential.config.logPii = .ok answer)
      {rounds : List PollRound} {run : PollRun} {stop : World}
      (hrest : Polls credential request deadline round.after
        (round.interval + if round.slowsDown then 5 else 0) rounds run stop) :
      Polls credential request deadline round.before round.interval (round :: rounds)
        { run with answers := answer :: run.answers } stop

namespace Context

variable {context : Context} {fields : Credential.Fields} {code : Value} {deadline : Number}

/-- Whether a context holds a device code only, with a form that redeems it. -/
structure HoldsCode (context : Context) (fields : Credential.Fields) : Prop where
  form : ∀ world, context.credential.form.perform world = (.ok fields, world)
  refreshToken : context.credential.refreshToken = .null

theorem inheriting_of_null {credential : Credential} (h : credential.refreshToken = .null)
    (token : Token) : inheriting credential token = token := by
  rw [inheriting, h]
  split <;> rfl

theorem pollOnce_perform (interval : Int) (context : Context) :
    (pollOnce interval).perform context =
      match (context.credential.executeAfter interval).perform context.world with
      | (.ok response, world) =>
          if response.isOk then
            match Token.ofAnswer response context.credential.config.logPii world.now with
            | .ok token => (.ok { status := response.status
                                  token := some (inheriting context.credential token) },
                keep { context with world } token)
            | .error failure => (.error failure, { context with world })
          else (.ok (.ofResponse response), { context with world })
      | (.error failure, world) => (.error failure, { context with world }) := by
  have hexecute (context : Context) : execute.perform context =
      ((context.credential.execute.perform context.world).1,
        { context with world := (context.credential.execute.perform context.world).2 }) := by
    rw [execute, Action.perform_get_bind, inWorld_perform]
  rw [pollOnce, Action.perform_bind, inWorld_perform, World.pause_perform,
    Credential.executeAfter_perform]
  cases context.world.timer.take (.int interval) with
  | error failure => rfl
  | ok seconds =>
      dsimp only [Except.map]
      rw [Action.perform_bind, hexecute]
      dsimp only
      rcases context.credential.execute.perform _ with ⟨answer, world⟩
      cases answer with
      | error failure => rfl
      | ok response =>
          dsimp only
          cases response.isOk with
          | false => rfl
          | true =>
              rw [if_pos rfl, if_pos rfl, Action.perform_bind, readToken_perform]
              cases Token.ofAnswer response context.credential.config.logPii world.now <;> rfl

/-- A pause and the grant after it are a round with one request, or with none where the timer
refuses the pause. -/
theorem performs_of_executeAfter (h : context.HoldsCode fields) {interval : Int}
    {delivered : Except Failure Response} {world : World}
    (hexecute : (context.credential.executeAfter interval).perform context.world =
      (delivered, world)) :
    (PollRound.mk interval context.world delivered world).Performs context.credential
      (context.credential.tokenRequest fields) := by
  have hperform := hexecute
  rw [Credential.executeAfter_perform] at hperform
  cases htake : context.world.timer.take (.int interval) with
  | error failure =>
      rw [htake] at hperform
      obtain ⟨rfl, rfl⟩ := Prod.mk.inj hperform
      refine ⟨hexecute, ⟨0, ?_, World.Sends.refl _, fun index hindex => by omega, by simp⟩, ?_⟩
      · rintro ⟨seconds, hseconds⟩
        cases htake.symm.trans hseconds
      · intro other hother
        exact ⟨congrArg _ (Except.error.inj (htake.symm.trans hother)), rfl⟩
  | ok seconds =>
      rw [htake] at hperform
      refine ⟨hexecute, ?_, fun failure hfailure => by cases htake.symm.trans hfailure⟩
      rcases Credential.execute_cases hperform with
        ⟨failure, hform, _⟩ | ⟨found, attempts, hform, hcounted, hdelivers⟩
      · cases (h.form _).symm.trans hform
      · rw [h.form] at hform
        obtain rfl := Except.ok.inj hform
        exact ⟨attempts, fun _ => hcounted, hdelivers⟩

/-- A poll is a round, and it changes nothing but the world unless it brings a token. -/
theorem pollOnce_round (h : context.HoldsCode fields) (interval : Int) :
    ∃ round : PollRound, round.before = context.world ∧ round.interval = interval ∧
      round.Performs context.credential (context.credential.tokenRequest fields) ∧
      ((pollOnce interval).perform context).1 =
        round.outcome context.credential.config.logPii ∧
      ((pollOnce interval).perform context).2.world = round.after ∧
      ∀ answer, round.outcome context.credential.config.logPii = .ok answer →
        answer.isSuccess = false →
        ((pollOnce interval).perform context).2 = { context with world := round.after } := by
  rcases hexecute : (context.credential.executeAfter interval).perform context.world with
    ⟨delivered, world⟩
  let round : PollRound := ⟨interval, context.world, delivered, world⟩
  have hperforms : round.Performs context.credential (context.credential.tokenRequest fields) :=
    performs_of_executeAfter h hexecute
  refine ⟨round, rfl, rfl, hperforms, ?_⟩
  rw [pollOnce_perform, hexecute]
  cases hdelivered : delivered with
  | error failure =>
      rw [PollRound.outcome_of_error (show round.delivered = .error failure from hdelivered)]
      exact ⟨rfl, rfl, by rintro _ ⟨⟩⟩
  | ok response =>
      rw [PollRound.outcome_of_ok (show round.delivered = .ok response from hdelivered),
        PollResponse.read]
      change _ ∧ _ ∧ ∀ answer, (if response.isOk then
        (Token.ofAnswer response context.credential.config.logPii world.now).map _ else _) = _ → _
      dsimp only
      cases response.isOk with
      | false => exact ⟨rfl, rfl, fun _ _ _ => rfl⟩
      | true =>
          simp only [if_true]
          cases Token.ofAnswer response context.credential.config.logPii world.now with
          | error failure => exact ⟨rfl, rfl, by rintro _ ⟨⟩⟩
          | ok token =>
              dsimp only
              rw [inheriting_of_null h.refreshToken]
              refine ⟨rfl, rfl, ?_⟩
              rintro answer hanswer hsuccess
              cases hanswer
              cases hsuccess

theorem pollFrom_succ (deadline : Number) (count : Nat) (interval : Int) (context : Context) :
    (pollFrom deadline (count + 1) interval).run context =
      match (pollOnce interval).perform context with
      | (.error failure, after) => ({ failure := some failure }, after)
      | (.ok answer, after) =>
          if answer.continues && !deadline.isAtMost after.world.elapsed then
            let rest := (pollFrom deadline count (interval + answer.slowing)).run after
            ({ rest.1 with answers := answer :: rest.1.answers }, rest.2)
          else ({ answers := [answer] }, after) := by
  have hrun : (pollOnce interval).run.run context = (pollOnce interval).perform context := rfl
  rw [pollFrom, StateT.run_bind, hrun]
  rcases (pollOnce interval).perform context with ⟨failure | answer, after⟩
  · rfl
  · change StateT.run (if (answer.continues && !deadline.isAtMost after.world.elapsed) = true then _
      else _) after = _
    dsimp only
    split <;> rfl

/-- With a reply to each round, polling is not cut short. -/
theorem pollFrom_polls (h : context.HoldsCode fields) {count : Nat} {interval : Int}
    (hcount : context.world.replies.length < count) {run : PollRun} {after : Context}
    (hpoll : (pollFrom deadline count interval).run context = (run, after)) :
    ∃ rounds, Polls context.credential (context.credential.tokenRequest fields) deadline
      context.world interval rounds run after.world := by
  induction count generalizing context interval run after with
  | zero => exact absurd hcount (Nat.not_lt_zero _)
  | succ count ih =>
      obtain ⟨round, hbefore, hinterval, hround, houtcome, hworld, hsame⟩ :=
        pollOnce_round h interval
      rw [← hbefore, ← hinterval]
      rw [pollFrom_succ] at hpoll
      rcases hperform : (pollOnce interval).perform context with ⟨outcome, reached⟩
      rw [hperform] at hpoll houtcome hworld hsame
      dsimp only at houtcome hworld hsame
      have hlast : ¬ round.GoesOn deadline →
          (run, after) = (.ofOutcome outcome, reached) → ∃ rounds, Polls context.credential
            (context.credential.tokenRequest fields) deadline round.before round.interval rounds run
            after.world := by
        rintro hstops heq
        obtain ⟨rfl, rfl⟩ := Prod.mk.inj heq
        rw [houtcome, hworld]
        exact ⟨[round], .last round hround hstops⟩
      cases outcome with
      | error failure =>
          refine hlast (fun hgoes => ?_) hpoll.symm
          obtain ⟨answer, hanswer⟩ := hgoes.exists_answer context.credential.config.logPii
          cases houtcome.trans hanswer
      | ok answer =>
          have hgoes : round.GoesOn deadline ↔ _ := PollRound.goesOn_iff houtcome.symm
          rw [← hworld] at hgoes
          dsimp only at hpoll
          split at hpoll
          next hmore =>
            have hgoing := hgoes.mpr hmore
            have hfailed : answer.isSuccess = false := by
              rw [PollResponse.continues, Bool.and_eq_true, Bool.and_eq_true] at hmore
              exact (Bool.not_eq_true' _).mp hmore.1.1
            obtain ⟨response, hresponse⟩ : ∃ response, round.delivered = .ok response := by
              cases hdelivered : round.delivered with
              | ok response => exact ⟨response, rfl⟩
              | error failure => cases houtcome.trans (PollRound.outcome_of_error hdelivered)
            have hfewer := hround.replies_lt hresponse
            rw [hbefore] at hfewer
            have hreached := hsame answer houtcome.symm hfailed
            subst hreached
            rcases hrest : (pollFrom deadline count (interval + answer.slowing)).run
              { context with world := round.after } with ⟨rest, stop⟩
            rw [hrest] at hpoll
            obtain ⟨rfl, rfl⟩ := Prod.mk.inj hpoll
            have hholds : HoldsCode { context with world := round.after } fields :=
              ⟨h.form, h.refreshToken⟩
            obtain ⟨rounds, hrounds⟩ := ih hholds (by dsimp only; omega) hrest
            rw [PollRound.slowing_of_outcome houtcome.symm, ← hinterval] at hrounds
            exact ⟨round :: rounds, .more round hround hgoing houtcome.symm hrounds⟩
          next hdone => exact hlast (fun hgoing => hdone (hgoes.mp hgoing)) hpoll.symm

theorem pollWith_run (code : DeviceCode) (count : Nat) {held : Value}
    (hgrant : context.credential.grant = .deviceCode held) :
    (pollWith code count).run context =
      match context.deadline? code with
      | none => ({ failure := some .outOfRange },
          { context with credential := context.credential.forDeviceCode code.deviceCode })
      | some deadline => (pollFrom deadline count code.interval).run
          { context with credential := context.credential.forDeviceCode code.deviceCode } := by
  have hgiven : context.credential.withDeviceCode code.deviceCode =
      .ok (context.credential.forDeviceCode code.deviceCode) := by
    rw [Credential.withDeviceCode, hgrant]
    rfl
  have hchange : (changeCredential (·.withDeviceCode code.deviceCode)).perform context =
      (.ok ⟨⟩, { context with
        credential := context.credential.forDeviceCode code.deviceCode }) := by
    rw [changeCredential, Action.perform_get_bind, Action.perform_ofExcept_bind, hgiven]
    rfl
  have hrun : (changeCredential (·.withDeviceCode code.deviceCode)).run.run context =
      (changeCredential (·.withDeviceCode code.deviceCode)).perform context := rfl
  rw [pollWith, StateT.run_bind, hrun, hchange]
  have hsame : ({ context with
      credential := context.credential.forDeviceCode code.deviceCode } : Context).deadline? code =
        context.deadline? code := rfl
  change StateT.run (match ({ context with
      credential := context.credential.forDeviceCode code.deviceCode } : Context).deadline? code
    with | none => _ | some deadline => _) _ = _
  rw [hsame]
  cases context.deadline? code <;> rfl

end Context

/-! ### What rounds have in common -/

/-- Whether rounds lead from one world to another, each beginning where the one before it ended. -/
def PollRound.Lead (start : World) : List PollRound → World → Prop
  | [], stop => start = stop
  | round :: rounds, stop => round.before = start ∧ PollRound.Lead round.after rounds stop

namespace Polls

variable {credential : Credential} {request : Request} {deadline : Number} {start stop : World}
  {interval : Int} {rounds : List PollRound} {run : PollRun}

theorem ne_nil (h : Polls credential request deadline start interval rounds run stop) :
    rounds ≠ [] := by
  cases h with
  | last => exact List.cons_ne_nil _ _
  | more => exact List.cons_ne_nil _ _

theorem lead (h : Polls credential request deadline start interval rounds run stop) :
    PollRound.Lead start rounds stop := by
  induction h with
  | last => exact ⟨rfl, rfl⟩
  | more round hround hgoes hanswer hrest ih => exact ⟨rfl, ih⟩

theorem performs (h : Polls credential request deadline start interval rounds run stop) :
    ∀ round ∈ rounds, round.Performs credential request := by
  induction h with
  | last round hround hstops =>
      intro other hother
      rwa [List.mem_singleton.mp hother]
  | more round hround hgoes hanswer hrest ih =>
      intro other hother
      rcases List.mem_cons.mp hother with rfl | hother
      · exact hround
      · exact ih other hother

theorem yields (h : Polls credential request deadline start interval rounds run stop) :
    rounds.map (·.outcome credential.config.logPii) =
      run.answers.map Except.ok ++ run.failure.toList.map Except.error := by
  induction h with
  | last round hround hstops =>
      rw [List.map_singleton]
      cases round.outcome credential.config.logPii <;> rfl
  | more round hround hgoes hanswer hrest ih => rw [List.map_cons, hanswer, ih]; rfl

theorem interval_eq (h : Polls credential request deadline start interval rounds run stop) (k : Nat)
    (hk : k < rounds.length) :
    rounds[k].interval = interval + 5 * (rounds.take k).countP PollRound.slowsDown := by
  induction h generalizing k with
  | last round hround hstops =>
      obtain rfl : k = 0 := by simpa using hk
      simp
  | more round hround hgoes hanswer hrest ih =>
      cases k with
      | zero => simp
      | succ k =>
          have hrest := ih k (Nat.lt_of_succ_lt_succ hk)
          rw [List.getElem_cons_succ, hrest, List.take_succ_cons, List.countP_cons]
          split <;> push_cast <;> ring

theorem more_iff (h : Polls credential request deadline start interval rounds run stop) (k : Nat)
    (hk : k < rounds.length) : k + 1 < rounds.length ↔ rounds[k].GoesOn deadline := by
  induction h generalizing k with
  | last round hround hstops =>
      obtain rfl : k = 0 := by simpa using hk
      simpa using hstops
  | more round hround hgoes hanswer hrest ih =>
      cases k with
      | zero =>
          have hpos := List.length_pos_iff.mpr hrest.ne_nil
          simpa [hgoes] using hpos
      | succ k =>
          rw [List.getElem_cons_succ, ← ih k (Nat.lt_of_succ_lt_succ hk), List.length_cons,
            Nat.succ_lt_succ_iff]

theorem sends (h : Polls credential request deadline start interval rounds run stop) :
    ∃ count, start.Sends stop (List.replicate count request) := by
  have hround {round : PollRound} (hround : round.Performs credential request) :
      ∃ count, round.before.Sends round.after (List.replicate count request) := by
    obtain ⟨attempts, -, hdelivers⟩ := hround.delivers
    have hpause := World.afterPause_sends (.int round.interval) round.before
    exact ⟨attempts, hpause.trans hdelivers.sends⟩
  induction h with
  | last round hperforms hstops => exact hround hperforms
  | more round hperforms hgoes hanswer hrest ih =>
      obtain ⟨first, hfirst⟩ := hround hperforms
      obtain ⟨later, hlater⟩ := ih
      refine ⟨first + later, ?_⟩
      rw [List.replicate_add]
      exact hfirst.trans hlater

theorem requests (h : Polls credential request deadline start interval rounds run stop) :
    ∀ entry ∈ start.transcript stop, entry.1 = request := by
  intro entry hentry
  obtain ⟨count, hsends⟩ := h.sends
  rw [hsends.transcript_eq, List.mem_mapIdx] at hentry
  obtain ⟨index, hindex, rfl⟩ := hentry
  exact List.getElem_replicate _

/-- Each round takes at least the first interval, so all but the last one fit before the
deadline. -/
theorem length_lt (h : Polls credential request deadline start interval rounds run stop)
    (hpasses : ∀ round ∈ rounds, ∀ response, round.delivered = .ok response →
      round.before.Passes round.after round.interval)
    {pace : Int} (hpace : 0 ≤ pace) (hinterval : pace ≤ interval) {t d : ℚ}
    (hstart : start.elapsed.toRat? = some t) (hdeadline : deadline.toRat? = some d) :
    rounds.length ≤ 1 ∨ ((rounds.length : ℚ) - 1) * pace < d - t := by
  induction h generalizing t with
  | last => exact .inl le_rfl
  | more round hround hgoes hanswer hrest ih =>
      rename_i rounds run stop
      right
      obtain ⟨response, hresponse⟩ := hgoes.exists_delivered
      obtain ⟨u, v, hu, hv, hlater⟩ := hpasses round List.mem_cons_self response hresponse
      obtain rfl := Option.some.inj (hstart.symm.trans hu)
      have hpace' : (pace : ℚ) ≤ round.interval := by exact_mod_cast hinterval
      have hbefore : v < d := by
        by_contra hreached
        have hatMost := (Number.isAtMost_iff hdeadline hv).mpr (not_lt.mp hreached)
        cases hgoes.2.symm.trans hatMost
      have hslower : pace ≤ round.interval + if round.slowsDown then 5 else 0 := by
        split <;> omega
      have hcount := ih (fun other hother => hpasses other (List.mem_cons_of_mem _ hother)) hslower
        hv
      rw [List.length_cons]
      push_cast
      rcases hcount with hone | hmore
      · have hlength : (rounds.length : ℚ) ≤ 1 := by exact_mod_cast hone
        have hnonneg : (0 : ℚ) ≤ pace := by exact_mod_cast hpace
        have hfew := mul_le_of_le_one_left hnonneg hlength
        linarith
      · linarith

end Polls

/-! ### The whole polling -/

/-- Whether no reading of the clock is rounded so that time is lost while some rounds are made: each
of them that is answered takes at least its pause, and the lifetime is counted in full up to the
deadline. -/
structure PollRound.KeepTime (rounds : List PollRound) (start : World) (lifetime : Int)
    (deadline : Number) : Prop where
  passes : ∀ round ∈ rounds, ∀ response, round.delivered = .ok response →
    round.before.Passes round.after round.interval
  lifetime : ∃ t, start.elapsed.toRat? = some t ∧ deadline.toRat? = some (t + lifetime)

theorem World.elapsed_of_whole {world : World} {first now : Int}
    (hfirst : world.start = .whole first) (hnow : world.now = .whole now) :
    world.elapsed = .whole (now - first) := by
  rw [elapsed, hfirst, hnow, Number.sub?_whole]
  rfl

/-- A round that is answered keeps a clock that shows whole seconds, and does not lose the pause. -/
theorem PollRound.Performs.clock {round : PollRound} {credential : Credential} {request : Request}
    (h : round.Performs credential request) (hclient : credential.client.PausesWhole)
    {response : Response} (hresponse : round.delivered = .ok response) {now : Int}
    (hnow : round.before.now = .whole now) :
    round.after.start = round.before.start ∧
      ∃ later, round.after.now = .whole later ∧ now + round.interval ≤ later := by
  have hperform := h.performed
  rw [Credential.executeAfter_perform] at hperform
  cases htake : round.before.timer.take (.int round.interval) with
  | error failure => cases (h.refused failure htake).1.symm.trans hresponse
  | ok seconds =>
      rw [htake] at hperform
      dsimp only at hperform
      obtain ⟨_, hsame⟩ := round.before.exists_afterPause_eq (.int round.interval)
      have hkeeps := Credential.execute_keepsWhole hclient
        (round.before.afterPause (.int round.interval))
      rw [hperform] at hkeeps
      exact ⟨hkeeps.start.trans (by rw [hsame]),
        hkeeps.now _ (World.now_afterPause_of_take htake hnow)⟩

/-- A clock that shows whole seconds keeps time if the pauses between attempts are whole. -/
theorem Polls.keepTime_of_whole {credential : Credential} {request : Request} {deadline : Number}
    {start stop : World} {interval : Int} {rounds : List PollRound} {run : PollRun}
    (h : Polls credential request deadline start interval rounds run stop)
    (hclient : credential.client.PausesWhole) {first now : Int}
    (hfirst : start.start = .whole first) (hnow : start.now = .whole now) :
    ∀ round ∈ rounds, ∀ response, round.delivered = .ok response →
      round.before.Passes round.after round.interval := by
  have hpasses {round : PollRound} (hround : round.Performs credential request) {now : Int}
      (hfirst : round.before.start = .whole first) (hnow : round.before.now = .whole now)
      {response : Response} (hresponse : round.delivered = .ok response) :
      round.before.Passes round.after round.interval := by
    obtain ⟨hsame, later, hlater, hle⟩ := hround.clock hclient hresponse hnow
    refine ⟨(now - first : Int), (later - first : Int), ?_, ?_, ?_⟩
    · rw [World.elapsed_of_whole hfirst hnow, Number.toRat?_whole]
    · rw [World.elapsed_of_whole (hsame.trans hfirst) hlater, Number.toRat?_whole]
    · exact_mod_cast (by omega : now - first + round.interval ≤ later - first)
  induction h generalizing now with
  | last round hround hstops =>
      intro other hother response hresponse
      obtain rfl := List.mem_singleton.mp hother
      exact hpasses hround hfirst hnow hresponse
  | more round hround hgoes hanswer hrest ih =>
      intro other hother response hresponse
      rcases List.mem_cons.mp hother with rfl | hother
      · exact hpasses hround hfirst hnow hresponse
      · obtain ⟨_, hdelivered⟩ := hgoes.exists_delivered
        obtain ⟨hsame, later, hlater, -⟩ := hround.clock hclient hdelivered hnow
        exact ih (hsame.trans hfirst) hlater other hother response hresponse

/-- What a polling does between two worlds until some deadline: rounds with one request each, and
what they yield. -/
structure PollTrace (credential : Credential) (request : Request) (code : DeviceCode)
    (deadline : Number) (start : World) (rounds : List PollRound) (run : PollRun) (stop : World) :
    Prop where
  nonempty : rounds ≠ []
  lead : PollRound.Lead start rounds stop
  performs : ∀ round ∈ rounds, round.Performs credential request
  requests : ∀ entry ∈ start.transcript stop, entry.1 = request
  /-- Every error that asks for fewer requests adds five seconds to the pauses after it. -/
  interval : ∀ (k : Nat) (hk : k < rounds.length),
    rounds[k].interval = code.interval + 5 * (rounds.take k).countP PollRound.slowsDown
  /-- Each answer is yielded; a round that yields none ends the polling with its failure. -/
  yields : rounds.map (·.outcome credential.config.logPii) =
    run.answers.map Except.ok ++ run.failure.toList.map Except.error
  /-- Another round follows exactly when the sign-in is open and the code has not expired. -/
  followed : ∀ (k : Nat) (hk : k < rounds.length),
    k + 1 < rounds.length ↔ rounds[k].GoesOn deadline
  /-- Where the clock and the pauses between attempts are in whole seconds, no time is lost. -/
  keepsTime : credential.client.PausesWhole → start.ShowsWhole →
    PollRound.KeepTime rounds start code.expiresIn deadline
  bounded : PollRound.KeepTime rounds start code.expiresIn deadline →
    (rounds.length : Int) ≤ max 1 ⌈(code.expiresIn : ℚ) / code.interval⌉

theorem Polls.trace {credential : Credential} {request : Request} {code : DeviceCode}
    {deadline : Number} {start stop : World} {rounds : List PollRound} {run : PollRun}
    (h : Polls credential request deadline start code.interval rounds run stop)
    (hdeadline : start.elapsed.add? (.whole code.expiresIn) = some deadline)
    (hinterval : 1 ≤ code.interval) :
    PollTrace credential request code deadline start rounds run stop where
  nonempty := h.ne_nil
  lead := h.lead
  performs := h.performs
  requests := h.requests
  interval := h.interval_eq
  yields := h.yields
  followed := h.more_iff
  keepsTime := by
    rintro hclient ⟨first, now, hfirst, hnow⟩
    have helapsed := World.elapsed_of_whole hfirst hnow
    rw [helapsed, Number.add?_whole] at hdeadline
    refine ⟨h.keepTime_of_whole hclient hfirst hnow, (now - first : Int), ?_, ?_⟩
    · rw [helapsed, Number.toRat?_whole]
    · rw [← Option.some.inj hdeadline, Number.toRat?_whole]
      push_cast
      rfl
  bounded hclock := by
    obtain ⟨t, ht, hdeadline⟩ := hclock.lifetime
    have hpositive : (0 : ℚ) < code.interval := by exact_mod_cast hinterval
    rcases h.length_lt hclock.passes (by omega) le_rfl ht hdeadline with hone | hmore
    · exact le_max_of_le_left (by exact_mod_cast hone)
    · have hfits : ((rounds.length : ℚ) - 1) * code.interval < code.expiresIn := by linarith
      have hbelow : (((rounds.length : Int) - 1 : Int) : ℚ) <
          (code.expiresIn : ℚ) / code.interval := by
        rw [lt_div_iff₀ hpositive]
        push_cast
        exact hfits
      have hceil := Int.lt_ceil.mpr hbelow
      exact le_max_of_le_right (by omega)

theorem AppConfig.isBlankText_clientId {settings : AppSettings} {config : AppConfig}
    (h : ofSettings settings = .ok config) : Text.isBlankText config.clientId = false := by
  unfold ofSettings at h
  split at h
  next => cases h
  next hpresent =>
    obtain ⟨scope, -, h⟩ := Failure.of_bind_ok h
    cases h
    rw [Text.isBlankText_trimmed]
    exact (Bool.or_eq_false_iff.mp (Bool.eq_false_iff.mpr hpresent)).2

namespace Context

variable {context : Context} {code : DeviceCode} {held : Value} {word : String}

theorem exists_holdsCode (hclient : Text.isBlankText context.credential.config.clientId = false)
    (hcode : code.deviceCode = .text word) (hword : Text.isBlankText word = false) :
    ∃ fields, GrantKind.deviceCode.IsForm fields ∧ Assoc.get? "device_code" fields = some word ∧
      HoldsCode { context with
        credential := context.credential.forDeviceCode code.deviceCode } fields := by
  let asking : Context := { context with
    credential := context.credential.forDeviceCode code.deviceCode }
  obtain ⟨fields, hform, hkind, hfield⟩ :=
    Credential.deviceCodeForm_of_code (show asking.credential.refreshToken = .null from rfl)
      hclient hword
  refine ⟨fields, hkind, hfield, fun world => ?_, rfl⟩
  change (Action.ofExcept (asking.credential.deviceCodeForm code.deviceCode)).perform world = _
  rw [hcode, hform, Action.perform_ofExcept]

/-- Polling until a deadline that no clock can show fails at once. -/
theorem pollWith_of_no_deadline (hgrant : context.credential.grant = .deviceCode held)
    (hdeadline : context.deadline? code = none) (count : Nat) :
    (pollWith code count).run context = ({ failure := some .outOfRange },
      { context with credential := context.credential.forDeviceCode code.deviceCode }) := by
  rw [pollWith_run code count hgrant, hdeadline]

theorem poll_of_no_deadline (hgrant : context.credential.grant = .deviceCode held)
    (hdeadline : context.deadline? code = none) :
    (poll (some code) none).run context = ({ failure := some .outOfRange },
      { context with credential := context.credential.forDeviceCode code.deviceCode }) :=
  pollWith_of_no_deadline hgrant hdeadline context.enoughPolls

/-- Whatever is answered, the polls for a device code are rounds with one form. -/
theorem pollWith_trace (hgrant : context.credential.grant = .deviceCode held)
    {fields : Credential.Fields} (hholds : HoldsCode { context with
      credential := context.credential.forDeviceCode code.deviceCode } fields)
    {deadline : Number} (hdeadline : context.deadline? code = some deadline)
    (hinterval : 1 ≤ code.interval) :
    ∃ rounds, PollTrace (context.credential.forDeviceCode code.deviceCode)
      ((context.credential.forDeviceCode code.deviceCode).tokenRequest fields) code deadline
      context.world rounds ((pollWith code context.enoughPolls).run context).1
      ((pollWith code context.enoughPolls).run context).2.world := by
  rw [pollWith_run code context.enoughPolls hgrant, hdeadline]
  obtain ⟨rounds, hrounds⟩ := pollFrom_polls hholds (Nat.lt_succ_self _) rfl
  exact ⟨rounds, hrounds.trace hdeadline hinterval⟩

end Context

/-- Polling with a device code, whatever the credential held before and whatever the service
answers. It fails at once if no clock can show when the code expires. -/
theorem device_code_polling {context : Context} {code : DeviceCode} {held : Value} {word : String}
    (hgrant : context.credential.grant = .deviceCode held)
    (hclient : Text.isBlankText context.credential.config.clientId = false)
    (hcode : code.deviceCode = .text word) (hword : Text.isBlankText word = false)
    (hinterval : 1 ≤ code.interval) :
    ∃ fields, GrantKind.deviceCode.IsForm fields ∧ Assoc.get? "device_code" fields = some word ∧
      (context.deadline? code = none →
        ((Context.poll (some code) none).run context).1 = { failure := some .outOfRange } ∧
          ((Context.poll (some code) none).run context).2.world = context.world) ∧
      ∀ deadline, context.deadline? code = some deadline →
        ∃ rounds, PollTrace (context.credential.forDeviceCode code.deviceCode)
          ((context.credential.forDeviceCode code.deviceCode).tokenRequest fields) code deadline
          context.world rounds ((Context.poll (some code) none).run context).1
          ((Context.poll (some code) none).run context).2.world := by
  obtain ⟨fields, hkind, hfield, hholds⟩ := Context.exists_holdsCode hclient hcode hword
  refine ⟨fields, hkind, hfield, fun hdeadline => ?_, fun deadline hdeadline => ?_⟩
  · rw [Context.poll_of_no_deadline hgrant hdeadline]
    exact ⟨rfl, rfl⟩
  · exact Context.pollWith_trace hgrant hholds hdeadline hinterval

/-- A trial of a device code by a credential that holds a refresh token, where the user is slow to
sign in and a request has to be repeated. -/
def Context.pollingTrial : Context where
  credential := {
    config := trialConfig, client := .standard, grant := .deviceCode .null
    refreshToken := .text "refresh" }
  world := {
    start := .whole 0, now := .whole 0, entropy := ⟨fun _ => 0, 0⟩
    replies := [
      .response ⟨400, "\x7b\"error\":\"authorization_pending\"\x7d"⟩,
      .fault .timeout "read",
      .response ⟨400, "\x7b\"error\":\"slow_down\"\x7d"⟩,
      .response ⟨400, "\x7b\"error\":\"authorization_pending\"\x7d"⟩] }

/-- A device code that lasts ten seconds and is to be polled every four. -/
def DeviceCode.short : DeviceCode where
  deviceCode := .text "device"
  userCode := .text "user"
  verificationUri := .text "https://device.example"
  expiresIn := 10
  interval := 4

theorem pollingTrial_has_three_rounds_at_most :
    ∃ fields rounds, PollTrace (Context.pollingTrial.credential.forDeviceCode (.text "device"))
        ((Context.pollingTrial.credential.forDeviceCode (.text "device")).tokenRequest fields)
        .short (.whole 10) Context.pollingTrial.world rounds
        ((Context.poll (some .short) none).run Context.pollingTrial).1
        ((Context.poll (some .short) none).run Context.pollingTrial).2.world ∧
      rounds.length ≤ 3 := by
  have hconfig : AppConfig.ofSettings { clientId := .text "client", tenant := .text "contoso" } =
      .ok Context.trialConfig := rfl
  obtain ⟨fields, -, -, -, htraces⟩ :=
    device_code_polling (show Context.pollingTrial.credential.grant = .deviceCode .null from rfl)
      (AppConfig.isBlankText_clientId hconfig)
      (show DeviceCode.short.deviceCode = .text "device" from rfl) (by decide) (by decide)
  obtain ⟨rounds, htrace⟩ := htraces (.whole 10) rfl
  refine ⟨fields, rounds, htrace, ?_⟩
  have hclock := htrace.keepsTime ⟨1, Int.one_nonneg, rfl⟩ ⟨0, 0, rfl, rfl⟩
  have hbound := htrace.bounded hclock
  have hceil : ⌈(DeviceCode.short.expiresIn : ℚ) / DeviceCode.short.interval⌉ = 3 := by
    norm_num [DeviceCode.short, Int.ceil_eq_iff]
  rw [hceil] at hbound
  omega

/-- A trial where the clock shows three hundredths of a second at the beginning and the user does
not sign in. -/
def Context.fractionalTrial : Context := { pollingTrial with
  world := { pollingTrial.world with
    now := .real (Double.ofDecimal false 3 (-2))
    replies := List.replicate 4
      (.response ⟨400, "\x7b\"error\":\"authorization_pending\"\x7d"⟩) } }

/-- A device code that lasts four seconds and is to be polled every two. -/
def DeviceCode.brief : DeviceCode := { short with expiresIn := 4, interval := 2 }

/-- A device code that lasts longer than a double can tell. -/
def DeviceCode.endless : DeviceCode := { brief with expiresIn := Nat.pow 10 309 }

/-- A trial where the service asks for fewer requests. -/
def Context.slowedTrial : Context := { pollingTrial with
  world := { pollingTrial.world with
    replies := [.response ⟨400, "\x7b\"error\":\"slow_down\"\x7d"⟩] } }

/-- A device code that is to be polled every 9223372034 seconds. Five seconds more are more than the
timer of a system can count in nanoseconds. -/
def DeviceCode.rare : DeviceCode :=
  { short with expiresIn := Nat.pow 10 12, interval := 9223372034 }

/-- Where a clock counts in doubles, twice two seconds after its beginning it can still show less
than four seconds more, and no double is as late as some codes expire. A timer can refuse the pause
between two polls. -/
theorem polling_meets_the_limits_of_time :
    (Context.fractionalTrial.credential.grant = .deviceCode .null ∧
      DeviceCode.brief.deviceCode = .text "device" ∧ DeviceCode.brief.interval = 2 ∧
      ((Context.poll (some .brief) none).run Context.fractionalTrial).2.world.sent.length = 3 ∧
      max 1 ⌈(DeviceCode.brief.expiresIn : ℚ) / DeviceCode.brief.interval⌉ = 2) ∧
    (((Context.poll (some .endless) none).run Context.fractionalTrial).1 =
        { failure := some .outOfRange } ∧
      ((Context.poll (some .endless) none).run Context.fractionalTrial).2.world.sent = []) ∧
    (let polled := (Context.poll (some .rare) none).run Context.slowedTrial;
      polled.1.answers.length = 1 ∧ polled.1.failure matches some .outOfRange ∧
        polled.2.world.sent.length = 1 ∧
        polled.2.world.elapsed.isBelow (.whole DeviceCode.rare.expiresIn) = true) := by
  have hendless := Context.poll_of_no_deadline
    (show Context.fractionalTrial.credential.grant = .deviceCode .null from rfl)
    (show Context.fractionalTrial.deadline? .endless = none by decide +kernel)
  have hceil : ⌈(DeviceCode.brief.expiresIn : ℚ) / DeviceCode.brief.interval⌉ = 2 := by
    norm_num [DeviceCode.brief, Int.ceil_eq_iff]
  exact ⟨⟨rfl, rfl, rfl, by decide +kernel, by rw [hceil]; rfl⟩,
    by rw [hendless]; exact ⟨rfl, rfl⟩,
    by decide +kernel⟩

end OAuthClient
