import Mathlib.Data.Nat.Find
import OAuthClient.Proofs.Retries

/-! # The law of retries

The replies of the service decide how often a request is sent and how long the
pauses in between are: each is twice the one before, and the outcome is that of
the last attempt. The law holds exactly as long as the pauses can be made. A
delay in double precision cannot be doubled after 1025 attempts, and the timer
of a system refuses a pause that is negative, undefined or too long to count;
the failure is then that of the doubling or of the timer.
-/

namespace OAuthClient

/-- Whether an attempt with this reply is made again, if a further one is allowed. -/
def Reply.IsRetried (reply : Reply) : Prop :=
  ∃ fault reason, reply.outcome = .error (.transport fault reason)

/-- A timer does not fail as if there were nothing to try. -/
theorem Timer.take_ne_noAttempts (timer : Timer) (seconds : Value) :
    timer.take seconds ≠ .error .noAttempts := by
  intro h
  rcases Failure.of_bind_error h with hnumber | ⟨number, -, hrest⟩
  · rw [Value.toNumber] at hnumber
    cases hvalue : seconds.number? <;> rw [hvalue] at hnumber <;> cases hnumber
  · rcases Failure.of_bind_error hrest with haccept | ⟨_, -, hpure⟩
    · cases timer with
      | lenient => cases haccept
      | system =>
          rw [accept] at haccept
          split at haccept
          · cases haccept
          · split at haccept
            · cases haccept
            · split at haccept <;> cases haccept
    · cases hpure

/-- A number that can be doubled some times over is multiplied by the power of two. -/
theorem Number.eq_of_doubled {number : Number} {count : Nat} {doubled : Value}
    (h : (Value.ofNumber number).doubled count = .ok doubled) :
    doubled = .ofNumber (number.times (Nat.pow 2 count)) := by
  cases number with
  | whole seconds => exact (Except.ok.inj h).symm
  | real seconds =>
      change (if _ then _ else _) = _ at h
      split at h
      · exact (Except.ok.inj h).symm
      · cases h

namespace World

variable {world before after : World} {request : Request} {delay : Number}
  {remaining made attempts limit : Nat} {outcome : Except Failure Response}

theorem afterPause_pauses (seconds : Value) (world : World) :
    (world.afterPause seconds).pauses = world.pauses ++ [seconds] := by
  obtain ⟨now, hpaused⟩ := world.exists_afterPause_eq seconds
  rw [hpaused]

theorem afterPause_timer (seconds : Value) (world : World) :
    (world.afterPause seconds).timer = world.timer := by
  obtain ⟨now, hpaused⟩ := world.exists_afterPause_eq seconds
  rw [hpaused]

/-- The pauses between attempts, when some were made before. -/
def doublings (delay : Number) (made count : Nat) : List Value :=
  (List.range count).map fun index => .ofNumber (delay.times (Nat.pow 2 (made + index)))

theorem doublings_succ (delay : Number) (made count : Nat) :
    doublings delay made (count + 1) =
      .ofNumber (delay.times (Nat.pow 2 made)) :: doublings delay (made + 1) count := by
  simp only [doublings, List.range_succ_eq_map, List.map_cons, List.map_map, Nat.add_zero]
  refine congrArg _ (List.map_congr_left fun index _ => ?_)
  rw [Function.comp_apply, Nat.succ_eq_add_one, Nat.add_assoc, Nat.add_comm 1]

/-- How long a timer waits after the first attempt and some further ones, if the delay can be
doubled so often and the timer takes what comes of it. -/
def pauseAfter (timer : Timer) (delay : Number) (made : Nat) : Except Failure Number :=
  (Value.ofNumber delay).doubled made >>= timer.take

theorem pauseAfter_of_doubled {timer : Timer} {doubled : Value}
    (h : (Value.ofNumber delay).doubled made = .ok doubled) :
    pauseAfter timer delay made = timer.take doubled := by
  rw [pauseAfter, h]
  rfl

/-! ### One attempt -/

/-- An attempt that is not made again decides the outcome. -/
theorem retryFrom_of_end (hend : remaining = 0 ∨ ¬ (world.replyAt 0).IsRetried) :
    (retryFrom (exchange request) pause (.ofNumber delay) (remaining + 1) made).perform world =
      ((world.replyAt 0).outcome, world.afterRequest request) := by
  rw [retryFrom, Action.perform_attempt_bind, exchange_perform]
  split
  next answer hreply => exact congrArg (·, _) hreply.symm
  next fault reason hreply =>
    rw [if_pos (hend.resolve_right fun hnot => hnot ⟨fault, reason, hreply⟩)]
    exact congrArg (·, _) hreply.symm
  next failure hother hreply => exact congrArg (·, _) hreply.symm

/-- An attempt that is made again is followed by a pause and the remaining attempts. -/
theorem retryFrom_of_isRetried (hreply : (world.replyAt 0).IsRetried) {seconds : Number}
    (hpause : pauseAfter world.timer delay made = .ok seconds) :
    ∃ paused, world.Sends paused [request] ∧ paused.timer = world.timer ∧
      paused.pauses = world.pauses ++ [.ofNumber (delay.times (Nat.pow 2 made))] ∧
      (retryFrom (exchange request) pause (.ofNumber delay) (remaining + 2) made).perform world =
        (retryFrom (exchange request) pause (.ofNumber delay) (remaining + 1) (made + 1)).perform
          paused := by
  obtain ⟨fault, reason, hreply⟩ := hreply
  obtain ⟨length, hdoubled, htake⟩ := Failure.of_bind_ok hpause
  let sent := world.afterRequest request
  refine ⟨sent.afterPause length,
    (world.afterRequest_sends request).trans (afterPause_sends length sent),
    afterPause_timer length sent, ?_, ?_⟩
  · rw [afterPause_pauses, Number.eq_of_doubled hdoubled]
    rfl
  · rw [retryFrom, Action.perform_attempt_bind, exchange_perform, hreply]
    dsimp only
    rw [if_neg (Nat.succ_ne_zero remaining), hdoubled, Action.perform_ofExcept_bind]
    exact Action.perform_bind_of_ok (pause_of_take htake)

/-- An attempt that is made again breaks off when the pause after it cannot be made. A delay that
can be doubled was asked for, even if the timer refuses it. -/
theorem retryFrom_of_pauseAfter_error (hreply : (world.replyAt 0).IsRetried) {failure : Failure}
    (hpause : pauseAfter world.timer delay made = .error failure) :
    ∃ stopped, world.Sends stopped [request] ∧
      stopped.pauses = world.pauses ++ ((Value.ofNumber delay).doubled made).toOption.toList ∧
      (retryFrom (exchange request) pause (.ofNumber delay) (remaining + 2) made).perform world =
        (.error failure, stopped) := by
  obtain ⟨fault, reason, hreply⟩ := hreply
  rw [retryFrom, Action.perform_attempt_bind, exchange_perform, hreply]
  dsimp only
  rw [if_neg (Nat.succ_ne_zero remaining), Action.perform_ofExcept_bind]
  let sent := world.afterRequest request
  have hsent := world.afterRequest_sends request
  rcases Failure.of_bind_error hpause with hdoubled | ⟨length, hdoubled, htake⟩
  · rw [hdoubled]
    exact ⟨sent, hsent, (List.append_nil _).symm, rfl⟩
  · rw [hdoubled]
    dsimp only
    refine ⟨sent.afterPause length, hsent.trans (afterPause_sends length sent),
      afterPause_pauses length sent, ?_⟩
    have htake : sent.timer.take length = .error failure := htake
    rw [Action.perform_bind, pause_perform, htake]
    rfl

/-! ### Many attempts -/

/-- Attempts that are all made again lead to the ones that remain after them. -/
theorem retryFrom_after_retried (hretried : ∀ index < attempts, (world.replyAt index).IsRetried)
    (hpause : ∀ index < attempts, ∃ seconds,
      pauseAfter world.timer delay (made + index) = .ok seconds) :
    ∃ paused, world.Sends paused (List.replicate attempts request) ∧
      paused.timer = world.timer ∧
      paused.pauses = world.pauses ++ doublings delay made attempts ∧
      (retryFrom (exchange request) pause (.ofNumber delay) (remaining + 1 + attempts)
        made).perform world =
        (retryFrom (exchange request) pause (.ofNumber delay) (remaining + 1)
          (made + attempts)).perform paused := by
  induction attempts generalizing made world with
  | zero => exact ⟨world, Sends.refl world, rfl, (List.append_nil _).symm, rfl⟩
  | succ attempts ih =>
      obtain ⟨seconds, hseconds⟩ := hpause 0 (Nat.succ_pos _)
      obtain ⟨first, hfirst, htimer, hfirstPause, hstep⟩ := @retryFrom_of_isRetried world request
        delay (remaining + attempts) made (hretried 0 (Nat.succ_pos _)) _ hseconds
      have hlater (index : Nat) : first.replyAt index = world.replyAt (index + 1) := by
        rw [hfirst.replyAt, List.length_singleton, Nat.add_comm]
      obtain ⟨paused, hsent, hsame, hpauses, hrest⟩ := @ih first (made + 1)
        (fun index hindex => by rw [hlater]; exact hretried _ (Nat.succ_lt_succ hindex))
        (fun index hindex => by
          rw [htimer, Nat.add_assoc, Nat.add_comm 1]
          exact hpause _ (Nat.succ_lt_succ hindex))
      refine ⟨paused, hfirst.trans hsent, hsame.trans htimer, ?_, ?_⟩
      · rw [hpauses, hfirstPause, doublings_succ, List.append_assoc, List.singleton_append]
      · rw [show remaining + 1 + (attempts + 1) = remaining + attempts + 2 by omega, hstep,
          show remaining + attempts + 1 = remaining + 1 + attempts by omega, hrest,
          show made + 1 + attempts = made + (attempts + 1) by omega]

/-- What became of a request that was sent some number of times: it was the same every time, every
pause was twice the one before, and the outcome is that of the last attempt. -/
structure Repeats (before after : World) (request : Request) (delay : Number) (attempts : Nat)
    (outcome : Except Failure Response) : Prop where
  sends : before.Sends after (List.replicate attempts request)
  pauses : after.pauses = before.pauses ++ doublings delay 0 (attempts - 1)
  outcome_eq : outcome = (before.replyAt (attempts - 1)).outcome

/-- The law of retries: the first attempt that is not made again is the last one, and so is the
last one that is allowed. -/
structure FollowsRetryLaw (before after : World) (request : Request) (delay : Number)
    (limit : Nat) (outcome : Except Failure Response) : Prop where
  ended : ∀ index < limit, (∀ earlier < index, (before.replyAt earlier).IsRetried) →
    ¬ (before.replyAt index).IsRetried → before.Repeats after request delay (index + 1) outcome
  exhausted : (∀ index < limit, (before.replyAt index).IsRetried) →
    before.Repeats after request delay limit outcome

/-- Whether every pause can be made that comes before a further attempt. -/
def CanPause (world : World) (delay : Number) (limit : Nat) : Prop :=
  ∀ index, index + 1 < limit → (∀ earlier ≤ index, (world.replyAt earlier).IsRetried) →
    ∃ seconds, pauseAfter world.timer delay index = .ok seconds

/-- What became of a request after whose attempts one pause could not be made: it was sent so often
as the pauses before that allow, and it failed as that pause did. -/
structure BreaksOff (before after : World) (request : Request) (delay : Number) (limit made : Nat)
    (outcome : Except Failure Response) : Prop where
  early : made + 1 < limit
  retried : ∀ index ≤ made, (before.replyAt index).IsRetried
  paused : ∀ index < made, ∃ seconds, pauseAfter before.timer delay index = .ok seconds
  failed : ∃ failure, pauseAfter before.timer delay made = .error failure ∧
    outcome = .error failure
  sends : before.Sends after (List.replicate (made + 1) request)
  pauses : after.pauses = before.pauses ++
    (doublings delay 0 made ++ ((Value.ofNumber delay).doubled made).toOption.toList)

/-- The attempts up to one that is not made again follow the law. -/
theorem retryFrom_repeats (hpause : world.CanPause delay limit) (hlimit : attempts < limit)
    (hretried : ∀ index < attempts, (world.replyAt index).IsRetried)
    (hend : attempts + 1 = limit ∨ ¬ (world.replyAt attempts).IsRetried)
    (h : (retryFrom (exchange request) pause (.ofNumber delay) limit 0).perform world =
      (outcome, after)) :
    world.Repeats after request delay (attempts + 1) outcome := by
  obtain ⟨remaining, rfl⟩ : ∃ remaining, limit = remaining + 1 + attempts :=
    ⟨limit - attempts - 1, by omega⟩
  obtain ⟨paused, hsent, -, hpauses, hperform⟩ :=
    @retryFrom_after_retried world request delay remaining 0 attempts hretried
      (fun index hindex => by
        rw [Nat.zero_add]
        exact hpause index (by omega) fun earlier hle =>
          hretried earlier (Nat.lt_of_le_of_lt hle hindex))
  have hreply : paused.replyAt 0 = world.replyAt attempts := by
    rw [hsent.replyAt, List.length_replicate, Nat.add_zero]
  rw [hperform, retryFrom_of_end (by rw [hreply]; exact hend.imp_left (by omega))] at h
  obtain ⟨rfl, rfl⟩ := Prod.mk.inj h
  refine ⟨?_, hpauses, ?_⟩
  · rw [List.replicate_succ']
    exact hsent.trans (paused.afterRequest_sends request)
  · rw [hreply, Nat.add_sub_cancel]

/-- Attempts after which a pause cannot be made break off at the first such pause. -/
theorem retryFrom_breaksOff (hpause : ¬ world.CanPause delay limit)
    (h : (retryFrom (exchange request) pause (.ofNumber delay) limit 0).perform world =
      (outcome, after)) :
    ∃ made, world.BreaksOff after request delay limit made outcome := by
  classical
  simp only [CanPause, not_forall] at hpause
  obtain ⟨some, hsome, hretried, hfailed⟩ := hpause
  have hexists : ∃ made, ¬ ∃ seconds, pauseAfter world.timer delay made = .ok seconds :=
    ⟨some, hfailed⟩
  -- The attempts end at the first pause that cannot be made.
  obtain ⟨made, hmade⟩ : ∃ made, made = Nat.find hexists := ⟨_, rfl⟩
  have hle : made ≤ some := hmade ▸ Nat.find_min' hexists hfailed
  have hbefore : ∀ index < made, ∃ seconds, pauseAfter world.timer delay index = .ok seconds :=
    fun index hindex => Classical.not_not.mp (Nat.find_min hexists (hmade ▸ hindex))
  obtain ⟨failure, hfailure⟩ : ∃ failure, pauseAfter world.timer delay made = .error failure := by
    have hnone := hmade ▸ Nat.find_spec hexists
    cases hfailure : pauseAfter world.timer delay made with
    | ok seconds => exact absurd ⟨seconds, hfailure⟩ hnone
    | error failure => exact ⟨failure, rfl⟩
  obtain ⟨remaining, rfl⟩ : ∃ remaining, limit = remaining + 1 + 1 + made :=
    ⟨limit - made - 2, by omega⟩
  obtain ⟨paused, hsent, htimer, hpauses, hperform⟩ :=
    @retryFrom_after_retried world request delay (remaining + 1) 0 made
      (fun index hindex => hretried index (by omega))
      (fun index hindex => by rw [Nat.zero_add]; exact hbefore index hindex)
  have hreply : paused.replyAt 0 = world.replyAt made := by
    rw [hsent.replyAt, List.length_replicate, Nat.add_zero]
  obtain ⟨stopped, hstopped, hasked, hbroken⟩ := @retryFrom_of_pauseAfter_error paused request
    delay remaining made (by rw [hreply]; exact hretried made hle) failure
    (by rw [htimer]; exact hfailure)
  rw [hperform, Nat.zero_add, hbroken] at h
  obtain ⟨rfl, rfl⟩ := Prod.mk.inj h
  refine ⟨made, by omega, fun index hindex => hretried index (Nat.le_trans hindex hle), hbefore,
    ⟨failure, hfailure, rfl⟩, ?_, ?_⟩
  · rw [List.replicate_succ']
    exact hsent.trans hstopped
  · rw [hasked, hpauses, List.append_assoc]

/-- Either an attempt is the first that is not made again, or all that are allowed are. -/
theorem exists_last_attempt (world : World) (hpos : 0 < limit) :
    ∃ attempts < limit, (∀ index < attempts, (world.replyAt index).IsRetried) ∧
      (attempts + 1 = limit ∨ ¬ (world.replyAt attempts).IsRetried) := by
  induction limit with
  | zero => exact absurd hpos (Nat.lt_irrefl 0)
  | succ limit ih =>
      rcases Nat.eq_zero_or_pos limit with rfl | hbefore
      · exact ⟨0, Nat.one_pos, fun index hindex => absurd hindex (Nat.not_lt_zero index), .inl rfl⟩
      · obtain ⟨attempts, hlimit, hretried, hend⟩ := ih hbefore
        by_cases hlast : (world.replyAt attempts).IsRetried
        · -- The last of the attempts so far is made again, so one more is made.
          obtain rfl := hend.resolve_right fun hnot => hnot hlast
          refine ⟨attempts + 1, Nat.lt_succ_self _, fun index hindex => ?_, .inl rfl⟩
          rcases Nat.lt_succ_iff_lt_or_eq.mp hindex with hindex | rfl
          · exact hretried index hindex
          · exact hlast
        · exact ⟨attempts, Nat.lt_succ_of_lt hlimit, hretried, .inr hlast⟩

theorem Sends.length_sent {requests : List Request} (h : before.Sends after requests) :
    after.sent.length = before.sent.length + requests.length := by
  rw [h.sent, List.length_append]

/-- A request that breaks off was sent less often than the law says. -/
theorem BreaksOff.not_followsRetryLaw
    (h : before.BreaksOff after request delay limit made outcome) :
    ¬ before.FollowsRetryLaw after request delay limit outcome := by
  intro hlaw
  have hsent := h.sends.length_sent
  have hearly := h.early
  have hfew {count : Nat} (hcount : made + 1 < count) :
      ¬ before.Repeats after request delay count outcome := by
    intro hrepeats
    have hmore := hrepeats.sends.length_sent
    rw [hsent, List.length_replicate, List.length_replicate] at hmore
    omega
  obtain ⟨attempts, hlimit, hretried, hend⟩ :=
    before.exists_last_attempt (Nat.zero_lt_of_lt hearly)
  by_cases hlast : (before.replyAt attempts).IsRetried
  · obtain rfl := hend.resolve_right fun hnot => hnot hlast
    refine hfew hearly (hlaw.exhausted fun index hindex => ?_)
    rcases Nat.lt_succ_iff_lt_or_eq.mp hindex with hindex | rfl
    · exact hretried index hindex
    · exact hlast
  · refine hfew ?_ (hlaw.ended attempts hlimit hretried hlast)
    exact Nat.succ_lt_succ (Nat.lt_of_not_le fun hle => hlast (h.retried attempts hle))

/-- The law holds exactly where the pauses can be made. -/
theorem followsRetryLaw_iff (hpos : 0 < limit)
    (h : (retryFrom (exchange request) pause (.ofNumber delay) limit 0).perform world =
      (outcome, after)) :
    world.FollowsRetryLaw after request delay limit outcome ↔ world.CanPause delay limit := by
  constructor
  · intro hlaw
    refine Classical.byContradiction fun hpause => ?_
    obtain ⟨made, hbroken⟩ := retryFrom_breaksOff hpause h
    exact hbroken.not_followsRetryLaw hlaw
  · intro hpause
    refine ⟨?_, fun hretried => ?_⟩
    · intro index hindex hretried hnot
      exact retryFrom_repeats hpause hindex hretried (.inr hnot) h
    · obtain ⟨attempts, rfl⟩ := Nat.exists_eq_succ_of_ne_zero (Nat.ne_of_gt hpos)
      exact retryFrom_repeats hpause (Nat.lt_succ_self _)
        (fun index hindex => hretried index (Nat.lt_succ_of_lt hindex)) (.inl rfl) h

theorem pauseAfter_ne_noAttempts (timer : Timer) (delay : Number) (made : Nat) :
    pauseAfter timer delay made ≠ .error .noAttempts := by
  intro h
  rcases Failure.of_bind_error h with hdoubled | ⟨length, -, htake⟩
  · cases delay with
    | whole seconds => cases hdoubled
    | real seconds =>
        change (if _ then _ else _) = _ at hdoubled
        split at hdoubled <;> cases hdoubled
  · exact timer.take_ne_noAttempts length htake

/-- That there was nothing to try is never told, unless an attempt ended so itself. -/
theorem retryFrom_ne_noAttempts (hpos : 0 < limit)
    (hreplies : ∀ index, (world.replyAt index).outcome ≠ .error .noAttempts)
    (h : (retryFrom (exchange request) pause (.ofNumber delay) limit 0).perform world =
      (outcome, after)) : outcome ≠ .error .noAttempts := by
  by_cases hpause : world.CanPause delay limit
  · obtain ⟨attempts, hlimit, hretried, hend⟩ := world.exists_last_attempt hpos
    rw [(retryFrom_repeats hpause hlimit hretried hend h).outcome_eq]
    exact hreplies _
  · obtain ⟨made, hbroken⟩ := retryFrom_breaksOff hpause h
    obtain ⟨failure, hfailure, rfl⟩ := hbroken.failed
    intro hnone
    rw [Except.error.inj hnone] at hfailure
    exact pauseAfter_ne_noAttempts world.timer delay made hfailure

end World

namespace HttpClient

variable {client : HttpClient} {timeout : Value} {maxAttempts : Int} {delay : Number}

/-- A client of some settings sends a request as often as they say, but once at least. -/
theorem send_eq_retryFrom
    (h : ofSettings timeout (.int maxAttempts) (.ofNumber delay) = .ok client) (method : String)
    (url : Value) (headers : Members) (payload : Payload) :
    client.send method url headers payload =
      retryFrom (World.exchange { method, url, headers, payload, timeout }) World.pause
        (.ofNumber delay) (Nat.max 1 maxAttempts.toNat) 0 := by
  cases h
  rw [send]
  dsimp only
  rw [retry, Int.toNat_natCast]

/-- A request follows the law of retries exactly where the pauses can be made; elsewhere it breaks
off at the first pause that cannot. That it was sent less than once is never told. -/
theorem send_followsRetryLaw_iff {method : String} {url : Value} {headers : Members}
    {payload : Payload} {world after : World} {outcome : Except Failure Response}
    (hclient : ofSettings timeout (.int maxAttempts) (.ofNumber delay) = .ok client)
    (h : (client.send method url headers payload).perform world = (outcome, after)) :
    let limit := Nat.max 1 maxAttempts.toNat
    let request : Request := { method, url, headers, payload, timeout }
    (world.FollowsRetryLaw after request delay limit outcome ↔ world.CanPause delay limit) ∧
    (¬ world.CanPause delay limit →
      ∃ made, world.BreaksOff after request delay limit made outcome) ∧
    ((∀ index, (world.replyAt index).outcome ≠ .error .noAttempts) →
      outcome ≠ .error .noAttempts) := by
  intro limit request
  have hpos : 0 < limit := Nat.le_max_left 1 _
  rw [send_eq_retryFrom hclient] at h
  exact ⟨World.followsRetryLaw_iff hpos h, fun hpause => World.retryFrom_breaksOff hpause h,
    fun hreplies => World.retryFrom_ne_noAttempts hpos hreplies h⟩

/-- A world in which the service gives some replies. -/
def retryTrial (replies : List Reply) : World where
  start := .whole 0
  now := .whole 0
  entropy := ⟨fun _ => 0, 0⟩
  replies

theorem third_attempt_is_answered :
    let world := retryTrial [.fault .connection "", .fault .timeout "", .response ⟨200, ""⟩]
    ∃ client after, ofSettings (.int 30) (.int 3) (.ofNumber (.whole 1)) = .ok client ∧
      (client.send "GET" (.text "url") [] .none).perform world = (.ok ⟨200, ""⟩, after) ∧
      after.sent = List.replicate 3 ⟨"GET", .text "url", [], .none, .int 30⟩ ∧
      after.pauses = [.int 1, .int 2] := by
  intro world
  obtain ⟨client, hclient⟩ : ∃ client,
      ofSettings (.int 30) (.int 3) (.ofNumber (.whole 1)) = .ok client := ⟨_, rfl⟩
  rcases hsend : (client.send "GET" (.text "url") [] .none).perform world with ⟨outcome, after⟩
  have hpause : world.CanPause (.whole 1) 3 := by
    rintro (_ | _ | index) hlimit -
    · exact ⟨.whole 1, rfl⟩
    · exact ⟨.whole 2, rfl⟩
    · omega
  have hlaw := (send_followsRetryLaw_iff hclient hsend).1.mpr hpause
  have hretried : ∀ earlier < 2, (world.replyAt earlier).IsRetried := by
    rintro (_ | _ | earlier) hearlier
    · exact ⟨_, _, rfl⟩
    · exact ⟨_, _, rfl⟩
    · omega
  have hanswered : ¬ (world.replyAt 2).IsRetried := by
    rintro ⟨fault, reason, ⟨⟩⟩
  have hrepeats := hlaw.ended 2 (by decide) hretried hanswered
  refine ⟨client, after, hclient, ?_, hrepeats.sends.sent, hrepeats.pauses⟩
  rw [hsend, hrepeats.outcome_eq]
  rfl

/-- A delay of no time in double precision: the 1026 attempts that are allowed are not all made. -/
theorem fractional_delay_breaks_off :
    ∃ client outcome after,
      ofSettings (.int 30) (.int 1026) (.ofNumber (.real (.finite false 0 0))) = .ok client ∧
      (client.send "GET" (.text "url") [] .none).perform (retryTrial []) = (outcome, after) ∧
      (∀ index < 1026, ((retryTrial []).replyAt index).IsRetried) ∧
      outcome = .error .outOfRange ∧ after.sent.length = 1025 ∧
      ¬ (retryTrial []).FollowsRetryLaw after ⟨"GET", .text "url", [], .none, .int 30⟩
        (.real (.finite false 0 0)) 1026 outcome := by
  have hretried (index : Nat) : ((retryTrial []).replyAt index).IsRetried := ⟨_, _, rfl⟩
  -- No time doubled is no time, which a timer takes; only the factor gets out of range.
  have htaken : ∃ seconds,
      Timer.system.take (.real (.finite false 0 Double.minExponent)) = .ok seconds :=
    Failure.exists_of_isOk (by decide +kernel)
  have hpause {index : Nat} (hindex : index ≤ 1023) : ∃ seconds,
      World.pauseAfter .system (.real (.finite false 0 0)) index = .ok seconds := by
    have hzero : (Double.finite false 0 0).mulNat (Nat.pow 2 index) =
        .finite false 0 Double.minExponent := if_pos (Nat.zero_mul _)
    have hdoubled : (Value.ofNumber (.real (.finite false 0 0))).doubled index =
        .ok (.real (.finite false 0 Double.minExponent)) := by
      rw [← hzero]
      exact if_pos hindex
    obtain ⟨seconds, htake⟩ := htaken
    exact ⟨seconds, (World.pauseAfter_of_doubled hdoubled).trans htake⟩
  obtain ⟨client, hclient⟩ : ∃ client, ofSettings (.int 30) (.int 1026)
      (.ofNumber (.real (.finite false 0 0))) = .ok client := ⟨_, rfl⟩
  rcases hsend : (client.send "GET" (.text "url") [] .none).perform (retryTrial []) with
    ⟨outcome, after⟩
  have hretry := hsend
  rw [send_eq_retryFrom hclient] at hretry
  have hfailed : World.pauseAfter .system (.real (.finite false 0 0)) 1024 =
      .error .outOfRange := rfl
  have hnot : ¬ (retryTrial []).CanPause (.real (.finite false 0 0)) 1026 := by
    intro hall
    obtain ⟨seconds, hseconds⟩ := hall 1024 (by decide) fun index _ => hretried index
    cases hfailed.symm.trans hseconds
  obtain ⟨made, hbroken⟩ := World.retryFrom_breaksOff hnot hretry
  obtain ⟨failure, hfailure, houtcome⟩ := hbroken.failed
  have hearly := hbroken.early
  obtain rfl : made = 1024 := by
    refine Nat.le_antisymm (by omega) (Nat.lt_of_not_le fun hfew => ?_)
    obtain ⟨seconds, hseconds⟩ := hpause hfew
    cases hfailure.symm.trans hseconds
  obtain rfl := Except.error.inj (hfailed.symm.trans hfailure)
  refine ⟨client, outcome, after, hclient, hsend, fun index _ => hretried index, houtcome, ?_,
    hbroken.not_followsRetryLaw⟩
  rw [hbroken.sends.length_sent, List.length_replicate]
  rfl

end HttpClient

end OAuthClient
