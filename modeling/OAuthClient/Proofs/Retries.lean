import OAuthClient.Proofs.Transcript

/-! # Requests that end

A client that counts its attempts and can pause between them always comes to an
end with a request. If the service breaks nothing off, the end is an answer or a
failure in transport, and the first answer that arrives is the one that counts.
-/

namespace OAuthClient

/-- Whether an exchange broke off, neither with an answer nor in transport. -/
def Reply.IsStop : Reply → Prop
  | .stop _ => True
  | _ => False

instance (reply : Reply) : Decidable reply.IsStop := by
  cases reply <;> unfold Reply.IsStop <;> infer_instance

/-- Whether a failure is one of transport. -/
def Failure.IsTransport (failure : Failure) : Prop :=
  ∃ fault reason, failure = .transport fault reason

/-- Whether the pause after the first attempt and some further ones is one that any timer takes. -/
def Value.CanPause (delay : Value) (made : Nat) : Prop :=
  ∃ seconds number, delay.doubled made = .ok seconds ∧ Timer.system.take seconds = .ok number

/-- Whole seconds make a pause as long as their nanoseconds can be counted. -/
theorem Value.canPause_int {seconds : Int} {made : Nat} (hnonneg : 0 ≤ seconds)
    (hlimit : seconds * Nat.pow 2 made * Timer.perSecond < Timer.limit) :
    (Value.int seconds).CanPause made :=
  ⟨.int (seconds * Nat.pow 2 made), .whole (seconds * Nat.pow 2 made), rfl,
    Timer.take_eq_ok_iff.mpr ⟨rfl, Timer.accept_system_whole_iff.mpr
      ⟨Int.mul_nonneg hnonneg (Int.natCast_nonneg _), hlimit⟩⟩⟩

namespace World

variable {world after : World} {request : Request}

/-- The reply to the next request is one of those that the service will give, or none arrives. -/
theorem not_isStop_replyAt (h : ∀ reply ∈ world.replies, ¬ reply.IsStop) (index : Nat) :
    ¬ (world.replyAt index).IsStop := by
  unfold replyAt
  cases hget : world.replies[index]? with
  | none => exact id
  | some reply => exact h reply (List.mem_of_getElem? hget)

theorem Sends.not_isStop {requests : List Request} (hsends : world.Sends after requests)
    (h : ∀ reply ∈ world.replies, ¬ reply.IsStop) : ∀ reply ∈ after.replies, ¬ reply.IsStop := by
  intro reply hreply
  rw [hsends.replies] at hreply
  exact h reply (List.mem_of_mem_drop hreply)

/-- After a fault in transport and a pause the remaining attempts are made. -/
theorem retryFrom_of_fault {fault : TransportFault} {reason : String} {delay : Value}
    {remaining made : Nat} (hreply : world.replyAt 0 = .fault fault reason)
    (hmore : remaining ≠ 0) (hpause : delay.CanPause made) :
    ∃ paused, world.Sends paused [request] ∧
      (retryFrom (exchange request) pause delay (remaining + 1) made).perform world =
        (retryFrom (exchange request) pause delay remaining (made + 1)).perform paused := by
  obtain ⟨seconds, number, hdoubled, htake⟩ := hpause
  refine ⟨(world.afterRequest request).afterPause seconds,
    (world.afterRequest_sends request).trans (afterPause_sends seconds _), ?_⟩
  rw [retryFrom, Action.perform_attempt_bind, exchange_perform, hreply]
  dsimp only [Reply.outcome]
  rw [if_neg hmore, hdoubled, Action.perform_ofExcept_bind]
  dsimp only
  rw [Action.perform_bind_of_ok (pause_of_take (Timer.take_of_system htake _))]

/-- All attempts to send a request are used up: each one ends in transport, and the last one ends
with a failure. -/
structure Exhausts (before after : World) (request : Request) (attempts : Nat)
    (failure : Failure) : Prop where
  sends : before.Sends after (List.replicate attempts request)
  faults : ∀ index < attempts, ∃ fault reason, before.replyAt index = .fault fault reason
  last : (before.replyAt (attempts - 1)).outcome = .error failure

namespace Exhausts

variable {before middle : World} {attempts : Nat} {failure : Failure}

theorem isTransport (h : before.Exhausts after request attempts failure) (hpos : 0 < attempts) :
    failure.IsTransport := by
  obtain ⟨fault, reason, hfault⟩ := h.faults (attempts - 1) (Nat.sub_lt hpos Nat.one_pos)
  have hlast := h.last
  rw [hfault] at hlast
  exact ⟨fault, reason, (Except.error.inj hlast).symm⟩

theorem of_fault {fault : TransportFault} {reason : String}
    (hreply : world.replyAt 0 = .fault fault reason) :
    world.Exhausts (world.afterRequest request) request 1 (.transport fault reason) := by
  refine ⟨world.afterRequest_sends request, ?_, ?_⟩
  · intro index hindex
    rw [Nat.lt_one_iff.mp hindex]
    exact ⟨fault, reason, hreply⟩
  · rw [Nat.sub_self, hreply]
    rfl

/-- A further attempt before the others, which ends in transport. -/
theorem cons {fault : TransportFault} {reason : String} (hsends : before.Sends middle [request])
    (hreply : before.replyAt 0 = .fault fault reason) (hpos : 0 < attempts)
    (hrest : middle.Exhausts after request attempts failure) :
    before.Exhausts after request (attempts + 1) failure := by
  have hlater (index : Nat) : middle.replyAt index = before.replyAt (index + 1) := by
    rw [hsends.replyAt, List.length_singleton, Nat.add_comm]
  refine ⟨hsends.trans hrest.sends, ?_, ?_⟩
  · intro index hindex
    cases index with
    | zero => exact ⟨fault, reason, hreply⟩
    | succ index =>
        rw [← hlater]
        exact hrest.faults index (Nat.lt_of_succ_lt_succ hindex)
  · have hlast := hrest.last
    rwa [hlater, Nat.sub_add_cancel hpos] at hlast

end Exhausts

/-- Attempts between which there are pauses fail only once they are used up. -/
theorem retryFrom_exhausts {delay : Value} {remaining made : Nat} {failure : Failure}
    (hpause : ∀ index, index + 1 < remaining → delay.CanPause (made + index))
    (hreplies : ∀ reply ∈ world.replies, ¬ reply.IsStop) (hpos : 0 < remaining)
    (h : (retryFrom (exchange request) pause delay remaining made).perform world =
      (.error failure, after)) :
    world.Exhausts after request remaining failure := by
  induction remaining generalizing made world with
  | zero => exact absurd hpos (Nat.lt_irrefl 0)
  | succ remaining ih =>
      cases hreply : world.replyAt 0 with
      | response answer =>
          rw [retryFrom, Action.perform_attempt_bind, exchange_perform, hreply] at h
          cases h
      | stop cause => exact absurd (hreply ▸ trivial) (not_isStop_replyAt hreplies 0)
      | fault fault reason =>
          by_cases hmore : remaining = 0
          · rw [retryFrom, Action.perform_attempt_bind, exchange_perform, hreply] at h
            dsimp only [Reply.outcome] at h
            rw [if_pos hmore] at h
            obtain ⟨hfailure, rfl⟩ := Prod.mk.inj h
            obtain rfl := Except.error.inj hfailure
            rw [hmore]
            exact Exhausts.of_fault hreply
          · -- The pause that comes now is the first of those that are known to be possible.
            obtain ⟨paused, hsent, hperform⟩ :=
              @retryFrom_of_fault world request _ _ _ remaining made hreply hmore
                (hpause 0 (by omega))
            rw [hperform] at h
            refine Exhausts.cons hsent hreply (Nat.pos_of_ne_zero hmore) ?_
            refine ih ?_ (hsent.not_isStop hreplies) (Nat.pos_of_ne_zero hmore) h
            intro index hindex
            rw [Nat.add_assoc, Nat.add_comm 1]
            exact hpause (index + 1) (by omega)

/-- An answer that comes after some faults in transport is reached if the attempts suffice. -/
theorem retryFrom_of_faults {answer : Response} {faults : List (TransportFault × String)}
    {rest : List Reply} {delay : Value} {remaining made : Nat} (hlimit : faults.length < remaining)
    (hpause : ∀ index < faults.length, delay.CanPause (made + index))
    (hreplies : world.replies =
      faults.map (fun fault => .fault fault.1 fault.2) ++ .response answer :: rest) :
    ∃ after, (retryFrom (exchange request) pause delay remaining made).perform world =
        (.ok answer, after) ∧ world.Sends after (List.replicate (faults.length + 1) request) := by
  induction faults generalizing remaining made world with
  | nil =>
      obtain ⟨remaining, rfl⟩ := Nat.exists_eq_succ_of_ne_zero (Nat.ne_zero_of_lt hlimit)
      have hreply : world.replyAt 0 = .response answer := by
        rw [replyAt, hreplies]
        rfl
      refine ⟨world.afterRequest request, ?_, world.afterRequest_sends request⟩
      rw [retryFrom, Action.perform_attempt_bind, exchange_perform, hreply]
      rfl
  | cons fault faults ih =>
      obtain ⟨remaining, rfl⟩ := Nat.exists_eq_succ_of_ne_zero (Nat.ne_zero_of_lt hlimit)
      rw [List.length_cons] at hlimit hpause
      have hreply : world.replyAt 0 = .fault fault.1 fault.2 := by
        rw [replyAt, hreplies]
        rfl
      obtain ⟨paused, hsent, hperform⟩ :=
        @retryFrom_of_fault world request _ _ _ remaining made hreply (by omega)
          (hpause 0 (Nat.succ_pos _))
      -- After the pause the replies are those without the first fault.
      have hnext : paused.replies =
          faults.map (fun fault => .fault fault.1 fault.2) ++ .response answer :: rest := by
        rw [hsent.replies, hreplies]
        rfl
      have hlater : ∀ index < faults.length, delay.CanPause (made + 1 + index) := by
        intro index hindex
        rw [Nat.add_assoc, Nat.add_comm 1]
        exact hpause (index + 1) (by omega)
      obtain ⟨after, hafter, hsends⟩ := ih (Nat.lt_of_succ_lt_succ hlimit) hlater hnext
      exact ⟨after, hperform.trans hafter, hsent.trans hsends⟩

theorem Delivers.mem_transcript_of_answer {attempts : Nat} {answer : Response}
    (h : world.Delivers after request attempts (.ok answer)) :
    (request, .response answer) ∈ world.transcript after := by
  obtain ⟨hpos, hreply⟩ := (h.answered answer).mp rfl
  rw [← hreply]
  exact List.mem_of_getLast? (h.getLast?_transcript hpos)

/-- The answer that came last between two worlds, if the last request was answered. -/
def lastAnswer? (before after : World) : Option Response :=
  match (before.transcript after).getLast? with
  | some (_, .response response) => some response
  | _ => none

/-- A delivery yields the answer that came last. -/
theorem Delivers.lastAnswer?_eq {attempts : Nat} {outcome : Except Failure Response}
    (h : world.Delivers after request attempts outcome) :
    world.lastAnswer? after = outcome.toOption := by
  rw [lastAnswer?]
  cases outcome with
  | ok response =>
      obtain ⟨hpos, hreply⟩ := (h.answered response).mp rfl
      rw [h.getLast?_transcript hpos, hreply]
      rfl
  | error failure =>
      by_cases hpos : 0 < attempts
      · rw [h.getLast?_transcript hpos]
        cases hreply : world.replyAt (attempts - 1) with
        | response response => cases (h.answered response).mpr ⟨hpos, hreply⟩
        | fault fault reason => rfl
        | stop cause => rfl
      · obtain rfl := Nat.eq_zero_of_not_pos hpos
        rw [h.transcript_eq]
        rfl

end World

/-- The faults that come before the answer to a request, and the answer. -/
structure PutRound where
  faults : List (TransportFault × String)
  answer : Response

namespace PutRound

/-- The replies to a request and to its repetitions. -/
def replies (round : PutRound) : List Reply :=
  round.faults.map (fun fault => .fault fault.1 fault.2) ++ [.response round.answer]

end PutRound

namespace HttpClient

variable {client : HttpClient} {method : String} {url : Value} {headers : Members}
  {payload : Payload} {world : World}

/-- Whether a client sends a request a definite number of times and can pause in between, whatever
its timer. -/
def CanRetry (client : HttpClient) : Prop :=
  ∃ count pos, client.limit = .times count pos ∧
    ∀ made, made + 1 < count → client.delay.CanPause made

theorem CanRetry.isCounted (h : client.CanRetry) : client.IsCounted := by
  obtain ⟨count, pos, hlimit, _⟩ := h
  exact ⟨count, pos, hlimit⟩

theorem standard_canPause {made : Nat} (h : made + 1 < defaultAttempts) :
    standard.delay.CanPause made := by
  have hshort : ∀ made < 2, defaultDelay * Nat.pow 2 made * Timer.perSecond < Timer.limit := by
    decide
  exact Value.canPause_int (by decide) (hshort made (Nat.lt_of_succ_lt_succ h))

theorem standard_canRetry : standard.CanRetry :=
  ⟨defaultAttempts, defaultAttempts_pos, rfl, fun _ => standard_canPause⟩

/-- A request of a client that can retry fails only once all attempts are used up. -/
theorem send_exhausts {after : World} {failure : Failure} (hclient : client.CanRetry)
    (hreplies : ∀ reply ∈ world.replies, ¬ reply.IsStop)
    (h : (client.send method url headers payload).perform world = (.error failure, after)) :
    ∃ count pos, client.limit = .times count pos ∧
      world.Exhausts after { method, url, headers, payload, timeout := client.timeout } count
        failure := by
  obtain ⟨count, pos, hlimit, hpause⟩ := hclient
  rw [send, hlimit] at h
  refine ⟨count, pos, hlimit, World.retryFrom_exhausts ?_ hreplies pos h⟩
  intro index hindex
  rw [Nat.zero_add]
  exact hpause index hindex

/-- A request of a client that can retry fails in transport only. -/
theorem send_failsOnly (hclient : client.CanRetry)
    (hreplies : ∀ reply ∈ world.replies, ¬ reply.IsStop) :
    FailsOnly Failure.IsTransport ((client.send method url headers payload).perform world).1 := by
  intro failure h
  obtain ⟨count, pos, -, hexhausts⟩ := send_exhausts hclient hreplies (Prod.ext h rfl)
  exact hexhausts.isTransport pos

/-- A request that is answered at once is sent once. -/
theorem send_of_answer {answer : Response} (hcounted : client.IsCounted)
    (h : world.replyAt 0 = .response answer) :
    (client.send method url headers payload).perform world =
      (.ok answer,
        world.afterRequest { method, url, headers, payload, timeout := client.timeout }) := by
  obtain ⟨count, hpos, hlimit⟩ := hcounted
  obtain ⟨count, rfl⟩ := Nat.exists_eq_succ_of_ne_zero (Nat.pos_iff_ne_zero.mp hpos)
  rw [send, hlimit]
  change (retryFrom (World.exchange _) World.pause client.delay (count + 1) 0).perform world = _
  rw [retryFrom, Action.perform_attempt_bind, World.exchange_perform, h]
  rfl

/-- Whether a client repeats a request often enough to get to the answer. -/
def Reaches (client : HttpClient) (round : PutRound) : Prop :=
  ∃ count pos, client.limit = .times count pos ∧ round.faults.length < count ∧
    ∀ made < round.faults.length, client.delay.CanPause made

theorem standard_reaches {round : PutRound} (h : round.faults.length < defaultAttempts) :
    standard.Reaches round :=
  ⟨defaultAttempts, defaultAttempts_pos, rfl, h, fun _ hmade =>
    standard_canPause (Nat.lt_of_le_of_lt hmade h)⟩

theorem send_of_reaches {client : HttpClient} {round : PutRound} {world : World}
    {rest : List Reply} (hreaches : client.Reaches round)
    (hreplies : world.replies = round.replies ++ rest) (method : String) (url : Value)
    (headers : Members) (payload : Payload) :
    ∃ after, (client.send method url headers payload).perform world = (.ok round.answer, after) ∧
      world.Sends after (List.replicate round.replies.length
        { method, url, headers, payload, timeout := client.timeout }) := by
  obtain ⟨count, pos, hlimit, hcount, hpause⟩ := hreaches
  rw [PutRound.replies, List.append_assoc] at hreplies
  rw [send, hlimit, PutRound.replies, List.length_append, List.length_map]
  refine World.retryFrom_of_faults hcount ?_ hreplies
  intro index hindex
  rw [Nat.zero_add]
  exact hpause index hindex

end HttpClient

end OAuthClient
