import OAuthClient.Exchange.Client
import OAuthClient.Proofs.ActionLaws

/-! # Transcripts

The requests that pass between two worlds, each with the reply to it. A client
sends a request again only when no answer arrived, so all requests that it
sends for one purpose are equal and at most the last of them is answered.
-/

namespace OAuthClient

namespace World

/-- The reply to the request that comes after `index` further ones. -/
def replyAt (world : World) (index : Nat) : Reply := world.replies[index]?.getD silence

/-- The requests that were sent between two worlds, each with the reply to it. -/
def transcript (before after : World) : List (Request × Reply) :=
  (after.sent.drop before.sent.length).mapIdx fun index request => (request, before.replyAt index)

/-- The second world arises from the first one by sending some requests. -/
structure Sends (before after : World) (requests : List Request) : Prop where
  sent : after.sent = before.sent ++ requests
  replies : after.replies = before.replies.drop requests.length

namespace Sends

variable {before middle after : World} {first second : List Request}

theorem refl (world : World) : world.Sends world [] := ⟨by simp, by simp⟩

theorem trans (hfirst : before.Sends middle first) (hsecond : middle.Sends after second) :
    before.Sends after (first ++ second) := by
  refine ⟨?_, ?_⟩
  · rw [hsecond.sent, hfirst.sent, List.append_assoc]
  · rw [hsecond.replies, hfirst.replies, List.drop_drop, List.length_append]

theorem replyAt (h : before.Sends middle first) (index : Nat) :
    middle.replyAt index = before.replyAt (first.length + index) := by
  simp only [World.replyAt, h.replies, List.getElem?_drop]

theorem transcript_eq (h : before.Sends after first) :
    before.transcript after =
      first.mapIdx fun index request => (request, before.replyAt index) := by
  rw [transcript, h.sent, List.drop_left]

theorem transcript_trans (hfirst : before.Sends middle first)
    (hsecond : middle.Sends after second) :
    before.transcript after = before.transcript middle ++ middle.transcript after := by
  rw [(hfirst.trans hsecond).transcript_eq, hfirst.transcript_eq, hsecond.transcript_eq,
    List.mapIdx_append]
  congr 2
  funext index request
  rw [hfirst.replyAt, Nat.add_comm]

end Sends

/-- Where nothing is sent, nothing is in the transcript. -/
theorem Sends.not_mem_transcript {before after : World} (h : before.Sends after [])
    (entry : Request × Reply) : entry ∉ before.transcript after := by
  rw [h.transcript_eq]
  exact List.not_mem_nil

theorem Sends.exists_mem_transcript {before after : World} {requests : List Request}
    (h : before.Sends after requests) {request : Request} (hrequest : request ∈ requests) :
    ∃ reply, (request, reply) ∈ before.transcript after := by
  obtain ⟨index, hindex, rfl⟩ := List.mem_iff_getElem.mp hrequest
  rw [h.transcript_eq]
  exact ⟨_, List.mem_mapIdx.mpr ⟨index, hindex, rfl⟩⟩

@[simp] theorem transcript_self (world : World) : world.transcript world = [] :=
  (Sends.refl world).transcript_eq

theorem not_mem_transcript_self (world : World) (entry : Request × Reply) :
    entry ∉ world.transcript world :=
  (Sends.refl world).not_mem_transcript entry

theorem afterRequest_sends (world : World) (request : Request) :
    world.Sends (world.afterRequest request) [request] :=
  ⟨rfl, by simp [afterRequest]⟩

theorem exchange_perform (request : Request) (world : World) :
    (exchange request).perform world =
      ((world.replyAt 0).outcome, world.afterRequest request) := by
  have hhead : world.replies.head?.getD silence = world.replyAt 0 := by
    rw [replyAt, List.head?_eq_getElem?]
  simp only [exchange, Action.perform_get_bind, Action.perform_modify_bind,
    Action.perform_ofExcept, hhead]

theorem later_sends (seconds : Number) (world : World) : world.Sends (world.later seconds) [] :=
  ⟨by simp [later], by simp [later]⟩

theorem advance_sends (seconds : Value) (world : World) :
    world.Sends ((advance seconds).perform world).2 [] := by
  simp only [advance, Action.perform_ofExcept_bind]
  cases seconds.toNumber with
  | ok number => exact later_sends number world
  | error failure => exact Sends.refl world

/-- A pause succeeds exactly when the timer takes it. -/
theorem pause_perform (seconds : Value) (world : World) :
    (pause seconds).perform world =
      ((world.timer.take seconds).map fun _ => (), world.afterPause seconds) := by
  rw [pause, Action.perform_get_bind, Action.perform_modify_bind, Action.perform_ofExcept]

theorem pause_of_take {seconds : Value} {number : Number} {world : World}
    (h : world.timer.take seconds = .ok number) :
    (pause seconds).perform world = (.ok (), world.afterPause seconds) := by
  rw [pause_perform, h]
  rfl

/-- A pause changes nothing but the list of pauses and the clock. -/
theorem exists_afterPause_eq (world : World) (seconds : Value) :
    ∃ now, world.afterPause seconds =
      { world with pauses := world.pauses ++ [seconds], now } := by
  rw [afterPause]
  split
  · exact ⟨_, rfl⟩
  · exact ⟨_, rfl⟩

theorem afterPause_sends (seconds : Value) (world : World) :
    world.Sends (world.afterPause seconds) [] := by
  obtain ⟨now, hpaused⟩ := world.exists_afterPause_eq seconds
  rw [hpaused]
  exact ⟨by simp, by simp⟩

theorem pause_sends (seconds : Value) (world : World) :
    world.Sends ((pause seconds).perform world).2 [] := by
  rw [pause_perform]
  exact afterPause_sends seconds world

/-- What becomes of a request that is sent until an answer arrives: all attempts but the last end in
transport, and there is an answer exactly when the reply to the last one is an answer. -/
structure Delivers (before after : World) (request : Request) (attempts : Nat)
    (outcome : Except Failure Response) : Prop where
  sends : before.Sends after (List.replicate attempts request)
  repeated : ∀ index, index + 1 < attempts →
    ∃ fault reason, (before.replyAt index).outcome = .error (.transport fault reason)
  answered : ∀ response, outcome = .ok response ↔
    0 < attempts ∧ before.replyAt (attempts - 1) = .response response

namespace Delivers

variable {before middle after : World} {request : Request} {attempts : Nat}
  {outcome : Except Failure Response}

/-- A further attempt before the others, which ends in transport. -/
theorem cons (hsends : before.Sends middle [request]) {fault : TransportFault} {reason : String}
    (hfault : (before.replyAt 0).outcome = .error (.transport fault reason))
    (hpos : 0 < attempts) (hrest : middle.Delivers after request attempts outcome) :
    before.Delivers after request (attempts + 1) outcome := by
  refine ⟨hsends.trans hrest.sends, ?_, ?_⟩
  · intro index hindex
    cases index with
    | zero => exact ⟨fault, reason, hfault⟩
    | succ index =>
        have hlater := hrest.repeated index (by omega)
        rwa [hsends.replyAt, List.length_singleton, Nat.add_comm] at hlater
  · intro response
    have hlast : middle.replyAt (attempts - 1) = before.replyAt attempts := by
      rw [hsends.replyAt, List.length_singleton]
      congr 1
      omega
    rw [hrest.answered, hlast, Nat.add_sub_cancel]
    exact ⟨fun h => ⟨by omega, h.2⟩, fun h => ⟨hpos, h.2⟩⟩

/-- Whatever else is told of a failure, the delivery is the same. -/
theorem congr_outcome {other : Except Failure Response}
    (h : before.Delivers after request attempts outcome)
    (hother : ∀ response, other = .ok response ↔ outcome = .ok response) :
    before.Delivers after request attempts other :=
  ⟨h.sends, h.repeated, fun response => (hother response).trans (h.answered response)⟩

/-- A delivery after something that sent nothing. -/
theorem after_silence (hsilence : before.Sends middle [])
    (h : middle.Delivers after request attempts outcome) :
    before.Delivers after request attempts outcome := by
  have hreply : ∀ index, middle.replyAt index = before.replyAt index := by
    intro index
    rw [hsilence.replyAt, List.length_nil, Nat.zero_add]
  refine ⟨hsilence.trans h.sends, ?_, ?_⟩
  · intro index hindex
    rw [← hreply]
    exact h.repeated index hindex
  · intro response
    rw [← hreply]
    exact h.answered response

/-- The transcript of a delivery. -/
theorem transcript_eq (h : before.Delivers after request attempts outcome) :
    before.transcript after = (List.range attempts).map fun index =>
      (request, before.replyAt index) := by
  rw [h.sends.transcript_eq]
  apply List.ext_getElem <;> simp

theorem fst_of_mem_transcript (h : before.Delivers after request attempts outcome)
    {entry : Request × Reply} (hentry : entry ∈ before.transcript after) : entry.1 = request := by
  rw [h.transcript_eq, List.mem_map] at hentry
  obtain ⟨index, _, rfl⟩ := hentry
  rfl

/-- All attempts but the last end in transport. -/
theorem repeated_of_mem (h : before.Delivers after request attempts outcome) {index : Nat}
    (hindex : index ∈ (List.range attempts).dropLast) :
    ∃ fault reason, (before.replyAt index).outcome = .error (.transport fault reason) := by
  apply h.repeated
  cases attempts with
  | zero => exact absurd hindex List.not_mem_nil
  | succ count =>
      rw [List.range_succ, List.dropLast_concat, List.mem_range] at hindex
      omega

/-- The last request of an answered delivery has the answer as its reply. -/
theorem getLast?_transcript (h : before.Delivers after request attempts outcome)
    (hpos : 0 < attempts) :
    (before.transcript after).getLast? = some (request, before.replyAt (attempts - 1)) := by
  rw [h.transcript_eq, List.getLast?_map, List.getLast?_range, if_neg (by omega)]
  rfl

end Delivers

theorem outcome_eq_ok_iff {reply : Reply} {response : Response} :
    reply.outcome = .ok response ↔ reply = .response response := by
  cases reply <;> simp [Reply.outcome]

/-- A first attempt that is answered. -/
theorem delivers_of_answer {request : Request} {world : World} {response : Response}
    (hreply : (world.replyAt 0).outcome = .ok response) :
    world.Delivers (world.afterRequest request) request 1 (.ok response) := by
  refine ⟨world.afterRequest_sends request, fun index hindex => by omega, ?_⟩
  intro other
  rw [Nat.sub_self, ← outcome_eq_ok_iff, hreply]
  simp

/-- A first attempt that fails and is not repeated. -/
theorem delivers_of_failure {request : Request} {world after : World} {cause failure : Failure}
    (hreply : (world.replyAt 0).outcome = .error cause)
    (hafter : (world.afterRequest request).Sends after []) :
    world.Delivers after request 1 (.error failure) := by
  refine ⟨(world.afterRequest_sends request).trans hafter, fun index hindex => by omega, ?_⟩
  intro response
  rw [Nat.sub_self, ← outcome_eq_ok_iff, hreply]
  simp

/-- Attempts to send a request deliver it, and there is at least one. -/
theorem retryFrom_delivers {request : Request} {delay : Value} {remaining made : Nat}
    {world after : World} {outcome : Except Failure Response}
    (h : (retryFrom (exchange request) pause delay (remaining + 1) made).perform world =
      (outcome, after)) :
    ∃ attempts, 0 < attempts ∧ world.Delivers after request attempts outcome := by
  -- The number of attempts made decides how long a pause is, so it has to vary.
  induction remaining using Nat.strongRecOn generalizing made world with
  | _ remaining ih =>
      have hsends := world.afterRequest_sends request
      have hrefl := Sends.refl (world.afterRequest request)
      rw [retryFrom, Action.perform_attempt_bind, exchange_perform] at h
      split at h
      next response heq =>
        obtain ⟨rfl, rfl⟩ := Prod.mk.inj h
        exact ⟨1, Nat.one_pos, delivers_of_answer heq⟩
      next fault reason heq =>
        split at h
        next hlast =>
          obtain ⟨rfl, rfl⟩ := Prod.mk.inj h
          exact ⟨1, Nat.one_pos, delivers_of_failure heq hrefl⟩
        next hmore =>
          rw [Action.perform_ofExcept_bind] at h
          split at h
          next seconds hseconds =>
            have hpause := pause_sends seconds (world.afterRequest request)
            rw [Action.perform_bind] at h
            split at h
            next paused hpaused =>
              rw [hpaused] at hpause
              obtain ⟨remaining, rfl⟩ := Nat.exists_eq_succ_of_ne_zero hmore
              obtain ⟨attempts, hpos, hrest⟩ := ih remaining (Nat.lt_succ_self _) h
              exact ⟨attempts + 1, Nat.succ_pos _, hrest.cons (hsends.trans hpause) heq hpos⟩
            next failure paused hpaused =>
              rw [hpaused] at hpause
              obtain ⟨rfl, rfl⟩ := Prod.mk.inj h
              exact ⟨1, Nat.one_pos, delivers_of_failure heq hpause⟩
          next failure hfailure =>
            obtain ⟨rfl, rfl⟩ := Prod.mk.inj h
            exact ⟨1, Nat.one_pos, delivers_of_failure heq hrefl⟩
      next failure hother heq =>
        obtain ⟨rfl, rfl⟩ := Prod.mk.inj h
        exact ⟨1, Nat.one_pos, delivers_of_failure heq hrefl⟩

end World

namespace HttpClient

theorem defaultAttempts_pos : 0 < defaultAttempts := by decide

/-- A client with the default settings. -/
def standard : HttpClient where
  limit := .times defaultAttempts defaultAttempts_pos

/-- Whether a client sends a request a definite number of times, which is at least one. -/
def IsCounted (client : HttpClient) : Prop := ∃ count pos, client.limit = .times count pos

/-- Sending a request delivers it. A client that counts its attempts makes at least one, and any
other makes none. -/
theorem send_delivers {client : HttpClient} {method : String} {url : Value} {headers : Members}
    {payload : Payload} {world after : World} {outcome : Except Failure Response}
    (h : (client.send method url headers payload).perform world = (outcome, after)) :
    ∃ attempts, (0 < attempts ↔ client.IsCounted) ∧
      world.Delivers after { method, url, headers, payload, timeout := client.timeout } attempts
        outcome := by
  unfold send at h
  split at h
  next count hpos hlimit =>
    have hcounted : client.IsCounted := ⟨count, hpos, hlimit⟩
    obtain ⟨count, rfl⟩ := Nat.exists_eq_succ_of_ne_zero (Nat.pos_iff_ne_zero.mp hpos)
    obtain ⟨attempts, hattempts, hdelivers⟩ := World.retryFrom_delivers h
    exact ⟨attempts, ⟨fun _ => hcounted, fun _ => hattempts⟩, hdelivers⟩
  next limit hlimit =>
    obtain ⟨rfl, rfl⟩ := Prod.mk.inj h
    refine ⟨0, ⟨fun hpos => absurd hpos (Nat.lt_irrefl 0), ?_⟩, World.Sends.refl world,
      fun index hindex => by omega, by simp⟩
    rintro ⟨count, hpos, hcount⟩
    rw [hlimit] at hcount
    cases hcount

end HttpClient

end OAuthClient
