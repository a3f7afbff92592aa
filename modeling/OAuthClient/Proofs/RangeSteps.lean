import OAuthClient.Proofs.SessionCleanup

/-! # Steps of an upload

Sending the next range is meant to end in one of four ways: with what an answer
of a good status says, with a failure that tells of the upload, without an answer
once all attempts are used up, or with nothing to send. It ends in one of these
ways exactly when the answer, if one arrived, tells of its range.
-/

namespace OAuthClient

/-- Whether a failure is one of those with which a step of an upload is meant to end. -/
def Failure.isOfStep : Failure → Bool
  | .upload .. | .transport .. | .exhausted => true
  | _ => false

/-- Whether an answer has a body that is no JSON. -/
def Response.IsGarbled (response : Response) : Prop :=
  response.text.isEmpty = false ∧ ∃ failure, response.json = .error failure

theorem DriveItem.ofResponse_error {body : Value} {failure : Failure}
    (h : ofResponse body = .error failure) : failure = .noSuchPart := by
  unfold ofResponse at h
  rcases Failure.of_bind_error h with h | ⟨_, _, h⟩
  · exact Value.toMembers_error h
  rcases Failure.of_bind_error h with h | ⟨_, _, h⟩
  · exact nested_error h
  rcases Failure.of_bind_error h with h | ⟨_, _, h⟩
  · exact nested_error h
  · cases h

namespace UploadSession

variable {session : UploadSession} {range : ByteRange} {answer : Response}

theorem bodyOf_error {place : String} {failure : Failure}
    (h : bodyOf place answer = .error failure) :
    answer.IsGarbled ∧ ∃ reason, failure = .upload reason (some answer.status) := by
  unfold bodyOf at h
  split at h
  next => cases h
  next hbody =>
    split at h
    next => cases h
    next cause hjson =>
      exact ⟨⟨by simpa using hbody, cause, hjson⟩, _, (Except.error.inj h).symm⟩

theorem resultOf_error {status : Int} {body : Value} {failure : Failure}
    (h : resultOf range status body = .error failure) : failure = .noSuchPart := by
  unfold resultOf at h
  split at h
  next => exact Value.toMembers_error (Failure.of_map_error h)
  next =>
    split at h
    next => exact DriveItem.ofResponse_error (Failure.of_map_error h)
    next => cases h

theorem resultOf_ok {status : Int} {body : Value} {result : ChunkResult}
    (h : resultOf range status body = .ok result) :
    result.status = status ∧ result.range = range := by
  unfold resultOf at h
  split at h
  next =>
    obtain ⟨members, -, rfl⟩ := Failure.of_map_ok h
    exact ⟨rfl, rfl⟩
  next =>
    split at h
    next =>
      obtain ⟨item, -, rfl⟩ := Failure.of_map_ok h
      exact ⟨rfl, rfl⟩
    next =>
      cases h
      exact ⟨rfl, rfl⟩

theorem chunkResult_ok {result : ChunkResult} (h : session.chunkResult range answer = .ok result) :
    answer.status ∈ [200, 201, 202] ∧ result.status = answer.status ∧ result.range = range := by
  by_cases htaken : answer.status ∈ [200, 201, 202]
  · rw [chunkResult_of_taken htaken] at h
    obtain ⟨body, -, hresult⟩ := Failure.of_bind_ok h
    exact ⟨htaken, resultOf_ok hresult⟩
  · obtain ⟨message, hrefused⟩ := chunkResult_of_refused htaken
    rw [hrefused] at h
    cases h

theorem chunkResult_error {failure : Failure}
    (h : session.chunkResult range answer = .error failure) :
    ((answer.status ∉ [200, 201, 202] ∨ answer.IsGarbled) ∧
      ∃ reason, failure = .upload reason (some answer.status)) ∨ failure = .noSuchPart := by
  by_cases htaken : answer.status ∈ [200, 201, 202]
  · rw [chunkResult_of_taken htaken] at h
    rcases Failure.of_bind_error h with hbody | ⟨body, -, hresult⟩
    · obtain ⟨hgarbled, hreason⟩ := bodyOf_error hbody
      exact .inl ⟨.inr hgarbled, hreason⟩
    · exact .inr (resultOf_error hresult)
  · obtain ⟨message, hrefused⟩ := chunkResult_of_refused htaken
    rw [hrefused] at h
    exact .inl ⟨.inl htaken, message, (Except.error.inj h).symm⟩

/-- An answer that does not tell of its range is taken apart where there is no such part. -/
theorem chunkResult_of_not_tellsOfRange (h : ¬ answer.TellsOfRange) :
    session.chunkResult range answer = .error .noSuchPart := by
  rw [← @chunkResult_failsOnly_iff session range answer, FailsOnly] at h
  push Not at h
  obtain ⟨failure, hfailure, hother⟩ := h
  rcases chunkResult_error hfailure with ⟨-, reason, rfl⟩ | rfl
  · exact absurd ⟨reason, _, rfl⟩ hother
  · exact hfailure

end UploadSession

namespace Transfer

variable {before after : Transfer} {outcome : Except Failure ChunkResult}

/-- How sending the next range is meant to end. -/
inductive StepEnds (before after : Transfer) : Except Failure ChunkResult → Prop
  /-- An answer of a good status tells what became of the range. -/
  | told {range : ByteRange} {rest : List ByteRange} {answer : Response} {result : ChunkResult}
      (hpending : before.session.ranges.pending = range :: rest)
      (hanswer : before.world.lastAnswer? after.world = some answer)
      (hstatus : answer.status ∈ [200, 201, 202]) (htold : result.status = answer.status)
      (hrange : result.range = range) : StepEnds before after (.ok result)
  /-- An answer of another status, or with a body that is no JSON, is told with its status. -/
  | refused {answer : Response} (reason : String)
      (hanswer : before.world.lastAnswer? after.world = some answer)
      (hrefused : answer.status ∉ [200, 201, 202] ∨ answer.IsGarbled) :
      StepEnds before after (.error (.upload reason (some answer.status)))
  /-- All attempts to send the range are used up in transport. -/
  | unanswered {range : ByteRange} {rest : List ByteRange} {count : Nat} {pos : 0 < count}
      {failure : Failure} (hpending : before.session.ranges.pending = range :: rest)
      (hlimit : before.session.client.limit = .times count pos)
      (hexhausts : before.world.Exhausts after.world (before.session.putRequest range) count
        failure) : StepEnds before after (.error failure)
  /-- No range is left, and nothing is sent. -/
  | exhausted (hpending : before.session.ranges.pending = [])
      (hsends : before.world.Sends after.world []) : StepEnds before after (.error .exhausted)

theorem StepEnds.failsOnly (h : StepEnds before after outcome) :
    FailsOnly (·.isOfStep = true) outcome := by
  cases h with
  | told => exact FailsOnly.ok _
  | refused reason => exact FailsOnly.error_iff.mpr rfl
  | @unanswered _ _ _ pos _ _ _ hexhausts =>
      obtain ⟨fault, reason, rfl⟩ := hexhausts.isTransport pos
      exact FailsOnly.error_iff.mpr rfl
  | exhausted => exact FailsOnly.error_iff.mpr rfl

/-- What an answer says about its range is as it is meant to be, or the answer does not tell of
it. -/
theorem stepEnds_chunkResult {session : UploadSession} {range : ByteRange} {rest : List ByteRange}
    {answer : Response} (hpending : before.session.ranges.pending = range :: rest)
    (hanswer : before.world.lastAnswer? after.world = some answer)
    (htells : answer.TellsOfRange) :
    StepEnds before after (session.chunkResult range answer) := by
  have honly := (@UploadSession.chunkResult_failsOnly_iff session range answer).mpr htells
  cases hresult : session.chunkResult range answer with
  | ok result =>
      obtain ⟨hstatus, htold, hrange⟩ := UploadSession.chunkResult_ok hresult
      exact .told hpending hanswer hstatus htold hrange
  | error failure =>
      obtain ⟨hrefused, reason, rfl⟩ | rfl := UploadSession.chunkResult_error hresult
      · exact .refused reason hanswer hrefused
      · obtain ⟨_, _, ⟨⟩⟩ := honly _ hresult

/-- The next range is sent as it is meant to be exactly when the answer to it, if one arrived, tells
of it; any other answer is taken apart where there is no such part. -/
theorem next_stepEnds_iff (hclient : before.session.client.CanRetry)
    (hreplies : ∀ reply ∈ before.world.replies, ¬ reply.IsStop)
    (h : next.perform before = (outcome, after)) :
    (StepEnds before after outcome ↔
      ∀ answer, before.world.lastAnswer? after.world = some answer → answer.TellsOfRange) ∧
    (¬ StepEnds before after outcome → outcome = .error .noSuchPart) := by
  -- Either nothing is left to send, or the one range that is sent decides.
  cases hpending : before.session.ranges.pending with
  | nil =>
      rw [next, Action.perform_bind, takeRange_perform, hpending] at h
      obtain ⟨rfl, rfl⟩ := Prod.mk.inj h
      have hends : StepEnds before before (.error .exhausted) :=
        .exhausted hpending (World.Sends.refl _)
      refine ⟨iff_of_true hends ?_, absurd hends⟩
      intro answer hanswer
      rw [World.lastAnswer?, World.transcript_self] at hanswer
      cases hanswer
  | cons range rest =>
      rw [next_perform hpending] at h
      rcases hput : (before.session.client.put before.session.uploadUrl range.data
        (range.headers before.session.ranges.size)).perform before.world with ⟨answered, world⟩
      obtain ⟨attempts, -, hdelivers⟩ := HttpClient.send_delivers hput
      have hlast := hdelivers.lastAnswer?_eq
      rw [hput] at h
      obtain ⟨rfl, rfl⟩ := Prod.mk.inj h
      cases answered with
      | error failure =>
          obtain ⟨count, pos, hlimit, hexhausts⟩ := HttpClient.send_exhausts hclient hreplies hput
          have hends : StepEnds before { session := before.session.withPending rest, world }
              (.error failure) :=
            .unanswered hpending hlimit hexhausts
          refine ⟨iff_of_true hends ?_, absurd hends⟩
          intro answer hanswer
          rw [hlast] at hanswer
          cases hanswer
      | ok answer =>
          by_cases htells : answer.TellsOfRange
          · have hends : StepEnds before { session := before.session.withPending rest, world }
                ((before.session.withPending rest).chunkResult range answer) :=
              stepEnds_chunkResult hpending hlast htells
            refine ⟨iff_of_true hends ?_, absurd hends⟩
            intro other hother
            obtain rfl := Option.some.inj (hlast.symm.trans hother)
            exact htells
          · have herror := @UploadSession.chunkResult_of_not_tellsOfRange
              (before.session.withPending rest) range answer htells
            refine ⟨iff_of_false ?_ ?_, fun _ => herror⟩
            · -- No step that is meant to end so takes an answer apart.
              intro hends
              exact Bool.noConfusion (hends.failsOnly _ herror)
            · intro hall
              exact htells (hall answer hlast)

/-- A session with one range, and the replies of the service. -/
def rangeTrial (replies : List Reply) : Transfer where
  session := {
    uploadUrl := .text "https://upload.example/session"
    ranges := { size := 1, chunkSize := ChunkSize.unit, pending := [⟨0, 0, [0]⟩] }
    client := .standard }
  world := { start := .whole 0, now := .whole 0, entropy := ⟨fun _ => 0, 0⟩, replies }

/-- The answer that reports a file whose folder is not told. -/
def finishedAnswer : Response := ⟨201, "\x7b\"name\":\"a\",\"file\":\x7b\x7d\x7d"⟩

theorem repeated_range_is_told :
    let before := rangeTrial [.fault .timeout "", .response finishedAnswer]
    StepEnds before (next.perform before).2 (next.perform before).1 := by
  intro before
  have htells : finishedAnswer.TellsOfRange := by
    have hok : (before.session.chunkResult ⟨0, 0, [0]⟩ finishedAnswer).isOk = true := by
      decide +kernel
    apply (@UploadSession.chunkResult_failsOnly_iff before.session ⟨0, 0, [0]⟩ _).mp
    intro failure hfailure
    rw [hfailure] at hok
    cases hok
  refine (next_stepEnds_iff HttpClient.standard_canRetry (by decide) (Prod.eta _).symm).1.mpr ?_
  intro answer hanswer
  have hlast : before.world.lastAnswer? (next.perform before).2.world = some finishedAnswer := by
    decide +kernel
  obtain rfl := Option.some.inj (hlast.symm.trans hanswer)
  exact htells

/-- A list in place of a file, a list in place of a state and a file whose folder is null are taken
apart where there is no such part. -/
theorem bodies_of_wrong_kinds_escape :
    ¬ FailsOnly (·.isOfStep = true) (next.perform (rangeTrial [.response ⟨201, "[1]"⟩])).1 ∧
    ¬ FailsOnly (·.isOfStep = true) (next.perform (rangeTrial [.response ⟨202, "[]"⟩])).1 ∧
    ¬ FailsOnly (·.isOfStep = true) (next.perform (rangeTrial
      [.response ⟨200, "\x7b\"parentReference\":null\x7d"⟩])).1 := by
  refine ⟨?_, ?_, ?_⟩ <;> decide +kernel

end Transfer

end OAuthClient
