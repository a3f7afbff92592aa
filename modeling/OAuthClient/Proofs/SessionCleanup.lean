import OAuthClient.Proofs.FileUploads

/-! # Sessions that end

An upload session that the service has opened should be finished or given up.
It is given up after those failures that tell of the upload. A size of chunks
that is not acceptable and an answer that does not tell of its range fail in
other ways, and so does a range that gets no answer: they leave the session
open, and nothing else does.
-/

namespace OAuthClient

/-- Whether a failure tells of an upload. -/
def Failure.IsUpload (failure : Failure) : Prop :=
  ∃ reason status, failure = .upload reason status

theorem Failure.IsTransport.not_isUpload {failure : Failure} (h : failure.IsTransport) :
    ¬ failure.IsUpload := by
  obtain ⟨fault, reason, rfl⟩ := h
  rintro ⟨_, _, ⟨⟩⟩

/-! ### Answers to a range -/

/-- Whether a value describes a file: it is an object, and so are the parts of it that are taken
apart further. -/
def Value.DescribesItem (value : Value) : Prop :=
  ∃ members, value = .object members ∧ ∀ name ∈ ["parentReference", "file"], ∀ part,
    Assoc.get? name members = some part → ∃ inner, part = .object inner

/-- Whether an answer tells what became of a range. One that takes the range has no body or a body
that is no JSON; or its body is an object, which describes the file once it is complete. -/
def Response.TellsOfRange (response : Response) : Prop :=
  response.status ∈ [200, 201, 202] → response.text.isEmpty = false →
    ∀ body, response.json = .ok body →
      if response.status = 202 then ∃ members, body = .object members
      else body.isPresent = true → body.DescribesItem

/-- Whether a reply is an answer that tells what became of a range. -/
def Reply.TellsOfRange (reply : Reply) : Prop :=
  ∃ answer, reply = .response answer ∧ answer.TellsOfRange

namespace Value

theorem toMembers_eq_ok_iff {value : Value} {members : Members} :
    value.toMembers = .ok members ↔ value = .object members := by
  cases value <;> simp [toMembers]

theorem toMembers_error {value : Value} {failure : Failure} (h : value.toMembers = .error failure) :
    failure = .noSuchPart := by
  cases value <;> cases h <;> rfl

theorem toMembers_failsOnly (value : Value) :
    FailsOnly (fun failure => ¬ failure.IsUpload) value.toMembers := by
  rintro failure h ⟨reason, status, rfl⟩
  cases toMembers_error h

theorem toMembers_failsOnly_iff {value : Value} :
    FailsOnly Failure.IsUpload value.toMembers ↔ ∃ members, value = .object members := by
  rw [← bind_pure value.toMembers, FailsOnly.bind_iff value.toMembers_failsOnly]
  simp only [toMembers_eq_ok_iff, pure, Except.pure, FailsOnly.ok, and_true]

end Value

namespace DriveItem

variable {members : Members} {body : Value} {name inner : String}

theorem nested_error {failure : Failure} (h : nested members name inner = .error failure) :
    failure = .noSuchPart := by
  unfold nested at h
  split at h
  next => cases h
  next part =>
    rcases Failure.of_bind_error h with h | ⟨_, _, h⟩
    · exact Value.toMembers_error h
    · cases h

theorem nested_failsOnly : FailsOnly (fun failure => ¬ failure.IsUpload)
    (nested members name inner) := by
  rintro failure h ⟨reason, status, rfl⟩
  cases nested_error h

theorem exists_nested_iff :
    (∃ value, nested members name inner = .ok value) ↔
      ∀ part, Assoc.get? name members = some part → ∃ inner, part = .object inner := by
  unfold nested
  cases Assoc.get? name members with
  | none => simp [pure, Except.pure]
  | some part => cases part <;> simp [Value.toMembers, bind, Except.bind, pure, Except.pure]

/-- A value can be read as a file exactly when it describes one; else the failure does not tell of
an upload. -/
theorem ofResponse_failsOnly_iff :
    FailsOnly Failure.IsUpload (ofResponse body) ↔ body.DescribesItem := by
  unfold ofResponse Value.DescribesItem
  rw [FailsOnly.bind_iff body.toMembers_failsOnly]
  simp only [FailsOnly.bind_iff nested_failsOnly, Value.toMembers_eq_ok_iff, pure, Except.pure,
    FailsOnly.ok, and_true, exists_and_right, exists_nested_iff, List.forall_mem_cons,
    List.not_mem_nil, false_implies, implies_true]

end DriveItem

namespace UploadSession

variable {session : UploadSession} {range : ByteRange} {response : Response}

theorem resultOf_failsOnly_iff {status : Int} {body : Value} :
    FailsOnly Failure.IsUpload (resultOf range status body) ↔
      if status = 202 then ∃ members, body = .object members
      else body.isPresent = true → body.DescribesItem := by
  unfold resultOf
  by_cases h202 : status = 202
  · simp only [h202, if_true, FailsOnly.map_iff, Value.toMembers_failsOnly_iff]
  · simp only [h202, if_false]
    cases body.isPresent with
    | true =>
        simp only [if_true, FailsOnly.map_iff, DriveItem.ofResponse_failsOnly_iff, true_implies]
    | false => simp [FailsOnly.ok]

/-- What became of a range is told, or the failure tells of the upload, exactly when the answer
tells of it. -/
theorem chunkResult_failsOnly_iff :
    FailsOnly Failure.IsUpload (session.chunkResult range response) ↔ response.TellsOfRange := by
  unfold Response.TellsOfRange
  by_cases htaken : response.status ∈ [200, 201, 202]
  · simp only [chunkResult_of_taken htaken, htaken, true_implies, bodyOf]
    cases response.text.isEmpty with
    | true =>
        -- No body counts as an object without members, which is acceptable with each status.
        simp only [if_true, Bool.true_eq_false, false_implies, iff_true]
        apply resultOf_failsOnly_iff.mpr
        split
        next => exact ⟨[], rfl⟩
        next => exact Bool.noConfusion
    | false =>
        simp only [Bool.false_eq_true, if_false, true_implies]
        cases response.json with
        | error failure =>
            simp only [reduceCtorEq, false_implies, implies_true, iff_true]
            exact FailsOnly.error_iff.mpr ⟨_, _, rfl⟩
        | ok body =>
            simp only [Except.ok.injEq, forall_eq']
            exact resultOf_failsOnly_iff
  · obtain ⟨message, hrefused⟩ := @chunkResult_of_refused session range response htaken
    simp only [htaken, false_implies, iff_true, hrefused]
    exact FailsOnly.error_iff.mpr ⟨_, _, rfl⟩

end UploadSession

namespace World

variable {before middle after : World}

/-- Whether the last request that passed, if there was one, got an answer that tells of its
range. -/
def EndsTold (before after : World) : Prop :=
  ∀ entry, (before.transcript after).getLast? = some entry → entry.2.TellsOfRange

theorem EndsTold.of_silence (h : before.Sends after []) : before.EndsTold after := by
  intro entry hentry
  rw [h.transcript_eq] at hentry
  cases hentry

/-- What came before a good end does not count. -/
theorem EndsTold.trans_iff {first second : List Request} (hfirst : before.Sends middle first)
    (hsecond : middle.Sends after second) (htold : before.EndsTold middle) :
    before.EndsTold after ↔ middle.EndsTold after := by
  unfold EndsTold at *
  rw [hfirst.transcript_trans hsecond, List.getLast?_append]
  cases hlast : (middle.transcript after).getLast? with
  | none => simpa using htold
  | some entry => rfl

theorem Delivers.endsTold_iff {request : Request} {attempts : Nat}
    {outcome : Except Failure Response} (h : before.Delivers after request attempts outcome)
    (hpos : 0 < attempts) :
    before.EndsTold after ↔ ∃ answer, outcome = .ok answer ∧ answer.TellsOfRange := by
  simp only [EndsTold, h.getLast?_transcript hpos, Option.some.injEq, forall_eq', h.answered,
    hpos, true_and, Reply.TellsOfRange]

end World

namespace Transfer

variable {before after : Transfer}

/-- The next range fails to be sent with a failure of the upload only, exactly when the answer to it
tells of it. -/
theorem next_failsOnly_iff (hpending : before.session.ranges.pending ≠ [])
    (hclient : before.session.client.CanRetry)
    (hreplies : ∀ reply ∈ before.world.replies, ¬ reply.IsStop) :
    FailsOnly Failure.IsUpload (next.perform before).1 ↔
      before.world.EndsTold (next.perform before).2.world := by
  obtain ⟨range, rest, hpending⟩ := List.exists_cons_of_ne_nil hpending
  rw [next_perform hpending]
  have hfailed : FailsOnly Failure.IsTransport ((before.session.client.put
      before.session.uploadUrl range.data (range.headers before.session.ranges.size)).perform
        before.world).1 := HttpClient.send_failsOnly hclient hreplies
  rcases hput : (before.session.client.put before.session.uploadUrl range.data
    (range.headers before.session.ranges.size)).perform before.world with ⟨answered, world⟩
  obtain ⟨attempts, hcounted, hdelivers⟩ := HttpClient.send_delivers hput
  rw [hput] at hfailed
  rw [hdelivers.endsTold_iff (hcounted.mpr hclient.isCounted),
    FailsOnly.bind_iff fun failure h => (hfailed failure h).not_isUpload]
  simp only [UploadSession.chunkResult_failsOnly_iff]

theorem sendRanges_failsOnly_iff {count : Nat} {last : Option ChunkResult}
    (hcount : count ≤ before.session.ranges.pending.length)
    (hclient : before.session.client.CanRetry)
    (hreplies : ∀ reply ∈ before.world.replies, ¬ reply.IsStop) :
    FailsOnly Failure.IsUpload ((sendRanges count last).perform before).1 ↔
      before.world.EndsTold ((sendRanges count last).perform before).2.world := by
  induction count generalizing last before with
  | zero =>
      exact iff_of_true (FailsOnly.ok last) (World.EndsTold.of_silence (World.Sends.refl _))
  | succ count ih =>
      have hnonempty := List.ne_nil_of_length_pos (Nat.lt_of_lt_of_le (Nat.succ_pos _) hcount)
      have hnext := next_failsOnly_iff hnonempty hclient hreplies
      obtain ⟨range, rest, hpending⟩ := List.exists_cons_of_ne_nil hnonempty
      rw [sendRanges_succ_perform]
      rcases hperform : next.perform before with ⟨failure | result, reached⟩ <;>
        rw [hperform] at hnext <;> dsimp only at hnext ⊢
      · rw [FailsOnly.error_iff] at hnext ⊢
        exact hnext
      · obtain ⟨_, _, _, hdelivers, _, hsession⟩ := next_delivers hpending hperform
        have hreported := hdelivers.sends.trans
          (World.report_sends result.range.contentLength reached.world)
        -- The report sends nothing, so the range that was told of is still the last one.
        have htold : before.world.EndsTold
            ((World.report result.range.contentLength).perform reached.world).2 :=
          hnext.mp (FailsOnly.ok result)
        split
        next => exact iff_of_true (FailsOnly.ok (some result)) htold
        next =>
          obtain ⟨_, hships⟩ := sendRanges_ships (Prod.eta ((sendRanges count (some result)).perform
            ((inWorld (World.report result.range.contentLength)).perform reached).2)).symm
          obtain ⟨_, hsends⟩ := hships.sends
          rw [World.EndsTold.trans_iff hreported hsends htold]
          apply ih
          · rw [hpending, List.length_cons] at hcount
            rw [inWorld_perform, hsession]
            exact Nat.le_of_succ_le_succ hcount
          · rw [inWorld_perform, hsession]
            exact hclient
          · exact hreported.not_isStop hreplies

theorem finished_failsOnly (last : Option ChunkResult) :
    FailsOnly Failure.IsUpload (finished last) := by
  cases last with
  | none => exact FailsOnly.error_iff.mpr ⟨_, _, rfl⟩
  | some result =>
      by_cases hcomplete : result.isComplete = true
      · rw [finished, if_pos hcomplete]
        exact FailsOnly.ok result.item
      · rw [finished, if_neg hcomplete]
        exact FailsOnly.error_iff.mpr ⟨_, _, rfl⟩

/-- An upload fails with a failure of its own only, exactly when the last answer, if anything was
sent, tells of its range. -/
theorem upload_failsOnly_iff (hclient : before.session.client.CanRetry)
    (hreplies : ∀ reply ∈ before.world.replies, ¬ reply.IsStop) :
    FailsOnly Failure.IsUpload (upload.perform before).1 ↔
      before.world.EndsTold (upload.perform before).2.world := by
  rw [upload_perform, ← sendRanges_failsOnly_iff (Nat.le_refl _) hclient hreplies]
  cases ((sendRanges before.session.ranges.pending.length none).perform before).1 with
  | error failure => exact FailsOnly.error_iff.trans FailsOnly.error_iff.symm
  | ok last =>
      refine iff_of_true ?_ (FailsOnly.ok last)
      exact finished_failsOnly last

theorem method_of_mem_upload {entry : Request × Reply}
    (h : entry ∈ before.world.transcript (upload.perform before).2.world) :
    entry.1.method = "PUT" := by
  obtain ⟨shipped, hships⟩ := upload_ships (Prod.eta (upload.perform before)).symm
  obtain ⟨range, hrange⟩ := hships.exists_range h
  rw [hrange]
  rfl

end Transfer

/-! ### Giving up what was opened -/

/-- Whether a session at an address was finished or given up. -/
def Closes {α : Type} (url : Value) (log : List (Request × Reply)) (outcome : Except Failure α) :
    Prop :=
  outcome.isOk = true ∨ ∃ entry ∈ log, entry.1.method = "DELETE" ∧ entry.1.url = url

/-- Whether the last request, if it sent a range, got an answer that tells of the range. -/
def LastRangeTold (log : List (Request × Reply)) : Prop :=
  ∀ entry, log.getLast? = some entry → entry.1.method = "PUT" → entry.2.TellsOfRange

namespace Context

variable {transfer : Transfer}

/-- An upload through a session is the upload alone, or it is refused and then given up, which does
not hide why it failed. -/
theorem uploadOrAbandon_cases (hclient : transfer.session.client.CanRetry)
    (hreplies : ∀ reply ∈ transfer.world.replies, ¬ reply.IsStop) :
    (∃ failure reached, Transfer.upload.perform transfer = (.error failure, reached) ∧
      failure.IsUpload ∧
      uploadOrAbandon.perform transfer = (.error failure, (abandon.perform reached).2)) ∨
    FailsOnly (fun failure => ¬ failure.IsUpload) (Transfer.upload.perform transfer).1 ∧
      uploadOrAbandon.perform transfer = Transfer.upload.perform transfer := by
  rcases hupload : Transfer.upload.perform transfer with ⟨sent, reached⟩
  obtain ⟨shipped, hships⟩ := Transfer.upload_ships hupload
  obtain ⟨requests, hsends⟩ := hships.sends
  rw [uploadOrAbandon_perform, hupload]
  split
  next reason status ended heq =>
    obtain ⟨rfl, rfl⟩ := Prod.mk.inj heq
    have hok := abandon_ok (by rw [hships.session]; exact hclient) (hsends.not_isStop hreplies)
    refine .inl ⟨_, _, rfl, ⟨reason, status, rfl⟩, ?_⟩
    rw [hok]
    rfl
  next result ended hother heq =>
    obtain ⟨rfl, rfl⟩ := Prod.mk.inj heq
    refine .inr ⟨?_, rfl⟩
    rintro failure hfailure ⟨reason, status, rfl⟩
    exact hother reason status hfailure

theorem uploadOrAbandon_outcome (hclient : transfer.session.client.CanRetry)
    (hreplies : ∀ reply ∈ transfer.world.replies, ¬ reply.IsStop) :
    (uploadOrAbandon.perform transfer).1 = (Transfer.upload.perform transfer).1 := by
  rcases uploadOrAbandon_cases hclient hreplies with
    ⟨failure, reached, hupload, _, heq⟩ | ⟨_, heq⟩
  · rw [heq, hupload]
  · rw [heq]

theorem getLast?_abandon (hcounted : transfer.session.client.IsCounted) :
    ∃ reply, (transfer.world.transcript (abandon.perform transfer).2.world).getLast? =
      some (transfer.session.deleteRequest, reply) := by
  obtain ⟨attempts, answered, hattempts, hdelivers⟩ :=
    abandon_delivers (Prod.eta (abandon.perform transfer)).symm
  exact ⟨_, hdelivers.getLast?_transcript (hattempts.mpr hcounted)⟩

/-- An upload alone sends nothing but ranges. -/
theorem lastRangeTold_upload_iff :
    LastRangeTold (transfer.world.transcript (Transfer.upload.perform transfer).2.world) ↔
      transfer.world.EndsTold (Transfer.upload.perform transfer).2.world := by
  constructor
  · intro h entry hentry
    exact h entry hentry (Transfer.method_of_mem_upload (List.mem_of_getLast? hentry))
  · intro h entry hentry _
    exact h entry hentry

/-- An upload through a session finishes the session or gives it up exactly when the last range that
was sent was told of. -/
theorem uploadOrAbandon_closes_iff (hclient : transfer.session.client.CanRetry)
    (hreplies : ∀ reply ∈ transfer.world.replies, ¬ reply.IsStop) :
    Closes transfer.session.uploadUrl
        (transfer.world.transcript (uploadOrAbandon.perform transfer).2.world)
        (uploadOrAbandon.perform transfer).1 ↔
      LastRangeTold (transfer.world.transcript (uploadOrAbandon.perform transfer).2.world) := by
  rcases uploadOrAbandon_cases hclient hreplies with
    ⟨failure, reached, hupload, _, heq⟩ | ⟨hother, heq⟩ <;> rw [heq]
  · obtain ⟨shipped, hships⟩ := Transfer.upload_ships hupload
    obtain ⟨requests, hsends⟩ := hships.sends
    obtain ⟨_, _, _, hdelivers⟩ := abandon_delivers (Prod.eta (abandon.perform reached)).symm
    obtain ⟨reply, hlast⟩ := @getLast?_abandon reached (by
      rw [hships.session]
      exact hclient.isCounted)
    dsimp only
    rw [hsends.transcript_trans hdelivers.sends]
    apply iff_of_true
    · refine .inr ⟨_, List.mem_append_right _ (List.mem_of_getLast? hlast), rfl, ?_⟩
      rw [hships.session]
      rfl
    · -- The last request is the one that gave the session up, not one that sent a range.
      intro entry hentry hput
      rw [List.getLast?_append, hlast] at hentry
      obtain rfl := Option.some.inj hentry
      exact absurd (show "DELETE" = "PUT" from hput) (by decide)
  · rw [lastRangeTold_upload_iff, ← Transfer.upload_failsOnly_iff hclient hreplies]
    cases houtcome : (Transfer.upload.perform transfer).1 with
    | error failure =>
        rw [houtcome] at hother
        apply iff_of_false
        · -- Only ranges were sent, so this failure gave nothing up.
          rintro (⟨⟨⟩⟩ | ⟨entry, hentry, hdelete, _⟩)
          rw [Transfer.method_of_mem_upload hentry] at hdelete
          exact absurd hdelete (by decide)
        · intro h
          exact hother failure rfl (h failure rfl)
    | ok item => exact iff_of_true (.inl rfl) (FailsOnly.ok item)

/-- A session that the service has opened is finished or given up exactly when the size of the
chunks is acceptable and the last range that was sent, unless the session was given up after it, was
told of. Whatever fails, it is told as it was. -/
theorem uploadInSession_closes_iff {task : UploadTask} {client : HttpClient} {data : Bytes}
    {before after : Context} {members : Members} {opened : World} {url : Value}
    {outcome : Except Failure (Option DriveItem)}
    (hopening : opening? task client before = some (members, opened))
    (hurl : Assoc.get? "uploadUrl" members = some url) (hclient : client.CanRetry)
    (hreplies : ∀ reply ∈ opened.replies, ¬ reply.IsStop)
    (h : (uploadInSession task client data).perform before = (outcome, after)) :
    (Closes url (opened.transcript after.world) outcome ↔
      task.chunkSize.IsChunkSize ∧ LastRangeTold (opened.transcript after.world)) ∧
    outcome = UploadSession.ofBytes url data task.chunkSize client
        (Value.member members "expirationDateTime") >>= fun session =>
      (Transfer.upload.perform { session, world := opened }).1 := by
  rcases uploadInSession_of_opening hopening hurl h with
    ⟨failure, hmade, rfl, hafter⟩ | ⟨session, hmade, houtcome, hafter⟩ <;> rw [hafter, hmade]
  · refine ⟨iff_of_false ?_ ?_, rfl⟩
    · rintro (⟨⟨⟩⟩ | ⟨entry, hentry, _⟩)
      exact World.not_mem_transcript_self opened entry hentry
    · rintro ⟨hsize, _⟩
      obtain ⟨ranges, hranges⟩ := Ranges.exists_ofSize_iff.mpr hsize
      rw [UploadSession.ofBytes, hranges] at hmade
      cases hmade
  · obtain ⟨rfl, rfl, hranges⟩ := UploadSession.ofBytes_ok hmade
    have hcloses := @uploadOrAbandon_closes_iff { session, world := opened } hclient hreplies
    rw [houtcome]
    refine ⟨?_, @uploadOrAbandon_outcome { session, world := opened } hclient hreplies⟩
    simpa [Ranges.exists_ofSize_iff.mp ⟨_, hranges⟩] using hcloses

/-- A service that opens a session, refuses a range and deletes the session. -/
def refusedRange : Context :=
  uploadTrial [.response ⟨200, "\x7b\"uploadUrl\":\"https://upload.example/session\"\x7d"⟩,
    .response ⟨500, ""⟩, .response ⟨204, ""⟩]

theorem refused_session_is_given_up :
    ∃ members opened url, opening? trialTask .standard refusedRange = some (members, opened) ∧
      Assoc.get? "uploadUrl" members = some url ∧
      Closes url
        (opened.transcript ((uploadInSession trialTask .standard [0]).perform refusedRange).2.world)
        ((uploadInSession trialTask .standard [0]).perform refusedRange).1 := by
  have hopened : (opening? trialTask .standard refusedRange).any (fun opening =>
      (Assoc.get? "uploadUrl" opening.1).isSome &&
      decide (∀ reply ∈ opening.2.replies, ¬ reply.IsStop) &&
      decide ((opening.2.transcript ((uploadInSession trialTask .standard [0]).perform
        refusedRange).2.world).getLast?.map (·.1.method) = some "DELETE")) = true := by
    decide +kernel
  cases hopening : opening? trialTask .standard refusedRange with
  | none =>
      rw [hopening] at hopened
      cases hopened
  | some opening =>
      rw [hopening] at hopened
      simp only [Option.any_some, Bool.and_eq_true, decide_eq_true_eq] at hopened
      obtain ⟨⟨hurl, hreplies⟩, hlast⟩ := hopened
      obtain ⟨url, hurl⟩ := Option.isSome_iff_exists.mp hurl
      refine ⟨_, _, url, rfl, hurl, (uploadInSession_closes_iff hopening hurl
        HttpClient.standard_canRetry hreplies (Prod.eta _).symm).1.mpr ⟨?_, ?_⟩⟩
      · exact ⟨ChunkSize.standard, rfl, by decide, by decide⟩
      · intro entry hentry hput
        rw [hentry] at hlast
        rw [Option.map_some, Option.some.injEq, hput] at hlast
        exact absurd hlast (by decide)

/-- Whether a session is opened and then neither finished nor given up. -/
structure LeavesOpen (task : UploadTask) (client : HttpClient) (data : Bytes) (before : Context) :
    Prop where
  opened : ((opening? task client before).bind fun opening =>
    Assoc.get? "uploadUrl" opening.1).isSome = true
  failed : ((uploadInSession task client data).perform before).1.isOk = false
  kept : ∀ request ∈ ((uploadInSession task client data).perform before).2.world.sent,
    request.method ≠ "DELETE"

/-- A range without an answer, an answer that does not describe a file and a size of chunks that is
not acceptable leave a session open. -/
theorem unanswered_range_leaves_session_open :
    LeavesOpen trialTask .standard [0] (uploadTrial
      [.response ⟨200, "\x7b\"uploadUrl\":\"https://upload.example/session\"\x7d"⟩,
        .fault .timeout "", .fault .timeout "", .fault .timeout ""]) ∧
    LeavesOpen trialTask .standard [0] (uploadTrial
      [.response ⟨200, "\x7b\"uploadUrl\":\"https://upload.example/session\"\x7d"⟩,
        .response ⟨201, "[1]"⟩]) ∧
    LeavesOpen { trialTask with chunkSize := .int 1000 } .standard [0] (uploadTrial
      [.response ⟨200, "\x7b\"uploadUrl\":\"https://upload.example/session\"\x7d"⟩]) := by
  refine ⟨⟨?_, ?_, ?_⟩, ⟨?_, ?_, ?_⟩, ⟨?_, ?_, ?_⟩⟩ <;> decide +kernel

end Context

end OAuthClient
