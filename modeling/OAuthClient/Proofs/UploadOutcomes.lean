import OAuthClient.Proofs.FileDelivery
import OAuthClient.Proofs.SessionCleanup

/-! # Outcomes of an upload

What becomes of an upload is decided by the answers to its ranges. The service
asks for more with each answer until one of them completes the file or refuses
a range, and if none does, the upload ends without a file. Faults in transport
before an answer repeat a request and change nothing else.
-/

namespace OAuthClient

/-- The requests that send a range in a round, one for each reply. -/
def UploadSession.requestsOf (session : UploadSession) (shipped : ByteRange × PutRound) :
    List Request :=
  List.replicate shipped.2.replies.length (session.putRequest shipped.1)

/-- Whether the body of an answer to a range is as the service documents it: none, or an object that
describes the file once the file is complete. -/
structure Response.HasRangeBody (response : Response) : Prop where
  partly : response.status = 202 →
    response.text.isEmpty = true ∨ ∃ members, response.json = .ok (.object members)
  complete : response.status ∈ [200, 201] →
    response.text.isEmpty = true ∨ ∃ body, response.json = .ok body ∧ body.DescribesItem

theorem DriveItem.exists_ofResponse {body : Value} (h : body.DescribesItem) :
    ∃ item, ofResponse body = .ok item := by
  obtain ⟨members, rfl, hparts⟩ := h
  obtain ⟨folder, hfolder⟩ : ∃ value, nested members "parentReference" "path" = .ok value :=
    exists_nested_iff.mpr (hparts _ (by simp))
  obtain ⟨kind, hkind⟩ : ∃ value, nested members "file" "mimeType" = .ok value :=
    exists_nested_iff.mpr (hparts _ (by simp))
  rw [ofResponse, Value.toMembers]
  change ∃ item, (nested members "parentReference" "path" >>= _) = .ok item
  rw [hfolder]
  change ∃ item, (nested members "file" "mimeType" >>= _) = .ok item
  rw [hkind]
  exact ⟨_, rfl⟩

theorem Response.HasRangeBody.exists_item {response : Response} (h : response.HasRangeBody)
    (hstatus : response.status ∈ [200, 201]) : ∃ item, response.item? = .ok item := by
  unfold item?
  rcases h.complete hstatus with hempty | ⟨body, hjson, hbody⟩
  · exact ⟨none, if_pos hempty⟩
  · obtain ⟨item, hitem⟩ := DriveItem.exists_ofResponse hbody
    rw [if_neg (by simp [isEmpty_of_json hjson]), hjson]
    change ∃ item, itemOf body = .ok item
    rw [itemOf, hitem]
    split
    next => exact ⟨some item, rfl⟩
    next => exact ⟨none, rfl⟩

namespace Transfer

/-- Whether the service answers requests in rounds. -/
structure Served (transfer : Transfer) (rounds : List PutRound) : Prop where
  replies : ∃ rest, transfer.world.replies = rounds.flatMap PutRound.replies ++ rest
  reached : ∀ round ∈ rounds, transfer.session.client.Reaches round

/-- The second transfer arises from the first one by sending some ranges, each in one round, and by
reporting some of them. -/
structure Puts (before after : Transfer) (rounds : List PutRound) (puts reports : Nat) : Prop where
  enough : puts ≤ before.session.ranges.pending.length ∧ puts ≤ rounds.length
  session : after.session =
    before.session.withPending (before.session.ranges.pending.drop puts)
  sends : before.world.Sends after.world
    (((before.session.ranges.pending.zip rounds).take puts).flatMap before.session.requestsOf)
  progress : after.world.progress = before.world.progress ++
    (before.session.ranges.pending.take reports).map ByteRange.contentLength

variable {before middle after : Transfer} {rounds more : List PutRound} {round : PutRound}
  {range : ByteRange} {rest : List ByteRange} {first second reports : Nat}

theorem Puts.refl (transfer : Transfer) (rounds : List PutRound) :
    transfer.Puts transfer rounds 0 0 :=
  ⟨by simp, rfl, World.Sends.refl _, by simp⟩

theorem Puts.trans (hfirst : before.Puts middle rounds first first)
    (hsecond : middle.Puts after (rounds.drop first) second reports) :
    before.Puts after rounds (first + second) (first + reports) := by
  obtain ⟨⟨hpending, hrounds⟩, hsession, hsends, hprogress⟩ := hfirst
  obtain ⟨hlater, hsession', hsends', hprogress'⟩ := hsecond
  have hleft : middle.session.ranges.pending = before.session.ranges.pending.drop first := by
    rw [hsession]
    rfl
  -- What the second part puts is read off the session that the first part left.
  rw [hleft, List.length_drop, List.length_drop] at hlater
  refine ⟨by omega, ?_, ?_, ?_⟩
  · rw [hsession', hleft, List.drop_drop, hsession]
    rfl
  · have hsent := hsends.trans hsends'
    have hzip : (before.session.ranges.pending.drop first).zip (rounds.drop first) =
        (before.session.ranges.pending.zip rounds).drop first := by
      simp only [List.zip_eq_zipWith, List.drop_zipWith]
    have hrequests : middle.session.requestsOf = before.session.requestsOf := by
      rw [hsession]
      rfl
    rw [hleft, hzip, hrequests, ← List.flatMap_append, ← List.take_add] at hsent
    exact hsent
  · rw [hprogress', hprogress, hleft, List.append_assoc, ← List.map_append, List.take_add]

theorem Puts.length_requests (h : before.Puts after rounds first reports) :
    (((before.session.ranges.pending.zip rounds).take first).flatMap
      before.session.requestsOf).length =
      ((rounds.take first).flatMap PutRound.replies).length := by
  have hrounds : ((before.session.ranges.pending.zip rounds).take first).map Prod.snd =
      rounds.take first := by
    have henough := h.enough
    rw [List.zip_eq_zipWith, List.take_zipWith, ← List.zip_eq_zipWith, List.map_snd_zip]
    simp only [List.length_take]
    omega
  rw [← hrounds, List.flatMap_map, List.length_flatMap, List.length_flatMap]
  simp only [UploadSession.requestsOf, List.length_replicate]

/-- The service goes on with the rounds that are left. -/
theorem Served.drop (hserved : before.Served rounds) (h : before.Puts after rounds first reports) :
    after.Served (rounds.drop first) := by
  obtain ⟨rest, hreplies⟩ := hserved.replies
  refine ⟨⟨rest, ?_⟩, ?_⟩
  · have hsplit : rounds.flatMap PutRound.replies =
        (rounds.take first).flatMap PutRound.replies ++
          (rounds.drop first).flatMap PutRound.replies := by
      rw [← List.flatMap_append, List.take_append_drop]
    rw [h.sends.replies, h.length_requests, hreplies, hsplit, List.append_assoc, List.drop_left]
  · intro round hround
    rw [h.session]
    exact hserved.reached round (List.mem_of_mem_drop hround)

/-- The next range is put in one round, and the answer tells what became of it. -/
theorem next_of_served (hserved : before.Served (round :: more))
    (hpending : before.session.ranges.pending = range :: rest) :
    ∃ after, next.perform before =
        ((before.session.withPending rest).chunkResult range round.answer, after) ∧
      before.Puts after (round :: more) 1 0 := by
  obtain ⟨later, hreplies⟩ := hserved.replies
  rw [List.flatMap_cons, List.append_assoc] at hreplies
  obtain ⟨world, hput, hsends⟩ := HttpClient.send_of_reaches
    (hserved.reached round List.mem_cons_self) hreplies "PUT" before.session.uploadUrl
    (range.headers before.session.ranges.size) (.bytes range.data)
  have hprogress := before.session.client.send_progress "PUT" before.session.uploadUrl
    (range.headers before.session.ranges.size) (.bytes range.data) before.world
  rw [hput] at hprogress
  rw [next_perform hpending, HttpClient.put, hput]
  refine ⟨_, rfl, by simp [hpending], ?_, ?_, ?_⟩
  · rw [hpending]
    rfl
  · rw [hpending, List.zip_cons_cons, List.take_succ_cons, List.take_zero, List.flatMap_singleton]
    exact hsends
  · simpa using hprogress

theorem Puts.report (h : before.Puts after rounds 1 0)
    (hpending : before.session.ranges.pending = range :: rest) :
    before.Puts ((inWorld (World.report range.contentLength)).perform after).2 rounds 1 1 := by
  have hsends := h.sends.trans (World.report_sends range.contentLength after.world)
  rw [List.append_nil] at hsends
  refine ⟨h.enough, h.session, hsends, ?_⟩
  have hprogress := h.progress
  simp only [List.take_zero, List.map_nil, List.append_nil] at hprogress
  simp [World.report, hprogress, hpending]

/-- The range whose turn it is is put in the round whose turn it is, and it can be reported. -/
theorem next_in_turn (hserved : before.Served rounds)
    (hputs : before.Puts middle rounds first first)
    (hrange : first < before.session.ranges.pending.length) (hround : first < rounds.length) :
    ∃ session after, next.perform middle =
        (UploadSession.chunkResult session before.session.ranges.pending[first]
          rounds[first].answer, after) ∧
      before.Puts after rounds (first + 1) first ∧
      before.Puts ((inWorld (World.report
        before.session.ranges.pending[first].contentLength)).perform after).2 rounds
        (first + 1) (first + 1) := by
  have hpending : middle.session.ranges.pending =
      before.session.ranges.pending[first] :: before.session.ranges.pending.drop (first + 1) := by
    rw [hputs.session]
    exact List.drop_eq_getElem_cons hrange
  have hrounds : rounds.drop first = rounds[first] :: rounds.drop (first + 1) :=
    List.drop_eq_getElem_cons hround
  have hmiddle := hserved.drop hputs
  rw [hrounds] at hmiddle
  obtain ⟨after, hnext, hput⟩ := next_of_served hmiddle hpending
  rw [← hrounds] at hput
  exact ⟨_, after, hnext, hputs.trans hput, hputs.trans (hput.report hpending)⟩

/-- Ranges that are acknowledged are put and reported one after the other. -/
theorem sendRanges_of_acknowledged (hserved : before.Served rounds)
    (hranges : first ≤ before.session.ranges.pending.length) (hrounds : first ≤ rounds.length)
    (hacknowledged : ∀ round ∈ rounds.take first, round.answer.Acknowledges) :
    ∃ middle last, before.Puts middle rounds first first ∧
      finished last = .error upload.unfinished ∧
      ∀ count, (sendRanges (first + count) none).perform before =
        (sendRanges count last).perform middle := by
  -- The induction adds a range at the end, where its turn is known from those before it.
  induction first with
  | zero => exact ⟨before, none, Puts.refl before rounds, rfl, fun count => by rw [Nat.zero_add]⟩
  | succ first ih =>
      obtain ⟨middle, last, hputs, -, hperform⟩ := ih (by omega) (by omega) fun round hround =>
        hacknowledged round (List.take_subset_take_left rounds (Nat.le_succ first) hround)
      obtain ⟨session, after, hnext, -, hreported⟩ := next_in_turn hserved hputs hranges hrounds
      obtain ⟨result, hresult, hrange, hpartial⟩ := UploadSession.chunkResult_of_acknowledges
        (hacknowledged rounds[first] (List.mem_take_iff_getElem.mpr ⟨first, by omega, rfl⟩))
      rw [hresult] at hnext
      refine ⟨_, some result, hreported, ?_, fun count => ?_⟩
      · rw [finished, hpartial]
        rfl
      · -- One range more was put, and one less is left to be put.
        rw [Nat.add_assoc, Nat.add_comm 1, hperform, sendRanges_succ_perform, hnext]
        dsimp only
        rw [hpartial, hrange, if_neg Bool.false_ne_true]

theorem upload_completes (hserved : before.Served rounds)
    (hranges : first < before.session.ranges.pending.length) (hrounds : first < rounds.length)
    (hacknowledged : ∀ round ∈ rounds.take first, round.answer.Acknowledges)
    {item : Option DriveItem} (hstatus : rounds[first].answer.status ∈ [200, 201])
    (hitem : rounds[first].answer.item? = .ok item) :
    ∃ after, upload.perform before = (.ok item, after) ∧
      before.Puts after rounds (first + 1) (first + 1) := by
  obtain ⟨middle, last, hputs, -, hperform⟩ :=
    sendRanges_of_acknowledged hserved hranges.le hrounds.le hacknowledged
  obtain ⟨session, after, hnext, -, hreported⟩ := next_in_turn hserved hputs hranges hrounds
  obtain ⟨result, hresult, hrange, hcomplete, rfl⟩ :=
    UploadSession.chunkResult_of_item? hstatus hitem
  rw [hresult] at hnext
  -- So many ranges are left after this one; the upload ends before it comes to them.
  obtain ⟨count, hcount⟩ := Nat.exists_eq_add_of_lt hranges
  refine ⟨_, ?_, hreported⟩
  rw [upload_perform, hcount, Nat.add_assoc, hperform, sendRanges_succ_perform, hnext]
  dsimp only
  rw [if_pos hcomplete, hrange]
  change (finished (some result), _) = _
  rw [finished, if_pos hcomplete]

theorem upload_refused (hserved : before.Served rounds)
    (hranges : first < before.session.ranges.pending.length) (hrounds : first < rounds.length)
    (hacknowledged : ∀ round ∈ rounds.take first, round.answer.Acknowledges)
    (hstatus : rounds[first].answer.status ∉ [200, 201, 202]) :
    ∃ message after,
      upload.perform before =
        (.error (.upload message (some rounds[first].answer.status)), after) ∧
      before.Puts after rounds (first + 1) first := by
  obtain ⟨middle, last, hputs, -, hperform⟩ :=
    sendRanges_of_acknowledged hserved hranges.le hrounds.le hacknowledged
  obtain ⟨session, after, hnext, hsent, -⟩ := next_in_turn hserved hputs hranges hrounds
  obtain ⟨message, hrefused⟩ := UploadSession.chunkResult_of_refused hstatus
  rw [hrefused] at hnext
  obtain ⟨count, hcount⟩ := Nat.exists_eq_add_of_lt hranges
  refine ⟨message, after, ?_, hsent⟩
  rw [upload_perform, hcount, Nat.add_assoc, hperform, sendRanges_succ_perform, hnext]
  rfl

theorem upload_unfinished (hserved : before.Served rounds)
    (hrounds : before.session.ranges.pending.length ≤ rounds.length)
    (hacknowledged : ∀ round ∈ rounds.take before.session.ranges.pending.length,
      round.answer.Acknowledges) :
    ∃ after, upload.perform before = (.error upload.unfinished, after) ∧
      before.Puts after rounds before.session.ranges.pending.length
        before.session.ranges.pending.length := by
  obtain ⟨middle, last, hputs, hlast, hperform⟩ :=
    sendRanges_of_acknowledged hserved le_rfl hrounds hacknowledged
  refine ⟨middle, ?_, hputs⟩
  have hall := hperform 0
  rw [Nat.add_zero] at hall
  rw [upload_perform, hall]
  change (finished last, _) = _
  rw [hlast]
  rfl

/-- Whether the service answers each range that is put, as it documents its answers. -/
structure Answered (transfer : Transfer) (rounds : List PutRound) : Prop where
  served : transfer.Served rounds
  enough : transfer.session.ranges.pending.length ≤ rounds.length ∨
    ∃ round ∈ rounds, round.answer.status ≠ 202
  bodies : ∀ round ∈ rounds, round.answer.HasRangeBody

theorem Answered.acknowledges (h : before.Answered rounds)
    (htaken : ∀ round ∈ rounds.take first, round.answer.status = 202) :
    ∀ round ∈ rounds.take first, round.answer.Acknowledges := by
  intro round hround
  have hstatus := htaken round hround
  exact ⟨hstatus, (h.bodies round (List.mem_of_mem_take hround)).partly hstatus⟩

/-- There is a first answer that does not ask for more, or all ranges are acknowledged. -/
theorem Answered.exists_first (h : before.Answered rounds) :
    (∃ first, ∃ hrounds : first < rounds.length, first < before.session.ranges.pending.length ∧
      (∀ round ∈ rounds.take first, round.answer.status = 202) ∧
      rounds[first].answer.status ≠ 202) ∨
    before.session.ranges.pending.length ≤ rounds.length ∧
      ∀ round ∈ rounds.take before.session.ranges.pending.length, round.answer.status = 202 := by
  let first := rounds.findIdx fun round => round.answer.status != 202
  have hearlier : ∀ round ∈ rounds.take first, round.answer.status = 202 := by
    intro round hround
    obtain ⟨index, hindex, rfl⟩ := List.mem_take_iff_getElem.mp hround
    simpa using List.not_of_lt_findIdx (lt_min_iff.mp hindex).1
  by_cases hfirst : first < before.session.ranges.pending.length
  · have hrounds : first < rounds.length := by
      rcases h.enough with henough | ⟨round, hround, hstatus⟩
      · omega
      · exact List.findIdx_lt_length_of_exists ⟨round, hround, by simpa using hstatus⟩
    refine .inl ⟨first, hrounds, hfirst, hearlier, ?_⟩
    simpa using List.findIdx_getElem (w := hrounds)
  · refine .inr ⟨?_, fun round hround => ?_⟩
    · exact (Nat.le_of_not_lt hfirst).trans List.findIdx_le_length
    · exact hearlier round (List.take_subset_take_left rounds (Nat.le_of_not_lt hfirst) hround)

theorem Answered.length_le_of_taken (h : before.Answered rounds)
    (htaken : ∀ round ∈ rounds.take before.session.ranges.pending.length,
      round.answer.status = 202) : before.session.ranges.pending.length ≤ rounds.length := by
  rcases h.enough with henough | ⟨round, hround, hstatus⟩
  · exact henough
  · by_contra hshort
    rw [List.take_of_length_le (by omega)] at htaken
    exact hstatus (htaken round hround)

theorem Puts.puts_eq {puts other others : Nat} (h : before.Puts after rounds puts reports)
    (hother : before.Puts after rounds other others) : puts = other := by
  have hleft := congrArg (fun session => session.ranges.pending.length)
    (h.session.symm.trans hother.session)
  simp only [UploadSession.withPending, List.length_drop] at hleft
  have henough := h.enough
  have henough' := hother.enough
  omega

/-- An upload succeeds only where an answer completes the file. -/
theorem Answered.completed_of_ok (h : before.Answered rounds) {item : Option DriveItem}
    (hok : upload.perform before = (.ok item, after)) :
    ∃ first, ∃ hrounds : first < rounds.length,
      (∀ round ∈ rounds.take first, round.answer.status = 202) ∧
      rounds[first].answer.status ∈ [200, 201] ∧ rounds[first].answer.item? = .ok item ∧
      before.Puts after rounds (first + 1) (first + 1) := by
  rcases h.exists_first with ⟨first, hrounds, hranges, hearlier, hstatus⟩ | ⟨hrounds, hall⟩
  · have hacknowledged := h.acknowledges hearlier
    by_cases hfinal : rounds[first].answer.status ∈ [200, 201]
    · obtain ⟨found, hfound⟩ := (h.bodies _ (List.getElem_mem hrounds)).exists_item hfinal
      obtain ⟨reached, heq, hputs⟩ :=
        upload_completes h.served hranges hrounds hacknowledged hfinal hfound
      rw [hok] at heq
      obtain ⟨hitem, rfl⟩ := Prod.mk.inj heq
      obtain rfl := Except.ok.inj hitem
      exact ⟨first, hrounds, hearlier, hfinal, hfound, hputs⟩
    · have hrefused : rounds[first].answer.status ∉ [200, 201, 202] := by
        simp only [List.mem_cons, List.not_mem_nil, or_false, not_or] at hfinal ⊢
        exact ⟨hfinal.1, hfinal.2, hstatus⟩
      obtain ⟨message, reached, heq, -⟩ :=
        upload_refused h.served hranges hrounds hacknowledged hrefused
      rw [hok] at heq
      cases heq
  · obtain ⟨reached, heq, -⟩ := upload_unfinished h.served hrounds (h.acknowledges hall)
    rw [hok] at heq
    cases heq

/-- An upload puts range after range until an answer completes the file, which is then what the
answer describes, or refuses the range. A range is reported unless it is refused. If all ranges are
acknowledged, the upload fails once all of them are put. -/
theorem upload_follows_answers (h : before.Answered rounds) :
    ∃ outcome after, upload.perform before = (outcome, after) ∧
      (∀ k (hk : k < rounds.length), k < before.session.ranges.pending.length →
        ((∃ item, rounds[k].answer.item? = .ok item ∧ outcome = .ok item ∧
            before.Puts after rounds (k + 1) (k + 1)) ↔
          (∀ round ∈ rounds.take k, round.answer.status = 202) ∧
            rounds[k].answer.status ∈ [200, 201]) ∧
        ((∀ round ∈ rounds.take k, round.answer.status = 202) →
          rounds[k].answer.status ∉ [200, 201, 202] →
          (∃ message, outcome = .error (.upload message (some rounds[k].answer.status))) ∧
            before.Puts after rounds (k + 1) k)) ∧
      ((∀ round ∈ rounds.take before.session.ranges.pending.length, round.answer.status = 202) →
        outcome = .error upload.unfinished ∧
          before.Puts after rounds before.session.ranges.pending.length
            before.session.ranges.pending.length) := by
  rcases hupload : upload.perform before with ⟨outcome, after⟩
  -- One part for each status of the deciding answer, and one for the case that there is none.
  refine ⟨outcome, after, rfl, fun k hk hranges => ⟨⟨?_, ?_⟩, ?_⟩, ?_⟩
  · rintro ⟨item, hitem, rfl, hputs⟩
    obtain ⟨first, hrounds, hearlier, hfinal, -, hcompleted⟩ := h.completed_of_ok hupload
    obtain rfl := Nat.succ.inj (hputs.puts_eq hcompleted)
    exact ⟨hearlier, hfinal⟩
  · rintro ⟨hearlier, hfinal⟩
    obtain ⟨item, hitem⟩ := (h.bodies _ (List.getElem_mem hk)).exists_item hfinal
    obtain ⟨reached, heq, hputs⟩ :=
      upload_completes h.served hranges hk (h.acknowledges hearlier) hfinal hitem
    obtain ⟨rfl, rfl⟩ := Prod.mk.inj (hupload.symm.trans heq)
    exact ⟨item, hitem, rfl, hputs⟩
  · intro hearlier hrefused
    obtain ⟨message, reached, heq, hputs⟩ :=
      upload_refused h.served hranges hk (h.acknowledges hearlier) hrefused
    obtain ⟨rfl, rfl⟩ := Prod.mk.inj (hupload.symm.trans heq)
    exact ⟨⟨message, rfl⟩, hputs⟩
  · intro hall
    obtain ⟨reached, heq, hputs⟩ :=
      upload_unfinished h.served (h.length_le_of_taken hall) (h.acknowledges hall)
    obtain ⟨rfl, rfl⟩ := Prod.mk.inj (hupload.symm.trans heq)
    exact ⟨rfl, hputs⟩

/-- A service that takes the first range once it is repeated, and then completes the file. -/
def trialRounds : List PutRound :=
  [⟨[(.timeout, "")], ⟨202, ""⟩⟩, ⟨[], ⟨201, "\x7b\"id\":\"1\"\x7d"⟩⟩]

/-- A session with two ranges of one byte each. -/
def trialSession : Transfer where
  session := {
    uploadUrl := .text "https://upload.example/session"
    client := .standard
    ranges := { size := 2, chunkSize := 1, pending := [⟨0, 0, [1]⟩, ⟨1, 1, [2]⟩] } }
  world := (Context.uploadTrial (trialRounds.flatMap PutRound.replies)).world

theorem trial_upload_completes :
    ∃ item after, upload.perform trialSession = (.ok (some item), after) ∧
      trialSession.Puts after trialRounds 2 2 ∧ after.world.sent.length = 3 := by
  obtain ⟨item, hitem⟩ : ∃ item, (Response.mk 201 "\x7b\"id\":\"1\"\x7d").Describes item :=
    Response.exists_describes (by decide +kernel)
  have hanswered : trialSession.Answered trialRounds := by
    refine ⟨⟨⟨[], ?_⟩, ?_⟩, .inl le_rfl, ?_⟩
    · rw [List.append_nil]
      rfl
    · simp only [trialRounds, List.forall_mem_cons, List.not_mem_nil, false_implies, implies_true,
        and_true]
      exact ⟨HttpClient.standard_reaches (by decide), HttpClient.standard_reaches (by decide)⟩
    · simp only [trialRounds, List.forall_mem_cons, List.not_mem_nil, false_implies, implies_true,
        and_true]
      obtain ⟨body, hjson, -, hbody⟩ := hitem
      refine ⟨⟨fun _ => .inl rfl, fun _ => .inl rfl⟩, ⟨by simp, fun _ => .inr ⟨body, hjson, ?_⟩⟩⟩
      rw [← DriveItem.ofResponse_failsOnly_iff, hbody]
      exact FailsOnly.ok item
  obtain ⟨outcome, after, hupload, hcompletes, -⟩ := upload_follows_answers hanswered
  obtain ⟨found, hfound, rfl, hputs⟩ := (hcompletes 1 (by decide) (by decide)).1.mpr
    ⟨by simp [trialRounds], by simp [trialRounds]⟩
  obtain rfl := Except.ok.inj (hfound.symm.trans hitem.item?_eq)
  refine ⟨item, after, hupload, hputs, ?_⟩
  rw [hputs.sends.sent]
  rfl

end Transfer

end OAuthClient
