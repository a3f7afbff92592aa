import OAuthClient.Proofs.FailedAcquisition
import OAuthClient.Proofs.UploadAuthorization

/-! # Delivery of a file

Where the service takes what it is sent, an upload delivers the bytes of the
file: a small file with one request, a larger one with a request that opens a
session and one more for each chunk. The bodies put together are the file, and
what is reported adds up to its size.
-/

namespace OAuthClient

namespace Response

/-- Whether an answer takes a range that is not the last one. -/
def Acknowledges (response : Response) : Prop :=
  response.status = 202 ∧
    (response.text.isEmpty = true ∨ ∃ members, response.json = .ok (.object members))

/-- Whether the body of an answer describes a file. -/
def Describes (response : Response) (item : DriveItem) : Prop :=
  ∃ body, response.json = .ok body ∧ body.isPresent = true ∧ DriveItem.ofResponse body = .ok item

/-- Whether an answer takes the last range. -/
def Completes (response : Response) (item : DriveItem) : Prop :=
  response.status ∈ [200, 201] ∧ response.Describes item

/-- The file that a body describes, if there is anything in it. -/
def itemOf (body : Value) : Except Failure (Option DriveItem) :=
  if body.isPresent then (DriveItem.ofResponse body).map some else .ok none

/-- The file that an answer describes, if it has a body with anything in it. -/
def item? (response : Response) : Except Failure (Option DriveItem) :=
  if response.text.isEmpty then .ok none else response.json >>= itemOf

theorem Describes.item?_eq {response : Response} {item : DriveItem} (h : response.Describes item) :
    response.item? = .ok (some item) := by
  obtain ⟨body, hjson, hpresent, hitem⟩ := h
  rw [item?, if_neg (by simp [isEmpty_of_json hjson]), hjson]
  change itemOf body = _
  rw [itemOf, if_pos hpresent, hitem]
  rfl

end Response

namespace UploadSession

variable {session : UploadSession} {range : ByteRange} {answer : Response} {item : DriveItem}

theorem chunkResult_of_acknowledges (h : answer.Acknowledges) :
    ∃ result, session.chunkResult range answer = .ok result ∧ result.range = range ∧
      result.isComplete = false := by
  obtain ⟨hstatus, hbody⟩ := h
  have hread : ∃ members, bodyOf (range.contentRange session.ranges.size) answer =
      .ok (.object members) := by
    unfold bodyOf
    rcases hbody with hempty | ⟨members, hjson⟩
    · exact ⟨[], by rw [if_pos hempty]⟩
    · exact ⟨members, bodyOf_of_json hjson _⟩
  obtain ⟨members, hread⟩ := hread
  rw [chunkResult_of_taken (by simp [hstatus]), hread, hstatus]
  exact ⟨_, rfl, rfl, rfl⟩

theorem exists_bodyOf_of_item? {item : Option DriveItem} (h : answer.item? = .ok item)
    (place : String) :
    ∃ body, bodyOf place answer = .ok body ∧ Response.itemOf body = .ok item := by
  unfold Response.item? at h
  split at h
  next hempty => exact ⟨.object [], by rw [bodyOf, if_pos hempty], h⟩
  next =>
    obtain ⟨body, hjson, hitem⟩ := Failure.of_bind_ok h
    exact ⟨body, bodyOf_of_json hjson place, hitem⟩

theorem resultOf_of_final {status : Int} (h : status ≠ 202) (body : Value) :
    resultOf range status body =
      (Response.itemOf body).map fun item => { status, range, item } := by
  rw [resultOf, if_neg h, Response.itemOf]
  split
  next => cases DriveItem.ofResponse body <;> rfl
  next => rfl

theorem chunkResult_of_item? {item : Option DriveItem} (hstatus : answer.status ∈ [200, 201])
    (hitem : answer.item? = .ok item) :
    ∃ result, session.chunkResult range answer = .ok result ∧ result.range = range ∧
      result.isComplete = true ∧ result.item = item := by
  have hfinal : answer.status = 200 ∨ answer.status = 201 := by simpa using hstatus
  have h202 : answer.status ≠ 202 := by omega
  obtain ⟨body, hbody, hitem⟩ :=
    exists_bodyOf_of_item? hitem (range.contentRange session.ranges.size)
  rw [chunkResult_of_taken (by simp [or_assoc.symm, hfinal]), hbody]
  change ∃ result, resultOf range answer.status body = .ok result ∧ _
  rw [resultOf_of_final h202, hitem]
  exact ⟨_, rfl, rfl, by simpa [ChunkResult.isComplete] using hfinal, rfl⟩

theorem chunkResult_of_completes (h : answer.Completes item) :
    ∃ result, session.chunkResult range answer = .ok result ∧ result.range = range ∧
      result.isComplete = true ∧ result.item = some item :=
  chunkResult_of_item? h.1 h.2.item?_eq

end UploadSession

namespace World

variable {before middle after : World} {first count : Nat} {item : DriveItem}

/-- Whether the replies from one on acknowledge so many ranges and then complete a file. -/
def Takes (world : World) (first count : Nat) (item : DriveItem) : Prop :=
  (∀ index < count, ∃ answer, world.replyAt (first + index) = .response answer ∧
    answer.Acknowledges) ∧
  ∃ answer, world.replyAt (first + count) = .response answer ∧ answer.Completes item

theorem Takes.tail (h : before.Takes first (count + 1) item) :
    before.Takes (1 + first) count item := by
  obtain ⟨hacknowledged, hcompleted⟩ := h
  refine ⟨?_, ?_⟩
  · intro index hindex
    have hnext := hacknowledged (index + 1) (by omega)
    rwa [← Nat.add_assoc, Nat.add_comm, ← Nat.add_assoc] at hnext
  · rwa [← Nat.add_assoc, Nat.add_comm, ← Nat.add_assoc] at hcompleted

theorem Sends.takes_iff {requests : List Request} (h : before.Sends middle requests) :
    middle.Takes first count item ↔ before.Takes (requests.length + first) count item := by
  simp only [Takes, h.replyAt, Nat.add_assoc]

/-- The second world arises from the first one by sending the ranges of a session, with a report
after each. -/
structure Puts (session : UploadSession) (ranges : List ByteRange) (before after : World) :
    Prop where
  sends : before.Sends after (ranges.map session.putRequest)
  progress : after.progress = before.progress ++ ranges.map ByteRange.contentLength

theorem puts_singleton (session : UploadSession) (range : ByteRange) (world : World) :
    Puts session [range] world ((World.report range.contentLength).perform
      (world.afterRequest (session.putRequest range))).2 :=
  ⟨(world.afterRequest_sends _).trans (report_sends _ _), rfl⟩

theorem Puts.trans {session : UploadSession} {ranges more : List ByteRange}
    (h : Puts session ranges before middle) (h' : Puts session more middle after) :
    Puts session (ranges ++ more) before after := by
  refine ⟨?_, ?_⟩
  · rw [List.map_append]
    exact h.sends.trans h'.sends
  · rw [h'.progress, h.progress, List.map_append, List.append_assoc]

end World

namespace Transfer

variable {before : Transfer} {range : ByteRange} {rest : List ByteRange} {item : DriveItem}
  {answer : Response}

theorem next_answered (hcounted : before.session.client.IsCounted)
    (hpending : before.session.ranges.pending = range :: rest)
    (hreply : before.world.replyAt 0 = .response answer) :
    next.perform before =
      ((before.session.withPending rest).chunkResult range answer,
        { session := before.session.withPending rest
          world := before.world.afterRequest (before.session.putRequest range) }) := by
  rw [next_perform hpending, HttpClient.put, HttpClient.send_of_answer hcounted hreply]
  rfl

/-- Ranges that the service takes one after the other complete the file. -/
theorem sendRanges_delivers (last : Option ChunkResult)
    (hcounted : before.session.client.IsCounted)
    (hpending : before.session.ranges.pending = range :: rest)
    (htakes : before.world.Takes 0 rest.length item) :
    ∃ result after,
      (sendRanges (rest.length + 1) last).perform before = (.ok (some result), after) ∧
      result.isComplete = true ∧ result.item = some item ∧
      before.world.Puts before.session (range :: rest) after.world := by
  induction rest generalizing before range last with
  | nil =>
      obtain ⟨_, answer, hreply, hcompletes⟩ := htakes
      obtain ⟨result, hresult, hrange, hcomplete, hitem⟩ :=
        UploadSession.chunkResult_of_completes hcompletes
      rw [sendRanges_succ_perform, next_answered hcounted hpending hreply, hresult]
      dsimp only
      rw [if_pos hcomplete, hrange]
      exact ⟨result, _, rfl, hcomplete, hitem,
        World.puts_singleton before.session range before.world⟩
  | cons following rest ih =>
      obtain ⟨answer, hreply, hacknowledges⟩ := htakes.1 0 (Nat.succ_pos _)
      obtain ⟨result, hresult, hrange, hpartial⟩ :=
        UploadSession.chunkResult_of_acknowledges hacknowledges
      have hfirst := World.puts_singleton before.session range before.world
      -- This range takes the first reply, so the others see the replies from the next one on.
      rw [List.length_cons, sendRanges_succ_perform, next_answered hcounted hpending hreply,
        hresult]
      dsimp only
      rw [hpartial, hrange, if_neg Bool.false_ne_true]
      obtain ⟨final, after, heq, hcomplete, hitem, hputs⟩ :=
        @ih ((inWorld (World.report range.contentLength)).perform
          { session := before.session.withPending (following :: rest)
            world := before.world.afterRequest (before.session.putRequest range) }).2
          following (some result) hcounted rfl (hfirst.sends.takes_iff.mpr htakes.tail)
      exact ⟨final, after, heq, hcomplete, hitem, hfirst.trans ⟨hputs.sends, hputs.progress⟩⟩

/-- An upload through a session whose ranges are taken yields the file. -/
theorem upload_delivers (hcounted : before.session.client.IsCounted)
    (hpending : before.session.ranges.pending ≠ [])
    (htakes : before.world.Takes 0 (before.session.ranges.pending.length - 1) item) :
    ∃ after, upload.perform before = (.ok (some item), after) ∧
      before.world.Puts before.session before.session.ranges.pending after.world := by
  obtain ⟨range, rest, hcons⟩ := List.exists_cons_of_ne_nil hpending
  rw [hcons] at htakes
  obtain ⟨result, after, heq, hcomplete, hitem, hputs⟩ :=
    sendRanges_delivers none hcounted hcons htakes
  refine ⟨after, ?_, ?_⟩
  · rw [upload_perform, hcons, List.length_cons, heq]
    change (finished (some result), after) = _
    rw [finished, if_pos hcomplete, hitem]
  · rw [hcons]
    exact hputs

end Transfer

/-! ### Reports -/

namespace World

theorem afterPause_progress (seconds : Value) (world : World) :
    (world.afterPause seconds).progress = world.progress := by
  obtain ⟨now, hpaused⟩ := world.exists_afterPause_eq seconds
  rw [hpaused]

theorem retryFrom_progress {request : Request} {delay : Value} (remaining made : Nat)
    (world : World) :
    ((retryFrom (exchange request) pause delay remaining made).perform world).2.progress =
      world.progress := by
  induction remaining generalizing made world with
  | zero => rfl
  | succ remaining ih =>
      rw [retryFrom, Action.perform_attempt_bind, exchange_perform]
      split
      next => rfl
      next =>
        split
        next => rfl
        next =>
          rw [Action.perform_ofExcept_bind]
          split
          next seconds _ =>
            have hpaused := afterPause_progress seconds (world.afterRequest request)
            rw [Action.perform_bind, pause_perform]
            split
            next paused heq =>
              obtain ⟨-, rfl⟩ := Prod.mk.inj heq
              rw [ih, hpaused]
              rfl
            next failure paused heq =>
              obtain ⟨-, rfl⟩ := Prod.mk.inj heq
              exact hpaused
          next => rfl
      next => rfl

end World

theorem HttpClient.send_progress (client : HttpClient) (method : String) (url : Value)
    (headers : Members) (payload : Payload) (world : World) :
    ((client.send method url headers payload).perform world).2.progress = world.progress := by
  unfold send
  split
  next => exact World.retryFrom_progress _ _ world
  next => rfl

theorem Credential.execute_progress (credential : Credential) (world : World) :
    (credential.execute.perform world).2.progress = world.progress := by
  obtain ⟨entropy, hform⟩ := credential.form_isOffline world
  rw [execute, Action.perform_bind]
  split
  next fields formed heq =>
    rw [heq] at hform
    dsimp only at hform
    subst hform
    rw [post, asExecution_snd]
    exact HttpClient.send_progress _ _ _ _ _ { world with entropy }
  next failure formed heq =>
    rw [heq] at hform
    rw [hform]

namespace Context

variable {before after : Context}

theorem getToken_progress (context : Context) :
    (getToken.perform context).2.world.progress = context.world.progress := by
  have hexecute := context.credential.execute_progress context.world
  rw [getToken, Action.perform_bind, execute, Action.perform_get_bind, inWorld_perform]
  rcases hasked : context.credential.execute.perform context.world with
    ⟨failure | response, world⟩ <;> rw [hasked] at hexecute
  · exact hexecute
  · dsimp only
    rw [Action.perform_bind, readToken_perform]
    cases Token.ofAnswer response context.credential.config.logPii world.now <;> exact hexecute

/-- Nothing is reported while a token is acquired. -/
theorem getTokenSilent_progress {outcome : Except Failure Token}
    (h : getTokenSilent.perform before = (outcome, after)) :
    after.world.progress = before.world.progress := by
  rw [getTokenSilent_perform] at h
  split at h
  next =>
    obtain ⟨_, rfl⟩ := Prod.mk.inj h
    rfl
  next =>
    obtain ⟨_, rfl⟩ := Prod.mk.inj h
    rfl
  next =>
    have hprogress := getToken_progress before.prepared
    rw [h, prepared_world] at hprogress
    exact hprogress

end Context

/-! ### Files that arrive -/

/-- How many chunks of a size hold so many bytes. -/
def ChunkSize.count (size length : Nat) : Nat := (length + size - 1) / size

/-- The bytes that a request puts in their place. -/
def Request.putBytes (request : Request) : Bytes :=
  match request.payload with
  | .bytes data => if request.method = "PUT" then data else []
  | _ => []

theorem UploadTask.create_of_answer {task : UploadTask} {client : HttpClient} {token : Token}
    {data : Bytes} {chunkSize : Value} {world : World} {answer : Response}
    (hcounted : client.IsCounted) (hreply : world.replyAt 0 = .response answer)
    (hok : answer.isOk = true) :
    (UploadSession.create token.bearerHeader (.text (task.url "createUploadSession")) data chunkSize
        (.text "replace") client).perform world =
      (UploadSession.ofResponse answer data chunkSize client,
        world.afterRequest (task.openRequest client token)) := by
  rw [UploadSession.create_perform, HttpClient.postJson, HttpClient.send_of_answer hcounted hreply]
  dsimp only
  rw [if_pos hok]
  rfl

namespace UploadSession

theorem map_method_putRequest (session : UploadSession) (ranges : List ByteRange) :
    (ranges.map session.putRequest).map Request.method =
      List.replicate ranges.length "PUT" := by
  simp [putRequest, Function.comp_def]

theorem flatMap_putBytes (session : UploadSession) (ranges : List ByteRange) :
    (ranges.map session.putRequest).flatMap Request.putBytes = ranges.flatMap ByteRange.data := by
  simp [putRequest, Request.putBytes, List.flatMap_map]

end UploadSession

namespace Context

variable {before acquired after : Context} {store : FileStore} {task : UploadTask}
  {client : HttpClient} {size : Nat} {data : Bytes} {item : DriveItem}

/-- Whether there is a file to upload in chunks of a size, a token for it, and a service that takes
what it is sent once the token is there. -/
structure Serves (store : FileStore) (task : UploadTask) (client : HttpClient) (size : Nat)
    (before acquired : Context) (data : Bytes) (item : DriveItem) : Prop where
  file : store.read? task.path = some data
  counted : client.IsCounted
  chunkSize : task.chunkSize = .int size ∧ 0 < size ∧ size % ChunkSize.unit = 0
  token : ∃ token, getTokenSilent.perform before = (.ok token, acquired)
  small : data.length < UploadTask.sessionThreshold →
    ∃ answer, acquired.world.replyAt 0 = .response answer ∧ answer.isOk = true ∧
      answer.Describes item
  opens : UploadTask.sessionThreshold ≤ data.length →
    ∃ answer members url, acquired.world.replyAt 0 = .response answer ∧ answer.isOk = true ∧
      answer.json = .ok (.object members) ∧ Assoc.get? "uploadUrl" members = some url
  takes : UploadTask.sessionThreshold ≤ data.length →
    acquired.world.Takes 1 (ChunkSize.count size data.length - 1) item

/-- Whether bytes were put in their place by some requests and with some reports. -/
structure Delivered (size : Nat) (data : Bytes) (item : DriveItem) (before acquired after : Context)
    (outcome : Except Failure (Option DriveItem)) (requests : List Request) (counts : List Int) :
    Prop where
  outcome : outcome = .ok (some item)
  sends : acquired.world.Sends after.world requests
  methods : requests.map Request.method =
    if data.length < UploadTask.sessionThreshold then ["PUT"]
    else "POST" :: List.replicate (ChunkSize.count size data.length) "PUT"
  bodies : requests.flatMap Request.putBytes = data
  progress : after.world.progress = before.world.progress ++ counts
  reports : counts.sum = data.length

theorem uploadWhole_delivers (h : Serves store task client size before acquired data item)
    (hsmall : data.length < UploadTask.sessionThreshold) :
    ∃ after counts token, (uploadWhole task client data).perform before = (.ok item, after) ∧
      Delivered size data item before acquired after (.ok (some item))
        [task.writeRequest client token data] counts := by
  obtain ⟨token, htoken⟩ := h.token
  obtain ⟨answer, hreply, hok, body, hjson, _, hitem⟩ := h.small hsmall
  rw [uploadWhole_perform, htoken]
  dsimp only
  rw [HttpClient.put, HttpClient.send_of_answer h.counted hreply]
  dsimp only
  rw [if_pos hok, hjson]
  change ∃ after counts token', (DriveItem.ofResponse body, _) = _ ∧ _
  rw [hitem]
  refine ⟨_, [(data.length : Int)], token, rfl, rfl, ?_, ?_, ?_, ?_, ?_⟩
  · exact (acquired.world.afterRequest_sends _).trans (World.report_sends data.length _)
  · rw [if_pos hsmall]
    rfl
  · exact List.append_nil data
  · rw [← getTokenSilent_progress htoken]
    rfl
  · simp

/-- Where the service takes what it is sent, one request opens a session and one more for each chunk
puts it at the address that the answer named. -/
theorem uploadInSession_puts (h : Serves store task client size before acquired data item)
    (hlarge : UploadTask.sessionThreshold ≤ data.length) {answer : Response} {members : Members}
    {url : Value} (hreply : acquired.world.replyAt 0 = .response answer)
    (hok : answer.isOk = true) (hjson : answer.json = .ok (.object members))
    (hurl : Assoc.get? "uploadUrl" members = some url) :
    ∃ (token : Token) (session : UploadSession) (after : Context), session.uploadUrl = url ∧
      Ranges.ofSize data (.int size) = .ok session.ranges ∧ session.ranges.pending ≠ [] ∧
      (uploadInSession task client data).perform before = (.ok (some item), after) ∧
      acquired.world.Sends after.world
        (task.openRequest client token :: session.ranges.pending.map session.putRequest) ∧
      after.world.progress =
        before.world.progress ++ session.ranges.pending.map ByteRange.contentLength := by
  obtain ⟨token, htoken⟩ := h.token
  obtain ⟨hsize, hpos, hunit⟩ := h.chunkSize
  obtain ⟨ranges, hranges⟩ : ∃ ranges, Ranges.ofSize data (.int size) = .ok ranges :=
    Ranges.exists_ofSize_iff.mpr ⟨size, rfl, by omega, by exact_mod_cast hunit⟩
  obtain ⟨hbytes, hlengths, hcount⟩ := Ranges.ofSize_holds hpos hunit hranges
  have hnonempty : ranges.pending ≠ [] := by
    intro hnil
    rw [hnil, List.flatMap_nil] at hbytes
    rw [← hbytes] at hlarge
    exact absurd hlarge (by decide)
  -- The request that opens the session takes the first reply, and the ranges take the others.
  have hopened := acquired.world.afterRequest_sends (task.openRequest client token)
  have htakes : (acquired.world.afterRequest (task.openRequest client token)).Takes 0
      (ranges.pending.length - 1) item := by
    rw [hcount]
    exact hopened.takes_iff.mpr (h.takes hlarge)
  obtain ⟨reached, hupload, hputs⟩ := @Transfer.upload_delivers
    { session := {
        uploadUrl := url, client, ranges, expiration := Value.member members "expirationDateTime" }
      world := acquired.world.afterRequest (task.openRequest client token) }
    item h.counted hnonempty htakes
  refine ⟨token, _, { acquired with world := reached.world }, rfl, hranges, hnonempty, ?_,
    hopened.trans hputs.sends, ?_⟩
  · rw [uploadInSession_perform, htoken]
    dsimp only
    rw [UploadTask.create_of_answer h.counted hreply hok,
      UploadSession.ofResponse_of_url hjson hurl, hsize, UploadSession.ofBytes, hranges]
    change ((uploadOrAbandon.perform _).1,
      { acquired with world := (uploadOrAbandon.perform _).2.world }) = _
    rw [uploadOrAbandon_of_ok hupload]
  · rw [← getTokenSilent_progress htoken]
    exact hputs.progress

theorem uploadInSession_delivers (h : Serves store task client size before acquired data item)
    (hlarge : UploadTask.sessionThreshold ≤ data.length) :
    ∃ after requests counts,
      (uploadInSession task client data).perform before = (.ok (some item), after) ∧
      Delivered size data item before acquired after (.ok (some item)) requests counts := by
  obtain ⟨_, hpos, hunit⟩ := h.chunkSize
  obtain ⟨answer, members, url, hreply, hok, hjson, hurl⟩ := h.opens hlarge
  obtain ⟨token, session, after, -, hranges, -, hperform, hsends, hprogress⟩ :=
    uploadInSession_puts h hlarge hreply hok hjson hurl
  obtain ⟨hbytes, hlengths, hcount⟩ := Ranges.ofSize_holds hpos hunit hranges
  refine ⟨after, _, _, hperform, rfl, hsends, ?_, ?_, hprogress, ?_⟩
  · rw [if_neg (Nat.not_lt.mpr hlarge), List.map_cons, UploadSession.map_method_putRequest, hcount]
    rfl
  · rw [List.flatMap_cons, UploadSession.flatMap_putBytes, hbytes]
    rfl
  · rw [ByteRange.sum_contentLength hlengths, hbytes]

/-- Whatever the service does, the requests of an upload are authorized part by part, and so by
their addresses. Where it takes what it is sent, the file arrives: its bytes are put in their place
by one request or chunk by chunk, and what is reported adds up to its size. -/
theorem uploadFile_delivers {outcome : Except Failure (Option DriveItem)}
    (h : (uploadFile store task client).perform before = (outcome, after)) :
    before.Authorizes task after.world ∧
    before.AuthorizedByUrl task (before.world.transcript after.world) ∧
    ∀ size data item acquired, Serves store task client size before acquired data item →
      ∃ requests counts,
        Delivered size data item before acquired after outcome requests counts := by
  refine ⟨uploadFile_authorizes h, (uploadFile_authorizes h).byUrl, ?_⟩
  intro size data item acquired hserves
  rw [uploadFile_perform, hserves.file] at h
  dsimp only at h
  split at h
  next hsmall =>
    obtain ⟨_, counts, token, heq, hdelivered⟩ := uploadWhole_delivers hserves hsmall
    rw [heq] at h
    obtain ⟨rfl, rfl⟩ := Prod.mk.inj h
    exact ⟨_, counts, hdelivered⟩
  next hlarge =>
    obtain ⟨_, requests, counts, heq, hdelivered⟩ :=
      uploadInSession_delivers hserves (Nat.le_of_not_lt hlarge)
    rw [heq] at h
    obtain ⟨rfl, rfl⟩ := Prod.mk.inj h
    exact ⟨requests, counts, hdelivered⟩

end Context

namespace Response

theorem exists_describes {response : Response}
    (h : response.json.toOption.any (fun body =>
      body.isPresent && (DriveItem.ofResponse body).isOk) = true) :
    ∃ item, response.Describes item := by
  cases hjson : response.json with
  | error failure => simp [hjson, Except.toOption] at h
  | ok body =>
      cases hitem : DriveItem.ofResponse body with
      | error failure => simp [hjson, hitem, Except.toOption, Except.isOk, Except.toBool] at h
      | ok item =>
          refine ⟨item, body, hjson, ?_, hitem⟩
          simpa [hjson, hitem, Except.toOption, Except.isOk, Except.toBool] using h

/-- The address that an answer names for an upload session, if it is a text. -/
def uploadUrl? (response : Response) : Option String :=
  ((response.json.toOption.bind Value.members?).bind (Assoc.get? "uploadUrl")).bind Value.text?

theorem exists_members_of_uploadUrl? {response : Response} {url : String}
    (h : response.uploadUrl? = some url) :
    ∃ members, response.json = .ok (.object members) ∧
      Assoc.get? "uploadUrl" members = some (.text url) := by
  rw [uploadUrl?] at h
  cases hjson : response.json with
  | error failure => simp [hjson, Except.toOption] at h
  | ok body =>
      cases body with
      | object members =>
          rw [hjson] at h
          exact ⟨members, rfl, Value.eq_some_text h⟩
      | _ => simp [hjson, Except.toOption, Value.members?] at h

end Response

namespace Context

/-- A store with one file. -/
def trialStore (data : Bytes) : FileStore := ⟨[("file", data)]⟩

/-- The upload of a file to the root of a drive in chunks of 2240 KiB. -/
def chunkedTask : UploadTask := { trialTask with chunkSize := .int (7 * ChunkSize.unit) }

theorem read?_trialStore (data : Bytes) : (trialStore data).read? chunkedTask.path = some data := by
  have hsteps : FileStore.steps "file" = ["file".toList] := by decide +kernel
  have hplace : FileStore.placeOf "file" = ["file".toList] := by decide +kernel
  have hfile : FileStore.isFolderName "file" = false := by decide +kernel
  simp [FileStore.read?, trialStore, chunkedTask, trialTask, hsteps, hplace, hfile, FileStore.walk,
    FileStore.hasFolder]

/-- The smallest file that is uploaded through a session. -/
def trialFile : Bytes := List.replicate UploadTask.sessionThreshold 0

/-- A service that answers with some text where a session is to be opened, and takes two chunks. -/
def takingTrial (opening : String) : Context :=
  uploadTrial [.response ⟨200, opening⟩, .response ⟨202, ""⟩,
    .response ⟨201, "\x7b\"id\":\"1\"\x7d"⟩]

theorem getTokenSilent_takingTrial (opening : String) :
    getTokenSilent.perform (takingTrial opening) = (.ok trialToken, takingTrial opening) := by
  have hcached : (takingTrial opening).cached? = some trialToken :=
    cached?_trial trialGrant 0 trialToken
  exact getTokenSilent_of_good rfl (expiresInRange_of_cached hcached _ hcached) hcached
    (show (takingTrial opening).world.instant = .ok ⟨0⟩ from rfl) (by decide)

/-- The outcome of the upload of the trial file, and the context after it. -/
def uploadTrialFile (opening : String) : Except Failure (Option DriveItem) × Context :=
  (uploadFile (trialStore trialFile) chunkedTask .standard).perform (takingTrial opening)

theorem exists_takingTrial_serves {opening url : String}
    (hopening : (Response.mk 200 opening).uploadUrl? = some url) :
    ∃ item, Serves (trialStore trialFile) chunkedTask .standard (7 * ChunkSize.unit)
      (takingTrial opening) (takingTrial opening) trialFile item := by
  have hlength : trialFile.length = UploadTask.sessionThreshold := List.length_replicate
  obtain ⟨item, hitem⟩ : ∃ item, (Response.mk 201 "\x7b\"id\":\"1\"\x7d").Describes item :=
    Response.exists_describes (by decide +kernel)
  obtain ⟨members, hjson, hurl⟩ := Response.exists_members_of_uploadUrl? hopening
  refine ⟨item, ⟨read?_trialStore trialFile, ⟨_, _, rfl⟩, ⟨rfl, by decide, by decide⟩,
    ⟨trialToken, getTokenSilent_takingTrial _⟩, ?_, ?_, ?_⟩⟩
  · intro hsmall
    rw [hlength] at hsmall
    exact absurd hsmall (Nat.lt_irrefl _)
  · intro _
    exact ⟨_, members, _, rfl, rfl, hjson, hurl⟩
  · rw [hlength]
    intro _
    refine ⟨?_, _, rfl, by decide, hitem⟩
    intro index hindex
    obtain rfl : index = 0 := by
      have hcount : ChunkSize.count (7 * ChunkSize.unit) UploadTask.sessionThreshold - 1 = 1 := by
        decide
      omega
    exact ⟨_, rfl, rfl, .inl rfl⟩

/-- An answer that opens a session. -/
def sessionOpening : String := "\x7b\"uploadUrl\":\"https://upload.example/session\"\x7d"

theorem trial_file_arrives : ∃ item requests counts,
    Delivered (7 * ChunkSize.unit) trialFile item (takingTrial sessionOpening)
      (takingTrial sessionOpening) (uploadTrialFile sessionOpening).2
      (uploadTrialFile sessionOpening).1 requests counts := by
  have hopening : (Response.mk 200 sessionOpening).uploadUrl? =
      some "https://upload.example/session" := by decide +kernel
  obtain ⟨item, hserves⟩ := exists_takingTrial_serves hopening
  exact ⟨item, (uploadFile_delivers (Prod.eta _).symm).2.2 _ _ _ _ hserves⟩

/-- An answer that names the address of the file as that of the session. -/
def misleadingOpening : String :=
  "\x7b\"uploadUrl\":\"https://graph.microsoft.com/v1.0/users/user/drive/root:/file:/content\"\x7d"

/-- At an address of the file that the service named, the ranges are sent without the token. -/
theorem named_item_gets_no_token :
    getTokenSilent.perform (takingTrial misleadingOpening) =
        (.ok trialToken, takingTrial misleadingOpening) ∧
      ∃ entry ∈ (takingTrial misleadingOpening).world.transcript
          (uploadTrialFile misleadingOpening).2.world,
        entry.1.url = .text (chunkedTask.url "content") ∧ entry.1.method = "PUT" ∧
          Assoc.get? "Authorization" entry.1.headers = none := by
  have hurl : chunkedTask.url "content" =
      "https://graph.microsoft.com/v1.0/users/user/drive/root:/file:/content" := by decide +kernel
  have hnamed : (Response.mk 200 misleadingOpening).uploadUrl? =
      some (chunkedTask.url "content") := by
    rw [hurl]
    decide +kernel
  have hlarge : UploadTask.sessionThreshold ≤ trialFile.length := List.length_replicate.ge
  obtain ⟨item, hserves⟩ := exists_takingTrial_serves hnamed
  obtain ⟨members, hjson, hmember⟩ := Response.exists_members_of_uploadUrl? hnamed
  obtain ⟨token, session, after, hsession, -, hpending, hperform, hsends, -⟩ :=
    uploadInSession_puts hserves hlarge rfl rfl hjson hmember
  have huploaded : uploadTrialFile misleadingOpening = (.ok (some item), after) := by
    rw [uploadTrialFile, uploadFile_perform, hserves.file]
    dsimp only
    rw [if_neg (Nat.not_lt.mpr hlarge), hperform]
  obtain ⟨range, hrange⟩ := List.exists_mem_of_ne_nil _ hpending
  obtain ⟨reply, hentry⟩ := hsends.exists_mem_transcript
    (List.mem_cons_of_mem _ (List.mem_map_of_mem hrange))
  rw [huploaded]
  exact ⟨getTokenSilent_takingTrial _, _, hentry, hsession, rfl, rfl⟩

end Context

end OAuthClient
