import OAuthClient.Proofs.FileUploads
import OAuthClient.Proofs.RefreshRotation

/-! # Authorization of an upload

Whatever the service does, the requests of an upload come in three parts: those
for a token, which go to the token endpoint; those to the file, which present the
token; and those to the session, which go to the address that an answer to the
second part named and present nothing. So the address of a request tells whether
it presents the token, unless the service names an address of the file as that of
the session.
-/

namespace OAuthClient

/-- Whether a request presents a token. -/
def Request.Bears (request : Request) (token : Token) : Prop :=
  Assoc.get? "Authorization" request.headers =
    some (.text ("Bearer " ++ token.accessToken.plainText))

/-- Whether a request writes a file as a whole. -/
structure Request.Writes (task : UploadTask) (request : Request) : Prop where
  url : request.url = .text (task.url "content")
  method : request.method = "PUT"

/-- Whether a request opens an upload session for a file. -/
structure Request.Opens (task : UploadTask) (request : Request) : Prop where
  url : request.url = .text (task.url "createUploadSession")
  method : request.method = "POST"

/-- Whether a request goes to a file and presents a token. -/
structure Request.IsOfFile (task : UploadTask) (token : Token) (request : Request) : Prop where
  place : request.Writes task ∨ request.Opens task
  bears : request.Bears token

/-- Whether a request sends a range to an address or gives up the session there, without presenting
a token. -/
structure Request.IsOfSession (url : Value) (request : Request) : Prop where
  url : request.url = url
  method : request.method = "PUT" ∨ request.method = "DELETE"
  headers : Assoc.get? "Authorization" request.headers = none

theorem Request.ne_post {request : Request}
    (h : request.method = "PUT" ∨ request.method = "DELETE") : request.method ≠ "POST" := by
  rcases h with hput | hdelete
  · rw [hput]
    decide
  · rw [hdelete]
    decide

/-- Whether a reply is an answer that names the address of a session. -/
def Reply.NamesSession (reply : Reply) (url : Value) : Prop :=
  ∃ answer members, reply = .response answer ∧ answer.json = .ok (.object members) ∧
    Assoc.get? "uploadUrl" members = some url

namespace UploadTask

variable {task : UploadTask} {client : HttpClient} {token : Token}

theorem openRequest_isOfFile : (task.openRequest client token).IsOfFile task token :=
  ⟨.inr ⟨rfl, rfl⟩, rfl⟩

theorem writeRequest_isOfFile {data : Bytes} :
    (task.writeRequest client token data).IsOfFile task token :=
  ⟨.inl ⟨rfl, rfl⟩, rfl⟩

/-- No address of a file is a token endpoint. -/
theorem url_ne_tokenEndpoint (task : UploadTask) (action : String) (config : AppConfig) :
    config.tokenEndpoint ≠ task.url action := by
  intro h
  -- The hosts differ in their first character, which follows the scheme.
  have hprefix := congrArg (fun text : String => text.toList.take 9) h
  cases hcloud : config.cloud <;>
    simp [AppConfig.tokenEndpoint, Cloud.tokenEndpoint, Cloud.path, Cloud.address, url, itemUrl,
      driveUrl, serviceUrl, hcloud] at hprefix

end UploadTask

namespace UploadSession

variable {session : UploadSession}

theorem putRequest_isOfSession {range : ByteRange} :
    (session.putRequest range).IsOfSession session.uploadUrl := ⟨rfl, .inl rfl, rfl⟩

theorem deleteRequest_isOfSession : session.deleteRequest.IsOfSession session.uploadUrl :=
  ⟨rfl, .inr rfl, rfl⟩

/-- The address of a session is one that the answer named. -/
theorem namesSession_of_ofResponse {response : Response} {data : Bytes} {chunkSize : Value}
    {client : HttpClient} (h : ofResponse response data chunkSize client = .ok session) :
    (Reply.response response).NamesSession session.uploadUrl := by
  obtain ⟨body, hjson, h⟩ := Failure.of_bind_ok h
  cases body with
  | object members =>
      cases hurl : Assoc.get? "uploadUrl" members with
      | none =>
          simp only [hurl] at h
          cases h
      | some url =>
          simp only [hurl] at h
          obtain ⟨rfl, _⟩ := ofBytes_ok h
          exact ⟨response, members, rfl, hjson, hurl⟩
  | _ => cases h

end UploadSession

/-! ### The parts of an upload -/

/-- The second world arises from the first one by sending requests of some kind. -/
structure World.SendsOnly (kind : Request → Prop) (before after : World) : Prop where
  sends : ∃ requests, before.Sends after requests
  kind : ∀ entry ∈ before.transcript after, kind entry.1

namespace World.SendsOnly

variable {kind : Request → Prop} {before middle after : World}

theorem of_silence (h : before.Sends after []) : before.SendsOnly kind after :=
  ⟨⟨[], h⟩, fun entry hentry => absurd hentry (h.not_mem_transcript entry)⟩

theorem of_delivers {request : Request} {attempts : Nat} {outcome : Except Failure Response}
    (h : before.Delivers after request attempts outcome) (hrequest : kind request) :
    before.SendsOnly kind after := by
  refine ⟨⟨_, h.sends⟩, ?_⟩
  intro entry hentry
  rw [h.fst_of_mem_transcript hentry]
  exact hrequest

theorem trans (hfirst : before.SendsOnly kind middle) (hsecond : middle.SendsOnly kind after) :
    before.SendsOnly kind after := by
  obtain ⟨requests, hsends⟩ := hfirst.sends
  obtain ⟨later, hlater⟩ := hsecond.sends
  refine ⟨⟨_, hsends.trans hlater⟩, ?_⟩
  intro entry hentry
  rw [hsends.transcript_trans hlater, List.mem_append] at hentry
  rcases hentry with hentry | hentry
  · exact hfirst.kind entry hentry
  · exact hsecond.kind entry hentry

end World.SendsOnly

namespace Context

variable {before after : Context} {task : UploadTask} {client : HttpClient} {data : Bytes}

theorem uploadOrAbandon_sendsOnly (transfer : Transfer) :
    transfer.world.SendsOnly (Request.IsOfSession transfer.session.uploadUrl)
      (uploadOrAbandon.perform transfer).2.world := by
  rcases hupload : Transfer.upload.perform transfer with ⟨sent, reached⟩
  obtain ⟨shipped, hships⟩ := Transfer.upload_ships hupload
  have hranges : transfer.world.SendsOnly (Request.IsOfSession transfer.session.uploadUrl)
      reached.world := by
    refine ⟨hships.sends, ?_⟩
    intro entry hentry
    obtain ⟨range, hrange⟩ := hships.exists_range hentry
    rw [hrange]
    exact UploadSession.putRequest_isOfSession
  rw [uploadOrAbandon_perform, hupload]
  split
  next reason status ended heq =>
    obtain ⟨_, rfl⟩ := Prod.mk.inj heq
    obtain ⟨attempts, answered, _, hdelivers⟩ :=
      abandon_delivers (Prod.eta (abandon.perform reached)).symm
    have hdelete : reached.world.SendsOnly (Request.IsOfSession transfer.session.uploadUrl)
        (abandon.perform reached).2.world := by
      apply World.SendsOnly.of_delivers hdelivers
      rw [hships.session]
      exact UploadSession.deleteRequest_isOfSession
    exact hranges.trans hdelete
  next result ended _ heq =>
    obtain ⟨_, rfl⟩ := Prod.mk.inj heq
    exact hranges

/-- Whatever is sent to acquire a token is posted to the token endpoint. -/
theorem getTokenSilent_sendsOnly {outcome : Except Failure Token}
    (h : getTokenSilent.perform before = (outcome, after)) :
    before.world.SendsOnly (fun request => request.method = "POST" ∧
      request.url = .text before.credential.config.tokenEndpoint) after.world := by
  refine ⟨getTokenSilent_sends h, ?_⟩
  intro entry hentry
  rcases getTokenSilent_same_or_asks h with rfl | hasks
  · exact absurd hentry (World.not_mem_transcript_self _ entry)
  · rw [← prepared_world] at hentry
    obtain ⟨fields, _, hrequest⟩ := hasks.requests hentry
    -- What is prepared for the grant does not touch the application.
    have hconfig := (sameUse_prepared before).config
    rw [hrequest, Credential.tokenRequest, hconfig]
    exact ⟨rfl, rfl⟩

/-- The requests of an upload in three parts: for a token, to the file, and to the session. -/
structure Authorized (task : UploadTask) (before : Context)
    (asking writing sending : List (Request × Reply)) : Prop where
  token : ∀ entry ∈ asking, entry.1.method = "POST" ∧
    entry.1.url = .text before.credential.config.tokenEndpoint ∧
    ∀ action, entry.1.url ≠ .text (task.url action)
  file : ∀ entry ∈ writing, ∃ token acquired,
    getTokenSilent.perform before = (.ok token, acquired) ∧ entry.1.IsOfFile task token
  /-- One request to the file is repeated until it is answered. -/
  repeated : ∀ entry ∈ writing, ∀ other ∈ writing, entry.1 = other.1
  session : ∀ entry ∈ sending, entry.1.IsOfSession entry.1.url ∧
    ∃ opening ∈ writing, opening.1.Opens task ∧ opening.2.NamesSession entry.1.url

/-- Whether what was sent between two worlds consists of these three parts. -/
def Authorizes (task : UploadTask) (before : Context) (after : World) : Prop :=
  ∃ asking writing sending, before.world.transcript after = asking ++ writing ++ sending ∧
    before.Authorized task asking writing sending

/-- Whether an answer to a request that opens a session named an address. -/
def OpensAt (task : UploadTask) (exchanges : List (Request × Reply)) (url : Value) : Prop :=
  ∃ opening ∈ exchanges, opening.1.Opens task ∧ opening.2.NamesSession url

/-- What the requests of an upload present, as their addresses tell. A range that is sent to an
address of the file presents nothing if the service named that address. -/
structure AuthorizedByUrl (task : UploadTask) (before : Context)
    (exchanges : List (Request × Reply)) : Prop where
  session : ∀ entry ∈ exchanges, OpensAt task exchanges entry.1.url →
    entry.1.method = "PUT" ∨ entry.1.method = "DELETE" →
      Assoc.get? "Authorization" entry.1.headers = none
  file : ∀ entry ∈ exchanges, ∀ action, entry.1.url = .text (task.url action) →
    (∃ token acquired, getTokenSilent.perform before = (.ok token, acquired) ∧
      entry.1.Bears token) ∨
    (entry.1.method = "PUT" ∨ entry.1.method = "DELETE") ∧ OpensAt task exchanges entry.1.url

namespace Authorized

variable {asking writing sending : List (Request × Reply)} {entry : Request × Reply}

/-- A session is opened by a request to the file. -/
theorem mem_of_opens (h : before.Authorized task asking writing sending)
    (hentry : entry ∈ asking ++ writing ++ sending) (hopens : entry.1.Opens task) :
    entry ∈ writing := by
  simp only [List.mem_append] at hentry
  rcases hentry with (hasking | hwriting) | hsending
  · exact absurd hopens.url ((h.token entry hasking).2.2 _)
  · exact hwriting
  · exact absurd hopens.method (Request.ne_post (h.session entry hsending).1.method)

theorem byUrl (h : before.Authorized task asking writing sending) :
    before.AuthorizedByUrl task (asking ++ writing ++ sending) where
  session entry hentry hopened hmethod := by
    simp only [List.mem_append] at hentry
    rcases hentry with (hasking | hwriting) | hsending
    · exact absurd (h.token entry hasking).1 (Request.ne_post hmethod)
    · -- All requests to the file are like the one that opened the session.
      obtain ⟨opening, hopening, hopens, _⟩ := hopened
      have hsame := h.repeated entry hwriting opening (h.mem_of_opens hopening hopens)
      exact absurd (hsame ▸ hopens.method) (Request.ne_post hmethod)
    · exact (h.session entry hsending).1.headers
  file entry hentry action hurl := by
    simp only [List.mem_append] at hentry
    rcases hentry with (hasking | hwriting) | hsending
    · exact absurd hurl ((h.token entry hasking).2.2 action)
    · obtain ⟨token, acquired, htoken, hfile⟩ := h.file entry hwriting
      exact .inl ⟨token, acquired, htoken, hfile.bears⟩
    · obtain ⟨hsession, opening, hopening, hopens, hnames⟩ := h.session entry hsending
      have hexchanged : opening ∈ asking ++ writing ++ sending :=
        List.mem_append_left _ (List.mem_append_right _ hopening)
      exact .inr ⟨hsession.method, opening, hexchanged, hopens, hnames⟩

end Authorized

theorem Authorizes.byUrl {last : World} (h : before.Authorizes task last) :
    before.AuthorizedByUrl task (before.world.transcript last) := by
  obtain ⟨asking, writing, sending, hparts, hauthorized⟩ := h
  rw [hparts]
  exact hauthorized.byUrl

theorem authorized_nil {outcome : Except Failure Token}
    (h : getTokenSilent.perform before = (outcome, after)) :
    before.Authorized task (before.world.transcript after.world) [] [] := by
  refine ⟨?_, by simp, by simp, by simp⟩
  intro entry hentry
  obtain ⟨hposted, hendpoint⟩ := (getTokenSilent_sendsOnly h).kind entry hentry
  refine ⟨hposted, hendpoint, fun action hurl => ?_⟩
  rw [hendpoint, Value.text.injEq] at hurl
  exact task.url_ne_tokenEndpoint action _ hurl

/-- With a token, the file is written or a session is opened and used. -/
theorem authorizes_of_acquired {token : Token} {acquired : Context} {opened last : World}
    {request : Request} (htoken : getTokenSilent.perform before = (.ok token, acquired))
    (hrequest : request.IsOfFile task token)
    (hfile : acquired.world.SendsOnly (· = request) opened)
    (hsession : opened.SendsOnly (fun request => request.IsOfSession request.url ∧
      ∃ opening ∈ acquired.world.transcript opened,
        opening.1.Opens task ∧ opening.2.NamesSession request.url) last) :
    before.Authorizes task last := by
  obtain ⟨_, hasks⟩ := getTokenSilent_sends htoken
  obtain ⟨_, hwrites⟩ := hfile.sends
  obtain ⟨_, hlast⟩ := hsession.sends
  refine ⟨_, _, _, ?_, (authorized_nil htoken).token, ?_, ?_, hsession.kind⟩
  · rw [(hasks.trans hwrites).transcript_trans hlast, hasks.transcript_trans hwrites]
  · intro entry hentry
    rw [hfile.kind entry hentry]
    exact ⟨token, acquired, htoken, hrequest⟩
  · intro entry hentry other hother
    rw [hfile.kind entry hentry, hfile.kind other hother]

theorem uploadWhole_authorizes {outcome : Except Failure DriveItem}
    (h : (uploadWhole task client data).perform before = (outcome, after)) :
    before.Authorizes task after.world := by
  rw [uploadWhole_perform] at h
  split at h
  next failure failed htoken =>
    obtain ⟨rfl, rfl⟩ := Prod.mk.inj h
    exact ⟨_, [], [], by simp, authorized_nil htoken⟩
  next token acquired htoken =>
    rcases hput : (client.put (.text (task.url "content")) data
      (Assoc.put "Content-Type" (.text "application/octet-stream") token.bearerHeader)).perform
        acquired.world with ⟨answered, world⟩
    obtain ⟨attempts, _, hdelivers⟩ := HttpClient.send_delivers hput
    refine authorizes_of_acquired htoken task.writeRequest_isOfFile
      (World.SendsOnly.of_delivers hdelivers rfl) (World.SendsOnly.of_silence ?_)
    rw [hput] at h
    cases answered with
    | error failure =>
        obtain ⟨_, rfl⟩ := Prod.mk.inj h
        exact World.Sends.refl world
    | ok response =>
        dsimp only at h
        split at h
        next =>
          obtain ⟨_, rfl⟩ := Prod.mk.inj h
          exact World.report_sends data.length world
        next =>
          obtain ⟨_, rfl⟩ := Prod.mk.inj h
          exact World.Sends.refl world

theorem uploadInSession_authorizes {outcome : Except Failure (Option DriveItem)}
    (h : (uploadInSession task client data).perform before = (outcome, after)) :
    before.Authorizes task after.world := by
  rw [uploadInSession_perform] at h
  split at h
  next failure failed htoken =>
    obtain ⟨rfl, rfl⟩ := Prod.mk.inj h
    exact ⟨_, [], [], by simp, authorized_nil htoken⟩
  next token acquired htoken =>
    rw [UploadSession.create_perform] at h
    rcases hpost : (client.postJson (.text (task.url "createUploadSession"))
      (.object [("item", .object [("@microsoft.graph.conflictBehavior", .text "replace")])])
      token.bearerHeader).perform acquired.world with ⟨answered, opened⟩
    obtain ⟨attempts, _, hdelivers⟩ := HttpClient.send_delivers hpost
    refine authorizes_of_acquired htoken task.openRequest_isOfFile
      (World.SendsOnly.of_delivers hdelivers rfl) ?_
    rw [hpost] at h
    cases answered with
    | error failure =>
        obtain ⟨_, rfl⟩ := Prod.mk.inj h
        exact World.SendsOnly.of_silence (World.Sends.refl opened)
    | ok response =>
        dsimp only at h
        split at h
        next failure world heq =>
          obtain ⟨_, rfl⟩ := Prod.mk.inj heq
          obtain ⟨_, rfl⟩ := Prod.mk.inj h
          exact World.SendsOnly.of_silence (World.Sends.refl opened)
        next session world heq =>
          obtain ⟨hmade, rfl⟩ := Prod.mk.inj heq
          obtain ⟨_, rfl⟩ := Prod.mk.inj h
          split at hmade
          next =>
            have hsession := uploadOrAbandon_sendsOnly { session, world := opened }
            refine ⟨hsession.sends, ?_⟩
            intro entry hentry
            have hof := hsession.kind entry hentry
            -- The address stands in the answer to the request that opened the session.
            rw [hof.url]
            exact ⟨hof, _, hdelivers.mem_transcript_of_answer, ⟨rfl, rfl⟩,
              UploadSession.namesSession_of_ofResponse hmade⟩
          next => cases hmade

/-- Whatever becomes of an upload, its requests are authorized part by part. -/
theorem uploadFile_authorizes {store : FileStore} {outcome : Except Failure (Option DriveItem)}
    (h : (uploadFile store task client).perform before = (outcome, after)) :
    before.Authorizes task after.world := by
  rw [uploadFile_perform] at h
  split at h
  next =>
    obtain ⟨_, rfl⟩ := Prod.mk.inj h
    refine ⟨[], [], [], World.transcript_self before.world, ?_, ?_, ?_, ?_⟩ <;> simp
  next data _ =>
    split at h
    next =>
      obtain ⟨_, rfl⟩ := Prod.mk.inj h
      exact uploadWhole_authorizes (Prod.eta _).symm
    next => exact uploadInSession_authorizes h

end Context

end OAuthClient
