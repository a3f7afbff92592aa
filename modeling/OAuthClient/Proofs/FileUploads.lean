import OAuthClient.Proofs.CredentialRuns
import OAuthClient.Proofs.RangeTiling
import OAuthClient.Proofs.Retries
import OAuthClient.Proofs.SilentAcquisition
import OAuthClient.Proofs.UploadRuns
import OAuthClient.Upload.Uploader

/-! # Steps of a file upload

What an upload does one after the other: it acquires a token, writes the file
with one request or opens a session, sends the ranges of the file to the address
that the service names for the session, and gives the session up when the
service refuses it. Each step is opened here once.
-/

namespace OAuthClient

namespace UploadTask

/-- The request that opens an upload session. -/
def openRequest (task : UploadTask) (client : HttpClient) (token : Token) : Request where
  method := "POST"
  url := .text (task.url "createUploadSession")
  headers := HttpClient.withKind "application/json" token.bearerHeader
  payload := .json
    (.object [("item", .object [("@microsoft.graph.conflictBehavior", .text "replace")])])
  timeout := client.timeout

/-- The request that writes a whole file. -/
def writeRequest (task : UploadTask) (client : HttpClient) (token : Token) (data : Bytes) :
    Request where
  method := "PUT"
  url := .text (task.url "content")
  headers := Assoc.put "Content-Type" (.text "application/octet-stream") token.bearerHeader
  payload := .bytes data
  timeout := client.timeout

end UploadTask

/-- The request that gives a session up. -/
def UploadSession.deleteRequest (session : UploadSession) : Request where
  method := "DELETE"
  url := session.uploadUrl
  headers := []
  timeout := session.client.timeout

/-! ### Answers to a range -/

theorem Response.isEmpty_of_json {response : Response} {body : Value}
    (h : response.json = .ok body) : response.text.isEmpty = false := by
  have hnone : (Response.mk response.status "").json.isOk = false := rfl
  cases hempty : response.text.isEmpty with
  | false => rfl
  | true =>
      rw [json, String.isEmpty_iff.mp hempty] at h
      rw [json, h] at hnone
      cases hnone

namespace UploadSession

theorem bodyOf_of_json {response : Response} {body : Value} (h : response.json = .ok body)
    (place : String) : bodyOf place response = .ok body := by
  rw [bodyOf, Response.isEmpty_of_json h, h]
  rfl

/-- What the body of an answer that takes a range says became of it. -/
def resultOf (range : ByteRange) (status : Int) (body : Value) : Except Failure ChunkResult :=
  if status = 202 then
    body.toMembers.map fun members => {
      status
      range
      nextExpectedRanges := (Assoc.get? "nextExpectedRanges" members).getD (.list [])
      expiration := Value.member members "expirationDateTime" }
  else if body.isPresent then
    (DriveItem.ofResponse body).map fun item => { status, range, item := some item }
  else .ok { status, range }

theorem chunkResult_of_taken {session : UploadSession} {range : ByteRange} {response : Response}
    (h : response.status ∈ [200, 201, 202]) :
    session.chunkResult range response =
      bodyOf (range.contentRange session.ranges.size) response >>=
        resultOf range response.status := by
  have htaken : [200, 201, 202].contains response.status = true := List.contains_iff_mem.mpr h
  unfold chunkResult
  simp only [htaken, if_true, pure_bind]
  congr 1
  funext body
  unfold resultOf
  by_cases h202 : response.status = 202
  · simp only [h202, if_true]
    cases body.toMembers <;> rfl
  · simp only [h202, if_false]
    split
    · cases DriveItem.ofResponse body <;> rfl
    · rfl

theorem chunkResult_of_refused {session : UploadSession} {range : ByteRange} {response : Response}
    (h : response.status ∉ [200, 201, 202]) :
    ∃ message,
      session.chunkResult range response = .error (.upload message (some response.status)) := by
  have hrefused : [200, 201, 202].contains response.status = false := by simpa using h
  rw [chunkResult, hrefused]
  exact ⟨_, rfl⟩

end UploadSession

/-! ### Giving a session up -/

namespace Transfer

variable {before after : Transfer}

theorem cancel_perform (transfer : Transfer) :
    cancel.perform transfer =
      match (transfer.session.client.delete transfer.session.uploadUrl []).perform
        transfer.world with
      | (.error failure, world) => (.error failure, { transfer with world })
      | (.ok response, world) =>
          (if response.status == 200 || response.status == 204 then .ok response
            else .error (.upload ("Upload session cancel failed with HTTP " ++
              toString response.status) (some response.status)), { transfer with world }) := by
  rw [cancel, Action.perform_get_bind, Action.perform_bind, inWorld_perform]
  rcases (transfer.session.client.delete transfer.session.uploadUrl []).perform transfer.world with
    ⟨_ | response, world⟩
  · rfl
  · dsimp only
    split <;> rfl

end Transfer

namespace Context

open Transfer

/-- What becomes of the attempt to give a session up: a refusal and a failure in transport are of no
account. -/
theorem abandon_perform (transfer : Transfer) :
    abandon.perform transfer =
      (match (cancel.perform transfer).1 with
        | .ok _ | .error (.upload ..) | .error (.transport ..) => .ok ⟨⟩
        | .error failure => .error failure, (cancel.perform transfer).2) := by
  rw [abandon, Action.perform_attempt_bind]
  rcases cancel.perform transfer with ⟨failure | response, after⟩
  · cases failure <;> rfl
  · rfl

/-- A session is given up by requests to delete it. -/
theorem abandon_delivers {before after : Transfer} {outcome : Except Failure Unit}
    (h : abandon.perform before = (outcome, after)) :
    ∃ attempts answered, (0 < attempts ↔ before.session.client.IsCounted) ∧
      before.world.Delivers after.world before.session.deleteRequest attempts answered := by
  rw [abandon_perform, cancel_perform] at h
  rcases hdelete : (before.session.client.delete before.session.uploadUrl []).perform
    before.world with ⟨answered, world⟩
  obtain ⟨attempts, hcounted, hdelivers⟩ := HttpClient.send_delivers hdelete
  rw [hdelete] at h
  refine ⟨attempts, answered, hcounted, ?_⟩
  cases answered <;> (obtain ⟨_, rfl⟩ := Prod.mk.inj h; exact hdelivers)

/-- Whatever the service does with the request, giving a session up succeeds. -/
theorem abandon_ok {transfer : Transfer} (hclient : transfer.session.client.CanRetry)
    (hreplies : ∀ reply ∈ transfer.world.replies, ¬ reply.IsStop) :
    (abandon.perform transfer).1 = .ok ⟨⟩ := by
  have hfailed : FailsOnly Failure.IsTransport
      ((transfer.session.client.delete transfer.session.uploadUrl []).perform transfer.world).1 :=
    HttpClient.send_failsOnly hclient hreplies
  rw [abandon_perform, cancel_perform]
  rcases hdelete : (transfer.session.client.delete transfer.session.uploadUrl []).perform
    transfer.world with ⟨_ | response, world⟩
  next failure =>
    obtain ⟨fault, reason, rfl⟩ := hfailed failure (congrArg Prod.fst hdelete)
    rfl
  · dsimp only
    cases response.status == 200 || response.status == 204 <;> rfl

/-! ### Uploading through a session -/

/-- An upload that the service refuses is followed by giving the session up, and every other failure
is not. -/
theorem uploadOrAbandon_perform (transfer : Transfer) :
    uploadOrAbandon.perform transfer =
      match upload.perform transfer with
      | (.error (.upload reason status), reached) =>
          ((abandon.perform reached).1 >>= fun _ => .error (.upload reason status),
            (abandon.perform reached).2)
      | (result, reached) => (result, reached) := by
  rw [uploadOrAbandon, Action.perform_attempt_bind]
  rcases upload.perform transfer with ⟨failure | item, reached⟩
  · cases failure with
    | upload reason status =>
        dsimp only
        rw [Action.perform_bind]
        rcases abandon.perform reached with ⟨_ | _, after⟩ <;> rfl
    | _ => rfl
  · rfl

theorem uploadOrAbandon_of_ok {transfer reached : Transfer} {item : Option DriveItem}
    (h : upload.perform transfer = (.ok item, reached)) :
    uploadOrAbandon.perform transfer = (.ok item, reached) := by
  rw [uploadOrAbandon_perform, h]

end Context

/-- A session is opened by an answer that is no error and names its address. -/
theorem UploadSession.create_perform (header : Members) (url : Value) (data : Bytes)
    (chunkSize conflict : Value) (client : HttpClient) (world : World) :
    (UploadSession.create header url data chunkSize conflict client).perform world =
      match (client.postJson url
        (.object [("item", .object [("@microsoft.graph.conflictBehavior", conflict)])])
          header).perform world with
      | (.error failure, after) => (.error failure, after)
      | (.ok response, after) =>
          (if response.isOk then UploadSession.ofResponse response data chunkSize client
            else .error (.upload ("createUploadSession failed with HTTP " ++
              toString response.status ++ ": " ++ response.text) (some response.status)),
            after) := by
  rw [create, Action.perform_bind]
  split
  next response after heq =>
    rw [heq]
    dsimp only
    split
    · exact Action.perform_ofExcept _ _
    · rfl
  next failure after heq => rw [heq]

/-- A session keeps the address it was opened with, and the ranges are those of the bytes. -/
theorem UploadSession.ofBytes_ok {url chunkSize expiration : Value} {data : Bytes}
    {client : HttpClient} {session : UploadSession}
    (h : ofBytes url data chunkSize client expiration = .ok session) :
    session.uploadUrl = url ∧ session.client = client ∧
      Ranges.ofSize data chunkSize = .ok session.ranges := by
  obtain ⟨ranges, hranges, h⟩ := Failure.of_bind_ok h
  cases h
  exact ⟨rfl, rfl, hranges⟩

theorem UploadSession.ofResponse_of_url {response : Response} {members : Members} {url : Value}
    (hjson : response.json = .ok (.object members))
    (hurl : Assoc.get? "uploadUrl" members = some url) (data : Bytes) (chunkSize : Value)
    (client : HttpClient) :
    ofResponse response data chunkSize client =
      ofBytes url data chunkSize client (Value.member members "expirationDateTime") := by
  rw [ofResponse, hjson]
  simp only [bind, Except.bind, hurl]

namespace Context

/-- An upload through a session acquires a token, opens the session and uploads through it. -/
theorem uploadInSession_perform (task : UploadTask) (client : HttpClient) (data : Bytes)
    (context : Context) :
    (uploadInSession task client data).perform context =
      match getTokenSilent.perform context with
      | (.error failure, after) => (.error failure, after)
      | (.ok token, acquired) =>
          match (UploadSession.create token.bearerHeader (.text (task.url "createUploadSession"))
            data task.chunkSize (.text "replace") client).perform acquired.world with
          | (.error failure, world) => (.error failure, { acquired with world })
          | (.ok session, world) =>
              ((uploadOrAbandon.perform { session, world }).1, { acquired with
                world := (uploadOrAbandon.perform { session, world }).2.world }) := by
  rw [uploadInSession, Action.perform_bind]
  split
  next token acquired heq =>
    rw [heq]
    dsimp only
    rw [Action.perform_bind, inWorld_perform]
    rcases (UploadSession.create token.bearerHeader (.text (task.url "createUploadSession")) data
      task.chunkSize (.text "replace") client).perform acquired.world with ⟨_ | session, world⟩ <;>
      rfl
  next failure after heq => rw [heq]

/-- The members of the answer that opens a session, if it is no error and an object, and the world
after it. -/
def opening? (task : UploadTask) (client : HttpClient) (before : Context) :
    Option (Members × World) :=
  match getTokenSilent.perform before with
  | (.error _, _) => none
  | (.ok token, acquired) =>
      match (client.postJson (.text (task.url "createUploadSession"))
        (.object [("item", .object [("@microsoft.graph.conflictBehavior", .text "replace")])])
        token.bearerHeader).perform acquired.world with
      | (.error _, _) => none
      | (.ok response, opened) =>
          match response.isOk, response.json with
          | true, .ok (.object members) => some (members, opened)
          | _, _ => none

/-- Once the service has named the address of a session, either the session cannot be made of the
bytes or all ends as the upload through it does. -/
theorem uploadInSession_of_opening {task : UploadTask} {client : HttpClient} {data : Bytes}
    {before after : Context} {members : Members} {opened : World} {url : Value}
    {outcome : Except Failure (Option DriveItem)}
    (hopening : opening? task client before = some (members, opened))
    (hurl : Assoc.get? "uploadUrl" members = some url)
    (h : (uploadInSession task client data).perform before = (outcome, after)) :
    (∃ failure, UploadSession.ofBytes url data task.chunkSize client
        (Value.member members "expirationDateTime") = .error failure ∧
      outcome = .error failure ∧ after.world = opened) ∨
    ∃ session, UploadSession.ofBytes url data task.chunkSize client
        (Value.member members "expirationDateTime") = .ok session ∧
      outcome = (uploadOrAbandon.perform { session, world := opened }).1 ∧
      after.world = (uploadOrAbandon.perform { session, world := opened }).2.world := by
  rw [uploadInSession_perform] at h
  unfold opening? at hopening
  split at hopening
  next => cases hopening
  next token acquired htoken =>
    rw [htoken] at h
    dsimp only at h
    rw [UploadSession.create_perform] at h
    split at hopening
    next => cases hopening
    next response reached hpost =>
      rw [hpost] at h
      split at hopening
      next named hok hjson =>
        obtain ⟨hnamed, rfl⟩ := Prod.mk.inj (Option.some.inj hopening)
        rw [hnamed] at hjson
        dsimp only at h
        rw [hok, if_pos rfl, UploadSession.ofResponse_of_url hjson hurl] at h
        cases hmade : UploadSession.ofBytes url data task.chunkSize client
          (Value.member members "expirationDateTime") with
        | error failure =>
            rw [hmade] at h
            obtain ⟨rfl, rfl⟩ := Prod.mk.inj h
            exact .inl ⟨failure, rfl, rfl, rfl⟩
        | ok session =>
            rw [hmade] at h
            obtain ⟨rfl, rfl⟩ := Prod.mk.inj h
            exact .inr ⟨session, rfl, rfl, rfl⟩
      next => cases hopening

/-- A whole file is written by one request, whose answer describes the file. -/
theorem uploadWhole_perform (task : UploadTask) (client : HttpClient) (data : Bytes)
    (context : Context) :
    (uploadWhole task client data).perform context =
      match getTokenSilent.perform context with
      | (.error failure, after) => (.error failure, after)
      | (.ok token, acquired) =>
          match (client.put (.text (task.url "content")) data
            (Assoc.put "Content-Type" (.text "application/octet-stream")
              token.bearerHeader)).perform acquired.world with
          | (.error failure, world) => (.error failure, { acquired with world })
          | (.ok response, world) =>
              if response.isOk then
                (response.json >>= DriveItem.ofResponse, { acquired with
                  world := { world with progress := world.progress ++ [(data.length : Int)] } })
              else (.error (.upload ("Upload of " ++ task.destination ++ " failed with HTTP " ++
                toString response.status ++ ": " ++ response.text) (some response.status)),
                { acquired with world }) := by
  rw [uploadWhole, Action.perform_bind]
  split
  next token acquired heq =>
    rw [heq]
    dsimp only
    rw [Action.perform_bind, inWorld_perform]
    rcases (client.put (.text (task.url "content")) data
      (Assoc.put "Content-Type" (.text "application/octet-stream") token.bearerHeader)).perform
        acquired.world with ⟨_ | response, world⟩
    · rfl
    · dsimp only
      split
      · change (Action.ofExcept (response.json >>= DriveItem.ofResponse)).perform _ = _
        rw [Action.perform_ofExcept]
      · rfl
  next failure after heq => rw [heq]

/-- A file is written as a whole if it is small, and through a session if it is not. -/
theorem uploadFile_perform (store : FileStore) (task : UploadTask) (client : HttpClient)
    (context : Context) :
    (uploadFile store task client).perform context =
      match store.read? task.path with
      | none => (.error .noSuchFile, context)
      | some data =>
          if data.length < UploadTask.sessionThreshold then
            (((uploadWhole task client data).perform context).1.map some,
              ((uploadWhole task client data).perform context).2)
          else (uploadInSession task client data).perform context := by
  unfold uploadFile
  cases store.read? task.path with
  | none => rfl
  | some data =>
      dsimp only
      split
      · rw [Action.perform_bind]
        rcases (uploadWhole task client data).perform context with ⟨_ | _, after⟩ <;> rfl
      · rfl

/-- An application with a cached token whose requests get some replies. -/
def uploadTrial (replies : List Reply) : Context :=
  { trial trialGrant 0 trialToken with
    world := { (trial trialGrant 0 trialToken).world with replies } }

/-- A file that is uploaded to the root of a drive. -/
def trialTask : UploadTask where
  userId := "user"
  path := "file"

end Context

end OAuthClient
