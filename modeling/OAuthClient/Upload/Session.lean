import OAuthClient.Exchange.Client
import OAuthClient.Upload.DriveItem
import OAuthClient.Upload.Ranges

/-!
# Upload sessions

An upload session takes the ranges of a file one after the other at an address that needs no token.
The service acknowledges each range; with the last one it reports the finished file. A range that
was taken out to be sent is not sent again, whatever became of it.
-/

namespace OAuthClient

/-- An open upload session. -/
structure UploadSession where
  /-- Where the ranges are sent. -/
  uploadUrl : Value
  /-- The ranges that are still to be sent. -/
  ranges : Ranges
  /-- How requests are sent. -/
  client : HttpClient
  /-- When the session ends, as the service says. -/
  expiration : Value := .null

/-- What became of one range. -/
structure ChunkResult where
  /-- The status of the answer. -/
  status : Int
  /-- The range that was sent. -/
  range : ByteRange
  /-- The ranges that the service still expects. -/
  nextExpectedRanges : Value := .list []
  /-- When the session ends, as the service says. -/
  expiration : Value := .null
  /-- The finished file, if it is reported. -/
  item : Option DriveItem := none

/-- Whether the service reports that the file is complete. -/
def ChunkResult.isComplete (result : ChunkResult) : Bool :=
  result.status == 200 || result.status == 201

/-- An upload session and the world in which it takes place. -/
structure Transfer where
  session : UploadSession
  world : World

namespace UploadSession

/-- The session that uploads bytes to an address. -/
def ofBytes (uploadUrl : Value) (data : Bytes) (chunkSize : Value) (client : HttpClient)
    (expiration : Value) : Except Failure UploadSession := do
  pure { uploadUrl, client, expiration, ranges := ← Ranges.ofSize data chunkSize }

/-- The body of the answer to a range; an empty body counts as an empty object. -/
def bodyOf (place : String) (response : Response) : Except Failure Value :=
  if response.text.isEmpty then .ok (.object [])
  else match response.json with
    | .ok body => .ok body
    | .error _ => .error
        (.upload ("Upload of " ++ place ++ " returned a non-JSON body") (some response.status))

/-- What an answer says became of a range. -/
def chunkResult (session : UploadSession) (range : ByteRange) (response : Response) :
    Except Failure ChunkResult := do
  let place := range.contentRange session.ranges.size
  unless [200, 201, 202].contains response.status do
    throw (.upload ("Upload of " ++ place ++ " failed with HTTP " ++ toString response.status ++
      ": " ++ response.text) (some response.status))
  let body ← bodyOf place response
  if response.status = 202 then
    let members ← body.toMembers
    pure {
      status := response.status
      range
      nextExpectedRanges := (Assoc.get? "nextExpectedRanges" members).getD (.list [])
      expiration := Value.member members "expirationDateTime" }
  else
    let item ← if body.isPresent then (DriveItem.ofResponse body).map some else pure none
    pure { status := response.status, range, item }

end UploadSession

namespace Transfer

/-- An operation on the world. -/
def inWorld {α : Type} (action : Action World α) : Action Transfer α := fun transfer =>
  let (outcome, world) := action.perform transfer.world
  (outcome, { transfer with world })

/-- Takes the next range out of the session. -/
def takeRange : Action Transfer ByteRange := do
  let transfer ← get
  match transfer.session.ranges.next? with
  | none => throw .exhausted
  | some (range, ranges) =>
      set { transfer with session := { transfer.session with ranges } }
      pure range

/-- Sends the next range. -/
def next : Action Transfer ChunkResult := do
  let range ← takeRange
  let session := (← get).session
  let response ← inWorld (session.client.put session.uploadUrl range.data
    (range.headers session.ranges.size))
  Action.ofExcept (session.chunkResult range response)

/-- Sends up to a number of ranges until the file is complete; yields the last result. -/
def sendRanges : Nat → Option ChunkResult → Action Transfer (Option ChunkResult)
  | 0, last => pure last
  | count + 1, _ => do
      let result ← next
      inWorld (World.report result.range.contentLength)
      if result.isComplete then pure (some result) else sendRanges count (some result)

/-- Sends all ranges that are left and yields the finished file. -/
def upload : Action Transfer (Option DriveItem) := do
  let last ← sendRanges (← get).session.ranges.pending.length none
  match last with
  | some result =>
      if result.isComplete then pure result.item else throw unfinished
  | none => throw unfinished
where
  /-- The failure of a session that ends too early. -/
  unfinished : Failure := .upload "Upload session ended before Graph reported completion" none

/-- Asks which ranges are still expected. -/
def status : Action Transfer Value := do
  let session := (← get).session
  let response ← inWorld (session.client.fetch session.uploadUrl [])
  unless response.isOk do
    throw (.upload ("Upload session status failed with HTTP " ++ toString response.status)
      (some response.status))
  Action.ofExcept response.json

/-- Gives the session up. -/
def cancel : Action Transfer Response := do
  let session := (← get).session
  let response ← inWorld (session.client.delete session.uploadUrl [])
  unless response.status == 200 || response.status == 204 do
    throw (.upload ("Upload session cancel failed with HTTP " ++ toString response.status)
      (some response.status))
  pure response

end Transfer

/-- The session that an answer opens for some bytes. -/
def UploadSession.ofResponse (response : Response) (data : Bytes) (chunkSize : Value)
    (client : HttpClient) : Except Failure UploadSession := do
  match ← response.json with
  | .object members =>
      match Assoc.get? "uploadUrl" members with
      | none => throw .missingMember
      | some url => ofBytes url data chunkSize client (Value.member members "expirationDateTime")
  | _ => throw .wrongKind

/-- Opens an upload session with a token's header; `conflict` says what becomes of a file that has
the same name. -/
def UploadSession.create (header : Members) (url : Value) (data : Bytes)
    (chunkSize conflict : Value) (client : HttpClient) : Action World UploadSession := do
  let body := Value.object [("item", .object [("@microsoft.graph.conflictBehavior", conflict)])]
  let response ← client.postJson url body header
  unless response.isOk do
    throw (.upload ("createUploadSession failed with HTTP " ++ toString response.status ++ ": " ++
      response.text) (some response.status))
  Action.ofExcept (ofResponse response data chunkSize client)

end OAuthClient
