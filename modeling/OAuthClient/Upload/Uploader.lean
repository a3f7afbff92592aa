import OAuthClient.Credential.Context
import OAuthClient.Text.Path
import OAuthClient.Text.Percent
import OAuthClient.Upload.FileStore
import OAuthClient.Upload.Session

/-!
# Uploading files

Uploads a file to the drive of a user: a small one with a single request, a larger one through an
upload session, which is given up when the service refuses it.
-/

namespace OAuthClient

/-- A file that is to be uploaded. -/
structure UploadTask where
  /-- The user whose drive takes the file. -/
  userId : String
  /-- The path of the file. -/
  path : String
  /-- The folder in the drive; the empty text means its root. -/
  folder : String := ""
  /-- The size of the chunks of an upload session. -/
  chunkSize : Value := .int ChunkSize.standard

namespace UploadTask

/-- The number of bytes from which on an upload session is used. -/
def sessionThreshold : Nat := 4194304

/-- The address of the service. -/
def serviceUrl : String := "https://graph.microsoft.com/v1.0"

/-- The address of a user's drive. -/
def driveUrl (userId : String) : String := serviceUrl ++ "/users/" ++ userId ++ "/drive"

/-- The address of an action on an item of a drive. -/
def itemUrl (userId destination action : String) : String :=
  driveUrl userId ++ "/root:/" ++
    String.ofList (Text.Percent.encode Text.Percent.isPathSafe destination.toList) ++ ":/" ++ action

/-- A text without the slashes at its two ends. -/
def withoutSlashes (text : String) : String :=
  let slash (c : Char) := c == '/'
  String.ofList ((text.toList.dropWhile slash).reverse.dropWhile slash).reverse

/-- The path of the file in the drive. -/
def destination (task : UploadTask) : String :=
  let name := String.ofList (Text.Path.baseName task.path.toList)
  if task.folder.isEmpty then name else withoutSlashes task.folder ++ "/" ++ name

/-- The address of an action on the file. -/
def url (task : UploadTask) (action : String) : String :=
  itemUrl task.userId task.destination action

end UploadTask

namespace Context

/-- Uploads bytes with a single request. -/
def uploadWhole (task : UploadTask) (client : HttpClient) (data : Bytes) :
    Action Context DriveItem := do
  let token ← getTokenSilent
  let headers := Assoc.put "Content-Type" (.text "application/octet-stream") token.bearerHeader
  let response ← inWorld (client.put (.text (task.url "content")) data headers)
  unless response.isOk do
    throw (.upload ("Upload of " ++ task.destination ++ " failed with HTTP " ++
      toString response.status ++ ": " ++ response.text) (some response.status))
  inWorld (World.report data.length)
  Action.ofExcept (response.json >>= DriveItem.ofResponse)

/-- An operation on an upload session, which ends with the operation. -/
def withSession {α : Type} (session : UploadSession) (action : Action Transfer α) :
    Action Context α := fun context =>
  let (outcome, transfer) := action.perform { session, world := context.world }
  (outcome, { context with world := transfer.world })

/-- Gives a session up; that the service refuses or does not answer changes nothing. -/
def abandon : Action Transfer Unit := do
  match ← Transfer.cancel.attempt with
  | .ok _ | .error (.upload ..) | .error (.transport ..) => pure ()
  | .error failure => throw failure

/-- Uploads through a session; one that fails for a reason of its own is given up. -/
def uploadOrAbandon : Action Transfer (Option DriveItem) := do
  match ← Transfer.upload.attempt with
  | .ok item => pure item
  | .error failure =>
      match failure with
      | .upload .. => abandon
      | _ => pure ()
      throw failure

/-- Uploads bytes through an upload session. -/
def uploadInSession (task : UploadTask) (client : HttpClient) (data : Bytes) :
    Action Context (Option DriveItem) := do
  let token ← getTokenSilent
  let session ← inWorld (UploadSession.create token.bearerHeader
    (.text (task.url "createUploadSession")) data task.chunkSize (.text "replace") client)
  withSession session uploadOrAbandon

/-- Uploads a file. -/
def uploadFile (store : FileStore) (task : UploadTask) (client : HttpClient) :
    Action Context (Option DriveItem) := do
  match store.read? task.path with
  | none => throw .noSuchFile
  | some data =>
      if data.length < UploadTask.sessionThreshold then
        return some (← uploadWhole task client data)
      else uploadInSession task client data

end Context

end OAuthClient
