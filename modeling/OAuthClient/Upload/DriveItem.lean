import OAuthClient.Calendar.Timestamp
import OAuthClient.Json.Coerce

/-!
# Drive items

What the service reports about a file in a drive. Dates that cannot be read are left out.
-/

namespace OAuthClient

/-- A file in a drive. -/
structure DriveItem where
  name : Value
  /-- The size in bytes. -/
  size : Value
  /-- The identifier. -/
  id : Value
  /-- The path of the folder. -/
  parentPath : Value
  /-- When the item was created. -/
  created : Option Calendar.Timestamp
  /-- When the item was last changed. -/
  modified : Option Calendar.Timestamp
  /-- The media type. -/
  mimeType : Value
  /-- Where the item can be viewed. -/
  webUrl : Value
  /-- The tag of the item's version. -/
  etag : Value

namespace DriveItem

/-- The date in a value. A `Z` anywhere in the text stands for an offset of zero. -/
def dateOf : Value → Option Calendar.Timestamp
  | .text s =>
      let expanded := s.toList.flatMap fun c => if c == 'Z' then "+00:00".toList else [c]
      if s.isEmpty then none else Calendar.Timestamp.read? (String.ofList expanded)
  | _ => none

/-- A member of a nested object; the object may be missing. -/
def nested (members : Members) (name inner : String) : Except Failure Value := do
  match Assoc.get? name members with
  | none => pure .null
  | some value => pure (Value.member (← value.toMembers) inner)

/-- The drive item of an answer. -/
def ofResponse (body : Value) : Except Failure DriveItem := do
  let members ← body.toMembers
  let member := Value.member members
  pure {
    name := (Assoc.get? "name" members).getD (.text "")
    size := (Assoc.get? "size" members).getD (.int 0)
    id := member "id"
    parentPath := ← nested members "parentReference" "path"
    created := dateOf (member "createdDateTime")
    modified := dateOf (member "lastModifiedDateTime")
    mimeType := ← nested members "file" "mimeType"
    webUrl := member "webUrl"
    etag := member "eTag" }

end DriveItem

end OAuthClient
