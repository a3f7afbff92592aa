import OAuthClient.DeviceCode.Offer
import OAuthClient.Identity.Token
import OAuthClient.Text.Path
import OAuthClient.Upload.DriveItem

/-!
# What is shown on a console

Summaries of tokens, device codes and uploaded files as lines and panels of console markup, and the
columns of the progress display. Secrets are shortened. A table takes texts only; null is an empty
cell.
-/

namespace OAuthClient

/-- What a panel holds. -/
inductive PanelBody where
  | markup (text : String)
  /-- A table of rows of cells. -/
  | table (rows : List (List String))
  deriving DecidableEq, Repr

/-- Something that is printed on a console. -/
inductive Printed where
  | line (markup : String)
  | panel (title border : String) (body : PanelBody)
  deriving DecidableEq, Repr

namespace Printed

/-- The text of a cell. -/
def cell : Value → Except Failure String
  | .null => .ok ""
  | .text s => .ok s
  | _ => .error .notShowable

/-- A row of a heading and a value. -/
def row (heading : String) (value : Value) : Except Failure (List String) :=
  (cell value).map fun text => [heading, text]

/-- The summary of a token. -/
def ofToken (token : Token) : Except Failure Printed := do
  let kind ← row "Token type" token.tokenType
  let access ← row "Access token" (← redact token.logPii (.int 4) token.accessToken)
  let scope ← token.scopeText
  let yesOrNo (value : Value) := if value.isPresent then "yes" else "no"
  pure (.panel "[bold green]🔑 Access Token[/bold green]" "green" (.table [
    kind, access,
    ["Expires on", token.expiresOn.isoText],
    ["Scopes", if scope.isEmpty then "-" else scope],
    ["Refresh token", yesOrNo token.refreshToken],
    ["ID token", yesOrNo token.idToken]]))

/-- What a user is told about a device code. -/
def ofDeviceCode (code : DeviceCode) : Printed :=
  .panel "[bold blue]📱 Device Sign-in[/bold blue]" "blue" (.markup
    ("[bold]" ++ code.instruction.plainText ++ "[/bold]\n[dim]Code expires in " ++
      toString (code.expiresIn / 60) ++ " minutes[/dim]"))

/-- A size in bytes as a double-precision number of mebibytes. -/
def mebibytes : Value → Except Failure Double
  | .int size => quotient size
  | .bool size => quotient size.toInt
  | .real size => .ok ((size.divNat 1024).divNat 1024)
  | _ => .error .wrongKind
where
  /-- An integer divided twice by 1024; a quotient beyond all finite numbers is refused. -/
  quotient (size : Int) : Except Failure Double :=
    match Double.ofRatio (size < 0) size.natAbs 1024 with
    | .infinite _ => .error .outOfRange
    | kibibytes => .ok (kibibytes.divNat 1024)

/-- The summary of an uploaded file. -/
def ofDriveItem (item : DriveItem) : Except Failure Printed := do
  let name ← row "Name" item.name
  let size := String.ofList ((← mebibytes item.size).fixed 2) ++ " MB"
  let id ← row "Id" (item.id.orElse (.text "-"))
  let webUrl ← row "Web URL" (item.webUrl.orElse (.text "-"))
  pure (.panel "[bold green]✅ Upload Complete[/bold green]" "green"
    (.table [name, ["Size", size], id, webUrl]))

/-- The panel with a sign-in URL. -/
def ofSignInUrl (url : String) : Printed :=
  .panel "[bold blue]🔗 Sign-in URL[/bold blue]" "blue" (.markup url)

/-- The lines of markup for a console that draws neither borders nor tables. -/
def lines : Printed → List String
  | .line markup => [markup]
  | .panel title _ (.markup text) => [title, text]
  | .panel title _ (.table rows) => title :: rows.map (String.intercalate ": ")

end Printed

/-- A path shortened to a limit that any number may say. One that is no integer by its format cannot
say how many characters are kept; it does only where all or none of a part are. -/
def shownPath (path : String) (limit : Value) : Except Failure String := do
  let limit ← limit.toNumber
  let path := path.toList
  match limit with
  | .whole limit => pure (String.ofList (Text.Path.truncate path limit))
  | .real _ =>
      let name := Text.Path.baseName path
      let some short := limit.sub? (.whole 3) | throw .outOfRange
      let some room := limit.sub? (.whole (name.length + 4)) | throw .outOfRange
      if (Number.whole path.length).isAtMost limit then pure (String.ofList path)
      else if short.isAtMost (.whole name.length) || (Number.whole 0).isBelow room then
        throw .wrongKind
      else pure (".../" ++ String.ofList name)

/-- A column of the progress display. -/
inductive ProgressColumn where
  | markup (text : String)
  | plain (text : String)
  | bar
  /-- The share that is done. -/
  | share
  /-- The number of bytes that are done. -/
  | doneSize
  /-- The number of bytes in all. -/
  | totalSize
  /-- The bytes per second. -/
  | speed
  /-- The time so far. -/
  | elapsed
  /-- The time that is left. -/
  | remaining
  deriving DecidableEq, Repr

/-- The columns of the progress display for a file. -/
def ProgressColumn.forFile (name : String) : List ProgressColumn :=
  [.markup ("[cyan]" ++ String.ofList (Text.Path.truncate name.toList 35)), .bar, .share,
    .plain "•", .doneSize, .plain "/", .totalSize, .plain "•", .speed, .plain "•", .elapsed,
    .plain "•", .remaining]

end OAuthClient
