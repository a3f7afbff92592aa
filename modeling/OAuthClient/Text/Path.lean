import OAuthClient.Text.Excerpt

/-!
# File paths

The name and the folder of a file path, and the shortening of a path for display.
-/

namespace OAuthClient.Text.Path

/-- The part after the last slash. -/
def baseName (path : List Char) : List Char := (path.reverse.takeWhile (· != '/')).reverse

/-- The part before the last slash, without slashes at its end; slashes alone stay. -/
def folder (path : List Char) : List Char :=
  let head := (path.reverse.dropWhile (· != '/')).reverse
  if head.all (· == '/') then head
  else (head.reverse.dropWhile (· == '/')).reverse

/-- A path of more than `limit` characters is shortened to dots and its end: the file's name and as
much of its folder as fits, or only the end of the name when that alone is too long. -/
def truncate (path : List Char) (limit : Int) : List Char :=
  let dots := ['.', '.', '.']
  if path.length ≤ limit then path
  else
    let name := baseName path
    if limit - 3 ≤ name.length then dots ++ fromPosition (-(limit - 3)) name
    else
      let room := limit - name.length - 4
      let kept := if 0 < room then fromPosition (-room) (folder path) else []
      dots ++ kept ++ '/' :: name

end OAuthClient.Text.Path
