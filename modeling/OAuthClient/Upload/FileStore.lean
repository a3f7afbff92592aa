import OAuthClient.Text.Blank
import OAuthClient.Text.Utf8

/-!
# File stores

The files below a folder and what a relative path leads to. A path is walked step by step; every
step but the last has to lead to a folder, and no path leads out of the store.
-/

namespace OAuthClient

/-- A place below the folder, as the names that lead to it. -/
abbrev Place := List (List Char)

/-- The files below a folder. A name that ends in a slash is that of a folder. -/
structure FileStore where
  /-- The names with their contents. -/
  entries : List (String × Bytes) := []

namespace FileStore

/-- The names between the slashes of a path. -/
def steps (path : String) : Place := Text.splitOn (· == '/') path.toList

/-- The place that a name stands for. -/
def placeOf (name : String) : Place := (steps name).filter (!·.isEmpty)

/-- Whether a name is that of a folder. -/
def isFolderName (name : String) : Bool := name.endsWith "/"

/-- Whether there is a folder at a place. -/
def hasFolder (store : FileStore) (place : Place) : Bool :=
  place.isEmpty || store.entries.any fun (name, _) =>
    let known := placeOf name
    place.isPrefixOf known && (isFolderName name || place.length < known.length)

/-- The place that some steps lead to from a place. -/
def walk (store : FileStore) (place : Place) : List (List Char) → Option Place
  | [] => some place
  | step :: rest =>
      if !store.hasFolder place then none
      else if step.isEmpty || step == ['.'] then walk store place rest
      else if step == ['.', '.'] then
        if place.isEmpty then none else walk store place.dropLast rest
      else walk store (place ++ [step]) rest

/-- The contents of the file that a path leads to. -/
def read? (store : FileStore) (path : String) : Option Bytes := do
  if path.isEmpty then none
  let place ← store.walk [] (steps path)
  let entry ← store.entries.reverse.find? fun (name, _) =>
    !isFolderName name && placeOf name == place
  some entry.2

/-- Whether a path leads to a file. -/
def hasFile (store : FileStore) (path : String) : Bool := (store.read? path).isSome

end FileStore

end OAuthClient
