import OAuthClient.Text.Blank
import OAuthClient.Text.Percent

/-!
# Form encoding

The `application/x-www-form-urlencoded` form of a list of named values, as used in queries and
fragments: pairs joined by `&`, a name and its value joined by `=`, a space written as `+` and
every other reserved character in percent form.
-/

namespace OAuthClient.Text.Form

/-- A name or a value in form encoding. -/
def encodeComponent (text : List Char) : List Char :=
  (Percent.encode (fun c => Percent.isUnreserved c || c == ' ') text).map
    fun c => if c == ' ' then '+' else c

/-- The text of a component in form encoding; the plus signs become spaces before the percent
forms are resolved, so an encoded plus sign stays one. -/
def decodeComponent (text : List Char) : List Char :=
  Percent.decode (text.map fun c => if c == '+' then ' ' else c)

/-- One named value in form encoding. -/
def encodePair (pair : String × String) : List Char :=
  encodeComponent pair.1.toList ++ '=' :: encodeComponent pair.2.toList

/-- A list of named values in form encoding. -/
def encode (pairs : List (String × String)) : String :=
  String.ofList (['&'].intercalate (pairs.map encodePair))

/-- The named value that a piece between two `&` holds. -/
def decodePair (keepBlank : Bool) (piece : List Char) : Option (String × String) :=
  let named (name value : List Char) :=
    (String.ofList (decodeComponent name), String.ofList (decodeComponent value))
  match cutFirst (· == '=') piece with
  | some (name, value) =>
      if value.isEmpty && !keepBlank then none else some (named name value)
  | none => if piece.isEmpty || !keepBlank then none else some (named piece [])

/-- The named values of an encoded list. Values that are empty or missing are dropped unless blank
values are kept. -/
def decode (keepBlank : Bool) (text : String) : List (String × String) :=
  (splitOn (· == '&') text.toList).filterMap (decodePair keepBlank)

end OAuthClient.Text.Form
