import OAuthClient.Json.Value
import OAuthClient.Text.Integer

/-!
# Writing JSON

The compact JSON text of a value: no blanks, and every character outside printable ASCII escaped.
Integers are written up to the number of digits that are read.
-/

namespace OAuthClient.Json

/-- One UTF-16 unit as an escape. -/
def escapeUnit (n : Nat) : List Char := '\\' :: 'u' :: Text.hexFixed 4 n

/-- One character inside a string. -/
def escapeChar (c : Char) : List Char :=
  if c == '"' then ['\\', '"']
  else if c == '\\' then ['\\', '\\']
  else if c == '\n' then ['\\', 'n']
  else if c == '\r' then ['\\', 'r']
  else if c == '\t' then ['\\', 't']
  else if c == '\x08' then ['\\', 'b']
  else if c == '\x0c' then ['\\', 'f']
  else if 0x20 ≤ c.toNat ∧ c.toNat ≤ 0x7e then [c]
  else if c.toNat < 0x10000 then escapeUnit c.toNat
  else
    let n := c.toNat - 0x10000
    escapeUnit (0xd800 + n / 0x400) ++ escapeUnit (0xdc00 + n % 0x400)

/-- A string between quotes. -/
def writeString (s : String) : List Char := '"' :: s.toList.flatMap escapeChar ++ ['"']

mutual

/-- The text of a value. -/
def writeValue : Value → List Char
  | .null => ['n', 'u', 'l', 'l']
  | .bool true => ['t', 'r', 'u', 'e']
  | .bool false => ['f', 'a', 'l', 's', 'e']
  | .int i => (toString i).toList
  | .real x => x.render Double.jsonLayout
  | .text s => writeString s
  | .list items => '[' :: writeItems items ++ [']']
  | .object members => '\x7b' :: writeMembers members ++ ['\x7d']

/-- The texts of items, separated by commas. -/
def writeItems : List Value → List Char
  | [] => []
  | [item] => writeValue item
  | item :: rest => writeValue item ++ ',' :: writeItems rest

/-- The texts of members, separated by commas. -/
def writeMembers : Members → List Char
  | [] => []
  | [(name, value)] => writeString name ++ ':' :: writeValue value
  | (name, value) :: rest => writeString name ++ ':' :: writeValue value ++ ',' :: writeMembers rest

end

mutual

/-- Whether a value can be written: no integer in it has more digits than are read. -/
def isWritable : Value → Bool
  | .int i => i.natAbs < Nat.pow 10 Text.integerDigitLimit
  | .list items => itemsWritable items
  | .object members => membersWritable members
  | _ => true

/-- Whether all items can be written. -/
def itemsWritable : List Value → Bool
  | [] => true
  | item :: rest => isWritable item && itemsWritable rest

/-- Whether the values of all members can be written. -/
def membersWritable : Members → Bool
  | [] => true
  | (_, value) :: rest => isWritable value && membersWritable rest

end

/-- The compact JSON text of a value. -/
def render (value : Value) : String := String.ofList (writeValue value)

end OAuthClient.Json
