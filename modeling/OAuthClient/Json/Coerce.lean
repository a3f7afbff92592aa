import OAuthClient.Failure
import OAuthClient.Json.Reader

/-!
# Taking values apart

The service may put any JSON value anywhere. These functions take what an operation needs out of a
value and say exactly how it fails on a value of another kind.
-/

namespace OAuthClient.Value

/-- The integer of a value: numbers lose their fraction, texts are read, truth values count as zero
and one. -/
def toInteger : Value → Except Failure Int
  | .int i => .ok i
  | .bool b => .ok (if b then 1 else 0)
  | .real .nan => .error (.invalid "")
  | .real (.infinite _) => .error .outOfRange
  | .real x => .ok (x.truncate?.getD 0)
  | .text s =>
      match Text.readInteger s.toList with
      | .ok i => .ok i
      | .error fault => .error (.invalid (fault.message s))
  | _ => .error .wrongKind

/-- The number of a value that is one. -/
def toNumber (value : Value) : Except Failure Number := value.number?.elim (.error .wrongKind) .ok

/-- The integer of a value that can count something: an integer or a truth value. -/
def toCount : Value → Except Failure Int
  | .int i => .ok i
  | .bool b => .ok b.toInt
  | _ => .error .wrongKind

/-- The greatest number of times that a double-precision number can be doubled at once. -/
def doublingLimit : Nat := 1023

/-- A value doubled some times over: a number grows, a text or a list is repeated. -/
def doubled (value : Value) (times : Nat) : Except Failure Value :=
  let factor := Nat.pow 2 times
  match value with
  | .text s => .ok (.text (String.join (List.replicate factor s)))
  | .list items => .ok (.list (List.replicate factor items).flatten)
  | .real x => if times ≤ doublingLimit then .ok (.real (x.mulNat factor)) else .error .outOfRange
  | value => value.toNumber.map fun n => ofNumber (n.times factor)

/-- The items of a value that can be gone through: a list's items, a text's characters, an object's
names. -/
def toItems : Value → Except Failure (List Value)
  | .list items => .ok items
  | .text s => .ok (s.toList.map fun c => .text (String.ofList [c]))
  | .object members => .ok (members.map fun (name, _) => .text name)
  | _ => .error .wrongKind

/-- The members of an object. -/
def toMembers : Value → Except Failure Members
  | .object members => .ok members
  | _ => .error .noSuchPart

/-- The text of a text value. -/
def toText : Value → Except Failure String
  | .text s => .ok s
  | _ => .error .noSuchPart

/-- The member of an object under a name, or null. -/
def member (members : Members) (name : String) : Value := (Assoc.get? name members).getD .null

/-- The texts of a list that holds texts only. -/
def toTexts (items : List Value) : Except Failure (List String) :=
  items.mapM fun
    | .text s => .ok s
    | _ => .error .wrongKind

/-- A list of texts joined by a separator. -/
def joinTexts (separator : String) (items : List Value) : Except Failure String :=
  (toTexts items).map (String.intercalate separator)

/-- How many items, characters or members a value has. -/
def size : Value → Except Failure Nat
  | .list items => .ok items.length
  | .text s => .ok s.length
  | .object members => .ok members.length
  | _ => .error .wrongKind

/-- Whether a value may be a member of a set: lists and objects may not. -/
def isAtomic : Value → Bool
  | .list _ | .object _ => false
  | _ => true

/-- The members of an object without those of some names. -/
def without (names : List String) (members : Members) : Members :=
  members.filter fun (name, _) => !names.contains name

end OAuthClient.Value

namespace OAuthClient.Json

/-- The failure that an unreadable JSON body means to an operation that needs one. -/
def Fault.toFailure : Fault → Failure
  | .malformed => .malformedBody
  | .hugeInteger => .invalid ""

end OAuthClient.Json
