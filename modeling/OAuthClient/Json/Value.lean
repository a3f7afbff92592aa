import OAuthClient.Assoc
import OAuthClient.Number.Basic
import OAuthClient.Number.Shortest
import OAuthClient.Text.Quoted

/-!
# JSON values

The values that the service answers with and that requests carry. Integers are unbounded and kept
apart from double-precision numbers; an object keeps the order of its members.
-/

namespace OAuthClient

/-- A JSON value. -/
inductive Value where
  /-- The null value. -/
  | null
  /-- A truth value. -/
  | bool (b : Bool)
  /-- An integer of any size. -/
  | int (i : Int)
  /-- A double-precision number. -/
  | real (x : Double)
  | text (s : String)
  | list (items : List Value)
  /-- Named members in order; the names are distinct. -/
  | object (members : List (String × Value))
  deriving Inhabited

/-- Named members in order. -/
abbrev Members := List (String × Value)

namespace Value

/-- Whether a value counts as present: null, false, zero and everything empty do not. -/
def isPresent : Value → Bool
  | .null => false
  | .bool b => b
  | .int i => i != 0
  | .real x => !x.isZero
  | .text s => !s.isEmpty
  | .list items => !items.isEmpty
  | .object members => !members.isEmpty

/-- Whether a value is null. -/
def isNull : Value → Bool
  | .null => true
  | _ => false

/-- A value, or a second one when the first does not count as present. -/
def orElse (value other : Value) : Value := if value.isPresent then value else other

/-- The text in a value that is one. -/
def text? : Value → Option String
  | .text s => some s
  | _ => none

/-- The members of a value that is an object. -/
def members? : Value → Option Members
  | .object members => some members
  | _ => none

/-- The value of a number. -/
def ofNumber : Number → Value
  | .whole i => .int i
  | .real x => .real x

/-- The number in a value that is one; truth values count as zero and one. -/
def number? : Value → Option Number
  | .int i => some (.whole i)
  | .bool b => some (.whole b.toInt)
  | .real x => some (.real x)
  | _ => none

/-- The order of two numbers by size, if both are numbers. -/
def compareNumbers? (a b : Value) : Option Ordering := do (← a.number?).compare? (← b.number?)

/-- Whether two values are numbers of the same size. -/
def sameNumber (a b : Value) : Bool := compareNumbers? a b == some .eq

mutual

/-- Whether two values are equal: numbers by size, objects without regard to order. -/
def same : Value → Value → Bool
  | .null, .null => true
  | .text a, .text b => a == b
  | .list a, .list b => sameItems a b
  | .object a, .object b => a.length == b.length && sameMembers a b
  | a, b => sameNumber a b

/-- Whether two lists are equal item by item. -/
def sameItems : List Value → List Value → Bool
  | [], [] => true
  | a :: as, b :: bs => same a b && sameItems as bs
  | _, _ => false

/-- Whether every member of the first list has an equal one in the second. -/
def sameMembers : Members → Members → Bool
  | [], _ => true
  | (key, a) :: rest, others =>
      (match Assoc.get? key others with
        | some b => same a b
        | none => false) && sameMembers rest others

end

mutual

/-- The text of a value inside another one: texts stand between quotes. -/
def quotedText : Value → String
  | .null => "None"
  | .bool b => if b then "True" else "False"
  | .int i => toString i
  | .real x => String.ofList (x.render Double.textLayout)
  | .text s => Text.quoted s
  | .list items => "[" ++ itemsText items ++ "]"
  | .object members => "\x7b" ++ membersText members ++ "\x7d"

/-- The texts of items, separated by commas. -/
def itemsText : List Value → String
  | [] => ""
  | [item] => quotedText item
  | item :: rest => quotedText item ++ ", " ++ itemsText rest

/-- The texts of members, separated by commas. -/
def membersText : Members → String
  | [] => ""
  | [(key, value)] => Text.quoted key ++ ": " ++ quotedText value
  | (key, value) :: rest =>
      Text.quoted key ++ ": " ++ quotedText value ++ ", " ++ membersText rest

end

/-- The plain text of a value: a text is itself, and every other value as inside another one. -/
def plainText : Value → String
  | .text s => s
  | value => value.quotedText

@[simp] theorem number?_ofNumber (n : Number) : number? (ofNumber n) = some n := by cases n <;> rfl

@[simp] theorem plainText_text (s : String) : plainText (.text s) = s := rfl

@[simp] theorem isPresent_text (s : String) : isPresent (.text s) = !s.isEmpty := rfl

@[simp] theorem isPresent_null : isPresent .null = false := rfl

end Value

end OAuthClient
