import OAuthClient.Json.Value
import OAuthClient.Text.Integer
import OAuthClient.Text.Utf8

/-!
# Reading JSON

The value that a JSON text denotes. Of members with one name the last counts; the words for the
numbers that are not finite are read; a byte order mark, a raw control character in a string and
anything after the value are refused.

Values may be nested to any depth, and an escape that is half of a surrogate pair stands for the
replacement character. A reader with a bounded stack gives up at some depth, and one whose texts are
made of code points keeps the half as it stands; what such readers make of such texts is not told
here.
-/

namespace OAuthClient.Json

/-- Why a text denotes no JSON value. -/
inductive Fault where
  /-- The text is not of the form of a JSON value. -/
  | malformed
  /-- An integer of the text has more digits than are read. -/
  | hugeInteger
  deriving DecidableEq, Repr

/-- The blanks of JSON. -/
def isBlank (c : Char) : Bool := c == ' ' || c == '\t' || c == '\n' || c == '\r'

/-- The text without leading blanks. -/
def skipBlanks (text : List Char) : List Char := text.dropWhile isBlank

/-- The character that a one-letter escape stands for. -/
def escaped? : Char → Option Char
  | '"' => some '"'
  | '\\' => some '\\'
  | '/' => some '/'
  | 'b' => some '\x08'
  | 'f' => some '\x0c'
  | 'n' => some '\n'
  | 'r' => some '\r'
  | 't' => some '\t'
  | _ => none

/-- The number that four hexadecimal digits denote. -/
def hexFour? (a b c d : Char) : Option Nat := do
  let a ← Text.hexValue? a
  let b ← Text.hexValue? b
  let c ← Text.hexValue? c
  let d ← Text.hexValue? d
  pure (a * 0x1000 + b * 0x100 + c * 0x10 + d)

/-- Whether a number is the first half of a surrogate pair. -/
def isHighHalf (n : Nat) : Bool := 0xd800 ≤ n && n < 0xdc00

/-- Whether a number is the second half of a surrogate pair. -/
def isLowHalf (n : Nat) : Bool := 0xdc00 ≤ n && n < 0xe000

/-- The code point of a surrogate pair. -/
def joinHalves (high low : Nat) : Nat := 0x10000 + (high - 0xd800) * 0x400 + (low - 0xdc00)

/-- The text of a list of code points in which surrogate pairs are joined. A half without its
partner has no character and is replaced. -/
def ofUnits : List Nat → List Char
  | high :: low :: rest =>
      if isHighHalf high && isLowHalf low then Char.ofNat (joinHalves high low) :: ofUnits rest
      else unit high :: ofUnits (low :: rest)
  | [n] => [unit n]
  | [] => []
where
  /-- One code point by itself. -/
  unit (n : Nat) : Char :=
    if isHighHalf n || isLowHalf n then Text.Utf8.replacement else Char.ofNat n

/-- Reads a string after its opening quote. The code points read so far come in reverse order. -/
def readUnits (done : List Nat) : List Char → Except Fault (List Nat × List Char)
  | '"' :: rest => .ok (done.reverse, rest)
  | '\\' :: 'u' :: a :: b :: c :: d :: rest =>
      match hexFour? a b c d with
      | some n => readUnits (n :: done) rest
      | none => .error .malformed
  | '\\' :: e :: rest =>
      match escaped? e with
      | some c => readUnits (c.toNat :: done) rest
      | none => .error .malformed
  | c :: rest =>
      if c == '\\' || c.toNat < 0x20 then .error .malformed else readUnits (c.toNat :: done) rest
  | [] => .error .malformed

/-- Reads a string after its opening quote. -/
def readString (text : List Char) : Except Fault (String × List Char) := do
  let (units, rest) ← readUnits [] text
  pure (String.ofList (ofUnits units), rest)

/-- The leading ASCII digits and the rest. -/
def cutDigits (text : List Char) : List Char × List Char :=
  (text.takeWhile Text.isAsciiDigit, text.dropWhile Text.isAsciiDigit)

/-- The digits after a point, if a point and a digit come first, and the rest. -/
def cutPlaces : List Char → List Char × List Char
  | '.' :: more =>
      let (places, rest) := cutDigits more
      if places.isEmpty then ([], '.' :: more) else (places, rest)
  | text => ([], text)

/-- The exponent, if one comes first, and the rest. -/
def cutExponent (text : List Char) : Option Int × List Char :=
  match text with
  | e :: more =>
      if e == 'e' || e == 'E' then
        let (negative, digits) := Text.cutSign more
        let (digits, rest) := cutDigits digits
        let size : Int := Text.natOfDigits digits
        if digits.isEmpty then (none, text) else (some (if negative then -size else size), rest)
      else (none, text)
  | [] => (none, text)

/-- Reads a number after its sign. Without places and exponent it is an integer; no digit may follow
a leading zero. -/
def readNumber (negative : Bool) (text : List Char) : Except Fault (Value × List Char) :=
  let (digits, rest) :=
    if text.head? == some '0' then (['0'], text.drop 1) else cutDigits text
  if digits.isEmpty then .error .malformed
  else
    let (places, rest) := cutPlaces rest
    let (exponent, rest) := cutExponent rest
    if places.isEmpty && exponent.isNone then
      if Text.integerDigitLimit < digits.length then .error .hugeInteger
      else
        let size : Int := Text.natOfDigits digits
        .ok (.int (if negative then -size else size), rest)
    else
      let power := exponent.getD 0 - places.length
      .ok (.real (Double.ofDecimal negative (Text.natOfDigits (digits ++ places)) power), rest)

mutual

/-- Reads a value that starts at the first character. -/
def readValue : Nat → List Char → Except Fault (Value × List Char)
  | 0, _ => .error .malformed
  | fuel + 1, text =>
      match text with
      | '"' :: rest => do
          let (s, rest) ← readString rest
          pure (.text s, rest)
      | '\x7b' :: rest =>
          match skipBlanks rest with
          | '\x7d' :: rest => .ok (.object [], rest)
          | rest => do
              let (members, rest) ← readMembers fuel rest
              pure (.object (Assoc.ofPairs members), rest)
      | '[' :: rest =>
          match skipBlanks rest with
          | ']' :: rest => .ok (.list [], rest)
          | rest => do
              let (items, rest) ← readItems fuel rest
              pure (.list items, rest)
      | 'n' :: 'u' :: 'l' :: 'l' :: rest => .ok (.null, rest)
      | 't' :: 'r' :: 'u' :: 'e' :: rest => .ok (.bool true, rest)
      | 'f' :: 'a' :: 'l' :: 's' :: 'e' :: rest => .ok (.bool false, rest)
      | 'N' :: 'a' :: 'N' :: rest => .ok (.real .nan, rest)
      | 'I' :: 'n' :: 'f' :: 'i' :: 'n' :: 'i' :: 't' :: 'y' :: rest =>
          .ok (.real (.infinite false), rest)
      | '-' :: 'I' :: 'n' :: 'f' :: 'i' :: 'n' :: 'i' :: 't' :: 'y' :: rest =>
          .ok (.real (.infinite true), rest)
      | '-' :: rest => readNumber true rest
      | _ => readNumber false text

/-- Reads the items of a list up to its closing bracket; the first one starts at the first
character. -/
def readItems : Nat → List Char → Except Fault (List Value × List Char)
  | 0, _ => .error .malformed
  | fuel + 1, text => do
      let (item, rest) ← readValue fuel text
      match skipBlanks rest with
      | ',' :: rest => do
          let (items, rest) ← readItems fuel (skipBlanks rest)
          pure (item :: items, rest)
      | ']' :: rest => pure ([item], rest)
      | _ => .error .malformed

/-- Reads the members of an object up to its closing brace; the first name starts at the first
character. -/
def readMembers : Nat → List Char → Except Fault (Members × List Char)
  | 0, _ => .error .malformed
  | fuel + 1, text =>
      match text with
      | '"' :: rest => do
          let (name, rest) ← readString rest
          match skipBlanks rest with
          | ':' :: rest => do
              let (value, rest) ← readValue fuel (skipBlanks rest)
              match skipBlanks rest with
              | ',' :: rest => do
                  let (members, rest) ← readMembers fuel (skipBlanks rest)
                  pure ((name, value) :: members, rest)
              | '\x7d' :: rest => pure ([(name, value)], rest)
              | _ => .error .malformed
          | _ => .error .malformed
      | _ => .error .malformed

end

/-- The value that a JSON text denotes. Each step of the reader but one between two characters takes
a character, so twice the length is enough fuel. -/
def parseChars (text : List Char) : Except Fault Value := do
  let (value, rest) ← readValue (2 * text.length + 2) (skipBlanks text)
  if (skipBlanks rest).isEmpty then pure value else .error .malformed

/-- The value that a JSON text denotes. -/
def parse (text : String) : Except Fault Value := parseChars text.toList

end OAuthClient.Json
