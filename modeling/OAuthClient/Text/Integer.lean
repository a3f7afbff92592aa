import OAuthClient.Text.Blank
import OAuthClient.Text.Digit
import OAuthClient.Text.Quoted

/-!
# Integers in text

The integer that a text denotes: a sign, then decimal digits of any script with single underscores
between them, and blanks around the whole. At most 4300 digits are read.
-/

namespace OAuthClient.Text

/-- Why a text denotes no integer. -/
inductive IntegerFault where
  /-- The text is not of the form of an integer. -/
  | malformed
  /-- The text has more digits than are read. -/
  | tooLong (digits : Nat)
  deriving DecidableEq, Repr

/-- The number of digits that are read at most. -/
def integerDigitLimit : Nat := 4300

/-- Whether a blank may stand around an integer: all but the information separators. -/
def isMargin (c : Char) : Bool := isBlank c && !(28 ≤ c.toNat && c.toNat ≤ 31)

/-- The values of a run of digits in which an underscore may stand between two digits. The flag says
whether a digit was just read. -/
def digitRun : Bool → List Char → Option (List Nat)
  | afterDigit, [] => if afterDigit then some [] else none
  | afterDigit, c :: rest =>
      if c == '_' then if afterDigit then digitRun false rest else none
      else match decimalDigit? c with
        | some d => (digitRun true rest).map (d :: ·)
        | none => none

/-- The sign in front of a number, if any, and the rest. -/
def cutSign : List Char → Bool × List Char
  | '-' :: rest => (true, rest)
  | '+' :: rest => (false, rest)
  | text => (false, text)

/-- The integer that a text denotes. -/
def readInteger (text : List Char) : Except IntegerFault Int :=
  let body := ((text.dropWhile isMargin).reverse.dropWhile isMargin).reverse
  let (negative, digits) := cutSign body
  match digitRun false digits with
  | none => .error .malformed
  | some values =>
      if integerDigitLimit < values.length then .error (.tooLong values.length)
      else
        let magnitude : Nat := values.foldl (fun total d => total * 10 + d) 0
        .ok (if negative then -(magnitude : Int) else magnitude)

/-- What is said of a text that denotes no integer; a long text is quoted in part. -/
def IntegerFault.message (text : String) : IntegerFault → String
  | .malformed =>
      "invalid literal for int() with base 10: " ++
        String.ofList ((quotedChars text.toList).take 200)
  | .tooLong digits =>
      "Exceeds the limit (4300 digits) for integer string conversion: value has " ++
        toString digits ++ " digits; use sys.set_int_max_str_digits() to increase the limit"

end OAuthClient.Text
