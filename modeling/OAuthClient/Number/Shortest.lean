import OAuthClient.Number.Double

/-!
# Shortest decimals

The shortest decimal that reads back as a given double-precision number, and the layouts in which it
is written. Of the decimals with the fewest digits the one nearest to the number is taken.
-/

namespace OAuthClient.Double

/-- The decimals `digits * 10 ^ power`. -/
structure Decimal where
  /-- The digits, read as one number. -/
  digits : Nat
  /-- The power of ten that scales them. -/
  power : Int

/-- The digit count of a natural number; zero has one digit. -/
def digitCount (n : Nat) : Nat := (Text.decimal n).length

/-- The two decimals with `count` digits around a positive quotient, the nearer one first, given the
number of digits before its point. -/
def neighbours (num den : Nat) (point : Int) (count : Nat) : List Decimal :=
  let power := point - count
  let (n, d) :=
    if 0 ≤ power then (num, den * Nat.pow 10 power.toNat)
    else (num * Nat.pow 10 (-power).toNat, den)
  let below := n / d
  let nearest := roundDiv n d
  let other := if nearest = below then below + 1 else below
  [{ digits := nearest, power }, { digits := other, power }]

/-- How many digits a positive quotient has before its point; zero or less when it is below one. -/
def pointOf (num den : Nat) : Int :=
  if den ≤ num then digitCount (num / den)
  else
    let scale := digitCount den - digitCount num + 1
    (digitCount (num * Nat.pow 10 scale / den) : Int) - scale

/-- The shortest decimal that reads back as a positive finite number. Counts of digits are tried in
turn, and of each count the two neighbours of the number, the nearer one first. Seventeen digits
always suffice. -/
def shortest (mantissa : Nat) (exponent : Int) : Decimal :=
  let (num, den) := toRatio mantissa exponent
  let point := pointOf num den
  let readsBack (d : Decimal) := ofDecimal false d.digits d.power == .finite false mantissa exponent
  let candidates := (List.range 17).flatMap fun k => neighbours num den point (k + 1)
  (candidates.find? readsBack).getD { digits := mantissa, power := exponent }

/-- A way to lay out the digits of a number. -/
structure Layout where
  /-- The least position of the point at which the number is written without an exponent. -/
  lowest : Int
  /-- The greatest such position. -/
  highest : Int
  /-- The text of the undefined value. -/
  nan : String
  /-- The text of the infinite value, without its sign. -/
  infinite : String

/-- Numbers in text form: without an exponent from 0.0001 up to sixteen digits before the point. -/
def textLayout : Layout := ⟨-3, 16, "nan", "inf"⟩

/-- Numbers in JSON: as in text form, with words for the values that are not finite. -/
def jsonLayout : Layout := ⟨-3, 16, "NaN", "Infinity"⟩

/-- The digits of a decimal with the zeros at its end dropped, and the position of its point. -/
def Decimal.significant (d : Decimal) : List Char × Int :=
  let all := Text.decimal d.digits
  let kept := (all.reverse.dropWhile (· == '0')).reverse
  (if kept.isEmpty then ['0'] else kept, (all.length : Int) + d.power)

/-- The text of an exponent: its sign and at least two digits. -/
def exponentText (e : Int) : List Char :=
  (if e < 0 then '-' else '+') :: Text.decimalPadded 2 e.natAbs

/-- A decimal in a layout. Without an exponent there is at least one digit on each side of the
point; with one there is a point only when a digit follows it. -/
def Decimal.render (layout : Layout) (d : Decimal) : List Char :=
  let (digits, point) := d.significant
  if layout.lowest ≤ point ∧ point ≤ layout.highest then
    if point ≤ 0 then '0' :: '.' :: List.replicate (-point).toNat '0' ++ digits
    else
      let whole := digits.take point.toNat ++ List.replicate (point.toNat - digits.length) '0'
      let places := digits.drop point.toNat
      whole ++ '.' :: (if places.isEmpty then ['0'] else places)
  else
    let rest := digits.drop 1
    digits.take 1 ++ (if rest.isEmpty then [] else '.' :: rest) ++ 'e' :: exponentText (point - 1)

/-- A number in a layout, by its shortest decimal. -/
def render (layout : Layout) : Double → List Char
  | .nan => layout.nan.toList
  | .infinite negative => (if negative then ['-'] else []) ++ layout.infinite.toList
  | .finite negative mantissa exponent =>
      (if negative then ['-'] else []) ++
        (if mantissa = 0 then ['0', '.', '0'] else (shortest mantissa exponent).render layout)

end OAuthClient.Double
