import OAuthClient.Text.Digit

/-!
# Double-precision numbers

The numbers of the binary64 format, given by sign, mantissa and exponent, so that every operation is
exact arithmetic on integers followed by one rounding to the nearest number, ties to the even
mantissa.
-/

namespace OAuthClient

/-- A number of the binary64 format. A finite number is `± mantissa * 2 ^ exponent`. -/
inductive Double where
  /-- The value of an undefined operation. -/
  | nan
  /-- A value beyond all finite numbers. -/
  | infinite (negative : Bool)
  /-- A finite value. -/
  | finite (negative : Bool) (mantissa : Nat) (exponent : Int)
  deriving DecidableEq, Repr

namespace Double

/-- The quotient of two natural numbers rounded to the nearest, a tie to the even neighbour. -/
def roundDiv (num den : Nat) : Nat :=
  let q := num / den
  let r := num % den
  if den < 2 * r ∨ (den = 2 * r ∧ q % 2 = 1) then q + 1 else q

/-- The least exponent of the format. -/
def minExponent : Int := -1074

/-- The greatest exponent of the format. -/
def maxExponent : Int := 971

/-- A quotient divided by a power of two and rounded. -/
def scaledRound (num den : Nat) (exponent : Int) : Nat :=
  if 0 ≤ exponent then roundDiv num (den * Nat.pow 2 exponent.toNat)
  else roundDiv (num * Nat.pow 2 (-exponent).toNat) den

/-- The number nearest to a quotient of natural numbers; the denominator is not zero. The exponent
is the least one that leaves at most 53 bits to the mantissa. -/
def ofRatio (negative : Bool) (num den : Nat) : Double :=
  if num = 0 then .finite negative 0 minExponent
  else
    let full := Nat.pow 2 53
    let low : Int := max ((num.log2 : Int) - den.log2 - 53) minExponent
    let exponent := if scaledRound num den low < full then low else low + 1
    let mantissa := scaledRound num den exponent
    let carried := mantissa == full
    let exponent := if carried then exponent + 1 else exponent
    if maxExponent < exponent then .infinite negative
    else .finite negative (if carried then full / 2 else mantissa) exponent

/-- The number nearest to a decimal: digits, and the power of ten that scales them. A decimal far
outside the range of the format is settled by its size alone. -/
def ofDecimal (negative : Bool) (digits : Nat) (power : Int) : Double :=
  if digits = 0 then .finite negative 0 minExponent
  else
    let bits : Int := digits.log2
    if 400 < bits / 4 + power then .infinite negative
    else if bits / 3 + power < -400 then .finite negative 0 minExponent
    else if 0 ≤ power then ofRatio negative (digits * Nat.pow 10 power.toNat) 1
    else ofRatio negative digits (Nat.pow 10 (-power).toNat)

/-- The number nearest to an integer; beyond all finite numbers it is infinite. -/
def ofInt (i : Int) : Double := ofRatio (i < 0) i.natAbs 1

/-- A finite number as numerator and denominator. -/
def toRatio (mantissa : Nat) (exponent : Int) : Nat × Nat :=
  if 0 ≤ exponent then (mantissa * Nat.pow 2 exponent.toNat, 1)
  else (mantissa, Nat.pow 2 (-exponent).toNat)

/-- The integer part, the fraction dropped; only finite numbers have one. -/
def truncate? : Double → Option Int
  | .finite negative mantissa exponent =>
      let (num, den) := toRatio mantissa exponent
      let magnitude : Int := (num / den : Nat)
      some (if negative then -magnitude else magnitude)
  | _ => none

/-- Whether a number is zero. -/
def isZero : Double → Bool
  | .finite _ mantissa _ => mantissa == 0
  | _ => false

/-- A finite number divided by a positive natural number. -/
def divNat : Double → Nat → Double
  | .finite negative mantissa exponent, n =>
      let (num, den) := toRatio mantissa exponent
      ofRatio negative num (den * n)
  | x, _ => x

/-- A number multiplied by a positive natural number. -/
def mulNat : Double → Nat → Double
  | .finite negative mantissa exponent, n =>
      let (num, den) := toRatio mantissa exponent
      ofRatio negative (num * n) den
  | x, _ => x

/-- A number with the other sign. -/
def neg : Double → Double
  | .nan => .nan
  | .infinite negative => .infinite (!negative)
  | .finite negative mantissa exponent => .finite (!negative) mantissa exponent

/-- A finite number as signed numerator and denominator. -/
def toSignedRatio (negative : Bool) (mantissa : Nat) (exponent : Int) : Int × Nat :=
  let (num, den) := toRatio mantissa exponent
  (if negative then -num else num, den)

/-- The sum of two numbers. A sum of zero is negative only when both numbers are negative zeros. -/
def add : Double → Double → Double
  | .nan, _ | _, .nan => .nan
  | .infinite a, .infinite b => if a == b then .infinite a else .nan
  | .infinite a, _ | _, .infinite a => .infinite a
  | .finite na ma ea, .finite nb mb eb =>
      let (an, ad) := toSignedRatio na ma ea
      let (bn, bd) := toSignedRatio nb mb eb
      let sum := an * bd + bn * ad
      if sum = 0 then .finite (na && nb) 0 minExponent
      else ofRatio (sum < 0) sum.natAbs (ad * bd)

/-- A finite number times a natural number as an integer. Only the fraction is rounded: it is scaled
on its own to the nearest number of the format, and that one to an integer, ties to even. -/
def scaled? (factor : Nat) : Double → Option Int
  | .finite negative mantissa exponent =>
      let (num, den) := toRatio mantissa exponent
      let places := match ofRatio false (num % den * factor) den with
        | .finite _ m e => let (n, d) := toRatio m e; roundDiv n d
        | _ => 0
      let magnitude : Int := (num / den * factor + places : Nat)
      some (if negative then -magnitude else magnitude)
  | _ => none

/-- The order of a finite number against an integer: the sign of their difference. -/
def compareInt : Double → Int → Option Ordering
  | .nan, _ => none
  | .infinite negative, _ => some (if negative then .lt else .gt)
  | .finite negative mantissa exponent, i =>
      let (num, den) := toSignedRatio negative mantissa exponent
      some (compare num (i * den))

/-- The order of two numbers; none when one of them is undefined. -/
def compare? : Double → Double → Option Ordering
  | .nan, _ | _, .nan => none
  | .infinite a, .infinite b => some (compare b a)
  | .infinite a, _ => some (if a then .lt else .gt)
  | _, .infinite b => some (if b then .gt else .lt)
  | .finite na ma ea, .finite nb mb eb =>
      let (an, ad) := toSignedRatio na ma ea
      let (bn, bd) := toSignedRatio nb mb eb
      some (compare (an * bd) (bn * ad))

/-- The decimal text with a fixed number of places, a tie to the even neighbour. -/
def fixed (places : Nat) : Double → List Char
  | .nan => ['n', 'a', 'n']
  | .infinite negative => (if negative then ['-'] else []) ++ ['i', 'n', 'f']
  | .finite negative mantissa exponent =>
      let (num, den) := toRatio mantissa exponent
      let scaled := roundDiv (num * Nat.pow 10 places) den
      let digits := Text.decimalPadded (places + 1) scaled
      let cut := digits.length - places
      (if negative then ['-'] else []) ++ digits.take cut ++
        (if places = 0 then [] else '.' :: digits.drop cut)

end Double

end OAuthClient
