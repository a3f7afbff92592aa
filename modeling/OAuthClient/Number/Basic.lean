import OAuthClient.Number.Double

/-!
# Numbers

Integers of any size and double-precision numbers side by side. Whole numbers stay whole as long as
they meet whole numbers only; where one meets a double, it is taken to the nearest double first, and
an integer beyond all finite doubles has no sum with one. They are compared by their exact size.
-/

namespace OAuthClient

/-- A number: an integer of any size or a double-precision number. -/
inductive Number where
  /-- An integer. -/
  | whole (i : Int)
  /-- A double-precision number. -/
  | real (x : Double)
  deriving DecidableEq, Repr

namespace Number

/-- The nearest double; an integer beyond all finite doubles has none. -/
def toDouble? : Number → Option Double
  | .whole i =>
      match Double.ofInt i with
      | .infinite _ => none
      | x => some x
  | .real x => some x

/-- The sum of two numbers; a double and an integer beyond all finite doubles have none. -/
def add? : Number → Number → Option Number
  | .whole a, .whole b => some (.whole (a + b))
  | a, b => do pure (.real ((← a.toDouble?).add (← b.toDouble?)))

/-- The difference of two numbers; a double and an integer beyond all finite doubles have none. -/
def sub? : Number → Number → Option Number
  | .whole a, .whole b => some (.whole (a - b))
  | a, b => do pure (.real ((← a.toDouble?).add (← b.toDouble?).neg))

/-- A number multiplied by a positive natural number. -/
def times : Number → Nat → Number
  | .whole a, n => .whole (a * n)
  | .real x, n => .real (x.mulNat n)

/-- The order of two numbers by size; none when one of them is undefined. -/
def compare? : Number → Number → Option Ordering
  | .whole a, .whole b => some (compare a b)
  | .whole a, .real y => (y.compareInt a).map Ordering.swap
  | .real x, .whole b => x.compareInt b
  | .real x, .real y => x.compare? y

/-- Whether a number is less than another one. -/
def isBelow (a b : Number) : Bool := a.compare? b == some .lt

/-- Whether a number is at most another one. -/
def isAtMost (a b : Number) : Bool := a.isBelow b || a.compare? b == some .eq

@[simp] theorem add?_whole (a b : Int) : (whole a).add? (whole b) = some (whole (a + b)) := rfl

@[simp] theorem sub?_whole (a b : Int) : (whole a).sub? (whole b) = some (whole (a - b)) := rfl

@[simp] theorem times_whole (a : Int) (n : Nat) : (whole a).times n = whole (a * n) := rfl

@[simp] theorem isBelow_whole (a b : Int) : (whole a).isBelow (whole b) = decide (a < b) := by
  simp only [isBelow, compare?, compare, compareOfLessAndEq]
  split
  · simp_all
  · split <;> simp_all

end Number

end OAuthClient
