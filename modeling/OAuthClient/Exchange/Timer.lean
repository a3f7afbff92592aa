import OAuthClient.Json.Coerce

/-!
# Timers

What a client waits with between two attempts and between two polls. The timer of a system counts
nanoseconds from now on, so that it refuses a number of seconds that is negative or undefined, and
one that comes to more nanoseconds than it can count. A client can be given a timer that takes any
number.
-/

namespace OAuthClient

/-- What a client waits with. -/
inductive Timer where
  /-- The timer of a system. -/
  | system
  /-- A timer that takes any number of seconds and sets the clock by it, backwards too. -/
  | lenient
  deriving DecidableEq, Repr

namespace Timer

/-- The nanoseconds of a second. -/
def perSecond : Nat := Nat.pow 10 9

/-- The number of nanoseconds that a system cannot count any more. -/
def limit : Int := Nat.pow 2 63

/-- Whether a timer takes a number of seconds, and if not, why. -/
def accept : Timer → Number → Except Failure Unit
  | .lenient, _ => .ok ()
  | .system, seconds =>
      let nanos := seconds.times perSecond
      if nanos.compare? (.whole 0) = none then .error (.invalid "Invalid value NaN (not a number)")
      else if nanos.isBelow (.whole (-limit)) || !nanos.isBelow (.whole limit) then
        .error .outOfRange
      else if nanos.isBelow (.whole 0) then .error (.invalid "sleep length must be non-negative")
      else .ok ()

/-- The number of seconds that a timer waits for a value. -/
def take (timer : Timer) (seconds : Value) : Except Failure Number := do
  let number ← seconds.toNumber
  timer.accept number
  pure number

/-- What the timer of a system takes is taken by any timer. -/
theorem accept_of_system {seconds : Number} (h : system.accept seconds = .ok ()) (timer : Timer) :
    timer.accept seconds = .ok () := by
  cases timer with
  | system => exact h
  | lenient => rfl

theorem take_eq_ok_iff {timer : Timer} {seconds : Value} {number : Number} :
    timer.take seconds = .ok number ↔
      seconds.toNumber = .ok number ∧ timer.accept number = .ok () := by
  rw [take]
  cases seconds.toNumber with
  | error failure => exact ⟨fun h => (by cases h), fun h => (by cases h.1)⟩
  | ok taken =>
      change (timer.accept taken >>= fun _ => .ok taken) = .ok number ↔ _
      rw [Except.ok.injEq]
      constructor
      · intro h
        cases haccept : timer.accept taken with
        | error failure =>
            rw [haccept] at h
            cases h
        | ok _ =>
            rw [haccept] at h
            obtain rfl := Except.ok.inj h
            exact ⟨rfl, haccept⟩
      · rintro ⟨rfl, haccept⟩
        rw [haccept]
        rfl

theorem take_of_system {seconds : Value} {number : Number}
    (h : system.take seconds = .ok number) (timer : Timer) : timer.take seconds = .ok number := by
  rw [take_eq_ok_iff] at h ⊢
  exact ⟨h.1, accept_of_system h.2 timer⟩

/-- The timer of a system takes the whole seconds from none on whose nanoseconds can be counted. -/
theorem accept_system_whole_iff {seconds : Int} :
    system.accept (.whole seconds) = .ok () ↔ 0 ≤ seconds ∧ seconds * perSecond < limit := by
  have hseconds : (perSecond : Int) = 1000000000 := by decide
  have hlimit : limit = 9223372036854775808 := by decide
  have hdefined (nanos : Int) : (Number.whole nanos).compare? (.whole 0) ≠ none := by
    simp [Number.compare?]
  simp only [accept, Number.times_whole, Number.isBelow_whole, if_neg (hdefined _), hseconds,
    hlimit]
  split
  next hfar =>
    simp only [Bool.or_eq_true, Bool.not_eq_true', decide_eq_true_eq, decide_eq_false_iff_not]
      at hfar
    exact iff_of_false (by rintro ⟨⟩) (by omega)
  next hnear =>
    simp only [Bool.or_eq_true, Bool.not_eq_true', decide_eq_true_eq, decide_eq_false_iff_not]
      at hnear
    split
    next hnegative =>
      rw [decide_eq_true_eq] at hnegative
      exact iff_of_false (by rintro ⟨⟩) (by omega)
    next hpositive =>
      rw [decide_eq_true_eq] at hpositive
      exact iff_of_true rfl (by omega)

end Timer

end OAuthClient
