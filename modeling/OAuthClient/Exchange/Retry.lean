import OAuthClient.Exchange.World

/-!
# Retries

An attempt that fails in transport is made again after a pause that doubles each time. Every other
failure ends the attempts at once, and so does the last allowed one.
-/

namespace OAuthClient

variable {σ α : Type}

/-- Makes an attempt up to `remaining` times when `made` attempts have failed already. -/
def retryFrom (attempt : Action σ α) (pause : Value → Action σ Unit) (delay : Value) :
    (remaining made : Nat) → Action σ α
  | 0, _ => throw .noAttempts
  | remaining + 1, made => do
      match ← attempt.attempt with
      | .ok value => pure value
      | .error (.transport fault reason) =>
          if remaining = 0 then throw (.transport fault reason)
          else
            pause (← Action.ofExcept (delay.doubled made))
            retryFrom attempt pause delay remaining (made + 1)
      | .error failure => throw failure

/-- Makes an attempt at most a number of times; with less than one, none is made. -/
def retry (attempts : Int) (delay : Value) (pause : Value → Action σ Unit)
    (attempt : Action σ α) : Action σ α :=
  retryFrom attempt pause delay attempts.toNat 0

end OAuthClient
