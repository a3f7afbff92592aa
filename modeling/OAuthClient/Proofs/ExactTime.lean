import Mathlib.Data.Rat.Floor
import Mathlib.Tactic.Linarith
import Mathlib.Tactic.Positivity
import OAuthClient.Proofs.TokenExchange

/-! # Exact time

The clock shows a number, and every finite number has an exact size by which it is
compared. Only a pause moves the clock. One that shows whole seconds never loses
time: each pause of some whole seconds moves it by just these.
-/

namespace OAuthClient

namespace Number

variable {a b : Number}

/-- The size of a finite number as numerator and denominator. -/
def fraction? : Number → Option (Int × Nat)
  | .whole i => some (i, 1)
  | .real (.finite negative mantissa exponent) =>
      some (Double.toSignedRatio negative mantissa exponent)
  | .real _ => none

/-- The exact size of a finite number. -/
def toRat? (number : Number) : Option ℚ :=
  number.fraction?.map fun (num, den) => (num : ℚ) / den

theorem toRat?_whole (i : Int) : (whole i).toRat? = some (i : ℚ) := by
  simp [toRat?, fraction?]

theorem den_pos {num : Int} {den : Nat} (h : a.fraction? = some (num, den)) : 0 < den := by
  cases a with
  | whole i =>
      cases h
      exact Nat.one_pos
  | real x =>
      cases x with
      | finite negative mantissa exponent =>
          have hden : (Double.toRatio mantissa exponent).2 = den :=
            (Prod.mk.inj (Option.some.inj h)).2
          rw [← hden, Double.toRatio]
          split
          · exact Nat.one_pos
          · exact Nat.pow_pos Nat.two_pos
      | nan => cases h
      | infinite negative => cases h

theorem compare?_of_fraction {an bn : Int} {ad bd : Nat} (ha : a.fraction? = some (an, ad))
    (hb : b.fraction? = some (bn, bd)) : a.compare? b = some (compare (an * bd) (bn * ad)) := by
  cases a with
  | whole i =>
      cases ha
      cases b with
      | whole j =>
          cases hb
          simp [compare?]
      | real y =>
          cases y with
          | finite negative mantissa exponent =>
              rw [fraction?, Option.some.injEq] at hb
              simp only [compare?, Double.compareInt, hb, Option.map_some, Int.natCast_one,
                Int.mul_one]
              rw [Std.OrientedOrd.eq_swap, Ordering.swap_swap]
          | nan => cases hb
          | infinite negative => cases hb
  | real x =>
      cases x with
      | finite negative mantissa exponent =>
          rw [fraction?, Option.some.injEq] at ha
          cases b with
          | whole j =>
              cases hb
              simp only [compare?, Double.compareInt, ha, Int.natCast_one, Int.mul_one]
          | real y =>
              cases y with
              | finite negative' mantissa' exponent' =>
                  rw [fraction?, Option.some.injEq] at hb
                  simp only [compare?, Double.compare?, ha, hb]
              | nan => cases hb
              | infinite negative => cases hb
      | nan => cases ha
      | infinite negative => cases ha

/-- Finite numbers are compared by their exact sizes. -/
theorem isAtMost_iff {x y : ℚ} (ha : a.toRat? = some x) (hb : b.toRat? = some y) :
    a.isAtMost b = true ↔ x ≤ y := by
  obtain ⟨⟨an, ad⟩, hfa, rfl⟩ := Option.map_eq_some_iff.mp ha
  obtain ⟨⟨bn, bd⟩, hfb, rfl⟩ := Option.map_eq_some_iff.mp hb
  have had : (0 : ℚ) < ad := by exact_mod_cast den_pos hfa
  have hbd : (0 : ℚ) < bd := by exact_mod_cast den_pos hfb
  have hle : (an : ℚ) / ad ≤ bn / bd ↔ an * bd ≤ bn * ad := by
    rw [div_le_div_iff₀ had hbd]
    exact_mod_cast Iff.rfl
  dsimp only
  rw [hle, isAtMost, isBelow, compare?_of_fraction hfa hfb, ← Int.isLE_compare]
  cases compare (an * (bd : Int)) (bn * ad) <;> decide

end Number

namespace World

variable {before middle after : World}

/-- Whether the clock shows at least some seconds more in the second world. -/
def Passes (before after : World) (seconds : Int) : Prop :=
  ∃ t t' : ℚ, before.elapsed.toRat? = some t ∧ after.elapsed.toRat? = some t' ∧ t + seconds ≤ t'

/-- Whether the clock counts in whole seconds. -/
def ShowsWhole (world : World) : Prop :=
  ∃ first now : Int, world.start = .whole first ∧ world.now = .whole now

/-- Whether a clock that shows whole seconds still does so later and has not gone back. -/
structure KeepsWhole (before after : World) : Prop where
  start : after.start = before.start
  now : ∀ a, before.now = .whole a → ∃ b, after.now = .whole b ∧ a ≤ b

namespace KeepsWhole

theorem refl (world : World) : world.KeepsWhole world := ⟨rfl, fun a h => ⟨a, h, le_refl a⟩⟩

theorem trans (h : before.KeepsWhole middle) (h' : middle.KeepsWhole after) :
    before.KeepsWhole after := by
  refine ⟨h'.start.trans h.start, fun a ha => ?_⟩
  obtain ⟨b, hb, hab⟩ := h.now a ha
  obtain ⟨c, hc, hbc⟩ := h'.now b hb
  exact ⟨c, hc, hab.trans hbc⟩

theorem of_clock_eq (hstart : after.start = before.start) (hnow : after.now = before.now) :
    before.KeepsWhole after :=
  ⟨hstart, fun a h => ⟨a, hnow.trans h, le_refl a⟩⟩

end KeepsWhole

/-- Some whole seconds last just these, if the timer takes them. -/
theorem eq_whole_of_take {timer : Timer} {seconds : Int} {number : Number}
    (h : timer.take (.int seconds) = .ok number) : number = .whole seconds :=
  (Except.ok.inj (Timer.take_eq_ok_iff.mp h).1).symm

/-- A pause that the timer takes moves a clock that shows whole seconds by just these. -/
theorem now_afterPause_of_take {world : World} {seconds now : Int} {number : Number}
    (htake : world.timer.take (.int seconds) = .ok number) (hnow : world.now = .whole now) :
    (world.afterPause (.int seconds)).now = .whole (now + seconds) := by
  obtain rfl := eq_whole_of_take htake
  rw [afterPause, htake]
  dsimp only
  rw [later, hnow, Number.add?_whole]
  rfl

theorem afterPause_keepsWhole {seconds : Int} (hseconds : 0 ≤ seconds) (world : World) :
    world.KeepsWhole (world.afterPause (.int seconds)) := by
  cases htake : world.timer.take (.int seconds) with
  | ok number =>
      obtain ⟨_, hsame⟩ := world.exists_afterPause_eq (.int seconds)
      exact ⟨by rw [hsame], fun a ha =>
        ⟨a + seconds, now_afterPause_of_take htake ha, by omega⟩⟩
  | error failure =>
      rw [afterPause, htake]
      exact KeepsWhole.of_clock_eq rfl rfl

theorem retryFrom_keepsWhole {request : Request} {delay : Int} (hdelay : 0 ≤ delay)
    (remaining made : Nat) (world : World) :
    world.KeepsWhole
      ((retryFrom (exchange request) pause (.int delay) remaining made).perform world).2 := by
  induction remaining generalizing made world with
  | zero => exact KeepsWhole.refl world
  | succ remaining ih =>
      have hsent : world.KeepsWhole (world.afterRequest request) :=
        KeepsWhole.of_clock_eq rfl rfl
      rw [retryFrom, Action.perform_attempt_bind, exchange_perform]
      split
      next => exact hsent
      next =>
        split
        next => exact hsent
        next =>
          have hnonneg : 0 ≤ delay * (Nat.pow 2 made : Nat) :=
            Int.mul_nonneg hdelay (Int.natCast_nonneg _)
          have hdoubled : (Value.int delay).doubled made = .ok (.int (delay * Nat.pow 2 made)) :=
            rfl
          rw [hdoubled, Action.perform_ofExcept_bind]
          dsimp only
          have hpaused := hsent.trans (afterPause_keepsWhole hnonneg (world.afterRequest request))
          rw [Action.perform_bind, pause_perform]
          split
          next heq =>
            rw [← (Prod.mk.inj heq).2]
            exact hpaused.trans (ih _ _)
          next heq =>
            rw [← (Prod.mk.inj heq).2]
            exact hpaused
      next => exact hsent

end World

theorem Action.IsOffline.keepsWhole {α : Type} {action : Action World α} (h : action.IsOffline)
    (world : World) : world.KeepsWhole (action.perform world).2 := by
  obtain ⟨entropy, hentropy⟩ := h world
  rw [hentropy]
  exact World.KeepsWhole.of_clock_eq rfl rfl

/-- Whether the pauses between the attempts of a client are whole seconds. -/
def HttpClient.PausesWhole (client : HttpClient) : Prop :=
  ∃ delay : Int, 0 ≤ delay ∧ client.delay = .int delay

theorem HttpClient.send_keepsWhole {client : HttpClient} (hclient : client.PausesWhole)
    (method : String) (url : Value) (headers : Members)
    (payload : Payload) (world : World) :
    world.KeepsWhole ((client.send method url headers payload).perform world).2 := by
  obtain ⟨delay, hdelay, hpause⟩ := hclient
  unfold send
  split
  next =>
    rw [hpause]
    exact World.retryFrom_keepsWhole hdelay _ _ world
  next => exact World.KeepsWhole.refl world

theorem Credential.execute_keepsWhole {credential : Credential}
    (hclient : credential.client.PausesWhole) (world : World) :
    world.KeepsWhole (credential.execute.perform world).2 := by
  have hform := credential.form_isOffline.keepsWhole world
  rw [execute, Action.perform_bind]
  split
  next fields formed heq =>
    rw [heq] at hform
    refine hform.trans ?_
    rw [post, asExecution_snd]
    exact HttpClient.send_keepsWhole hclient _ _ _ _ formed
  next failure formed heq =>
    rw [heq] at hform
    exact hform

end OAuthClient
