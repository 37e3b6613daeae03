import NameService.Failover.Policy
import Mathlib.Algebra.GroupWithZero.Nat

/-!
How long a wait is. Numbers of seconds stop at the largest one of 64 bits, twice: where the doubling
is counted out, and where it is applied to the first wait. Neither can be told from outside, because
the longest wait is itself a number of 64 bits and every wait is cut down to it last.

## Main result

`delay_eq`: every wait is the first one doubled so many times, up to the longest.
-/

namespace NameService.Failover.Policy

/-- A count of doublings stops at the ceiling. -/
theorem doubled_eq (times : Nat) : doubled times = min (2 ^ times) ceiling := by
  unfold doubled
  split
  · next few =>
    have below : 2 ^ times < 2 ^ 64 := Nat.pow_lt_pow_right (by decide) few
    have within : 2 ^ times ≤ ceiling := Nat.le_pred_of_lt below
    exact (Nat.min_eq_left within).symm
  · next many =>
    have above : 2 ^ 64 ≤ 2 ^ times := Nat.pow_le_pow_right (by decide) (by omega)
    have beyond : ceiling ≤ 2 ^ times := Nat.le_trans (by decide) above
    exact (Nat.min_eq_right beyond).symm

theorem maxSleep_le_ceiling (policy : Policy) : policy.maxSleep.toNat ≤ ceiling :=
  Nat.le_pred_of_lt policy.maxSleep.toNat_lt

/-- A factor that stops at a bound makes no difference below that bound. -/
theorem min_mul_min {limit bound : Nat} (within : limit ≤ bound) (first times : Nat) :
    min (min (first * min times bound) bound) limit = min (first * times) limit := by
  by_cases few : times ≤ bound
  · rw [Nat.min_eq_left few, Nat.min_assoc, Nat.min_eq_right within]
  have stopped : min times bound = bound := Nat.min_eq_right (by omega)
  rw [stopped]
  cases first with
  | zero => simp
  | succ more =>
    -- Both products are beyond the bound, and so beyond the limit.
    have beyond : bound ≤ (more + 1) * bound := Nat.le_mul_of_pos_left bound (by omega)
    have further : times ≤ (more + 1) * times := Nat.le_mul_of_pos_left times (by omega)
    omega

/-- Every wait is the first one doubled once for each attempt since, up to the longest. So waits
    never get shorter, once there are any, and none is longer than the longest. -/
theorem delay_eq (policy : Policy) :
    (∀ attempt, policy.delay attempt =
      if attempt < policy.eagerTries.toNat then none
      else some (min (policy.sleep.toNat * 2 ^ (attempt - policy.eagerTries.toNat))
        policy.maxSleep.toNat)) ∧
    (∀ earlier later seconds, earlier ≤ later → policy.delay earlier = some seconds →
      ∃ longer, policy.delay later = some longer ∧ seconds ≤ longer) ∧
    ∀ attempt seconds, policy.delay attempt = some seconds → seconds ≤ policy.maxSleep.toNat := by
  -- Neither of the two ceilings is below the longest wait, and so neither shows.
  have formula (attempt : Nat) : policy.delay attempt =
      if attempt < policy.eagerTries.toNat then none
      else some (min (policy.sleep.toNat * 2 ^ (attempt - policy.eagerTries.toNat))
        policy.maxSleep.toNat) := by
    rw [delay, doubled_eq]
    dsimp only
    rw [min_mul_min policy.maxSleep_le_ceiling]
  refine ⟨formula, ?_, ?_⟩
  · intro earlier later seconds order waits
    rw [formula] at waits
    split at waits
    · cases waits
    next begun =>
    obtain rfl := Option.some.inj waits
    have still : ¬ later < policy.eagerTries.toNat := by omega
    have doubled : policy.sleep.toNat * 2 ^ (earlier - policy.eagerTries.toNat) ≤
        policy.sleep.toNat * 2 ^ (later - policy.eagerTries.toNat) := by
      apply Nat.mul_le_mul_left
      exact Nat.pow_le_pow_right (by decide) (by omega)
    rw [formula, if_neg still]
    exact ⟨_, rfl, by omega⟩
  · intro attempt seconds waits
    rw [formula] at waits
    split at waits
    · cases waits
    · obtain rfl := Option.some.inj waits
      exact Nat.min_le_right _ _

/-- The widest policy there is: its longest wait is the largest number of 64 bits, which the
    sixty-third doubling of three seconds passes. -/
theorem delay_eq_widest :
    let policy : Policy :=
      { sleep := 3, maxSleep := .ofNat ceiling, tries := .ofNat (UInt32.size - 1) }
    policy.delay 64 = some (3 * 2 ^ 62) ∧
      ∃ longer, policy.delay 70 = some longer ∧ 3 * 2 ^ 62 ≤ longer ∧ longer ≤ ceiling := by
  intro policy
  obtain ⟨formula, longer, within⟩ := policy.delay_eq
  have waits : policy.delay 64 = some (3 * 2 ^ 62) := by
    rw [formula]
    decide
  obtain ⟨seconds, later, order⟩ := longer 64 70 _ (by decide) waits
  exact ⟨waits, seconds, later, order, within 70 seconds later⟩

end NameService.Failover.Policy
