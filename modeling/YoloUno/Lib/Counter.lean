import Mathlib.Order.Basic
import Mathlib.Algebra.Order.Ring.Nat

/-!
# Free-running counters

A counter that shows the true time modulo its period. Differences of two of
its readings are right modulo the period wherever the counter started, so a
time that is measured as a difference and then rounded to a coarser unit is
right exactly when less than one period passed.
-/

namespace Counter

/-- A 32-bit counter read twice: the difference is the elapsed time modulo
2³², whatever the counter showed at the start. -/
theorem ofNat_sub_ofNat (start elapsed : Nat) :
    UInt32.ofNat (start + elapsed) - UInt32.ofNat start = UInt32.ofNat elapsed := by
  rw [UInt32.ofNat_add, UInt32.add_comm, UInt32.add_sub_cancel]

/-- **When a rounded difference is right**: exactly when the elapsed time is
below the period. -/
theorem mod_div_eq_div_iff {period unit : Nat} (hunit : 0 < unit) (hle : unit ≤ period)
    (elapsed : Nat) : elapsed % period / unit = elapsed / unit ↔ elapsed < period := by
  constructor
  · intro h
    by_contra hge
    -- a whole period is lost, and a period is worth at least one unit
    have hlost : elapsed % period + period ≤ elapsed := by
      have hdiv := Nat.div_add_mod elapsed period
      have hq : 1 ≤ elapsed / period := Nat.div_pos (Nat.not_lt.mp hge) (by omega)
      have := Nat.mul_le_mul_left period hq
      omega
    have hstep : (elapsed % period + unit) / unit ≤ elapsed / unit :=
      Nat.div_le_div_right (by omega)
    rw [Nat.add_div_right _ hunit, h] at hstep
    omega
  · intro h
    rw [Nat.mod_eq_of_lt h]

end Counter
