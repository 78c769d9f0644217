import Mathlib.Algebra.Group.Nat.Defs
import Mathlib.Tactic.Common

/-!
# Counters that wrap around

A counter of `w` bits shows a number that keeps growing, modulo `2 ^ w`: the *epoch* of the
number is how often the counter has wrapped around. Two values shown in one epoch compare as the
numbers do (`Rerouter.Wrap.shown_le_of_epoch_eq`); between two epochs that holds no more, and a
value far below an earlier one may be a later one (`Rerouter.Wrap.shown_lt_of_epoch_lt`).
-/

namespace Rerouter.Wrap

/-- What a counter of `w` bits shows. -/
def shown (w n : ℕ) : ℕ := n % 2 ^ w

/-- How often the counter has wrapped around. -/
def epoch (w n : ℕ) : ℕ := n / 2 ^ w

/-- `a.wrapping_sub(b)`. -/
def wrappingSub (w a b : ℕ) : ℕ := (a + (2 ^ w - b % 2 ^ w)) % 2 ^ w

variable {w a b d : ℕ}

theorem shown_lt (w n : ℕ) : shown w n < 2 ^ w := Nat.mod_lt _ (Nat.two_pow_pos w)

theorem epoch_mul_add_shown (w n : ℕ) : 2 ^ w * epoch w n + shown w n = n :=
  Nat.div_add_mod n (2 ^ w)

/-- In one epoch a counter compares as the numbers do. -/
theorem shown_le_of_epoch_eq (hepoch : epoch w a = epoch w b) (h : a ≤ b + d) :
    shown w a ≤ shown w b + d := by
  have ha := epoch_mul_add_shown w a
  have hb := epoch_mul_add_shown w b
  rw [hepoch] at ha
  omega

/-- A number a little above another one in an earlier epoch has just wrapped around. -/
theorem shown_lt_of_epoch_lt (hepoch : epoch w b < epoch w a) (h : a ≤ b + d) : shown w a < d := by
  have ha := epoch_mul_add_shown w a
  have hb := epoch_mul_add_shown w b
  have hlt := shown_lt w b
  have hstep : 2 ^ w * (epoch w b + 1) ≤ 2 ^ w * epoch w a := Nat.mul_le_mul_left _ hepoch
  rw [Nat.mul_add, Nat.mul_one] at hstep
  omega

end Rerouter.Wrap
