import Mathlib.Algebra.Order.Group.Unbundled.Int
import Mathlib.Tactic.Common

/-!
# Times in whole units

A clock is read in small steps, and what is stored of it, or asked of the difference of two times,
is a number of larger units: a column that holds whole seconds, or a duration in seconds.
`Rerouter.Whole.cut` drops the part of a time that is no whole unit, `Rerouter.Whole.Rounding.store`
is what a column makes of a time that it is given, and `Rerouter.Whole.elapsed` counts the units
between two times: that it counts as many says that the time has moved by as much
(`Rerouter.Whole.le_elapsed_iff`).
-/

namespace Rerouter

namespace Whole

/-- A second, of a clock that counts nanoseconds. -/
def second : ℕ := 1000000000

theorem second_pos : 0 < second := by decide

variable {u t t' now n : ℕ}

/-! ### Cutting -/

/-- The whole units of a time. -/
def cut (u t : ℕ) : ℕ := t / u * u

theorem cut_mono (h : t ≤ t') : cut u t ≤ cut u t' :=
  Nat.mul_le_mul_right u (Nat.div_le_div_right h)

/-! ### Storing -/

/-- What a column that holds whole units makes of a time that has a part more. -/
inductive Rounding where
  /-- It drops the part. -/
  | down
  /-- It takes the whole unit that is nearest, and the later one of two. -/
  | nearest
deriving DecidableEq

/-- The time that is stored. -/
def Rounding.store (r : Rounding) (u t : ℕ) : ℕ :=
  match r with
  | .down => cut u t
  | .nearest => cut u (t + u / 2)

/-! ### Counting -/

/-- The whole units from one time to another: a part of a unit is dropped, on either side of
zero. -/
def elapsed (u now t : ℕ) : ℤ := ((now : ℤ) - t).tdiv u

/-- **A number of units has passed** when the time has moved by as much. -/
theorem le_elapsed_iff (hu : 0 < u) (hn : 0 < n) : (n : ℤ) ≤ elapsed u now t ↔ t + n * u ≤ now := by
  have hu' : (0 : ℤ) < u := Int.natCast_pos.mpr hu
  have hscale : (n : ℤ) ≤ elapsed u now t ↔ (n : ℤ) * u ≤ (now : ℤ) - t := by
    rcases le_or_gt (0 : ℤ) ((now : ℤ) - t) with hle | hlt
    · rw [elapsed, Int.tdiv_eq_ediv_of_nonneg hle, Int.le_ediv_iff_mul_le hu']
    · have hnonpos : elapsed u now t ≤ 0 := by
        rw [elapsed, ← Int.neg_neg ((now : ℤ) - t), Int.neg_tdiv]
        have := Int.tdiv_nonneg (Int.neg_nonneg.mpr hlt.le) hu'.le
        omega
      have hpos : (0 : ℤ) < (n : ℤ) * u := Int.mul_pos (Int.natCast_pos.mpr hn) hu'
      constructor
      · omega
      · omega
  rw [hscale]
  have hcast : ((n * u : ℕ) : ℤ) = (n : ℤ) * u := Int.natCast_mul n u
  omega

end Whole

end Rerouter
