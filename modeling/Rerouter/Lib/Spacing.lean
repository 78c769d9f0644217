import Mathlib.Data.List.Basic
import Mathlib.Tactic.Common

/-!
# Events kept apart

A sequence of times of which the first `n` may lie anywhere, and every later one a gap behind all
that came before it (`Rerouter.Spacing.Spaced`). No window as long as the gap has more than `n` of
them (`Rerouter.Spacing.Spaced.countP_le`): if it has a later one, it has nothing before that.
-/

namespace Rerouter

namespace Spacing

/-- From the `n`-th on, a time is a gap behind those before it. -/
inductive Spaced (n gap : ℕ) : List ℕ → Prop
  | nil : Spaced n gap []
  | snoc {l : List ℕ} {t : ℕ} : Spaced n gap l → (n ≤ l.length → ∀ x ∈ l, x + gap ≤ t) →
      Spaced n gap (l ++ [t])

/-- Whether a time is in the window that begins at `a`. -/
def inWindow (gap a t : ℕ) : Bool := decide (a ≤ t ∧ t < a + gap)

variable {n gap : ℕ} {l : List ℕ}

/-- **A window holds no more than `n` of them.** -/
theorem Spaced.countP_le (h : Spaced n gap l) (hn : 0 < n) (a : ℕ) :
    l.countP (inWindow gap a) ≤ n := by
  induction h with
  | nil => exact Nat.zero_le n
  | @snoc l t hl hgap ih =>
    rw [List.countP_append, List.countP_singleton]
    by_cases hin : inWindow gap a t = true
    · rw [if_pos hin]
      by_cases hlen : n ≤ l.length
      · -- What came before it is before the window.
        have hnone : l.countP (inWindow gap a) = 0 := by
          rw [List.countP_eq_zero]
          intro x hx hxin
          have hapart := hgap hlen x hx
          simp only [inWindow, decide_eq_true_eq] at hin hxin
          omega
        omega
      · have hle := List.countP_le_length (p := inWindow gap a) (l := l)
        omega
    · rw [if_neg hin]
      exact ih

end Spacing

end Rerouter
