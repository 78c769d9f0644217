import Mathlib.Logic.Relation
import Mathlib.Order.Basic
import Mathlib.Tactic.Common

/-!
# Locks taken in order

Parties hold locks and wait for locks. If no party ever waits for a lock that is not above all
those it holds, no parties wait for one another in a circle (`Rerouter.LockOrder.no_cycle`): along
a chain of waiting parties the locks ascend.
-/

namespace Rerouter.LockOrder

variable {P L : Type*} [Preorder L] {wants holds : P → L → Prop}

/-- One party waits for a lock that another one holds. -/
def WaitsFor (wants holds : P → L → Prop) (p q : P) : Prop := ∃ l, wants p l ∧ holds q l

/-- Along a chain of waiting parties the locks ascend. -/
theorem exists_le_of_transGen (h : ∀ p l m, wants p l → holds p m → m < l) {p q : P}
    (hchain : Relation.TransGen (WaitsFor wants holds) p q) : ∃ l m, wants p l ∧
      holds q m ∧ l ≤ m := by
  induction hchain with
  | single hstep =>
    obtain ⟨l, hwants, hholds⟩ := hstep
    exact ⟨l, l, hwants, hholds, le_rfl⟩
  | tail _ hstep ih =>
    obtain ⟨l, m, hwants, hholds, hle⟩ := ih
    obtain ⟨l', hwants', hholds'⟩ := hstep
    exact ⟨l, l', hwants, hholds', hle.trans (h _ _ _ hwants' hholds).le⟩

/-- **Parties that take their locks in order do not wait in a circle.** -/
theorem no_cycle (h : ∀ p l m, wants p l → holds p m → m < l) (p : P) :
    ¬ Relation.TransGen (WaitsFor wants holds) p p := by
  intro hcycle
  obtain ⟨l, m, hwants, hholds, hle⟩ := exists_le_of_transGen h hcycle
  exact absurd (h p l m hwants hholds) (not_lt_of_ge hle)

end Rerouter.LockOrder
