import Mathlib.Data.List.Sort
import Mathlib.Data.List.TakeWhile
import Mathlib.Tactic.Common

/-!
# Who stands ahead of whom

In a queue one element stands *ahead* of another when it is there and the other is not before it
(`Rerouter.Ahead`). Joining the queue at its end changes nothing about that, and serving its front
serves the one ahead first. Of a sorted list of candidates the first few are admitted: an element
with a smaller key is then admitted with every other that is, and ahead of it
(`Rerouter.ahead_take`).
-/

namespace Rerouter

variable {α β κ : Type*} [DecidableEq α] [DecidableEq β] {x y a : α} {l m : List α}

/-- An element is there, and another one is not before it. -/
def Ahead (x y : α) (l : List α) : Prop := x ∈ l ∧ y ∉ l.takeWhile (· ≠ x)

theorem ahead_cons : Ahead x y (a :: l) ↔ a = x ∨ a ≠ x ∧ a ≠ y ∧ Ahead x y l := by
  by_cases hax : a = x
  · subst hax
    simp [Ahead]
  · have hxa : x ≠ a := fun h => hax h.symm
    simp only [Ahead, List.mem_cons, hxa, false_or, List.takeWhile_cons, ne_eq, hax,
      not_false_eq_true, decide_true, if_true, not_or, true_and]
    constructor
    · rintro ⟨hmem, hya, hrest⟩
      exact ⟨fun h => hya h.symm, hmem, hrest⟩
    · rintro ⟨hay, hmem, hrest⟩
      exact ⟨hmem, fun h => hay h.symm, hrest⟩

theorem not_ahead_nil : ¬Ahead x y ([] : List α) := fun h => List.not_mem_nil h.1

/-- Those who join a queue stand behind. -/
theorem Ahead.append (h : Ahead x y l) : Ahead x y (l ++ m) := by
  induction l with
  | nil => exact absurd h not_ahead_nil
  | cons a l ih =>
    rw [List.cons_append]
    rcases ahead_cons.mp h with rfl | ⟨hx, hy, hrest⟩
    · exact ahead_cons.mpr (Or.inl rfl)
    · exact ahead_cons.mpr (Or.inr ⟨hx, hy, ih hrest⟩)

/-- The order of those who join is kept. -/
theorem Ahead.append_left (hy : y ∉ l) (h : Ahead x y m) : Ahead x y (l ++ m) := by
  induction l with
  | nil => exact h
  | cons a l ih =>
    obtain ⟨hya, hrest⟩ := not_or.mp (fun hmem => hy (List.mem_cons.mpr hmem))
    rw [List.cons_append, ahead_cons]
    by_cases hax : a = x
    · exact Or.inl hax
    · exact Or.inr ⟨hax, fun h => hya h.symm, ih hrest⟩

/-- The order is kept by names, where each of the two has its own. -/
theorem Ahead.map {f : α → β} (hx : ∀ a ∈ l, f a = f x → a = x) (hy : ∀ a ∈ l, f a = f y → a = y)
    (h : Ahead x y l) :
    Ahead (f x) (f y) (l.map f) := by
  induction l with
  | nil => exact absurd h not_ahead_nil
  | cons a l ih =>
    rw [List.map_cons, ahead_cons]
    rcases ahead_cons.mp h with rfl | ⟨hax, hay, hrest⟩
    · exact Or.inl rfl
    · refine Or.inr ⟨fun heq => hax (hx a List.mem_cons_self heq),
        fun heq => hay (hy a List.mem_cons_self heq), ?_⟩
      exact ih (fun b hb => hx b (List.mem_cons_of_mem a hb))
        (fun b hb => hy b (List.mem_cons_of_mem a hb)) hrest

/-- Where one is there and the other is not, one stands ahead. -/
theorem ahead_of_not_mem (hx : x ∈ l) (hy : y ∉ l) : Ahead x y l :=
  ⟨hx, fun h => hy (List.takeWhile_subset _ h)⟩

/-- **Of a sorted list, the smaller key is admitted first.** -/
theorem ahead_take [LinearOrder κ] {key : α → κ} {n : ℕ}
    (hsorted : l.Pairwise fun a b => key a ≤ key b) (hx : x ∈ l)
    (hless : key x < key y) (hy : y ∈ l.take n) : Ahead x y (l.take n) := by
  have hxmem : x ∈ l.take n := by
    rw [← List.take_append_drop n l] at hx hsorted
    refine (List.mem_append.mp hx).resolve_right fun hdrop => ?_
    exact absurd ((List.pairwise_append.mp hsorted).2.2 y hy x hdrop) (not_le.mpr hless)
  refine ⟨hxmem, fun hbefore => ?_⟩
  -- what stands before the first `x` has no greater key
  have hsplit : (l.take n).takeWhile (· ≠ x) ++ (l.take n).dropWhile (· ≠ x) = l.take n :=
    List.takeWhile_append_dropWhile
  have hrest : x ∈ (l.take n).dropWhile (· ≠ x) := by
    have hmem := hxmem
    rw [← hsplit] at hmem
    refine (List.mem_append.mp hmem).resolve_left fun hbad => ?_
    exact absurd (List.mem_takeWhile_imp hbad) (by simp)
  have hpair := hsorted.sublist (List.take_sublist n l)
  rw [← hsplit] at hpair
  exact absurd ((List.pairwise_append.mp hpair).2.2 y hbefore x hrest) (not_le.mpr hless)

end Rerouter
