import Mathlib.Data.List.Sort
import Mathlib.Tactic.Common

/-!
# The first of the heaviest that will do

Of a list, the heaviest few are looked at, the heaviest first, and the first one that will do is
taken. Nothing that would do is heavier than what is taken (`Rerouter.Heaviest.le_of_first`), even
among what is not looked at. Where nothing is taken, something that would do is not looked at, and
the whole list of what is looked at is at least as heavy (`Rerouter.Heaviest.crowd_of_first`).
-/

namespace Rerouter

namespace Heaviest

variable {α β : Type*} {weight : α → ℕ} {limit : ℕ} {does : α → Option β} {l : List α} {a : α}
  {b : β}

/-- A list, the heaviest first. -/
def ranked (weight : α → ℕ) (l : List α) : List α :=
  l.insertionSort fun a b => weight b ≤ weight a

/-- The heaviest few. -/
def heaviest (weight : α → ℕ) (limit : ℕ) (l : List α) : List α := (ranked weight l).take limit

/-- The first of them that will do. -/
def first (weight : α → ℕ) (limit : ℕ) (does : α → Option β) (l : List α) : Option β :=
  (heaviest weight limit l).findSome? does

theorem perm_ranked : (ranked weight l).Perm l := List.perm_insertionSort _ l

theorem pairwise_ranked : (ranked weight l).Pairwise fun a b => weight b ≤ weight a :=
  List.pairwise_insertionSort _ l

theorem mem_of_mem_heaviest (h : a ∈ heaviest weight limit l) : a ∈ l :=
  perm_ranked.mem_iff.mp (List.mem_of_mem_take h)

/-- What is not among the heaviest few has them all in front of it. -/
theorem le_of_not_mem_heaviest (ha : a ∈ l) (hout : a ∉ heaviest weight limit l) :
    (heaviest weight limit l).length = limit ∧
      ∀ c ∈ heaviest weight limit l, weight a ≤ weight c := by
  have hback : a ∈ (ranked weight l).drop limit := by
    rcases List.mem_append.mp ((List.take_append_drop limit (ranked weight l)).symm ▸
      perm_ranked.mem_iff.mpr ha) with h | h
    · exact absurd h hout
    · exact h
  have hlong : limit < (ranked weight l).length := by
    have := List.length_pos_of_mem hback
    rw [List.length_drop] at this
    omega
  refine ⟨List.length_take_of_le hlong.le, fun c hc => ?_⟩
  have hsorted : (ranked weight l).Pairwise fun a b => weight b ≤ weight a := pairwise_ranked
  rw [← List.take_append_drop limit (ranked weight l), List.pairwise_append] at hsorted
  exact hsorted.2.2 c hc a hback

/-- **Nothing that will do is heavier** than what is taken. -/
theorem le_of_first (h : first weight limit does l = some b) :
    ∃ a ∈ l, does a = some b ∧ ∀ c ∈ l, (does c).isSome → weight c ≤ weight a := by
  obtain ⟨front, a, back, hsplit, hdoes, hfront⟩ := List.findSome?_eq_some_iff.mp h
  have hmem : a ∈ heaviest weight limit l := by
    rw [hsplit]
    exact List.mem_append_right front List.mem_cons_self
  refine ⟨a, mem_of_mem_heaviest hmem, hdoes, fun c hc hsome => ?_⟩
  by_cases hlisted : c ∈ heaviest weight limit l
  · have hsorted : (heaviest weight limit l).Pairwise fun a b => weight b ≤ weight a :=
      pairwise_ranked.sublist (List.take_sublist limit _)
    rw [hsplit] at hlisted hsorted
    -- In front of what is taken nothing will do, and behind it nothing is heavier.
    rcases List.mem_append.mp hlisted with hin | hin
    · rw [hfront c hin] at hsome
      cases hsome
    · rcases List.mem_cons.mp hin with rfl | hin
      · exact le_rfl
      · exact (List.pairwise_cons.mp (List.pairwise_append.mp hsorted).2.1).1 c hin
  · exact (le_of_not_mem_heaviest hc hlisted).2 a hmem

/-- **Where nothing is taken**, as many as are looked at will not do, and are at least as heavy as
anything that would. -/
theorem crowd_of_first (h : first weight limit does l = none) (ha : a ∈ l)
    (hdoes : (does a).isSome) :
    limit ≤ (l.filter fun c => (does c).isNone && decide (weight a ≤ weight c)).length := by
  have hnone := List.findSome?_eq_none_iff.mp h
  have hout : a ∉ heaviest weight limit l := by
    intro hmem
    rw [hnone a hmem] at hdoes
    cases hdoes
  obtain ⟨hlength, hheavier⟩ := le_of_not_mem_heaviest ha hout
  have hall : (heaviest weight limit l).filter
      (fun c => (does c).isNone && decide (weight a ≤ weight c)) = heaviest weight limit l := by
    rw [List.filter_eq_self]
    intro c hc
    rw [hnone c hc, decide_eq_true (hheavier c hc)]
    rfl
  have hsub := (List.take_sublist limit (ranked weight l)).filter
    fun c => (does c).isNone && decide (weight a ≤ weight c)
  calc limit = (heaviest weight limit l).length := hlength.symm
    _ ≤ ((ranked weight l).filter
        fun c => (does c).isNone && decide (weight a ≤ weight c)).length := by
      rw [← hall]
      exact hsub.length_le
    _ = _ := (perm_ranked.filter _).length_eq

end Heaviest

end Rerouter
