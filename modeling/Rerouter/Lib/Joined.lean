import Mathlib.Data.List.Basic
import Mathlib.Tactic.Common

/-!
# Lists that are joined

When two lists are joined with a separator between them, the whole tells the parts as soon as the
separator is in none of the first parts, or in none of the second ones, or where every element of
the first parts is of a kind that what follows does not begin with. And a list that is written
element by element is told by what is written, when the start of a text tells which element was
written first (`Rerouter.flatMap_injective_of_code`).
-/

namespace Rerouter

variable {α β : Type*} {a c c' : α} {l l' m m' : List α}

/-- **The first separator tells the parts.** -/
theorem append_cons_inj (hl : a ∉ l) (hl' : a ∉ l') (h : l ++ a :: m = l' ++ a :: m') :
    l = l' ∧ m = m' := by
  induction l generalizing l' with
  | nil =>
    cases l' with
    | nil => exact ⟨rfl, List.tail_eq_of_cons_eq h⟩
    | cons b l' => exact absurd (List.head_eq_of_cons_eq h) (List.ne_of_not_mem_cons hl')
  | cons b l ih =>
    cases l' with
    | nil => exact absurd (List.head_eq_of_cons_eq h).symm (List.ne_of_not_mem_cons hl)
    | cons b' l' =>
      obtain ⟨rfl, hrest⟩ := List.cons_eq_cons.mp h
      obtain ⟨rfl, rfl⟩ := ih (List.not_mem_of_not_mem_cons hl)
        (List.not_mem_of_not_mem_cons hl') hrest
      exact ⟨rfl, rfl⟩

/-- **So does the last one.** -/
theorem append_cons_inj_last (hm : a ∉ m) (hm' : a ∉ m') (h : l ++ a :: m = l' ++ a :: m') :
    l = l' ∧ m = m' := by
  have hreverse : m.reverse ++ a :: l.reverse = m'.reverse ++ a :: l'.reverse := by
    simpa using congrArg List.reverse h
  obtain ⟨hsecond, hfirst⟩ := append_cons_inj (List.mem_reverse.not.mpr hm)
    (List.mem_reverse.not.mpr hm') hreverse
  exact ⟨List.reverse_injective hfirst, List.reverse_injective hsecond⟩

/-- **Where the elements of the first parts are of one kind**, they end where another kind
begins. -/
theorem append_cons_inj_of_all {p : α → Bool} (hl : ∀ x ∈ l, p x = true)
    (hl' : ∀ x ∈ l', p x = true)
    (hc : p c = false) (hc' : p c' = false) (h : l ++ c :: m = l' ++ c' :: m') :
    l = l' ∧ c = c' ∧ m = m' := by
  have htake : ∀ {l : List α} {c : α} {m : List α}, (∀ x ∈ l, p x = true) → p c = false →
      (l ++ c :: m).takeWhile p = l := by
    intro l c m hl hc
    rw [List.takeWhile_append_of_pos hl, List.takeWhile_cons, hc]
    exact List.append_nil l
  have hfirst : l = l' := by rw [← htake hl hc (m := m), h, htake hl' hc']
  rw [hfirst] at h
  obtain ⟨rfl, rfl⟩ := List.cons_eq_cons.mp (List.append_cancel_left h)
  exact ⟨hfirst, rfl, rfl⟩

/-- **A list that is written element by element** is told by what is written. -/
theorem flatMap_injective_of_code {f : α → List β} (hne : ∀ x, f x ≠ [])
    (hcode : ∀ x y r s, f x ++ r = f y ++ s → x = y) (h : l.flatMap f = l'.flatMap f) : l = l' := by
  induction l generalizing l' with
  | nil =>
    cases l' with
    | nil => rfl
    | cons y l' => exact absurd (List.append_eq_nil_iff.mp h.symm).1 (hne y)
  | cons x l ih =>
    cases l' with
    | nil => exact absurd (List.append_eq_nil_iff.mp h).1 (hne x)
    | cons y l' =>
      rw [List.flatMap_cons, List.flatMap_cons] at h
      obtain rfl := hcode x y _ _ h
      rw [ih (List.append_cancel_left h)]

end Rerouter
