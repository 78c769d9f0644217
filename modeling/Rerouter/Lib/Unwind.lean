import Mathlib.Tactic.Common

/-!
# Unwinding a list of changes

A transaction made of steps that are undone one by one: the last one first, until nothing is
left or an attempt does not succeed. Every attempt may depend on all that happened before it,
so the events are handed on (`Rerouter.Unwind.unwind`).

However the attempts turn out, the changes fall into those that were undone and those that
were kept, and the attempts are the undone ones, latest first, and the last of the kept ones
(`Rerouter.Unwind.unwound_unwind`).
-/

namespace Rerouter

namespace Unwind

variable {α E : Type*}

/-- Undo changes, given with the latest first. The events, and the changes that are kept. -/
def unwind (attempt : List E → α → E) (ok : E → Bool) : List E → List α → List E × List α
  | log, [] => (log, [])
  | log, a :: earlier =>
    if ok (attempt log a) then unwind attempt ok (log ++ [attempt log a]) earlier
    else (log ++ [attempt log a], a :: earlier.reverse)

/-- What `attempts` undid of the changes, in reverse order, up to the first attempt that does
not succeed; `still` is the rest. -/
def Unwound (changed : List α) (attempts : List (α × Bool)) (still : List α) : Prop :=
  ∃ kept undone, changed = kept ++ undone ∧
    attempts = undone.reverse.map (·, true) ++ kept.getLast?.toList.map (·, false) ∧
    still.Perm kept

variable {changed still : List α} {attempts : List (α × Bool)}

/-- Nothing is kept exactly when every change was undone. -/
theorem Unwound.eq_nil_iff (h : Unwound changed attempts still) :
    still = [] ↔ attempts = changed.reverse.map (·, true) := by
  obtain ⟨kept, undone, rfl, rfl, hperm⟩ := h
  constructor
  · rintro rfl
    obtain rfl : kept = [] := List.nil_perm.mp hperm
    simp
  · intro h
    rcases List.eq_nil_or_concat kept with rfl | ⟨init, last, rfl⟩
    · exact List.perm_nil.mp hperm
    · exfalso
      have hlast : (last, false) ∈ (init.concat last ++ undone).reverse.map (·, true) := by
        rw [← h]
        simp
      simp at hlast

/-- Where something changed, something is attempted. -/
theorem Unwound.attempts_ne_nil (h : Unwound changed attempts still) (hne : changed ≠ []) :
    attempts ≠ [] := by
  obtain ⟨kept, undone, rfl, rfl, -⟩ := h
  rcases List.eq_nil_or_concat kept with rfl | ⟨init, last, rfl⟩
  · simpa using hne
  · simp

variable {attempt : List E → α → E} {ok : E → Bool} {report : E → Option (α × Bool)}

/-- The events of an unwinding: the attempts at the changes in the order they are given in, of
which all but the last succeeded. -/
theorem unwind_spec (hreport : ∀ log a, report (attempt log a) = some (a, ok (attempt log a)))
    (pending : List α) (log : List E) :
    ∃ undone kept events, pending = undone ++ kept ∧
      (unwind attempt ok log pending).1 = log ++ events ∧
      (∀ e ∈ events, ∃ past a, e = attempt past a) ∧
      (unwind attempt ok log pending).2.Perm kept ∧
      events.filterMap report = undone.map (·, true) ++ kept.head?.toList.map (·, false) := by
  induction pending generalizing log with
  | nil => exact ⟨[], [], [], rfl, by simp [unwind], by simp, by simp [unwind], rfl⟩
  | cons a earlier ih =>
    cases hok : ok (attempt log a) with
    | true =>
      obtain ⟨undone, kept, events, hpending, hlog, hevents, hkept, hattempts⟩ :=
        ih (log ++ [attempt log a])
      refine ⟨a :: undone, kept, attempt log a :: events, by rw [hpending]; rfl, ?_, ?_, ?_, ?_⟩
      · simp [unwind, hok, hlog]
      · intro e he
        rcases List.mem_cons.mp he with rfl | he
        · exact ⟨log, a, rfl⟩
        · exact hevents e he
      · simpa [unwind, hok] using hkept
      · simp [hattempts, hreport, hok]
    | false =>
      refine ⟨[], a :: earlier, [attempt log a], rfl, ?_, ?_, ?_, ?_⟩
      · simp [unwind, hok]
      · intro e he
        exact ⟨log, a, List.mem_singleton.mp he⟩
      · simp [unwind, hok]
      · simp [hreport, hok]

/-- **An unwinding undoes the changes in reverse order, up to the first attempt that does not
succeed**, and keeps the rest. -/
theorem unwound_unwind (hreport : ∀ log a, report (attempt log a) = some (a, ok (attempt log a)))
    (changed : List α) (log : List E) :
    ∃ events, (unwind attempt ok log changed.reverse).1 = log ++ events ∧
      (∀ e ∈ events, ∃ past a, e = attempt past a) ∧
      Unwound changed (events.filterMap report) (unwind attempt ok log changed.reverse).2 := by
  obtain ⟨undone, kept, events, hpending, hlog, hevents, hkept, hattempts⟩ :=
    unwind_spec hreport changed.reverse log
  refine ⟨events, hlog, hevents, kept.reverse, undone.reverse, ?_, ?_, ?_⟩
  · rw [← List.reverse_append, ← hpending, List.reverse_reverse]
  · rw [hattempts, List.reverse_reverse, List.getLast?_reverse]
  · exact hkept.trans kept.reverse_perm.symm

end Unwind

end Rerouter
