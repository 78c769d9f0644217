import Mathlib.Data.List.TakeWhile
import Mathlib.Tactic.Common

/-!
# The sections of a sequence

A sequence some of whose items are headings falls into a preamble, in which there is no heading,
and its sections: a heading and what stands between it and the next one. A reader that keeps the
last heading as its state is compared with this (`Rerouter.Sections.eq_append_flatMap`): it has done
its work if it treats every section as a whole.
-/

namespace Rerouter

namespace Sections

variable {A : Type*} (heading : A → Bool)

/-- What stands in front of the first heading. -/
def preamble (l : List A) : List A := l.takeWhile fun a => !heading a

/-- Each heading, with what stands behind it up to the next one. -/
def sections : List A → List (A × List A)
  | [] => []
  | a :: l => if heading a then (a, preamble heading l) :: sections l else sections l

variable {heading} {l : List A} {a : A} {s : A × List A}

theorem not_heading_of_mem_preamble (h : a ∈ preamble heading l) : heading a = false := by
  simpa using List.mem_takeWhile_imp h

/-- **A sequence is its preamble and its sections.** -/
theorem eq_append_flatMap (l : List A) :
    preamble heading l ++ (sections heading l).flatMap (fun s => s.1 :: s.2) = l := by
  induction l with
  | nil => rfl
  | cons a l ih =>
    cases ha : heading a with
    | true =>
      have hnone : preamble heading (a :: l) = [] := List.takeWhile_cons_of_neg (by simp [ha])
      rw [hnone, sections, if_pos ha, List.flatMap_cons, List.nil_append, List.cons_append, ih]
    | false =>
      have hcons : preamble heading (a :: l) = a :: preamble heading l :=
        List.takeWhile_cons_of_pos (by simp [ha])
      rw [hcons, sections, ha, if_neg Bool.false_ne_true, List.cons_append, ih]

/-- A section starts with a heading, and has no other. -/
theorem of_mem_sections (h : s ∈ sections heading l) :
    heading s.1 = true ∧ s.1 ∈ l ∧ ∀ b ∈ s.2, heading b = false := by
  induction l with
  | nil => exact absurd h List.not_mem_nil
  | cons a l ih =>
    rw [sections] at h
    split at h
    · rename_i ha
      rcases List.mem_cons.mp h with rfl | h
      · exact ⟨ha, List.mem_cons_self, fun b hb => not_heading_of_mem_preamble hb⟩
      · obtain ⟨hhead, hmem, hbody⟩ := ih h
        exact ⟨hhead, List.mem_cons_of_mem _ hmem, hbody⟩
    · obtain ⟨hhead, hmem, hbody⟩ := ih h
      exact ⟨hhead, List.mem_cons_of_mem _ hmem, hbody⟩

end Sections

end Rerouter
