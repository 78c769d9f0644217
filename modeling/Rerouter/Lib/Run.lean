import Mathlib.Data.List.Induction
import Mathlib.Tactic.Common

/-!
# Runs of a step function

A system is a state and a function that says what one event does to it; an event that is
not enabled leaves the state as it is. A run is a list of events, in any order and of any
length. What every step keeps, every run keeps (`Rerouter.Run.invariant`); and where a
step keeps it only under a condition, a run whose steps all meet the condition does
(`Rerouter.Run.invariant_of_meets`).
-/

namespace Rerouter

namespace Run

variable {S E : Type*} (step : S → E → S)

/-- The state a run ends in. -/
def run (s : S) (es : List E) : S := es.foldl step s

/-- Every step of a run meets a condition on the event and the state it happens in. -/
def Meets (C : S → E → Prop) : S → List E → Prop
  | _, [] => True
  | s, e :: es => C s e ∧ Meets C (step s e) es

variable {step}

instance decidableMeets {C : S → E → Prop} [∀ s e, Decidable (C s e)] :
    (s : S) → (es : List E) → Decidable (Meets step C s es)
  | _, [] => isTrue trivial
  | s, e :: es =>
    have : Decidable (Meets step C (step s e) es) := decidableMeets (step s e) es
    inferInstanceAs (Decidable (C s e ∧ Meets step C (step s e) es))

@[simp] theorem run_nil (s : S) : run step s [] = s := rfl

@[simp] theorem run_cons (s : S) (e : E) (es : List E) :
    run step s (e :: es) = run step (step s e) es := rfl

theorem run_append (s : S) (es fs : List E) :
    run step s (es ++ fs) = run step (run step s es) fs := List.foldl_append

/-- **The invariant rule**: what every step that meets the condition keeps, a run of such
steps keeps. -/
theorem invariant_of_meets {I : S → Prop} {C : S → E → Prop}
    (hstep : ∀ s e, I s → C s e → I (step s e)) {s : S} {es : List E} (hs : I s)
    (hC : Meets step C s es) : I (run step s es) := by
  induction es generalizing s with
  | nil => exact hs
  | cons e es ih => exact ih (hstep s e hs hC.1) hC.2

/-- **The invariant rule**, where every step keeps the invariant. -/
theorem invariant {I : S → Prop} (hstep : ∀ s e, I s → I (step s e)) {s : S} (es : List E)
    (hs : I s) : I (run step s es) := by
  induction es generalizing s with
  | nil => exact hs
  | cons e es ih => exact ih (hstep s e hs)

/-- **Two conditions on the steps of a run** that are the same wherever the invariant holds, which
one of them keeps, are the same on the run. -/
theorem meets_congr {I : S → Prop} {C D : S → E → Prop} (hiff : ∀ s e, I s → (C s e ↔ D s e))
    (hstep : ∀ s e, I s → D s e → I (step s e)) {s : S} {es : List E} (hs : I s) :
    Meets step C s es ↔ Meets step D s es := by
  induction es generalizing s with
  | nil => exact Iff.rfl
  | cons e es ih =>
    constructor
    · rintro ⟨hc, hrest⟩
      have hd := (hiff s e hs).mp hc
      exact ⟨hd, (ih (hstep s e hs hd)).mp hrest⟩
    · rintro ⟨hd, hrest⟩
      exact ⟨(hiff s e hs).mpr hd, (ih (hstep s e hs hd)).mpr hrest⟩

/-- What every step of a fallible fold keeps holds of its result. -/
theorem foldlM_invariant {f : S → E → Option S} {I : S → Prop} {es : List E}
    (hstep : ∀ s, ∀ e ∈ es, ∀ s', I s → f s e = some s' → I s') {s s' : S} (hs : I s)
    (h : es.foldlM f s = some s') : I s' := by
  induction es generalizing s with
  | nil =>
    obtain rfl : s = s' := Option.some.inj h
    exact hs
  | cons e es ih =>
    rw [List.foldlM_cons] at h
    obtain ⟨t, ht, hrest⟩ := Option.bind_eq_some_iff.mp h
    exact ih (fun s e he => hstep s e (List.mem_cons_of_mem _ he))
      (hstep s e (by simp) t hs ht) hrest

end Run

end Rerouter
