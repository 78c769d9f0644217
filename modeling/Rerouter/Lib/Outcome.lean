import Mathlib.Tactic.Common

/-!
# Computations that may fail

What is read off a computation in `Except` that succeeded: each of its steps did
(`Rerouter.bind_eq_ok`), and a loop over a list keeps what every one of its steps keeps
(`Rerouter.foldlM_ok_invariant`).
-/

namespace Rerouter

universe u v w

variable {ε : Type u} {α β σ : Type v} {γ : Type w}

/-- `Option::ok_or`. -/
def okOr (e : ε) : Option α → Except ε α
  | some a => .ok a
  | none => .error e

@[simp] theorem okOr_eq_ok {e : ε} {o : Option α} {a : α} : okOr e o = .ok a ↔ o = some a := by
  cases o <;> simp [okOr]

@[simp] theorem ok_bind {a : α} {f : α → Except ε β} : (Except.ok a >>= f) = f a := rfl

@[simp] theorem error_bind {e : ε} {f : α → Except ε β} : (Except.error e >>= f) = .error e := rfl

/-- A sequence of two computations succeeds when both do. -/
theorem bind_eq_ok {x : Except ε α} {f : α → Except ε β} {b : β} :
    (x >>= f) = .ok b ↔ ∃ a, x = .ok a ∧ f a = .ok b := by
  cases x <;> simp [bind, Except.bind]

/-- A computation fails when it does not succeed. -/
theorem exists_error_iff {x : Except ε α} : (∃ e, x = .error e) ↔ ¬∃ a, x = .ok a := by
  cases x <;> simp

/-- **A loop keeps what its steps keep**, as long as it does not fail. -/
theorem foldlM_ok_invariant {f : σ → γ → Except ε σ} {P : σ → Prop}
    (hstep : ∀ s a s', f s a = .ok s' → P s → P s') {l : List γ} {s s' : σ}
    (h : l.foldlM f s = .ok s') (hs : P s) : P s' := by
  induction l generalizing s with
  | nil =>
    cases h
    exact hs
  | cons a l ih =>
    rw [List.foldlM_cons] at h
    obtain ⟨t, ht, h⟩ := bind_eq_ok.mp h
    exact ih h (hstep s a t ht hs)

end Rerouter
