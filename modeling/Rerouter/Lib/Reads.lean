import Rerouter.Lib.Outcome

/-!
# Programs that read

A program that decides something by asking a device questions, one after another, each depending
on the answers before it: a tree with a question at every inner node (`Rerouter.Reads`). A failed
question fails the program. The program says nothing of what is asked: against a fixed table of
answers it has a result (`Rerouter.Reads.answer`), and against a device whose state moves with every
question it has a result and leaves a state (`Rerouter.Reads.play`).

The result of a sequence is read off the results of its parts (`Rerouter.Reads.answer_bind`). A law
of every question is a law of the whole program (`Rerouter.Reads.play_invariant`).
-/

namespace Rerouter

universe u

variable {Q A E : Type u}

/-- A program that asks questions of type `Q`, and gets answers of type `A` or fails. -/
inductive Reads (Q A E α : Type u) where
  | done (result : Except E α)
  | ask (question : Q) (next : A → Reads Q A E α)

namespace Reads

variable {α β : Type u}

/-- One program after another. -/
def bind : Reads Q A E α → (α → Reads Q A E β) → Reads Q A E β
  | .done (.ok a), f => f a
  | .done (.error e), _ => .done (.error e)
  | .ask q next, f => .ask q fun a => bind (next a) f

instance : Monad (Reads Q A E) where
  pure a := .done (.ok a)
  bind := bind

/-- One question. -/
def question (q : Q) : Reads Q A E A := .ask q fun a => .done (.ok a)

/-- No question. -/
def result (r : Except E α) : Reads Q A E α := .done r

/-- The answers to several questions, in their order. -/
def questions : List Q → Reads Q A E (List A)
  | [] => pure []
  | q :: qs => do
    let a ← question q
    let as ← questions qs
    pure (a :: as)

/-! ### Against a table of answers -/

/-- What a program makes of a table of answers. -/
def answer (table : Q → Except E A) : Reads Q A E α → Except E α
  | .done r => r
  | .ask q next =>
    match table q with
    | .ok a => answer table (next a)
    | .error e => .error e

variable {table : Q → Except E A} {program : Reads Q A E α} {f : α → Reads Q A E β}

@[simp] theorem answer_pure (a : α) : answer table (pure a : Reads Q A E α) = .ok a := rfl

@[simp] theorem answer_result (r : Except E α) : answer table (result r) = r := rfl

@[simp] theorem answer_question (q : Q) : answer table (question q) = table q := by
  rw [question, answer]
  cases table q <;> rfl

/-- **The result of a sequence is the sequence of the results.** -/
@[simp] theorem answer_bind :
    answer table (program >>= f) = answer table program >>= fun a => answer table (f a) := by
  change answer table (bind program f) = _
  induction program with
  | done r => cases r <;> rfl
  | ask q next ih =>
    rw [bind, answer, answer]
    cases table q with
    | ok a => exact ih a
    | error e => rfl

/-! ### Against a device -/

variable {σ : Type*} {step : σ → Q → Except E A × σ} {s : σ}

/-- What a program makes of a device, and where it leaves it. -/
def play (step : σ → Q → Except E A × σ) : Reads Q A E α → σ → Except E α × σ
  | .done r, s => (r, s)
  | .ask q next, s =>
    match step s q with
    | (.ok a, s') => play step (next a) s'
    | (.error e, s') => (.error e, s')

/-- **What every question keeps, a program keeps.** -/
theorem play_invariant {P : σ → Prop} (hstep : ∀ s q, P s → P (step s q).2)
    (program : Reads Q A E α) (hs : P s) : P (play step program s).2 := by
  induction program generalizing s with
  | done r => exact hs
  | ask q next ih =>
    have hq := hstep s q hs
    rw [play]
    cases hs' : step s q with
    | mk r s' =>
      rw [hs'] at hq
      cases r with
      | ok a => exact ih a hq
      | error e => exact hq

end Reads

end Rerouter
