import Mathlib.Tactic.Common

/-!
# Checks in a world that others change

Somebody makes a list of checks one by one, while the world goes on. When the last is made, the
first may be out of date: what `Rerouter.Checklist.Passed` says is that it is not. It says of the
checks that are made, which are those of the whole list that are not left, that what they found
*still* holds.

| Lemma | Occasion |
|---|---|
| `passed_all` | nothing is checked yet |
| `Passed.pass` | one more check is made |
| `Passed.mono` | the world goes on, and keeps what a check may have found |
| `Passed.all` | nothing is left |

It does not matter in which order the checks stand, nor whether one stands twice.
-/

namespace Rerouter

namespace Checklist

variable {W C : Type*}

/-- What the checks that are not left have found holds. -/
def Passed (holds : W → C → Prop) (checks left : List C) (w : W) : Prop :=
  ∀ c ∈ checks, c ∉ left → holds w c

variable {holds : W → C → Prop} {checks left : List C} {w w' : W} {c : C}

theorem passed_all (w : W) : Passed holds checks checks w := fun _ hc hleft => absurd hc hleft

/-- **One check**, of the world as it is. -/
theorem Passed.pass (h : Passed holds checks (c :: left) w) (hc : holds w c) :
    Passed holds checks left w := by
  intro d hd hleft
  rcases eq_or_ne d c with rfl | hne
  · exact hc
  · exact h d hd (List.not_mem_cons_of_ne_of_not_mem hne hleft)

theorem Passed.mono (h : Passed holds checks left w)
    (hkeep : ∀ c ∈ checks, holds w c → holds w' c) :
    Passed holds checks left w' := fun c hc hleft => hkeep c hc (h c hc hleft)

theorem Passed.all (h : Passed holds checks [] w) : ∀ c ∈ checks, holds w c :=
  fun c hc => h c hc List.not_mem_nil

end Checklist

end Rerouter
