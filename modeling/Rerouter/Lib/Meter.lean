import Mathlib.Data.Nat.Notation
import Mathlib.Tactic.Common

/-!
# Cumulative counters read with gaps

A meter counts up and is read from time to time. A reading may be missing, and a meter that is
replaced or runs over starts from a smaller number. Readings are listed with the newest in front.

What a meter has gone up by since it was last read (`Rerouter.Meter.increase`), summed over all
readings, is what it shows now, less what it showed first, and plus what it was set back by in
between (`Rerouter.Meter.first_add_total_increase`). No gap adds or loses anything.
-/

namespace Rerouter

namespace Meter

/-- The newest reading there is. -/
def last : List (Option ℕ) → Option ℕ
  | [] => none
  | r :: earlier => r.or (last earlier)

/-- The oldest. -/
def first : List (Option ℕ) → Option ℕ
  | [] => none
  | r :: earlier => (first earlier).or r

/-- What the meter went up by. -/
def increase (before now : Option ℕ) : ℕ :=
  match before, now with
  | some p, some c => c - p
  | _, _ => 0

/-- What it was set back by. -/
def decrease (before now : Option ℕ) : ℕ :=
  match before, now with
  | some p, some c => p - c
  | _, _ => 0

/-- The sum of a difference over all readings, each with the last one there was before it. -/
def total (difference : Option ℕ → Option ℕ → ℕ) : List (Option ℕ) → ℕ
  | [] => 0
  | r :: earlier => difference (last earlier) r + total difference earlier

/-- A meter that was read has a first reading. -/
theorem isSome_first (l : List (Option ℕ)) : (first l).isSome = (last l).isSome := by
  induction l with
  | nil => rfl
  | cons r earlier ih => rw [first, last, Option.isSome_or, Option.isSome_or, ih, Bool.or_comm]

/-- One that was not has not moved. -/
theorem total_of_last_eq_none {difference : Option ℕ → Option ℕ → ℕ}
    (hnone : ∀ before, difference before none = 0) {l : List (Option ℕ)} (h : last l = none) :
    total difference l = 0 := by
  induction l with
  | nil => rfl
  | cons r earlier ih =>
    obtain ⟨rfl, hearlier⟩ := Option.or_eq_none_iff.mp h
    rw [total, hnone, ih hearlier]

/-- **What the increases sum up to**, against the first reading and the last. -/
theorem first_add_total_increase {l : List (Option ℕ)} {a b : ℕ} (ha : first l = some a)
    (hb : last l = some b) : a + total increase l = b + total decrease l := by
  induction l generalizing a b with
  | nil => cases ha
  | cons r earlier ih =>
    cases r with
    | none =>
      rw [first, Option.or_none] at ha
      have hsum := ih ha hb
      have hup : increase (last earlier) none = 0 := by cases last earlier <;> rfl
      have hdown : decrease (last earlier) none = 0 := by cases last earlier <;> rfl
      rw [total, total, hup, hdown]
      omega
    | some c =>
      obtain rfl : c = b := Option.some.inj hb
      have hsome := isSome_first earlier
      cases hlast : last earlier with
      | none =>
        rw [hlast, Option.isSome_none, Option.isSome_eq_false_iff, Option.isNone_iff_eq_none]
          at hsome
        rw [first, hsome, Option.none_or] at ha
        obtain rfl := Option.some.inj ha
        have hup : total increase earlier = 0 := total_of_last_eq_none (fun before => by
          cases before <;> rfl) hlast
        have hdown : total decrease earlier = 0 := total_of_last_eq_none (fun before => by
          cases before <;> rfl) hlast
        rw [total, total, hlast, hup, hdown]
        rfl
      | some p =>
        rw [hlast, Option.isSome_some] at hsome
        obtain ⟨a', ha'⟩ := Option.isSome_iff_exists.mp hsome
        rw [first, ha', Option.some_or] at ha
        obtain rfl := Option.some.inj ha
        have hsum := ih ha' hlast
        rw [total, total, hlast, increase, decrease]
        omega

end Meter

end Rerouter
