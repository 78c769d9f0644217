import Mathlib.Data.List.Basic
import Mathlib.Tactic.Common

/-!
# States laid over states

A sequence of states, each with a key, is read as a map: the state of a key is the first that has
it (`Rerouter.Overlay.lookup`). Two ways to lay a further state over it keep one state a key:
`Rerouter.Overlay.upsert` puts it in the place of the one its key has, and
`Rerouter.Overlay.insertFirst` leaves that one where it is. Laid over one after another, the states
of a sequence leave the *latest* of a key in the first case
(`Rerouter.Overlay.lookup_foldl_upsert`), and in the second the first one, if the key had none
(`Rerouter.Overlay.lookup_foldl_insertFirst`).
-/

namespace Rerouter

namespace Overlay

variable {A K : Type*} [DecidableEq K] (key : A → K)

/-- The state of a key. -/
def lookup (k : K) (states : List A) : Option A := states.find? fun s => key s = k

/-- The last state of a key. -/
def latest (k : K) (states : List A) : Option A := lookup key k states.reverse

/-- A state in the place of the one its key has, or behind the others. -/
def upsert (states : List A) (state : A) : List A :=
  match states with
  | [] => [state]
  | s :: states => if key s = key state then state :: states else s :: upsert states state

/-- A state behind the others, if its key has none. -/
def insertFirst (states : List A) (state : A) : List A :=
  if states.any fun s => key s = key state then states else states ++ [state]

variable {key} {k : K} {s : A} {l ss : List A}

@[simp] theorem lookup_nil : lookup key k [] = none := rfl

theorem lookup_cons : lookup key k (s :: l) = if key s = k then some s else lookup key k l := by
  rw [lookup, List.find?_cons]
  by_cases h : key s = k <;> simp [h, lookup]

theorem lookup_eq_none : lookup key k l = none ↔ ∀ s ∈ l, key s ≠ k := by
  simp [lookup]

theorem lookup_append : lookup key k (l ++ ss) = (lookup key k l).or (lookup key k ss) :=
  List.find?_append

theorem latest_eq_none : latest key k l = none ↔ ∀ s ∈ l, key s ≠ k := by
  rw [latest, lookup_eq_none]
  simp only [List.mem_reverse]

theorem latest_cons : latest key k (s :: l) = (latest key k l).or (lookup key k [s]) := by
  rw [latest, List.reverse_cons, lookup_append]
  rfl

theorem lookup_upsert : lookup key k (upsert key l s) = (lookup key k [s]).or (lookup key k l) := by
  induction l with
  | nil => simp [upsert]
  | cons a l ih =>
    rw [upsert]
    split_ifs with h
    · simp only [lookup_cons, lookup_nil, h]
      split_ifs <;> rfl
    · rw [lookup_cons, ih]
      simp only [lookup_cons, lookup_nil]
      -- Of the two keys at most one is the key that is looked up.
      by_cases ha : key a = k
      · have hs : key s ≠ k := fun heq => h (ha.trans heq.symm)
        simp [ha, hs]
      · simp [ha]

theorem lookup_insertFirst :
    lookup key k (insertFirst key l s) = (lookup key k l).or (lookup key k [s]) := by
  rw [insertFirst]
  split_ifs with h
  · simp only [lookup_cons, lookup_nil]
    split_ifs with hs
    · cases hl : lookup key k l with
      | none =>
        obtain ⟨a, ha, heq⟩ := List.any_eq_true.mp h
        exact absurd ((of_decide_eq_true heq).trans hs) (lookup_eq_none.mp hl a ha)
      | some a => rfl
    · simp
  · exact lookup_append

/-- **States that replace one another leave the latest.** -/
theorem lookup_foldl_upsert :
    lookup key k (ss.foldl (upsert key) l) = (latest key k ss).or (lookup key k l) := by
  induction ss generalizing l with
  | nil => rfl
  | cons s ss ih => rw [List.foldl_cons, ih, lookup_upsert, latest_cons, Option.or_assoc]

/-- **States that give way leave the first.** -/
theorem lookup_foldl_insertFirst :
    lookup key k (ss.foldl (insertFirst key) l) = (lookup key k l).or (lookup key k ss) := by
  induction ss generalizing l with
  | nil => simp
  | cons s ss ih =>
    rw [List.foldl_cons, ih, lookup_insertFirst, Option.or_assoc, ← lookup_append]
    rfl

end Overlay

end Rerouter
