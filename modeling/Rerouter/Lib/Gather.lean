import Mathlib.Data.List.Basic
import Mathlib.Order.Basic
import Mathlib.Tactic.Common

/-!
# Maps gathered from a sequence

A reader that walks over a sequence and enters what it finds in a map does one of two things
with a key it has met before: it overwrites the value (`Rerouter.Gather.put`), or it adds to a
list of values (`Rerouter.Gather.push`). What the map ends with is then the *last* value of
each key (`Rerouter.Gather.getElem?_foldl_put`), or all of them in their order
(`Rerouter.Gather.getElem?_foldl_push`).
-/

namespace Rerouter

namespace Gather

variable {A K V : Type*}

section Maps

variable [Ord K]

/-- Enter a value, in the place of the one the key has. -/
def put (m : Std.TreeMap K V compare) : Option (K × V) → Std.TreeMap K V compare
  | some (k, v) => m.insert k v
  | none => m

/-- Enter a value behind those the key has. -/
def push (m : Std.TreeMap K (List V) compare) : Option (K × V) → Std.TreeMap K (List V) compare
  | some (k, v) => m.alter k fun old => some (old.getD [] ++ [v])
  | none => m

end Maps

/-- The values that a sequence has for a key. -/
def valuesOf [DecidableEq K] (f : A → Option (K × V)) (k : K) (l : List A) : List V :=
  l.filterMap fun a => (f a).bind fun e => if e.1 = k then some e.2 else none

section Values

variable [DecidableEq K] {f : A → Option (K × V)} {k : K} {l : List A} {a : A} {v : V}

@[simp] theorem valuesOf_nil : valuesOf f k [] = [] := rfl

theorem valuesOf_cons_of_eq (h : f a = some (k, v)) :
    valuesOf f k (a :: l) = v :: valuesOf f k l := by
  simp [valuesOf, h]

theorem valuesOf_cons_of_ne (h : ∀ v, f a ≠ some (k, v)) :
    valuesOf f k (a :: l) = valuesOf f k l := by
  rw [valuesOf, List.filterMap_cons_none]
  · rfl
  · cases hf : f a with
    | none => rfl
    | some e =>
      have hne : e.1 ≠ k := fun he => h e.2 (by rw [hf, ← he])
      simp [hne]

theorem mem_valuesOf : v ∈ valuesOf f k l ↔ ∃ a ∈ l, f a = some (k, v) := by
  simp only [valuesOf, List.mem_filterMap, Option.bind_eq_some_iff, Option.ite_none_right_eq_some,
    Option.some.injEq]
  constructor
  · rintro ⟨a, ha, ⟨x, w⟩, hf, rfl, rfl⟩
    exact ⟨a, ha, hf⟩
  · rintro ⟨a, ha, hf⟩
    exact ⟨a, ha, (k, v), hf, rfl, rfl⟩

end Values

variable [Ord K] [Std.TransOrd K] {k : K}

theorem getElem?_put_of_eq {m : Std.TreeMap K V compare} {v : V} :
    (put m (some (k, v)))[k]? = some v := by
  simp [put]

theorem getElem?_push_of_eq {m : Std.TreeMap K (List V) compare} {v : V} :
    (push m (some (k, v)))[k]? = some (m[k]?.getD [] ++ [v]) := by
  simp [push]

variable [Std.LawfulEqOrd K]

theorem getElem?_put_of_ne {m : Std.TreeMap K V compare} {e : Option (K × V)}
    (h : ∀ v, e ≠ some (k, v)) : (put m e)[k]? = m[k]? := by
  cases e with
  | none => rfl
  | some e =>
    obtain ⟨k', v⟩ := e
    have hne : k' ≠ k := fun he => h v (by rw [he])
    simp [put, Std.TreeMap.getElem?_insert, hne]

theorem getElem?_push_of_ne {m : Std.TreeMap K (List V) compare} {e : Option (K × V)}
    (h : ∀ v, e ≠ some (k, v)) : (push m e)[k]? = m[k]? := by
  cases e with
  | none => rfl
  | some e =>
    obtain ⟨k', v⟩ := e
    have hne : k' ≠ k := fun he => h v (by rw [he])
    simp [push, Std.TreeMap.getElem?_alter, hne]

variable [DecidableEq K] {f : A → Option (K × V)}

/-- **A map that is overwritten ends with the last value of each key.** -/
theorem getElem?_foldl_put (l : List A) (m : Std.TreeMap K V compare) :
    (l.foldl (fun m a => put m (f a)) m)[k]? = (valuesOf f k l).getLast?.or m[k]? := by
  induction l generalizing m with
  | nil => rfl
  | cons a l ih =>
    rw [List.foldl_cons, ih]
    by_cases h : ∃ v, f a = some (k, v)
    · obtain ⟨v, hv⟩ := h
      rw [valuesOf_cons_of_eq hv, hv, getElem?_put_of_eq, List.getLast?_cons]
      cases (valuesOf f k l).getLast? <;> rfl
    · have hne : ∀ v, f a ≠ some (k, v) := fun v hv => h ⟨v, hv⟩
      rw [valuesOf_cons_of_ne hne, getElem?_put_of_ne hne]

/-- **A map of lists ends with the values of each key, in their order.** -/
theorem getElem?_foldl_push (l : List A) (m : Std.TreeMap K (List V) compare) :
    (l.foldl (fun m a => push m (f a)) m)[k]? =
      if valuesOf f k l = [] then m[k]? else some (m[k]?.getD [] ++ valuesOf f k l) := by
  induction l generalizing m with
  | nil => rfl
  | cons a l ih =>
    rw [List.foldl_cons, ih]
    by_cases h : ∃ v, f a = some (k, v)
    · obtain ⟨v, hv⟩ := h
      rw [valuesOf_cons_of_eq hv, hv, getElem?_push_of_eq]
      by_cases hnil : valuesOf f k l = []
      · simp [hnil]
      · simp [hnil]
    · have hne : ∀ v, f a ≠ some (k, v) := fun v hv => h ⟨v, hv⟩
      rw [valuesOf_cons_of_ne hne, getElem?_push_of_ne hne]

/-! ### The values of a map -/

omit [DecidableEq K] [Std.TransOrd K] [Std.LawfulEqOrd K] in
theorem values_eq_map_toList (m : Std.TreeMap K V compare) : m.values = m.toList.map Prod.snd := by
  have h : m.values = m.foldr (fun _ v acc => v :: acc) [] := rfl
  rw [h, Std.TreeMap.foldr_eq_foldr_toList]
  induction m.toList with
  | nil => rfl
  | cons a l ih => rw [List.foldr_cons, ih, List.map_cons]

omit [DecidableEq K] in
theorem mem_values {m : Std.TreeMap K V compare} {v : V} :
    v ∈ m.values ↔ ∃ k : K, m[k]? = some v := by
  rw [values_eq_map_toList, List.mem_map]
  constructor
  · rintro ⟨⟨k, w⟩, hmem, rfl⟩
    exact ⟨k, Std.TreeMap.mem_toList_iff_getElem?_eq_some.mp hmem⟩
  · rintro ⟨k, hk⟩
    exact ⟨(k, v), Std.TreeMap.mem_toList_iff_getElem?_eq_some.mpr hk, rfl⟩

end Gather

end Rerouter
