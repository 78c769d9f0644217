import Mathlib.Algebra.BigOperators.Group.List.Basic
import Mathlib.Algebra.GroupWithZero.Nat
import Mathlib.Data.List.Nodup
import Mathlib.Data.List.Perm.Basic
import Mathlib.Data.List.Perm.Subperm
import Mathlib.Tactic.Common

/-!
# Keyed accumulators with a cap

A list of keys with what was accumulated of each. A value goes to the accumulator of its key
(`Rerouter.Capped.put`), and a key that is not there yet is entered as long as there are fewer than
a cap of them. Entries are never taken out, so a key that was refused once is refused for good:

* what is there of a key is all its values (`Rerouter.Capped.get_puts`), and of a key that is not
  there nothing is (`Rerouter.Capped.losses_eq`);
* each value is in one accumulator or lost (`Rerouter.Capped.sum_values_add_losses`);
* nothing is lost where the keys fit (`Rerouter.Capped.losses_of_fits`).
-/

namespace Rerouter.Capped

variable {K V C : Type*} [DecidableEq K]

/-- What was accumulated of a key. -/
def get (m : List (K × C)) (k : K) : Option C := (m.find? fun p => p.1 = k).map Prod.snd

/-- Whether a key is refused. -/
def refused (cap : ℕ) (m : List (K × C)) (k : K) : Bool :=
  (get m k).isNone && decide (cap ≤ m.length)

section Put

variable (first : V → C) (next : C → V → C) (cap : ℕ)

/-- A value goes to its key. -/
def put (m : List (K × C)) (p : K × V) : List (K × C) :=
  if (get m p.1).isSome then m.map fun q => if q.1 = p.1 then (q.1, next q.2 p.2) else q
  else if m.length < cap then m ++ [(p.1, first p.2)]
  else m

/-- Some values, one after the other. -/
def puts (m : List (K × C)) (ps : List (K × V)) : List (K × C) := ps.foldl (put first next cap) m

/-- The values that are refused. -/
def losses (m : List (K × C)) : List (K × V) → List (K × V)
  | [] => []
  | p :: ps => (if refused cap m p.1 then [p] else []) ++ losses (put first next cap m p) ps

/-- Values on top of what there is of a key. -/
def collect (o : Option C) (vs : List V) : Option C :=
  vs.foldl (fun o v => some (o.elim (first v) (next · v))) o

end Put

/-- The values of a key. -/
def values (k : K) (ps : List (K × V)) : List V := (ps.filter fun p => p.1 = k).map Prod.snd

variable {first : V → C} {next : C → V → C} {cap : ℕ} {m m' : List (K × C)} {p : K × V}
  {ps : List (K × V)} {k : K} {c : C}

/-! ### Looking up -/

@[simp] theorem get_nil : get ([] : List (K × C)) k = none := rfl

theorem get_cons {q : K × C} : get (q :: m) k = if q.1 = k then some q.2 else get m k := by
  rw [get, List.find?_cons]
  by_cases h : q.1 = k <;> simp [h, get]

theorem get_append : get (m ++ m') k = (get m k).or (get m' k) := by
  induction m with
  | nil => rfl
  | cons q m ih =>
    rw [List.cons_append, get_cons, get_cons, ih]
    split_ifs <;> rfl

theorem get_eq_none : get m k = none ↔ k ∉ m.map Prod.fst := by
  induction m with
  | nil => simp
  | cons q m ih =>
    rw [get_cons]
    split_ifs with h
    · simp [h]
    · rw [ih, List.map_cons, List.mem_cons, not_or]
      exact ⟨fun hm => ⟨fun heq => h heq.symm, hm⟩, fun hm => hm.2⟩

theorem isSome_get : (get m k).isSome ↔ k ∈ m.map Prod.fst := by
  rw [← not_iff_not, ← get_eq_none, Option.not_isSome_iff_eq_none]

theorem mem_of_get (h : get m k = some c) : (k, c) ∈ m := by
  obtain ⟨q, hq, rfl⟩ := Option.map_eq_some_iff.mp h
  have hkey : q.1 = k := by simpa using List.find?_some hq
  exact hkey ▸ List.mem_of_find?_eq_some hq

/-- Where no key stands twice, an entry is found. -/
theorem get_of_mem (hnodup : (m.map Prod.fst).Nodup) (h : (k, c) ∈ m) : get m k = some c := by
  induction m with
  | nil => cases h
  | cons q m ih =>
    rw [List.map_cons, List.nodup_cons] at hnodup
    rw [get_cons]
    rcases List.mem_cons.mp h with rfl | h
    · rw [if_pos rfl]
    · have hne : q.1 ≠ k := fun heq => hnodup.1 (heq ▸ List.mem_map_of_mem (f := Prod.fst) h)
      rw [if_neg hne, ih hnodup.2 h]

/-- Where no key stands twice, the order of the entries does not matter. -/
theorem get_perm (hnodup : (m.map Prod.fst).Nodup) (h : m.Perm m') : get m k = get m' k := by
  have hnodup' : (m'.map Prod.fst).Nodup := (h.map Prod.fst).nodup_iff.mp hnodup
  cases hget : get m k with
  | none =>
    refine (get_eq_none.mpr fun hk => get_eq_none.mp hget ?_).symm
    exact (h.map Prod.fst).mem_iff.mpr hk
  | some c => exact (get_of_mem hnodup' (h.mem_iff.mp (mem_of_get hget))).symm

/-! ### One value -/

theorem get_map_next {f : C → C} {k' : K} :
    get (m.map fun q => if q.1 = k' then (q.1, f q.2) else q) k = if k' = k then (get m k).map f
      else get m k := by
  induction m with
  | nil => simp
  | cons q m ih =>
    rw [List.map_cons, get_cons, ih, get_cons]
    by_cases hq : q.1 = k'
    · simp only [hq, if_true]
      split_ifs <;> rfl
    · simp only [hq, if_false]
      split_ifs with hqk hk
      · exact absurd (hqk.trans hk.symm) hq
      · rfl
      · rfl
      · rfl

theorem keys_map_next {f : C → C} {k' : K} :
    (m.map fun q => if q.1 = k' then (q.1, f q.2) else q).map Prod.fst = m.map Prod.fst := by
  rw [List.map_map]
  refine List.map_congr_left fun q _ => ?_
  simp only [Function.comp_apply]
  split_ifs <;> rfl

/-- The keys after a value: one more, unless it was there or was refused. -/
theorem keys_put : (put first next cap m p).map Prod.fst =
    m.map Prod.fst ++ if p.1 ∈ m.map Prod.fst ∨ refused cap m p.1 = true then [] else [p.1] := by
  rw [put]
  by_cases hmem : (get m p.1).isSome
  · rw [if_pos hmem, keys_map_next (f := (next · p.2)), if_pos (.inl (isSome_get.mp hmem)),
      List.append_nil]
  · have hnone : get m p.1 = none := Option.not_isSome_iff_eq_none.mp hmem
    have hnot : p.1 ∉ m.map Prod.fst := get_eq_none.mp hnone
    rw [if_neg hmem]
    by_cases hlen : m.length < cap
    · have hopen : ¬(p.1 ∈ m.map Prod.fst ∨ refused cap m p.1 = true) := by
        simp [hnot, refused, hlen]
      rw [if_pos hlen, if_neg hopen, List.map_append]
      rfl
    · have hclosed : p.1 ∈ m.map Prod.fst ∨ refused cap m p.1 = true := by
        simp [refused, hnone, Nat.not_lt.mp hlen]
      rw [if_neg hlen, if_pos hclosed, List.append_nil]

theorem nodup_put (h : (m.map Prod.fst).Nodup) : ((put first next cap m p).map Prod.fst).Nodup := by
  rw [keys_put]
  split_ifs with hkey
  · rwa [List.append_nil]
  · exact List.nodup_append.mpr ⟨h, List.nodup_singleton _, fun a ha b hb heq => hkey (.inl (by
      rw [← List.mem_singleton.mp hb, ← heq]; exact ha))⟩

theorem length_put (h : m.length ≤ cap) : (put first next cap m p).length ≤ cap := by
  rw [put]
  split_ifs with hmem hlen
  · rwa [List.length_map]
  · rw [List.length_append, List.length_singleton]
    omega
  · exact h

/-- What there is of a key after a value. -/
theorem get_put : get (put first next cap m p) k =
    if p.1 = k ∧ refused cap m k = false then some ((get m k).elim (first p.2) (next · p.2))
      else get m k := by
  rw [put]
  by_cases hmem : (get m p.1).isSome
  · rw [if_pos hmem, get_map_next (f := (next · p.2))]
    by_cases hk : p.1 = k
    · subst hk
      obtain ⟨c, hc⟩ := Option.isSome_iff_exists.mp hmem
      simp [refused, hc]
    · rw [if_neg hk, if_neg fun hboth => hk hboth.1]
  · have hnone : get m p.1 = none := Option.not_isSome_iff_eq_none.mp hmem
    rw [if_neg hmem]
    -- a new key is put behind the others while there is room
    by_cases hlen : m.length < cap
    · rw [if_pos hlen, get_append, get_cons, get_nil]
      by_cases hk : p.1 = k
      · subst hk
        simp [refused, hnone, hlen]
      · simp [hk]
    · rw [if_neg hlen]
      by_cases hk : p.1 = k
      · subst hk
        simp [refused, hnone, Nat.not_lt.mp hlen]
      · rw [if_neg fun hboth => hk hboth.1]

/-! ### Some values -/

theorem nodup_puts (h : (m.map Prod.fst).Nodup) :
    ((puts first next cap m ps).map Prod.fst).Nodup := by
  induction ps generalizing m with
  | nil => exact h
  | cons p ps ih => exact ih (nodup_put h)

theorem length_puts (h : m.length ≤ cap) : (puts first next cap m ps).length ≤ cap := by
  induction ps generalizing m with
  | nil => exact h
  | cons p ps ih => exact ih (length_put h)

/-- Keys stay. -/
theorem mem_keys_puts (h : k ∈ m.map Prod.fst) : k ∈ (puts first next cap m ps).map Prod.fst := by
  induction ps generalizing m with
  | nil => exact h
  | cons p ps ih =>
    refine ih ?_
    rw [keys_put]
    exact List.mem_append_left _ h

theorem length_le_put : m.length ≤ (put first next cap m p).length := by
  have hlen : ((put first next cap m p).map Prod.fst).length = _ := congrArg List.length keys_put
  rw [List.length_append, List.length_map, List.length_map] at hlen
  omega

theorem length_le_puts : m.length ≤ (puts first next cap m ps).length := by
  induction ps generalizing m with
  | nil => exact Nat.le_refl _
  | cons p ps ih => exact Nat.le_trans length_le_put ih

/-- **A key that is refused is refused for good.** -/
theorem not_mem_puts_of_refused (h : refused cap m k = true) :
    k ∉ (puts first next cap m ps).map Prod.fst := by
  induction ps generalizing m with
  | nil =>
    rw [refused, Bool.and_eq_true, Option.isNone_iff_eq_none] at h
    exact get_eq_none.mp h.1
  | cons p ps ih =>
    refine ih ?_
    rw [refused, Bool.and_eq_true, Option.isNone_iff_eq_none, decide_eq_true_eq] at h ⊢
    refine ⟨?_, ?_⟩
    · rw [get_put, if_neg, h.1]
      rintro ⟨-, hopen⟩
      simp [refused, h.1, h.2] at hopen
    · exact Nat.le_trans h.2 length_le_put

theorem values_cons : values k (p :: ps) = (if p.1 = k then [p.2] else []) ++ values k ps := by
  rw [values, List.filter_cons]
  by_cases h : p.1 = k <;> simp [h, values]

theorem values_append (ps ps' : List (K × V)) :
    values k (ps ++ ps') = values k ps ++ values k ps' := by
  rw [values, List.filter_append, List.map_append]
  rfl

theorem collect_append (o : Option C) (vs vs' : List V) :
    collect first next o (vs ++ vs') = collect first next (collect first next o vs) vs' :=
  List.foldl_append

/-- **What there is of a key is all its values.** -/
theorem get_puts (h : k ∈ (puts first next cap m ps).map Prod.fst) :
    get (puts first next cap m ps) k = collect first next (get m k) (values k ps) := by
  induction ps generalizing m with
  | nil => rfl
  | cons p ps ih =>
    have hstep := ih (m := put first next cap m p) h
    rw [puts, List.foldl_cons, ← puts, hstep, values_cons, collect_append, get_put]
    by_cases hk : p.1 = k
    · subst hk
      have hopen : refused cap m p.1 = false := by
        by_contra hclosed
        rw [Bool.not_eq_false] at hclosed
        exact not_mem_puts_of_refused hclosed h
      rw [if_pos ⟨rfl, hopen⟩, if_pos rfl]
      rfl
    · rw [if_neg fun hboth => hk hboth.1, if_neg hk]
      rfl

theorem values_eq_nil : values k ps = [] ↔ k ∉ ps.map Prod.fst := by
  simp only [values, List.map_eq_nil_iff, List.filter_eq_nil_iff, decide_eq_true_eq, List.mem_map,
    not_exists, not_and]

/-- A key is there from the beginning, or of one of the values. -/
theorem mem_of_mem_puts (h : k ∈ (puts first next cap m ps).map Prod.fst) :
    k ∈ m.map Prod.fst ∨ k ∈ ps.map Prod.fst := by
  by_contra hnot
  obtain ⟨hm, hps⟩ := not_or.mp hnot
  have hget := get_puts h
  rw [get_eq_none.mpr hm, values_eq_nil.mpr hps] at hget
  exact get_eq_none.mp hget h

/-- **What is lost is all of the keys that are not there.** -/
theorem losses_eq : losses first next cap m ps =
    ps.filter fun p => decide (p.1 ∉ (puts first next cap m ps).map Prod.fst) := by
  induction ps generalizing m with
  | nil => rfl
  | cons p ps ih =>
    rw [losses, ih, List.filter_cons]
    have hkeys : puts first next cap m (p :: ps) =
      puts first next cap (put first next cap m p) ps := rfl
    rw [hkeys]
    by_cases hrefused : refused cap m p.1 = true
    -- once refused, a key is never let in: the map does not shrink
    · have hnot : p.1 ∉ (puts first next cap (put first next cap m p) ps).map Prod.fst := by
        rw [← hkeys]
        exact not_mem_puts_of_refused hrefused
      rw [if_pos hrefused, if_pos (decide_eq_true hnot)]
      rfl
    · have hmem : p.1 ∈ (puts first next cap (put first next cap m p) ps).map Prod.fst := by
        refine mem_keys_puts ?_
        rw [keys_put]
        by_cases hin : p.1 ∈ m.map Prod.fst
        · exact List.mem_append_left _ hin
        · rw [if_neg (not_or.mpr ⟨hin, hrefused⟩)]
          exact List.mem_append_right _ (List.mem_singleton.mpr rfl)
      rw [if_neg hrefused, if_neg (by simpa using hmem)]
      rfl

/-- Where nothing is lost, there is of every key all its values. -/
theorem get_puts_of_losses (h : losses first next cap m ps = []) :
    get (puts first next cap m ps) k = collect first next (get m k) (values k ps) := by
  by_cases hmem : k ∈ (puts first next cap m ps).map Prod.fst
  · exact get_puts hmem
  · have hm : k ∉ m.map Prod.fst := fun hk => hmem (mem_keys_puts hk)
    have hps : k ∉ ps.map Prod.fst := by
      intro hk
      obtain ⟨p, hp, rfl⟩ := List.mem_map.mp hk
      rw [losses_eq, List.filter_eq_nil_iff] at h
      exact h p hp (decide_eq_true hmem)
    rw [get_eq_none.mpr hmem, get_eq_none.mpr hm, values_eq_nil.mpr hps]
    rfl

/-- Where nothing is lost, there are as many keys as the values have. -/
theorem length_le_of_losses (hnodup : (ps.map Prod.fst).Nodup)
    (h : losses first next cap m ps = []) :
    ps.length ≤ (puts first next cap m ps).length := by
  have hsub : ps.map Prod.fst ⊆ (puts first next cap m ps).map Prod.fst := by
    intro k hk
    obtain ⟨p, hp, rfl⟩ := List.mem_map.mp hk
    rw [losses_eq, List.filter_eq_nil_iff] at h
    simpa using h p hp
  simpa using (hnodup.subperm hsub).length_le

/-- **Each value is in one place**: with its key, or lost. -/
theorem sum_values_add_losses (w : V → ℕ) {keys : List K} (h : keys.Nodup) (ps : List (K × V)) :
    (keys.map fun k => ((values k ps).map w).sum).sum +
      ((ps.filter fun p => decide (p.1 ∉ keys)).map fun p => w p.2).sum =
      (ps.map fun p => w p.2).sum := by
  induction ps with
  | nil => simp [values]
  | cons p ps ih =>
    -- the value is counted with its key as often as the key is listed
    have hone : (keys.map fun k => ((values k (p :: ps)).map w).sum).sum =
        (keys.map fun k => ((values k ps).map w).sum).sum + keys.count p.1 * w p.2 := by
      clear h ih
      induction keys with
      | nil => simp
      | cons k keys ih =>
        rw [List.map_cons, List.sum_cons, ih, List.map_cons, List.sum_cons, values_cons,
          List.map_append, List.sum_append, List.count_cons]
        by_cases hk : p.1 = k
        · simp only [hk, if_true, List.map_cons, List.map_nil, List.sum_cons, List.sum_nil,
            beq_self_eq_true, Nat.add_mul, Nat.one_mul]
          omega
        · have hk' : (k == p.1) = false := beq_eq_false_iff_ne.mpr fun heq => hk heq.symm
          simp only [hk, hk', if_false, List.map_nil, List.sum_nil, Bool.false_eq_true,
            Nat.add_zero]
          omega
    rw [hone, List.filter_cons, List.map_cons, List.sum_cons, ← ih]
    by_cases hmem : p.1 ∈ keys
    · rw [if_neg (by simpa using hmem), List.count_eq_one_of_mem h hmem]
      omega
    · rw [if_pos (by simpa using hmem), List.count_eq_zero_of_not_mem hmem, List.map_cons,
        List.sum_cons]
      omega

/-- Where no key stands twice, the values of a key are what is found of it. -/
theorem values_eq_toList (h : (m.map Prod.fst).Nodup) : values k m = (get m k).toList := by
  induction m with
  | nil => rfl
  | cons q m ih =>
    rw [List.map_cons, List.nodup_cons] at h
    rw [values_cons, get_cons, ih h.2]
    split_ifs with hk
    · rw [get_eq_none.mpr (hk ▸ h.1)]
      rfl
    · rfl

/-- **Nothing is lost where the keys fit.** -/
theorem losses_of_fits {keys : List K} (hfit : keys.length ≤ cap) (hnodup : (m.map Prod.fst).Nodup)
    (hm : m.map Prod.fst ⊆ keys) (hps : ps.map Prod.fst ⊆ keys) :
    losses first next cap m ps = [] := by
  induction ps generalizing m with
  | nil => rfl
  | cons p ps ih =>
    rw [List.map_cons, List.cons_subset] at hps
    -- a refused key would be one more than the keys there are
    have hopen : refused cap m p.1 = false := by
      by_contra hclosed
      rw [Bool.not_eq_false, refused, Bool.and_eq_true, Option.isNone_iff_eq_none,
        decide_eq_true_eq] at hclosed
      have hmore : (p.1 :: m.map Prod.fst).Nodup :=
        List.nodup_cons.mpr ⟨get_eq_none.mp hclosed.1, hnodup⟩
      have hlen := (hmore.subperm (List.cons_subset.mpr ⟨hps.1, hm⟩)).length_le
      rw [List.length_cons, List.length_map] at hlen
      omega
    rw [losses, hopen, ih (nodup_put hnodup) ?_ hps.2]
    · rfl
    · rw [keys_put]
      intro k hk
      rcases List.mem_append.mp hk with hk | hk
      · exact hm hk
      · split_ifs at hk
        · cases hk
        · rw [List.mem_singleton.mp hk]
          exact hps.1

end Rerouter.Capped
