import Mathlib.Algebra.BigOperators.Group.List.Basic
import Mathlib.Algebra.GroupWithZero.Nat
import Mathlib.Data.List.Nodup
import Mathlib.Tactic.Common

/-!
# Tables

A table is the list of its rows. The statements a program runs on it are
`Rerouter.Table.update` (`UPDATE … SET … WHERE`), `Rerouter.Table.delete`,
`Rerouter.Table.count` and `Rerouter.Table.sumWhere`; a row with a key that no other row has is
found by `Rerouter.Table.find`.

The bookkeeping lemmas say how a sum over the rows moves: an update that lowers no value
lowers no sum (`Rerouter.Table.total_update_le`), and an update of a single row
trades that row's old value for its new one (`Rerouter.Table.total_update_single`).
-/

namespace Rerouter

namespace Table

variable {R : Type*}

/-- `UPDATE … SET f WHERE p`. -/
def update (p : R → Bool) (f : R → R) (t : List R) : List R := t.map fun r => if p r then f r else r

/-- `DELETE … WHERE p`. -/
def delete (p : R → Bool) (t : List R) : List R := t.filter fun r => !p r

/-- `SELECT COUNT(*) … WHERE p`. -/
def count (p : R → Bool) (t : List R) : ℕ := t.countP p

/-- The sum of a value over all rows. -/
def total (g : R → ℕ) (t : List R) : ℕ := (t.map g).sum

/-- `SELECT COALESCE(SUM(g),0) … WHERE p`. -/
def sumWhere (p : R → Bool) (g : R → ℕ) (t : List R) : ℕ :=
  total (fun r => if p r then g r else 0) t

/-- The row of a key. -/
def find (key : R → ℕ) (k : ℕ) (t : List R) : Option R := t.find? fun r => key r = k

/-- A key is primary: no two rows have it. -/
def Keyed (key : R → ℕ) (t : List R) : Prop := (t.map key).Nodup

variable {p q : R → Bool} {f : R → R} {g : R → ℕ} {key : R → ℕ} {t : List R} {r : R} {k : ℕ}

/-- A table with its rows rewritten one by one, each as a relation allows. -/
def Rewritten (rel : R → R → Prop) (t t' : List R) : Prop :=
  ∃ g : R → R, t' = t.map g ∧ ∀ r ∈ t, rel r (g r)

/-! ### Rows after a statement -/

theorem mem_update : r ∈ update p f t ↔ ∃ a ∈ t, (if p a then f a else a) = r := by
  simp [update]

theorem forall_mem_update {P : R → Prop} (hold : ∀ a ∈ t, p a = false → P a)
    (hnew : ∀ a ∈ t, p a = true → P (f a)) : ∀ r ∈ update p f t, P r := by
  intro r hr
  obtain ⟨a, ha, rfl⟩ := mem_update.mp hr
  split
  · rename_i hp
    exact hnew a ha hp
  · rename_i hp
    exact hold a ha (Bool.eq_false_iff.mpr hp)

theorem length_update : (update p f t).length = t.length := List.length_map _

theorem mem_delete : r ∈ delete p t ↔ r ∈ t ∧ p r = false := by simp [delete]

/-- What a rewritten table has is a row of the table, rewritten. -/
theorem Rewritten.exists_of_mem {rel : R → R → Prop} {t' : List R} (h : Rewritten rel t t')
    (hr : r ∈ t') : ∃ a ∈ t, rel a r := by
  obtain ⟨g, rfl, hg⟩ := h
  obtain ⟨a, ha, rfl⟩ := List.mem_map.mp hr
  exact ⟨a, ha, hg a ha⟩

/-- And every row of the table is there, rewritten. -/
theorem Rewritten.exists_mem {rel : R → R → Prop} {t' : List R} (h : Rewritten rel t t')
    (hr : r ∈ t) : ∃ a ∈ t', rel r a := by
  obtain ⟨g, rfl, hg⟩ := h
  exact ⟨g r, List.mem_map_of_mem hr, hg r hr⟩

theorem Rewritten.refl {rel : R → R → Prop} (hrel : ∀ r, rel r r) (t : List R) :
    Rewritten rel t t :=
  ⟨id, (List.map_id t).symm, fun r _ => hrel r⟩

theorem Rewritten.mono {rel rel' : R → R → Prop} {t' : List R} (h : Rewritten rel t t')
    (hrel : ∀ r r', rel r r' → rel' r r') : Rewritten rel' t t' := by
  obtain ⟨g, rfl, hg⟩ := h
  exact ⟨g, rfl, fun r hr => hrel r (g r) (hg r hr)⟩

/-- Two rewritings in a row are one. -/
theorem Rewritten.trans {rel rel' rel'' : R → R → Prop} {t' t'' : List R} (h : Rewritten rel t t')
    (h' : Rewritten rel' t' t'') (hrel : ∀ r a b, rel r a → rel' a b → rel'' r b) :
    Rewritten rel'' t t'' := by
  obtain ⟨g, rfl, hg⟩ := h
  obtain ⟨g', rfl, hg'⟩ := h'
  refine ⟨g' ∘ g, List.map_map .., fun r hr => ?_⟩
  exact hrel r (g r) _ (hg r hr) (hg' (g r) (List.mem_map_of_mem hr))

/-- An update rewrites the rows it finds. -/
theorem rewritten_update {rel : R → R → Prop} (hrel : ∀ r, rel r r)
    (hf : ∀ a ∈ t, p a = true → rel a (f a)) : Rewritten rel t (update p f t) := by
  refine ⟨_, rfl, fun r hr => ?_⟩
  split
  · rename_i hp
    exact hf r hr hp
  · exact hrel r

/-- A statement that finds nothing to change. -/
theorem update_eq_self (h : ∀ a ∈ t, p a = true → f a = a) : update p f t = t := by
  rw [update]
  conv_rhs => rw [← List.map_id t]
  refine List.map_congr_left fun a ha => ?_
  by_cases hp : p a = true <;> simp [hp, h a ha]

theorem delete_eq_self (h : ∀ a ∈ t, p a = false) : delete p t = t :=
  List.filter_eq_self.mpr fun a ha => by simp [h a ha]

/-! ### Keys -/

/-- An update that does not touch the key of a row it changes leaves the keys. -/
theorem map_key_update_of_mem (hf : ∀ a ∈ t, p a = true → key (f a) = key a) :
    (update p f t).map key = t.map key := by
  rw [update, List.map_map]
  refine List.map_congr_left fun a ha => ?_
  by_cases hp : p a = true <;> simp [hp, hf a ha]

theorem map_key_update (hf : ∀ a, key (f a) = key a) : (update p f t).map key = t.map key :=
  map_key_update_of_mem fun a _ _ => hf a

theorem Keyed.update (h : Keyed key t) (hf : ∀ a, key (f a) = key a) :
    Keyed key (Table.update p f t) := by
  rw [Keyed, map_key_update hf]
  exact h

theorem Keyed.append (h : Keyed key t) (hr : ∀ a ∈ t, key a ≠ key r) : Keyed key (t ++ [r]) := by
  rw [Keyed, List.map_append, List.nodup_append]
  refine ⟨h, by simp, fun a ha b hb => ?_⟩
  obtain ⟨c, hc, rfl⟩ := List.mem_map.mp ha
  obtain rfl : b = key r := by simpa using hb
  exact hr c hc

theorem Keyed.eq_of_key_eq (h : Keyed key t) {a b : R} (ha : a ∈ t) (hb : b ∈ t)
    (hk : key a = key b) : a = b := List.inj_on_of_nodup_map h ha hb hk

theorem mem_of_find (h : find key k t = some r) : r ∈ t ∧ key r = k :=
  ⟨List.mem_of_find?_eq_some h, by simpa using List.find?_some h⟩

theorem find_eq_some (h : Keyed key t) (hr : r ∈ t) : find key (key r) t = some r := by
  rcases hfound : find key (key r) t with _ | a
  · simp only [find, List.find?_eq_none, decide_eq_true_eq] at hfound
    exact absurd rfl (hfound r hr)
  · obtain ⟨ha, hkey⟩ := mem_of_find hfound
    rw [h.eq_of_key_eq ha hr hkey]

theorem find_map (hf : ∀ a, key (f a) = key a) : find key k (t.map f) = (find key k t).map f := by
  simp only [find, List.find?_map]
  refine congrArg (Option.map f) (congrFun (congrArg List.find? (funext fun a => ?_)) t)
  simp [hf]

theorem find_eq_none : find key k t = none ↔ ∀ a ∈ t, key a ≠ k := by
  simp [find]

/-! ### Counts and sums -/

theorem total_append (a b : List R) : total g (a ++ b) = total g a + total g b := by
  simp [total]

theorem total_singleton : total g [r] = g r := by simp [total]

theorem total_update_le (h : ∀ a ∈ t, p a = true → g (f a) ≤ g a) :
    total g (update p f t) ≤ total g t := by
  induction t with
  | nil => simp [update, total]
  | cons a t ih =>
    have ih := ih fun b hb => h b (List.mem_cons_of_mem _ hb)
    have ha := h a (by simp)
    simp only [total, update, List.map_cons, List.sum_cons] at ih ⊢
    by_cases hp : p a = true
    · have := ha hp
      simp only [hp, if_true]
      omega
    · simp only [hp]
      simp only [Bool.false_eq_true, if_false]
      omega

/-- An update that does not touch a value does not touch its sum. -/
theorem total_update_of_eq (h : ∀ a ∈ t, p a = true → g (f a) = g a) :
    total g (update p f t) = total g t := by
  rw [total, update, List.map_map, total]
  refine congrArg List.sum (List.map_congr_left fun a ha => ?_)
  by_cases hp : p a = true <;> simp [hp, h a ha]

/-- **An update of a single row** trades that row's old value for its new one. -/
theorem total_update_single (hk : Keyed key t) (hr : r ∈ t) (hp : p r = true)
    (hone : ∀ a ∈ t, p a = true → key a = key r) :
    total g (update p f t) + g r = total g t + g (f r) := by
  induction t with
  | nil => simp at hr
  | cons a t ih =>
    obtain ⟨hnotin, hnodup⟩ := List.nodup_cons.mp hk
    have hone' : ∀ b ∈ t, p b = true → key b = key r := fun b hb =>
      hone b (List.mem_cons_of_mem _ hb)
    simp only [total, update, List.map_cons, List.sum_cons] at ih ⊢
    rcases List.mem_cons.mp hr with rfl | hmem
    · have hrest : total g (update p f t) = total g t :=
        total_update_of_eq fun b hb hpb => absurd
          (List.mem_map.mpr ⟨b, hb, hone' b hb hpb⟩) hnotin
      simp only [total, update] at hrest
      simp only [hp, if_true, hrest]
      omega
    · have hpa : p a = false := Bool.eq_false_iff.mpr fun h =>
        hnotin (hone a (by simp) h ▸ List.mem_map_of_mem hmem)
      have ih := ih hnodup hmem hone'
      simp only [hpa, Bool.false_eq_true, if_false]
      omega

theorem total_le_total {g' : R → ℕ} (h : ∀ a ∈ t, g a ≤ g' a) : total g t ≤ total g' t := by
  induction t with
  | nil => simp [total]
  | cons a t ih =>
    have ih := ih fun b hb => h b (List.mem_cons_of_mem _ hb)
    have ha := h a (by simp)
    simp only [total, List.map_cons, List.sum_cons] at ih ⊢
    omega

theorem count_append (a b : List R) : count p (a ++ b) = count p a + count p b := by
  simp [count]

theorem count_le_of_imp (h : ∀ a ∈ t, p a = true → q a = true) : count p t ≤ count q t :=
  List.countP_mono_left h

end Table

end Rerouter
