import Rerouter.Lib.Table

/-!
# Rows that are written again

`INSERT … ON DUPLICATE KEY UPDATE`: a row that clashes with one of the table is merged into it, and
any other row is appended (`Rerouter.Table.upsert`). Whether two rows clash is up to the program: a
unique key of several columns does not compare rows in which one of them is `NULL`, so a row need
not clash with itself.

A program that writes rows over and over (`Rerouter.Table.upserts`) writes them into the parts of
the table that are left alone by the others (`Rerouter.Table.filter_upserts`). In such a part a sum
is at most the sum of what was written, and where nothing clashes the table is what was written
(`Rerouter.Table.total_upserts_le`, `Rerouter.Table.upserts_of_pairwise`).
-/

namespace Rerouter

namespace Table

variable {R : Type*}

/-- `INSERT … ON DUPLICATE KEY UPDATE`. The new row comes first in `clash`, and last in `merge`. -/
def upsert (clash : R → R → Bool) (merge : R → R → R) (new : R) : List R → List R
  | [] => [new]
  | a :: t => if clash new a then merge a new :: t else a :: upsert clash merge new t

/-- One such statement after the other. -/
def upserts (clash : R → R → Bool) (merge : R → R → R) (t news : List R) : List R :=
  news.foldl (fun t new => upsert clash merge new t) t

variable {clash : R → R → Bool} {merge : R → R → R} {q : R → Bool} {g : R → ℕ} {P : R → Prop}
  {t news : List R} {new : R}

/-! ### One row -/

theorem forall_mem_upsert (hold : ∀ a ∈ t, P a) (hnew : P new)
    (hmerge : ∀ a, P a → clash new a = true → P (merge a new)) :
    ∀ r ∈ upsert clash merge new t, P r := by
  induction t with
  | nil => exact List.forall_mem_singleton.mpr hnew
  | cons a t ih =>
    obtain ⟨ha, ht⟩ := List.forall_mem_cons.mp hold
    rw [upsert]
    split_ifs with hclash
    · exact List.forall_mem_cons.mpr ⟨hmerge a ha hclash, ht⟩
    · exact List.forall_mem_cons.mpr ⟨ha, ih ht⟩

theorem upsert_of_forall (h : ∀ a ∈ t, clash new a = false) :
    upsert clash merge new t = t ++ [new] := by
  induction t with
  | nil => rfl
  | cons a t ih =>
    obtain ⟨ha, ht⟩ := List.forall_mem_cons.mp h
    rw [upsert, ha, if_neg Bool.false_ne_true, ih ht, List.cons_append]

/-- A part of the table that rows outside do not clash with. -/
theorem filter_upsert (hq : ∀ a, clash new a = true → q a = q new ∧ q (merge a new) = q new) :
    (upsert clash merge new t).filter q =
      if q new then upsert clash merge new (t.filter q) else t.filter q := by
  induction t with
  | nil =>
    rw [upsert, List.filter_nil, upsert, List.filter_cons, List.filter_nil]
  | cons a t ih =>
    rw [upsert]
    split_ifs with hclash hin hin
    · obtain ⟨ha, hmerge⟩ := hq a hclash
      rw [List.filter_cons, hmerge, if_pos hin, List.filter_cons, ha, if_pos hin, upsert,
        if_pos hclash]
    · obtain ⟨ha, hmerge⟩ := hq a hclash
      rw [List.filter_cons, hmerge, if_neg hin, List.filter_cons, ha, if_neg hin]
    · rw [List.filter_cons, ih, if_pos hin, List.filter_cons]
      split_ifs
      · rw [upsert, if_neg hclash]
      · rfl
    · rw [List.filter_cons, ih, if_neg hin, List.filter_cons]

theorem total_upsert_le (hmerge : ∀ a, clash new a = true → g (merge a new) ≤ g new) :
    total g (upsert clash merge new t) ≤ total g t + g new := by
  simp only [total]
  induction t with
  | nil => simp [upsert]
  | cons a t ih =>
    rw [upsert]
    split_ifs with hclash
    · have hle := hmerge a hclash
      simp only [List.map_cons, List.sum_cons]
      omega
    · simp only [List.map_cons, List.sum_cons]
      omega

/-! ### One row after the other -/

theorem upserts_cons : upserts clash merge t (new :: news) =
    upserts clash merge (upsert clash merge new t) news := rfl

theorem forall_mem_upserts (hold : ∀ a ∈ t, P a) (hnews : ∀ a ∈ news, P a)
    (hmerge : ∀ a, P a → ∀ new ∈ news, clash new a = true → P (merge a new)) :
    ∀ r ∈ upserts clash merge t news, P r := by
  induction news generalizing t with
  | nil => exact hold
  | cons new news ih =>
    obtain ⟨hnew, hnews⟩ := List.forall_mem_cons.mp hnews
    refine ih (forall_mem_upsert hold hnew fun a ha => hmerge a ha new List.mem_cons_self) hnews ?_
    exact fun a ha b hb => hmerge a ha b (List.mem_cons_of_mem new hb)

/-- **A part of the table that is left alone** by what is written elsewhere. -/
theorem filter_upserts
    (hq : ∀ new a, clash new a = true → q a = q new ∧ q (merge a new) = q new) :
    (upserts clash merge t news).filter q = upserts clash merge (t.filter q) (news.filter q) := by
  induction news generalizing t with
  | nil => rfl
  | cons new news ih =>
    rw [upserts_cons, ih, filter_upsert (hq new), List.filter_cons]
    split_ifs
    · rw [upserts_cons]
    · rfl

/-- **A sum over the table** is at most the sum of what was written, where a merged row counts as
much as the new one. -/
theorem total_upserts_le (hmerge : ∀ new a, clash new a = true → g (merge a new) ≤ g new) :
    total g (upserts clash merge t news) ≤ total g t + total g news := by
  induction news generalizing t with
  | nil => exact Nat.le_add_right _ _
  | cons new news ih =>
    have hrest := ih (t := upsert clash merge new t)
    have hnew := total_upsert_le (t := t) (hmerge new)
    have hsplit : total g (new :: news) = g new + total g news := List.sum_cons
    rw [upserts_cons]
    omega

/-- **Where no rows clash** the table is what was written. -/
theorem upserts_of_pairwise (h : (t ++ news).Pairwise fun a b => clash b a = false) :
    upserts clash merge t news = t ++ news := by
  induction news generalizing t with
  | nil => exact (List.append_nil t).symm
  | cons new news ih =>
    have hsplit : t ++ new :: news = (t ++ [new]) ++ news := by
      rw [List.append_assoc, List.singleton_append]
    have hnew : ∀ a ∈ t, clash new a = false := fun a ha =>
      (List.pairwise_append.mp h).2.2 a ha new List.mem_cons_self
    rw [upserts_cons, upsert_of_forall hnew, ih (hsplit ▸ h), ← hsplit]

end Table

end Rerouter
