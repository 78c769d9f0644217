import Mathlib.Data.List.Nodup
import Mathlib.Data.List.Sort
import Mathlib.Data.List.TakeWhile
import Mathlib.Tactic.Common

/-!
# Ordered rules, and the first one that matches

An access list, a prefix list, a firewall chain: a list of rules, each carrying a key
that gives its place, and a request decided by the first rule that matches it. This file
is about what a single edit of such a list does to the decisions.

* Inserting a rule leaves every request it does not match to the rule that decided it
  before (`Rerouter.FirstMatch.firstMatch_insertByKey_of_not_match`), and takes over a
  request it does match as soon as no rule of a smaller key matches that request
  (`Rerouter.FirstMatch.firstMatch_insertByKey_of_match`).
* Deleting the rules of one key leaves every request they do not match alone
  (`Rerouter.FirstMatch.firstMatch_eraseKey_of_not_match`), and hands a request the
  deleted rule decided over to whatever stands *behind* it
  (`Rerouter.FirstMatch.firstMatch_eraseKey_append`): not to the end of the list.

The rules, the requests and the keys are arbitrary; nothing here knows what a rule
matches.
-/

namespace Rerouter

namespace FirstMatch

variable {R X : Type*} (m : R → X → Bool) (key : R → ℕ)

/-- The rule that decides `x`: the first of the list that matches it. -/
def firstMatch (l : List R) (x : X) : Option R := l.find? (m · x)

/-- Insert a rule before the first one whose key is not smaller. -/
def insertByKey (r : R) (l : List R) : List R := l.orderedInsert (fun a b => key a ≤ key b) r

/-- Delete the rules of key `n`. -/
def eraseKey (n : ℕ) (l : List R) : List R := l.filter (key · ≠ n)

/-- The rules in ascending order of their keys, those of one key in the order they were in. -/
def sortByKey (l : List R) : List R := l.insertionSort fun a b => key a ≤ key b

/-- The rules in strictly ascending order of their keys. -/
def Ascending (l : List R) : Prop := l.Pairwise (key · < key ·)

variable {m key} {l : List R} {r : R} {x : X}

/-! ### Sorting -/

theorem mem_sortByKey : r ∈ sortByKey key l ↔ r ∈ l := List.mem_insertionSort _

/-- **Rules of pairwise different keys are sorted strictly.** -/
theorem ascending_sortByKey (h : l.Pairwise (key · ≠ key ·)) : Ascending key (sortByKey key l) := by
  have hle : (sortByKey key l).Pairwise (key · ≤ key ·) := by
    have : Std.Total fun a b : R => key a ≤ key b := ⟨fun a b => le_total _ _⟩
    have : IsTrans R fun a b => key a ≤ key b := ⟨fun _ _ _ => le_trans⟩
    exact List.pairwise_insertionSort _ l
  have hne : (sortByKey key l).Pairwise (key · ≠ key ·) :=
    (List.Perm.pairwise_iff (fun h => Ne.symm h) (List.perm_insertionSort _ l)).mpr h
  exact List.Pairwise.imp₂ (fun _ _ => lt_of_le_of_ne) hle hne

/-- A key belongs to one rule. -/
theorem Ascending.eq_of_key_eq (hl : Ascending key l) {a b : R} (ha : a ∈ l) (hb : b ∈ l)
    (h : key a = key b) : a = b := by
  have hnodup : (l.map key).Nodup := List.pairwise_map.mpr (hl.imp fun hlt => hlt.ne)
  exact List.inj_on_of_nodup_map hnodup ha hb h

/-- A list is no longer than the range of its keys. -/
theorem Ascending.length_le {m n : ℕ} (hl : Ascending key l)
    (hkey : ∀ a ∈ l, m < key a ∧ key a ≤ n) :
    l.length ≤ n - m := by
  induction l generalizing m with
  | nil => exact Nat.zero_le _
  | cons a l ih =>
    obtain ⟨hhead, htail⟩ := List.pairwise_cons.mp hl
    have hlength := ih htail fun b hb => ⟨hhead b hb, (hkey b (List.mem_cons_of_mem a hb)).2⟩
    have ha := hkey a List.mem_cons_self
    rw [List.length_cons]
    omega

/-- The last rule has the greatest key. -/
theorem key_le_of_getLast? (hl : Ascending key l) (hr : l.getLast? = some r) {a : R}
    (ha : a ∈ l) : key a ≤ key r := by
  obtain ⟨front, rfl⟩ := List.getLast?_eq_some_iff.mp hr
  rcases List.mem_append.mp ha with ha | ha
  · exact ((List.pairwise_append.mp hl).2.2 a ha r (by simp)).le
  · rw [List.mem_singleton.mp ha]

/-- The greatest key of an ascending list, if there is a rule: `0` otherwise. -/
def lastKey (key : R → ℕ) (l : List R) : ℕ := ((l.map key).getLast?).getD 0

theorem key_le_lastKey (hl : Ascending key l) {a : R} (ha : a ∈ l) : key a ≤ lastKey key l := by
  have hlast := List.getLast?_eq_some_getLast (List.ne_nil_of_mem ha)
  rw [lastKey, List.getLast?_map, hlast]
  exact key_le_of_getLast? hl hlast ha

theorem exists_lastKey (key : R → ℕ) (h : l ≠ []) : ∃ a ∈ l, key a = lastKey key l := by
  refine ⟨l.getLast h, List.getLast_mem h, ?_⟩
  rw [lastKey, List.getLast?_map, List.getLast?_eq_some_getLast h]
  rfl

/-! ### What decides a request -/

theorem firstMatch_append_of_not_match {pre : List R} (h : ∀ a ∈ pre, m a x = false)
    (post : List R) : firstMatch m (pre ++ post) x = firstMatch m post x := by
  have hpre : pre.find? (m · x) = none := List.find?_eq_none.mpr fun a ha => by simp [h a ha]
  simp [firstMatch, List.find?_append, hpre]

theorem firstMatch_cons_of_match (h : m r x = true) : firstMatch m (r :: l) x = some r := by
  simp [firstMatch, h]

/-- A decided request splits the list: the rules before the deciding one do not match. -/
theorem firstMatch_eq_some_iff : firstMatch m l x = some r ↔
    m r x = true ∧ ∃ pre post, l = pre ++ r :: post ∧ ∀ a ∈ pre, m a x = false := by
  simp [firstMatch, List.find?_eq_some_iff_append]

theorem firstMatch_eq_none_iff : firstMatch m l x = none ↔ ∀ a ∈ l, m a x = false := by
  simp [firstMatch]

theorem mem_of_firstMatch (h : firstMatch m l x = some r) : r ∈ l := List.mem_of_find?_eq_some h

/-- In an ascending list the rules of a smaller key than the deciding one do not match. -/
theorem not_match_of_key_lt (hl : Ascending key l) (h : firstMatch m l x = some r) {a : R}
    (ha : a ∈ l) (hlt : key a < key r) : m a x = false := by
  obtain ⟨-, pre, post, rfl, hpre⟩ := firstMatch_eq_some_iff.mp h
  rcases List.mem_append.mp ha with hmem | hmem
  · exact hpre a hmem
  · rcases List.mem_cons.mp hmem with rfl | hmem
    · exact absurd hlt (lt_irrefl _)
    · have hafter := (List.pairwise_cons.mp (List.pairwise_append.mp hl).2.1).1 a hmem
      exact absurd hlt (Nat.lt_asymm hafter)

/-! ### Inserting a rule -/

theorem insertByKey_eq (r : R) (l : List R) : insertByKey key r l =
    l.takeWhile (fun b => decide ¬key r ≤ key b) ++
      r :: l.dropWhile (fun b => decide ¬key r ≤ key b) :=
  List.orderedInsert_eq_take_drop _ r l

/-- **An inserted rule decides only what it matches.** -/
theorem firstMatch_insertByKey_of_not_match (h : m r x = false) :
    firstMatch m (insertByKey key r l) x = firstMatch m l x := by
  rw [insertByKey_eq]
  have hskip : firstMatch m (r :: l.dropWhile (fun b => decide ¬key r ≤ key b)) x =
      firstMatch m (l.dropWhile (fun b => decide ¬key r ≤ key b)) x := by
    simp [firstMatch, h]
  conv_rhs => rw [← List.takeWhile_append_dropWhile (p := fun b => decide ¬key r ≤ key b) (l := l)]
  simp only [firstMatch, List.find?_append] at hskip ⊢
  rw [hskip]

/-- **An inserted rule is reached** when no rule of a smaller key matches the request. -/
theorem firstMatch_insertByKey_of_match (h : m r x = true)
    (hbefore : ∀ a ∈ l, key a < key r → m a x = false) :
    firstMatch m (insertByKey key r l) x = some r := by
  rw [insertByKey_eq, firstMatch_append_of_not_match, firstMatch_cons_of_match h]
  intro a ha
  refine hbefore a (List.takeWhile_subset _ ha) ?_
  have := List.mem_takeWhile_imp ha
  simp only [not_le, decide_eq_true_eq] at this
  exact this

/-! ### Deleting a rule -/

/-- **A deleted rule decided only what it matched.** -/
theorem firstMatch_eraseKey_of_not_match {n : ℕ} (h : ∀ a ∈ l, key a = n → m a x = false) :
    firstMatch m (eraseKey key n l) x = firstMatch m l x := by
  induction l with
  | nil => rfl
  | cons a l ih =>
    have ih := ih fun b hb => h b (List.mem_cons_of_mem _ hb)
    by_cases hk : key a = n
    · have ha := h a (by simp) hk
      simp only [firstMatch, eraseKey] at ih ⊢
      rw [List.filter_cons_of_neg (by simpa using hk), List.find?_cons, ha]
      exact ih
    · simp only [firstMatch, eraseKey] at ih ⊢
      rw [List.filter_cons_of_pos (by simpa using hk), List.find?_cons, List.find?_cons, ih]

/-- **What stands behind a deleted rule decides in its place.** -/
theorem firstMatch_eraseKey_append {pre post : List R} (hl : Ascending key (pre ++ r :: post))
    (hpre : ∀ a ∈ pre, m a x = false) :
    firstMatch m (eraseKey key (key r) (pre ++ r :: post)) x = firstMatch m post x := by
  obtain ⟨hpl, hpost, hcross⟩ := List.pairwise_append.mp hl
  have hkeepPre : pre.filter (key · ≠ key r) = pre := List.filter_eq_self.mpr fun a ha => by
    have := hcross a ha r (by simp)
    simp only [ne_eq, decide_eq_true_eq]
    omega
  have hkeepPost : post.filter (key · ≠ key r) = post := List.filter_eq_self.mpr fun a ha => by
    have := (List.pairwise_cons.mp hpost).1 a ha
    simp only [ne_eq, decide_eq_true_eq]
    omega
  have herase : eraseKey key (key r) (pre ++ r :: post) = pre ++ post := by
    rw [eraseKey, List.filter_append, hkeepPre, List.filter_cons_of_neg (by simp), hkeepPost]
  rw [herase, firstMatch_append_of_not_match hpre]

/-! ### Taking an edit back -/

/-- The rules of an ascending list determine it. -/
theorem Ascending.eq_of_perm {l' : List R} (hl : Ascending key l) (hl' : Ascending key l')
    (h : l.Perm l') :
    l = l' :=
  h.eq_of_pairwise (fun _ _ _ _ hab hba => absurd hab (Nat.lt_asymm hba)) hl hl'

theorem Ascending.eraseKey (hl : Ascending key l) (n : ℕ) :
    Ascending key (FirstMatch.eraseKey key n l) :=
  hl.filter _

theorem ascending_insertByKey (hl : Ascending key l) (hr : ∀ a ∈ l, key a ≠ key r) :
    Ascending key (insertByKey key r l) := by
  have hle : (insertByKey key r l).Pairwise (key · ≤ key ·) := by
    have : Std.Total fun a b : R => key a ≤ key b := ⟨fun a b => le_total _ _⟩
    have : IsTrans R fun a b => key a ≤ key b := ⟨fun _ _ _ => le_trans⟩
    exact List.Pairwise.orderedInsert r l (hl.imp fun hlt => hlt.le)
  have hne : (insertByKey key r l).Pairwise (key · ≠ key ·) := by
    refine (List.Perm.pairwise_iff (fun h => Ne.symm h) (List.perm_orderedInsert _ r l)).mpr ?_
    exact List.pairwise_cons.mpr ⟨fun a ha => (hr a ha).symm, hl.imp fun hlt => hlt.ne⟩
  exact List.Pairwise.imp₂ (fun _ _ => lt_of_le_of_ne) hle hne

/-- A rule of a key that is free is put in its place, wherever it is put before the sort. -/
theorem sortByKey_concat (hl : Ascending key l) (hr : ∀ a ∈ l, key a ≠ key r) :
    sortByKey key (l ++ [r]) = insertByKey key r l := by
  refine Ascending.eq_of_perm (ascending_sortByKey ?_) (ascending_insertByKey hl hr) ?_
  · refine List.pairwise_append.mpr ⟨hl.imp fun hlt => hlt.ne, List.pairwise_singleton _ _,
      fun a ha b hb => ?_⟩
    rw [List.mem_singleton.mp hb]
    exact hr a ha
  · have hsort := List.perm_insertionSort (fun a b : R => key a ≤ key b) (l ++ [r])
    have hinsert := List.perm_orderedInsert (fun a b : R => key a ≤ key b) r l
    exact hsort.trans ((List.perm_append_singleton r l).trans hinsert.symm)

theorem eraseKey_eq_self {n : ℕ} (h : ∀ a ∈ l, key a ≠ n) : eraseKey key n l = l :=
  List.filter_eq_self.mpr fun a ha => by simpa using h a ha

/-- To delete a rule is to delete its key. -/
theorem filter_ne_eq_eraseKey [DecidableEq R] (hl : Ascending key l) (hr : r ∈ l) :
    l.filter (· ≠ r) = eraseKey key (key r) l := by
  refine List.filter_congr fun a ha => ?_
  have hiff : a = r ↔ key a = key r := ⟨fun h => h ▸ rfl, fun h => hl.eq_of_key_eq ha hr h⟩
  simp [hiff]

/-- **A rule that was inserted under a free key is deleted without a trace.** -/
theorem eraseKey_insertByKey (hl : Ascending key l) (hr : ∀ a ∈ l, key a ≠ key r) :
    eraseKey key (key r) (insertByKey key r l) = l := by
  refine Ascending.eq_of_perm ((ascending_insertByKey hl hr).eraseKey _) hl ?_
  have hperm : (eraseKey key (key r) (insertByKey key r l)).Perm (eraseKey key (key r) (r :: l)) :=
    (List.perm_orderedInsert _ r l).filter _
  have hcons : eraseKey key (key r) (r :: l) = l := by
    rw [eraseKey, List.filter_cons_of_neg (by simp)]
    exact eraseKey_eq_self hr
  rwa [hcons] at hperm

/-- **A rule that was deleted is inserted where it was.** -/
theorem insertByKey_eraseKey (hl : Ascending key l) (hr : r ∈ l) :
    insertByKey key r (eraseKey key (key r) l) = l := by
  have hfree : ∀ a ∈ eraseKey key (key r) l, key a ≠ key r := fun a ha => by
    simpa using (List.mem_filter.mp ha).2
  obtain ⟨pre, post, rfl⟩ := List.append_of_mem hr
  refine Ascending.eq_of_perm (ascending_insertByKey (hl.eraseKey _) hfree) hl ?_
  have hpre : eraseKey key (key r) (pre ++ r :: post) = pre ++ post := by
    obtain ⟨-, hpost, hcross⟩ := List.pairwise_append.mp hl
    have hleft : eraseKey key (key r) pre = pre :=
      eraseKey_eq_self fun a ha => (hcross a ha r List.mem_cons_self).ne
    have hright : eraseKey key (key r) post = post :=
      eraseKey_eq_self fun a ha => ((List.pairwise_cons.mp hpost).1 a ha).ne'
    rw [eraseKey] at hleft hright ⊢
    rw [List.filter_append, List.filter_cons_of_neg (by simp), hleft, hright]
  rw [hpre]
  exact (List.perm_orderedInsert _ r _).trans List.perm_middle.symm

end FirstMatch

end Rerouter
