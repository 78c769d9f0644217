import Mathlib.Data.List.Nodup
import Mathlib.Logic.Function.Basic

/-!
# Tokens that are spent once

A token is stored, in the hand of one of several parties, or spent. Parties take stored tokens, give
them up, and spend them, in any order, and the stored ones may be replaced. As long as what is put
in store was never known before, a token is in one place only (`Rerouter.Tokens.Apart`), and so no
token is spent twice.
-/

namespace Rerouter

namespace Tokens

variable {ι τ : Type*}

/-- **Every token is in one place**, and all of them are known. -/
structure Apart (known : τ → Prop) (stored : List τ) (hand : ι → Option τ)
    (spent : List τ) : Prop where
  stored_nodup : stored.Nodup
  spent_nodup : spent.Nodup
  disjoint : ∀ t ∈ stored, t ∉ spent
  inHand : ∀ i, ∀ t ∈ hand i, t ∉ stored ∧ t ∉ spent
  alone : ∀ i j, ∀ t ∈ hand i, t ∈ hand j → i = j
  stored_known : ∀ t ∈ stored, known t
  spent_known : ∀ t ∈ spent, known t
  hand_known : ∀ i, ∀ t ∈ hand i, known t

variable {known known' : τ → Prop} {stored : List τ} {hand : ι → Option τ} {spent : List τ}

/-- Before anything is put in store. -/
theorem apart_nil : Apart known [] (fun _ : ι => none) [] where
  stored_nodup := .nil
  spent_nodup := .nil
  disjoint := fun _ h => absurd h List.not_mem_nil
  inHand := nofun
  alone := nofun
  stored_known := fun _ h => absurd h List.not_mem_nil
  spent_known := fun _ h => absurd h List.not_mem_nil
  hand_known := nofun

/-- More tokens are known. -/
theorem Apart.mono (h : Apart known stored hand spent) (hknown : ∀ t, known t → known' t) :
    Apart known' stored hand spent :=
  { h with
    stored_known := fun t ht => hknown t (h.stored_known t ht)
    spent_known := fun t ht => hknown t (h.spent_known t ht)
    hand_known := fun i t ht => hknown t (h.hand_known i t ht) }

/-- The stored tokens are replaced by new ones. -/
theorem Apart.issue (h : Apart known stored hand spent) (hknown : ∀ t, known t → known' t)
    {new : List τ}
    (hnodup : new.Nodup) (hnew : ∀ t ∈ new, ¬known t) (hall : ∀ t ∈ new, known' t) :
    Apart known' new hand spent where
  stored_nodup := hnodup
  spent_nodup := h.spent_nodup
  disjoint := fun t ht hspent => hnew t ht (h.spent_known t hspent)
  inHand := fun i t ht => ⟨fun hmem => hnew t hmem (h.hand_known i t ht), (h.inHand i t ht).2⟩
  alone := h.alone
  stored_known := hall
  spent_known := fun t ht => hknown t (h.spent_known t ht)
  hand_known := fun i t ht => hknown t (h.hand_known i t ht)

variable [DecidableEq ι] {i : ι} {t : τ}

/-- A hand holds what it held before, or what was put into it. -/
theorem mem_update {moved : Option τ} {j : ι} (h : t ∈ Function.update hand i moved j) :
    j = i ∧ t ∈ moved ∨ j ≠ i ∧ t ∈ hand j := by
  by_cases hj : j = i
  · subst hj
    rw [Function.update_self] at h
    exact .inl ⟨rfl, h⟩
  · rw [Function.update_of_ne hj] at h
    exact .inr ⟨hj, h⟩

/-- A party gives up what it has. -/
theorem Apart.drop (h : Apart known stored hand spent) (i : ι) :
    Apart known stored (Function.update hand i none) spent := by
  have hsub (j : ι) (t : τ) (ht : t ∈ Function.update hand i none j) : t ∈ hand j := by
    obtain ⟨-, hnone⟩ | ⟨-, hmem⟩ := mem_update ht
    · exact absurd hnone (Option.not_mem_none t)
    · exact hmem
  exact { h with
    inHand := fun j t ht => h.inHand j t (hsub j t ht)
    alone := fun j k t hj hk => h.alone j k t (hsub j t hj) (hsub k t hk)
    hand_known := fun j t ht => h.hand_known j t (hsub j t ht) }

/-- A party takes a token. -/
theorem Apart.take [DecidableEq τ] (h : Apart known stored hand spent) (i : ι) (ht : t ∈ stored) :
    Apart known (stored.erase t) (Function.update hand i (some t)) spent where
  stored_nodup := h.stored_nodup.erase t
  spent_nodup := h.spent_nodup
  disjoint := fun u hu => h.disjoint u (List.mem_of_mem_erase hu)
  inHand := by
    intro j u hu
    obtain ⟨-, hsome⟩ | ⟨-, hmem⟩ := mem_update hu
    · obtain rfl := Option.mem_some_iff.mp hsome
      exact ⟨h.stored_nodup.not_mem_erase, h.disjoint _ ht⟩
    · exact ⟨fun herase => (h.inHand j u hmem).1 (List.mem_of_mem_erase herase),
        (h.inHand j u hmem).2⟩
  alone := by
    intro j k u hj hk
    -- What one party takes from the store, no other has.
    have hother {j : ι} (hmem : t ∈ hand j) : False := (h.inHand j t hmem).1 ht
    obtain ⟨heqj, hj⟩ | ⟨-, hj⟩ := mem_update hj
    · obtain rfl := Option.mem_some_iff.mp hj
      obtain ⟨heqk, -⟩ | ⟨-, hk⟩ := mem_update hk
      · exact heqj.trans heqk.symm
      · exact (hother hk).elim
    · obtain ⟨-, hk⟩ | ⟨-, hk⟩ := mem_update hk
      · obtain rfl := Option.mem_some_iff.mp hk
        exact (hother hj).elim
      · exact h.alone j k u hj hk
  stored_known := fun u hu => h.stored_known u (List.mem_of_mem_erase hu)
  spent_known := h.spent_known
  hand_known := by
    intro j u hu
    obtain ⟨-, hsome⟩ | ⟨-, hmem⟩ := mem_update hu
    · exact Option.mem_some_iff.mp hsome ▸ h.stored_known t ht
    · exact h.hand_known j u hmem

/-- **A party spends what it has.** -/
theorem Apart.spend (h : Apart known stored hand spent) (i : ι) :
    Apart known stored (Function.update hand i none) (spent ++ (hand i).toList) := by
  cases hi : hand i with
  | none =>
    rw [Option.toList_none, List.append_nil]
    exact h.drop i
  | some t =>
    rw [Option.toList_some]
    have ht := h.inHand i t hi
    refine { h.drop i with spent_nodup := ?_, disjoint := ?_, inHand := ?_, spent_known := ?_ }
    · exact List.Nodup.append h.spent_nodup (List.nodup_singleton t)
        (List.disjoint_singleton.mpr ht.2)
    · intro u hu hmem
      rcases List.mem_append.mp hmem with hmem | hmem
      · exact h.disjoint u hu hmem
      · exact ht.1 (List.mem_singleton.mp hmem ▸ hu)
    · intro j u hu
      obtain ⟨-, hnone⟩ | ⟨hj, hu⟩ := mem_update hu
      · exact absurd hnone (Option.not_mem_none u)
      refine ⟨(h.inHand j u hu).1, fun hmem => ?_⟩
      rcases List.mem_append.mp hmem with hmem | hmem
      · exact (h.inHand j u hu).2 hmem
      · obtain rfl := List.mem_singleton.mp hmem
        exact hj (h.alone j i u hu hi)
    · intro u hmem
      rcases List.mem_append.mp hmem with hmem | hmem
      · exact h.spent_known u hmem
      · exact List.mem_singleton.mp hmem ▸ h.hand_known i t hi

end Tokens

end Rerouter
