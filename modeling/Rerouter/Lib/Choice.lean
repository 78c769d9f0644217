import Mathlib.Data.Set.Lattice
import Mathlib.Tactic.Common

/-!
# One answer of each group

Several groups are asked, and each of them has options to answer from: a value, or nothing. What
comes of it, for a choice of one option for each group, is the set of the values that were answered
(`Rerouter.Choice.answers`). A reader that accepts a value only if no other one was answered
(`Rerouter.Choice.Sole`), and reports a conflict otherwise (`Rerouter.Choice.Torn`), does not depend
on the choice exactly if the options are *settled* (`Rerouter.Choice.settled_iff`): whenever the
groups can agree on at most one value, they have no other one to answer, and either no group can
answer it or some group has to.
-/

namespace Rerouter

namespace Choice

variable {G V : Type*}

/-- The one member of a set. -/
def Sole (K : Set V) (v : V) : Prop := v ∈ K ∧ ∀ w ∈ K, w = v

/-- A set with two members. -/
def Torn (K : Set V) : Prop := ∃ v ∈ K, ∃ w ∈ K, v ≠ w

/-- What is answered, if every group takes the option chosen for it. -/
def answers (groups : Set G) (f : G → Option V) : Set V := {v | ∃ g ∈ groups, f g = some v}

/-- The choice is one of the options of every group. -/
def Chosen (groups : Set G) (options : G → Set (Option V)) (f : G → Option V) : Prop :=
  ∀ g ∈ groups, f g ∈ options g

/-- **Settled options**: where the groups can answer with `v` or nothing, `v` is all they have, and
either none of them can answer it, or one of them has no other option. -/
def Settled (groups : Set G) (options : G → Set (Option V)) : Prop :=
  ∀ v, (∀ g ∈ groups, none ∈ options g ∨ some v ∈ options g) →
    (∀ g ∈ groups, ∀ w, some w ∈ options g → w = v) ∧
      ((∀ g ∈ groups, ∀ o ∈ options g, o = none) ∨ ∃ g ∈ groups, ∀ o ∈ options g, o = some v)

variable {K : Set V} {v w : V} {groups : Set G} {options : G → Set (Option V)} {f f' : G → Option V}

theorem Sole.not_torn (h : Sole K v) : ¬Torn K := by
  rintro ⟨a, ha, b, hb, hab⟩
  exact hab ((h.2 a ha).trans (h.2 b hb).symm)

theorem sole_of_not_torn (h : ¬Torn K) (hv : v ∈ K) : Sole K v := by
  refine ⟨hv, fun w hw => ?_⟩
  by_contra hne
  exact h ⟨w, hw, v, hv, hne⟩

theorem not_torn_of_subset (h : K ⊆ {v}) : ¬Torn K := by
  rintro ⟨a, ha, b, hb, hab⟩
  exact hab ((h ha).trans (h hb).symm)

/-- **Of settled options, a choice without a conflict has the answers of every choice.** -/
theorem Settled.answers_eq (h : Settled groups options) (hf : Chosen groups options f)
    (hf' : Chosen groups options f') (htorn : ¬Torn (answers groups f)) :
    answers groups f = answers groups f' := by
  -- The value the choice agrees on, if it has one; any value is as good otherwise.
  have hagree : ∀ v, (∀ u ∈ answers groups f, u = v) → ∀ g ∈ groups, none ∈ options g ∨
    some v ∈ options g := by
    intro v hall g hg
    have hmem := hf g hg
    cases hfg : f g with
    | none => exact Or.inl (hfg ▸ hmem)
    | some u =>
      have hu : u = v := hall u ⟨g, hg, hfg⟩
      exact Or.inr (by rwa [hfg, hu] at hmem)
  rcases Set.eq_empty_or_nonempty (answers groups f) with hempty | ⟨v, hv⟩
  · rw [hempty]
    refine (Set.eq_empty_of_forall_notMem ?_).symm
    rintro w ⟨g, hg, hw⟩
    obtain ⟨-, hnone | ⟨g', hg', hsome⟩⟩ :=
      h w (hagree w fun u hu => by rw [hempty] at hu; exact hu.elim)
    · rw [hnone g hg _ (hf' g hg)] at hw
      cases hw
    · have hanswer : w ∈ answers groups f := ⟨g', hg', hsome _ (hf g' hg')⟩
      rw [hempty] at hanswer
      exact hanswer.elim
  · have hsole := sole_of_not_torn htorn hv
    obtain ⟨hall, hcases⟩ := h v (hagree v hsole.2)
    have hforced : ∃ g ∈ groups, ∀ o ∈ options g, o = some v := by
      refine hcases.resolve_left fun hnone => ?_
      obtain ⟨g, hg, hfg⟩ := hv
      rw [hnone g hg _ (hf g hg)] at hfg
      cases hfg
    obtain ⟨g, hg, hforced⟩ := hforced
    ext w
    constructor
    · intro hw
      rw [hsole.2 w hw]
      exact ⟨g, hg, hforced _ (hf' g hg)⟩
    · rintro ⟨g', hg', hw⟩
      have hmem := hf' g' hg'
      rw [hw] at hmem
      rw [hall g' hg' w hmem]
      exact hv

theorem Chosen.update [DecidableEq G] (hf : Chosen groups options f) {g : G} {o : Option V}
    (ho : o ∈ options g) :
    Chosen groups options (Function.update f g o) := by
  intro g' hg'
  by_cases heq : g' = g
  · obtain rfl := heq
    rwa [Function.update_self]
  · rw [Function.update_of_ne heq]
    exact hf g' hg'

/-- **Of settled options, a choice without a conflict has every value a group can answer.** -/
theorem Settled.mem_answers (h : Settled groups options) (hf : Chosen groups options f)
    (htorn : ¬Torn (answers groups f)) {g : G} (hg : g ∈ groups) (hw : some w ∈ options g) :
    w ∈ answers groups f := by
  classical
  rw [h.answers_eq hf (hf.update hw) htorn]
  exact ⟨g, hg, Function.update_self ..⟩

/-- **What is accepted does not depend on the choice exactly if the options are settled.** -/
theorem settled_iff : Settled groups options ↔
    ∀ f f', Chosen groups options f → Chosen groups options f' →
      (∀ v, Sole (answers groups f) v ↔ Sole (answers groups f') v) ∧
        (Torn (answers groups f) ↔ Torn (answers groups f')) := by
  classical
  constructor
  · intro h f f' hf hf'
    by_cases htorn : Torn (answers groups f)
    · by_cases htorn' : Torn (answers groups f')
      · exact ⟨fun v => iff_of_false (fun hs => hs.not_torn htorn) fun hs => hs.not_torn htorn',
          iff_of_true htorn htorn'⟩
      · rw [h.answers_eq hf' hf htorn']
        exact ⟨fun _ => Iff.rfl, Iff.rfl⟩
    · rw [h.answers_eq hf hf' htorn]
      exact ⟨fun _ => Iff.rfl, Iff.rfl⟩
  · intro h v hagree
    -- The choice that answers at most `v`, and the one that answers `w` besides.
    let f : G → Option V := fun g => if none ∈ options g then none else some v
    have hf : Chosen groups options f := by
      intro g hg
      simp only [f]
      split_ifs with hnone
      · exact hnone
      · exact (hagree g hg).resolve_left hnone
    have hsub : answers groups f ⊆ {v} := by
      rintro u ⟨g, hg, hu⟩
      simp only [f] at hu
      split_ifs at hu
      exact (Option.some.inj hu).symm
    have hother : ∀ f' : G → Option V, ∀ g ∈ groups, ∀ w,
        Sole (answers groups (Function.update f' g (some w))) w ∨
          Torn (answers groups (Function.update f' g (some w))) := by
      intro f' g hg w
      by_cases htorn : Torn (answers groups (Function.update f' g (some w)))
      · exact Or.inr htorn
      · exact Or.inl (sole_of_not_torn htorn ⟨g, hg, Function.update_self ..⟩)
    have hall : ∀ g ∈ groups, ∀ w, some w ∈ options g → w = v := by
      intro g hg w hw
      obtain ⟨hsole, htorn⟩ := h f _ hf (hf.update hw)
      rcases hother f g hg w with hs | ht
      · exact hsub ((hsole w).mpr hs).1
      · exact absurd (htorn.mpr ht) (not_torn_of_subset hsub)
    refine ⟨hall, ?_⟩
    by_contra hcases
    obtain ⟨hsome, hfree⟩ := not_or.mp hcases
    push Not at hsome hfree
    obtain ⟨g, hg, o, ho, hne'⟩ := hsome
    obtain ⟨w, rfl⟩ := Option.ne_none_iff_exists'.mp hne'
    have hnone : ∀ g ∈ groups, none ∈ options g := by
      intro g hg
      obtain ⟨o, ho, hov⟩ := hfree g hg
      cases o with
      | none => exact ho
      | some u => exact absurd (congrArg some (hall g hg u ho)) hov
    have hempty : answers groups (fun _ => (none : Option V)) = ∅ :=
      Set.eq_empty_of_forall_notMem fun u ⟨g, _, hu⟩ => by cases hu
    obtain ⟨hsole, htorn⟩ := h _ _ hnone (Chosen.update hnone ho)
    rcases hother _ g hg w with hs | ht
    · exact hempty.subset ((hsole w).mpr hs).1
    · obtain ⟨u, hu, -⟩ := htorn.mpr ht
      exact hempty.subset hu

end Choice

end Rerouter
