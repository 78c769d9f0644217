import Mathlib.Data.List.Chain

/-!
# Streaks

A sequence of observations, each of which is a hit, breaks the run of hits, or is none of its
own. What counts at the end is the run of hits behind the last break
(`Rerouter.Streak.current`); a hit that does not follow the one before it starts a run of its
own. The run can be kept up one observation at a time, and it is what it should be
(`Rerouter.Streak.unbroken_current`): hits that follow one another, with nothing between them
that breaks the run.
-/

namespace Rerouter

namespace Streak

variable {α : Type*}

/-- What an observation is to a run of hits. -/
inductive Mark (α : Type*) where
  | skip
  | hit (a : α)
  | broken
deriving DecidableEq

/-- The hit, if it is one. -/
def Mark.hit? : Mark α → Option α
  | .hit a => some a
  | _ => none

section Machine

variable (follows : α → α → Prop) [DecidableRel follows]

/-- The run with one more hit. -/
def extend (run : List α) (a : α) : List α :=
  if ∀ b ∈ run.getLast?, follows b a then run ++ [a] else [a]

/-- The run after one more observation. -/
def advance (run : List α) : Mark α → List α
  | .skip => run
  | .hit a => extend follows run a
  | .broken => []

/-- The run at the end. -/
def current (marks : List (Mark α)) : List α := marks.foldl (advance follows) []

end Machine

/-- The hits of `run` follow one another, and they are all that `marks` ends in: nothing breaks
the run. -/
structure Unbroken (follows : α → α → Prop) (marks : List (Mark α)) (run : List α) : Prop where
  chain : run.IsChain follows
  trailing : ∃ earlier streak, marks = earlier ++ streak ∧ Mark.broken ∉ streak ∧
    streak.filterMap Mark.hit? = run

variable {follows : α → α → Prop} [DecidableRel follows] {marks : List (Mark α)} {run : List α}

@[simp] theorem current_nil : current follows [] = [] := rfl

@[simp] theorem current_concat (marks : List (Mark α)) (m : Mark α) :
    current follows (marks ++ [m]) = advance follows (current follows marks) m := by
  rw [current, List.foldl_append]
  rfl

@[simp] theorem getLast?_extend (run : List α) (a : α) :
    (extend follows run a).getLast? = some a := by
  unfold extend
  split_ifs <;> simp

/-- A hit that follows the last one is one more. -/
theorem extend_of_follows {a : α} (h : ∀ b ∈ run.getLast?, follows b a) :
    extend follows run a = run ++ [a] := if_pos h

omit [DecidableRel follows] in
/-- What is no observation of its own changes nothing. -/
theorem Unbroken.skip (h : Unbroken follows marks run) :
    Unbroken follows (marks ++ [.skip]) run := by
  obtain ⟨earlier, streak, rfl, hbroken, hrun⟩ := h.trailing
  refine ⟨h.chain, earlier, streak ++ [.skip], by simp, by simpa using hbroken, ?_⟩
  simp [List.filterMap_append, hrun, Mark.hit?]

theorem Unbroken.hit (h : Unbroken follows marks run) (a : α) :
    Unbroken follows (marks ++ [.hit a]) (extend follows run a) := by
  unfold extend
  split_ifs with hfollows
  · obtain ⟨earlier, streak, rfl, hbroken, hrun⟩ := h.trailing
    refine ⟨?_, earlier, streak ++ [.hit a], by simp, by simpa using hbroken, ?_⟩
    · refine h.chain.append (List.isChain_singleton a) fun b hb c hc => ?_
      obtain rfl : a = c := by simpa using hc
      exact hfollows b hb
    · simp [List.filterMap_append, hrun, Mark.hit?]
  -- A hit that does not follow starts a run of its own.
  · exact ⟨List.isChain_singleton a, marks, [.hit a], rfl, by simp, rfl⟩

/-- **The run is what it should be.** -/
theorem unbroken_current (marks : List (Mark α)) :
    Unbroken follows marks (current follows marks) := by
  induction marks using List.reverseRecOn with
  | nil => exact ⟨List.isChain_nil, [], [], rfl, by simp, rfl⟩
  | append_singleton marks m ih =>
    rw [current_concat]
    cases m with
    | skip => exact ih.skip
    | hit a => exact ih.hit a
    | broken => exact ⟨List.isChain_nil, marks ++ [.broken], [], by simp, by simp, rfl⟩

omit [DecidableRel follows] in
/-- No run reaches over a break. -/
theorem Unbroken.length_le {earlier later : List (Mark α)}
    (h : Unbroken follows (earlier ++ .broken :: later) run) : run.length ≤ later.length := by
  obtain ⟨before, streak, hmarks, hbroken, rfl⟩ := h.trailing
  refine (List.length_filterMap_le _ _).trans ?_
  by_contra hlong
  have hsuffix : (Mark.broken :: later) <:+ streak := by
    refine List.suffix_of_suffix_length_le (List.suffix_append earlier _) ?_ (by simp; omega)
    exact hmarks ▸ List.suffix_append before streak
  exact hbroken (hsuffix.subset (by simp))

end Streak

end Rerouter
