import Mathlib.Data.List.Infix
import Mathlib.Tactic.Common

/-!
# Answers that come in pieces

A reader that is not told how long an answer is puts pieces together until what it has looks
complete. It looks behind some of the pieces, and where no more of them come it keeps what it has
(`Rerouter.Framing.gather`). Nothing is lost in this, since what is not read stays in front of the
next answer (`Rerouter.Framing.gather_append`), but what a read returns may depend on where the
answer was cut.

It does not exactly where no proper beginning of the answer looks complete
(`Rerouter.Framing.gather_eq_iff`). Then a read takes the answer and all of it, and the next read
starts at the next answer (`Rerouter.Framing.gather_of_uncut`).
-/

namespace Rerouter

namespace Framing

variable {α : Type*}

/-- A piece of an answer, and whether the reader looks at what it has behind it. -/
structure Piece (α : Type*) where
  text : List α
  looked : Bool

/-- What pieces are put together to. -/
def joined (pieces : List (Piece α)) : List α := pieces.flatMap Piece.text

/-- Put pieces together until they look complete: what was read, and the pieces behind it. -/
def gather (done : List α → Bool) (buf : List α) : List (Piece α) → List α × List (Piece α)
  | [] => (buf, [])
  | piece :: pieces =>
    if piece.looked && done (buf ++ piece.text) then (buf ++ piece.text, pieces)
    else gather done (buf ++ piece.text) pieces

/-- No proper beginning of an answer looks complete. -/
def Uncut (done : List α → Bool) (s : List α) : Prop := ∀ p, p <+: s → p ≠ s → done p = false

variable {done : List α → Bool} {buf s : List α} {pieces : List (Piece α)}

@[simp] theorem joined_nil : joined ([] : List (Piece α)) = [] := rfl

@[simp] theorem joined_cons (piece : Piece α) (pieces : List (Piece α)) :
    joined (piece :: pieces) = piece.text ++ joined pieces := List.flatMap_cons

@[simp] theorem joined_append (front back : List (Piece α)) :
    joined (front ++ back) = joined front ++ joined back := List.flatMap_append

/-- **Nothing is lost**: what is read and what is left are what came. -/
theorem gather_append (done : List α → Bool) (buf : List α) (pieces : List (Piece α)) :
    (gather done buf pieces).1 ++ joined (gather done buf pieces).2 = buf ++ joined pieces := by
  induction pieces generalizing buf with
  | nil => rfl
  | cons piece pieces ih =>
    rw [gather]
    split_ifs
    · rw [joined_cons, List.append_assoc]
    · rw [ih, joined_cons, List.append_assoc]

/-- **An answer is read whole**, where no proper beginning of it looks complete. -/
theorem gather_fst_of_uncut (hs : Uncut done s) (h : buf ++ joined pieces = s) :
    (gather done buf pieces).1 = s := by
  induction pieces generalizing buf with
  | nil => rw [gather, ← h, joined_nil, List.append_nil]
  | cons piece pieces ih =>
    rw [joined_cons, ← List.append_assoc] at h
    rw [gather]
    split_ifs with hlook
    · by_contra hne
      have hnot := hs (buf ++ piece.text) ⟨joined pieces, h⟩ hne
      rw [hnot, Bool.and_false] at hlook
      cases hlook
    · exact ih h

/-- **The rule for a read**: behind pieces without text, an answer is read whole, and behind it
there are pieces without text again. -/
theorem gather_of_uncut (hs : Uncut done s) (h : joined pieces = s) :
    (gather done [] pieces).1 = s ∧ joined (gather done [] pieces).2 = [] := by
  have hfst := gather_fst_of_uncut hs (show [] ++ joined pieces = s from h)
  refine ⟨hfst, ?_⟩
  have hall := gather_append done [] pieces
  rw [hfst, List.nil_append, h] at hall
  exact List.append_right_eq_self.mp hall

/-- **A beginning that looks complete is read for the answer**, where the answer is cut behind
it. -/
theorem gather_cut {p : List α} (hp : done p = true) (rest : List α) :
    gather done [] [⟨p, true⟩, ⟨rest, true⟩] = (p, [⟨rest, true⟩]) := by
  rw [gather, List.nil_append, Bool.true_and, if_pos hp]

/-- **Where an answer is cut makes no difference exactly where no proper beginning of it looks
complete.** -/
theorem gather_eq_iff (done : List α → Bool) (s : List α) :
    (∀ pieces, joined pieces = s → (gather done [] pieces).1 = s) ↔ Uncut done s := by
  constructor
  · rintro hall p ⟨rest, rfl⟩ hne
    by_contra hdone
    have hcut := hall [⟨p, true⟩, ⟨rest, true⟩] (by simp)
    rw [gather_cut (by simpa using hdone)] at hcut
    exact hne hcut
  · intro hs pieces h
    exact (gather_of_uncut hs h).1

end Framing

end Rerouter
