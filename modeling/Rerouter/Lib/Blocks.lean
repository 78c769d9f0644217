import Mathlib.Data.BitVec
import Mathlib.Data.Set.Basic
import Mathlib.Tactic.Common

/-!
# Blocks of addresses

The addresses that have their first `n` bits in common with a given one (`Rerouter.Blocks.block`). A
mask with `n` leading ones cuts an address to these bits, so two addresses lie in one block exactly
when the mask makes them equal (`Rerouter.Blocks.and_mask_eq_iff`). Of two blocks either one holds
the other or they have nothing in common, and the lengths decide which holds which
(`Rerouter.Blocks.block_subset_iff`).

A shift by the width or more is no shift: `Rerouter.Blocks.checkedShl` says so.
-/

namespace Rerouter

namespace Blocks

variable {w n m : ℕ} {a b c x y : BitVec w}

/-- Two addresses have their first `n` bits in common. -/
def Agree (n : ℕ) (x y : BitVec w) : Prop := ∀ i < n, x.getMsbD i = y.getMsbD i

/-- The addresses that have their first `n` bits in common with `a`. -/
def block (n : ℕ) (a : BitVec w) : Set (BitVec w) := {x | Agree n x a}

/-- A mask of `n` leading ones. -/
def mask (w n : ℕ) : BitVec w := if n = 0 then 0 else BitVec.allOnes w <<< (w - n)

/-- A shift, unless it is by the width or more. -/
def checkedShl (x : BitVec w) (s : ℕ) : Option (BitVec w) := if s < w then some (x <<< s) else none

theorem checkedShl_of_lt {s : ℕ} (h : s < w) : checkedShl x s = some (x <<< s) := if_pos h

/-! ### Agreement -/

theorem Agree.refl (n : ℕ) (x : BitVec w) : Agree n x x := fun _ _ => rfl

theorem Agree.symm (h : Agree n x y) : Agree n y x := fun i hi => (h i hi).symm

theorem Agree.trans (h : Agree n x y) (h' : Agree n y c) : Agree n x c :=
  fun i hi => (h i hi).trans (h' i hi)

theorem Agree.mono (h : Agree n x y) (hm : m ≤ n) : Agree m x y := fun i hi => h i (hi.trans_le hm)

/-- The bits of a mask. -/
theorem getMsbD_mask (hn : n ≤ w) (i : ℕ) : (mask w n).getMsbD i = decide (i < n) := by
  unfold mask
  split_ifs with hzero
  · subst hzero
    simp
  · rw [BitVec.getMsbD_shiftLeft, BitVec.getMsbD_allOnes]
    exact decide_eq_decide.mpr (by omega)

/-- **A mask makes two addresses equal that agree.** -/
theorem and_mask_eq_iff (hn : n ≤ w) : x &&& mask w n = y &&& mask w n ↔ Agree n x y := by
  constructor
  · intro h i hi
    have hbit := congrArg (BitVec.getMsbD · i) h
    simpa [BitVec.getMsbD_and, getMsbD_mask hn, hi] using hbit
  · intro h
    refine BitVec.eq_of_getMsbD_eq fun i _ => ?_
    rw [BitVec.getMsbD_and, BitVec.getMsbD_and, getMsbD_mask hn]
    by_cases hi : i < n
    · rw [h i hi]
    · simp [hi]

theorem agree_and_mask (hn : n ≤ w) (x : BitVec w) : Agree n (x &&& mask w n) x := by
  rw [← and_mask_eq_iff hn, BitVec.and_assoc, BitVec.and_self]

/-! ### Blocks -/

theorem mem_block_self (n : ℕ) (a : BitVec w) : a ∈ block n a := Agree.refl n a

theorem block_eq_of_agree (h : Agree n a b) : block n a = block n b := by
  ext x
  exact ⟨fun hx => Agree.trans hx h, fun hx => Agree.trans hx h.symm⟩

/-- A cut address has the block of the whole one. -/
theorem block_and_mask (hn : n ≤ w) (a : BitVec w) : block n (a &&& mask w n) = block n a :=
  block_eq_of_agree (agree_and_mask hn a)

/-- A block of the whole width has one address. -/
theorem block_width (a : BitVec w) : block w a = {a} := by
  ext x
  rw [Set.mem_singleton_iff]
  exact ⟨fun hx => BitVec.eq_of_getMsbD_eq hx, fun hx => hx ▸ mem_block_self w x⟩

/-- A longer block has an address that a shorter one does not have at its next bit. -/
theorem exists_mem_block_flip (hm : m < w) (a : BitVec w) :
    ∃ x ∈ block m a, x.getMsbD m ≠ a.getMsbD m := by
  refine ⟨a ^^^ BitVec.twoPow w (w - 1 - m), fun i hi => ?_, ?_⟩
  · have hne : decide (i = w - (w - 1 - m) - 1) = false := decide_eq_false (by omega)
    rw [BitVec.getMsbD_xor, BitVec.getMsbD_twoPow, hne, Bool.and_false, Bool.xor_false]
  · have heq : decide (m = w - (w - 1 - m) - 1) = true := decide_eq_true (by omega)
    have hlt : decide (w - 1 - m < w) = true := decide_eq_true (by omega)
    rw [BitVec.getMsbD_xor, BitVec.getMsbD_twoPow, heq, hlt, Bool.and_true, Bool.xor_true]
    exact Bool.not_ne_self _

/-- **A block holds another if it is no longer, and their first bits agree.** -/
theorem block_subset_iff (hn : n ≤ w) : block m c ⊆ block n a ↔ n ≤ m ∧ Agree n c a := by
  constructor
  · intro h
    have hmem : Agree n c a := h (mem_block_self m c)
    refine ⟨not_lt.mp fun hlt => ?_, hmem⟩
    -- An address that leaves `c` right behind its length leaves `a` too.
    obtain ⟨x, hx, hflip⟩ := exists_mem_block_flip (hlt.trans_le hn) c
    exact hflip ((h hx m hlt).trans (hmem m hlt).symm)
  · rintro ⟨hle, hagree⟩ x hx
    exact (Agree.mono hx hle).trans hagree

/-- Blocks with the same addresses have the same length and the same first bits. -/
theorem block_eq_iff (hn : n ≤ w) (hm : m ≤ w) : block m c = block n a ↔ m = n ∧ Agree n c a := by
  constructor
  · intro h
    obtain ⟨hle, hagree⟩ := (block_subset_iff hn).mp h.le
    exact ⟨le_antisymm ((block_subset_iff hm).mp h.ge).1 hle, hagree⟩
  · rintro ⟨rfl, hagree⟩
    exact block_eq_of_agree hagree

end Blocks

end Rerouter
