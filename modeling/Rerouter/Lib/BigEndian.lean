import Mathlib.Algebra.Group.Nat.Defs
import Mathlib.Data.List.Induction
import Mathlib.Tactic.Common

/-!
# Numbers as bytes

A number in `n` bytes, the most significant first (`Rerouter.BigEndian.bytes`), and the number
that some bytes are (`Rerouter.BigEndian.value`). Bytes hold a number modulo `256 ^ n`, and the
last `m` of them hold it modulo `256 ^ m`. The two are inverse to each other on `n` bytes
(`Rerouter.BigEndian.bytes_eq_iff`). A number at an offset of some bytes is a
`Rerouter.BigEndian.field` of them.
-/

namespace Rerouter.BigEndian

/-- The number that some bytes are. -/
def value (bytes : List UInt8) : ℕ := bytes.foldl (fun v b => v * 256 + b.toNat) 0

/-- A number in `n` bytes. -/
def bytes : ℕ → ℕ → List UInt8
  | 0, _ => []
  | n + 1, v => bytes n (v / 256) ++ [UInt8.ofNat v]

variable {n v : ℕ}

@[simp] theorem length_bytes (n v : ℕ) : (bytes n v).length = n := by
  induction n generalizing v with
  | zero => rfl
  | succ n ih => simp [bytes, ih]

theorem value_concat (bs : List UInt8) (b : UInt8) :
    value (bs ++ [b]) = value bs * 256 + b.toNat := by
  simp [value]

/-- **Bytes hold a number modulo the power of their number.** -/
theorem value_bytes (n v : ℕ) : value (bytes n v) = v % 256 ^ n := by
  induction n generalizing v with
  | zero => simp [bytes, value, Nat.mod_one]
  | succ n ih =>
    have hlast : (UInt8.ofNat v).toNat = v % 256 := by simp
    rw [bytes, value_concat, ih, hlast, Nat.pow_succ, Nat.mul_comm (256 ^ n), Nat.mod_mul]
    omega

theorem value_bytes_of_lt (h : v < 256 ^ n) : value (bytes n v) = v := by
  rw [value_bytes, Nat.mod_eq_of_lt h]

/-- The last bytes of a number are the number in fewer bytes. -/
theorem drop_bytes (k m v : ℕ) : (bytes (k + m) v).drop k = bytes m v := by
  induction m generalizing v with
  | zero => simp [bytes]
  | succ m ih =>
    rw [← Nat.add_assoc, bytes, List.drop_append_of_le_length (by simp), ih, bytes]

theorem value_lt (bs : List UInt8) : value bs < 256 ^ bs.length := by
  induction bs using List.reverseRecOn with
  | nil => simp [value]
  | append_singleton bs b ih =>
    have hb : b.toNat < 256 := b.toNat_lt
    rw [value_concat, List.length_append, List.length_singleton, Nat.pow_succ]
    omega

/-- Bytes are the bytes of the number that they are. -/
theorem bytes_value (bs : List UInt8) : bytes bs.length (value bs) = bs := by
  induction bs using List.reverseRecOn with
  | nil => rfl
  | append_singleton bs b ih =>
    have hb : b.toNat < 256 := b.toNat_lt
    have hdiv : (value bs * 256 + b.toNat) / 256 = value bs := by omega
    have hlast : UInt8.ofNat (value bs * 256 + b.toNat) = b := by
      apply UInt8.toNat_inj.mp
      rw [UInt8.toNat_ofNat']
      omega
    rw [List.length_append, List.length_singleton, value_concat, bytes, hdiv, hlast, ih]

/-- **A number that fits and its bytes determine each other.** -/
theorem bytes_eq_iff {bs : List UInt8} :
    (bs.length = n ∧ value bs = v) ↔ v < 256 ^ n ∧ bs = bytes n v := by
  constructor
  · rintro ⟨rfl, rfl⟩
    exact ⟨value_lt bs, (bytes_value bs).symm⟩
  · rintro ⟨hv, rfl⟩
    exact ⟨length_bytes n v, value_bytes_of_lt hv⟩

/-- The number in the `n` bytes from an offset on. -/
def field (bs : List UInt8) (off n : ℕ) : ℕ := value ((bs.drop off).take n)

/-- A field behind some bytes is a field of the whole. -/
theorem field_drop (bs : List UInt8) (start off n : ℕ) :
    field (bs.drop start) off n = field bs (start + off) n := by
  rw [field, field, List.drop_drop]

end Rerouter.BigEndian
