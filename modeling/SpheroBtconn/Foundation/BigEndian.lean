import Mathlib.Algebra.BigOperators.Ring.Finset
import Mathlib.Data.List.GetD
import Mathlib.Data.Nat.Digits.Lemmas
import Mathlib.Tactic.Common
import Mathlib.Tactic.Ring

/-!
# Big-endian numbers

The number that a list of bytes stands for, the most significant byte first (`value`), and the
bytes of a number in this order (`bytes`).  The digits of Mathlib begin with the least significant
one, so `value` is a number in base 256 whose digits are the bytes in reverse.

The last section is about words that are filled byte by byte from the right: putting a byte into
a word whose lowest byte is zero, and shifting a word by one byte.
-/

namespace BigEndian

/-- The number whose digits in base 256 are the bytes, the most significant one first. -/
def value (l : List UInt8) : ℕ := Nat.ofDigits 256 (l.reverse.map UInt8.toNat)

@[simp] lemma value_nil : value [] = 0 := rfl

lemma value_singleton (b : UInt8) : value [b] = b.toNat := by simp [value]

/-- A byte behind the others moves them up by one place. -/
lemma value_concat (l : List UInt8) (b : UInt8) : value (l ++ [b]) = value l * 256 + b.toNat := by
  unfold value
  rw [List.reverse_append, List.reverse_singleton, List.singleton_append, List.map_cons,
    Nat.ofDigits_cons]
  omega

/-- Bytes behind the others move them up by as many places. -/
lemma value_append (l m : List UInt8) :
    value (l ++ m) = value l * 256 ^ m.length + value m := by
  unfold value
  rw [List.reverse_append, List.map_append, Nat.ofDigits_append, List.length_map,
    List.length_reverse]
  ring

/-- Zeros behind the others only move them up. -/
lemma value_append_replicate (l : List UInt8) (k : ℕ) :
    value (l ++ List.replicate k 0) = value l * 256 ^ k := by
  induction k with
  | zero => simp
  | succ k ih =>
    rw [List.replicate_succ', ← List.append_assoc, value_concat, ih, Nat.pow_succ, Nat.mul_assoc]
    rfl

/-- Only zeros stand for zero. -/
lemma value_eq_zero_iff (l : List UInt8) : value l = 0 ↔ ∀ b ∈ l, b = 0 := by
  induction l using List.reverseRecOn with
  | nil => simp
  | append_singleton l b ih =>
    have hbyte : b.toNat = 0 ↔ b = 0 := by
      rw [← UInt8.toNat_inj]
      rfl
    rw [value_concat, Nat.add_eq_zero_iff, hbyte, Nat.mul_eq_zero, ih]
    simp [or_imp, forall_and]

/-- The value as a sum over the bytes with their place values. -/
lemma value_eq_sum (l : List UInt8) :
    value l = ∑ j ∈ Finset.range l.length, (l.getD j 0).toNat * 256 ^ (l.length - 1 - j) := by
  induction l using List.reverseRecOn with
  | nil => simp
  | append_singleton l b ih =>
    have hbefore : ∀ j ∈ Finset.range l.length,
        ((l ++ [b]).getD j 0).toNat * 256 ^ (l.length + 1 - 1 - j) =
          (l.getD j 0).toNat * 256 ^ (l.length - 1 - j) * 256 := by
      intro j hj
      have hlt := Finset.mem_range.mp hj
      have hplace : l.length + 1 - 1 - j = l.length - 1 - j + 1 := by omega
      rw [List.getD_append _ _ _ _ hlt, hplace, Nat.pow_succ, Nat.mul_assoc]
    rw [value_concat, List.length_append, List.length_singleton, Finset.sum_range_succ,
      Finset.sum_congr rfl hbefore, ← Finset.sum_mul, ← ih]
    simp

/-! ## The bytes of a number -/

/-- The last `w` bytes of a number. -/
def bytes : ℕ → ℕ → List UInt8
  | 0, _ => []
  | w + 1, n => bytes w (n / 256) ++ [UInt8.ofNat n]

@[simp] lemma length_bytes (w n : ℕ) : (bytes w n).length = w := by
  induction w generalizing n with
  | zero => rfl
  | succ w ih => rw [bytes, List.length_append, ih, List.length_singleton]

/-- The last `w` bytes of a number stand for its rest modulo `256 ^ w`. -/
lemma value_bytes (w n : ℕ) : value (bytes w n) = n % 256 ^ w := by
  induction w generalizing n with
  | zero => simp [bytes, Nat.mod_one]
  | succ w ih =>
    have hbyte : (UInt8.ofNat n).toNat = n % 256 := UInt8.toNat_ofNat'
    rw [bytes, value_concat, ih, hbyte, Nat.pow_succ, Nat.mul_comm (256 ^ w) 256, Nat.mod_mul]
    omega

/-! ## Words filled from the right -/

/-- Putting a byte into a word whose lowest byte is zero. -/
lemma toNat_or_byte {n : ℕ} (hn : 8 ≤ n) {x : BitVec n} {k : ℕ} (hx : x.toNat = k * 256)
    (b : UInt8) : (x ||| b.toBitVec.setWidth n).toNat = k * 256 + b.toNat := by
  have hbyte := b.toNat_lt
  have hfits : 2 ^ 8 ≤ 2 ^ n := Nat.pow_le_pow_right (by decide) hn
  have hwidth : (b.toBitVec.setWidth n).toNat = b.toNat := by
    rw [BitVec.toNat_setWidth, UInt8.toNat_toBitVec, Nat.mod_eq_of_lt (by omega)]
  have hor : 2 ^ 8 * k + b.toNat = 2 ^ 8 * k ||| b.toNat :=
    Nat.two_pow_add_eq_or_of_lt (by omega) k
  rw [BitVec.toNat_or, hwidth, hx, Nat.mul_comm k 256]
  exact hor.symm

/-- Shifting a word by one byte, if nothing is lost. -/
lemma toNat_shiftLeft_byte {n : ℕ} {x : BitVec n} (hx : x.toNat * 256 < 2 ^ n) :
    (x <<< 8).toNat = x.toNat * 256 := by
  rw [BitVec.toNat_shiftLeft, Nat.shiftLeft_eq, Nat.mod_eq_of_lt hx]

end BigEndian
