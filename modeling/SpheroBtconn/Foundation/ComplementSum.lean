import Mathlib.Algebra.BigOperators.Group.List.Basic
import Mathlib.Data.Nat.ModEq
import Mathlib.Tactic.Common

/-!
# Sums that end in a complement

Symbols carry values below a modulus `m`.  A word obeys the *complement law* if the values of
its symbols add up to `m - 1` modulo `m`.  A word can be completed to one that obeys the law by
exactly one value at its end (`complementLaw_concat_iff`), and the law detects every change of
a single symbol (`not_complementLaw_set`).
-/

variable {β : Type*}

namespace ComplementSum

variable (val : β → ℕ) (m : ℕ)

/-- The sum of the values of the symbols of a word. -/
def total (w : List β) : ℕ := (w.map val).sum

/-- The values of the symbols add up to `m - 1` modulo `m`. -/
def ComplementLaw (w : List β) : Prop := total val w % m = m - 1

instance (w : List β) : Decidable (ComplementLaw val m w) :=
  inferInstanceAs (Decidable (_ = _))

@[simp] lemma total_nil : total val [] = 0 := rfl

@[simp] lemma total_cons (b : β) (w : List β) : total val (b :: w) = val b + total val w := by
  simp [total]

@[simp] lemma total_append (u w : List β) : total val (u ++ w) = total val u + total val w := by
  simp [total]

variable {val m}

/-- The symbol that completes a word is the complement of the sum of the word. -/
lemma complementLaw_concat_iff (hval : ∀ b, val b < m) {w : List β} {b : β} :
    ComplementLaw val m (w ++ [b]) ↔ val b = m - 1 - total val w % m := by
  have hb := hval b
  have hpos : 0 < m := by omega
  have hw := Nat.mod_lt (total val w) hpos
  have hcut : total val (w ++ [b]) % m = (total val w % m + val b) % m := by
    rw [total_append, total_cons, total_nil, Nat.add_zero, Nat.mod_add_mod]
  unfold ComplementLaw
  rw [hcut]
  rcases Nat.lt_or_ge (total val w % m + val b) m with h | h
  · rw [Nat.mod_eq_of_lt h]
    omega
  · rw [Nat.mod_eq_sub_mod h, Nat.mod_eq_of_lt (by omega)]
    omega

/-- Replacing one symbol replaces its value in the sum. -/
lemma total_set_add {w : List β} {i : ℕ} (hi : i < w.length) (b : β) :
    total val (w.set i b) + val w[i] = total val w + val b := by
  induction w generalizing i with
  | nil => simp at hi
  | cons a w ih =>
    cases i with
    | zero =>
      simp only [List.set_cons_zero, total_cons, List.getElem_cons_zero]
      omega
    | succ i =>
      have h := ih (Nat.lt_of_succ_lt_succ hi)
      simp only [List.set_cons_succ, total_cons, List.getElem_cons_succ]
      omega

/-- No word that differs from a lawful one in one symbol is lawful. -/
theorem not_complementLaw_set (hval : ∀ b, val b < m) (hinj : Function.Injective val)
    {w : List β} (hw : ComplementLaw val m w) {i : ℕ} (hi : i < w.length) {b : β}
    (hb : b ≠ w[i]) : ¬ ComplementLaw val m (w.set i b) := by
  intro hset
  have hmod : total val (w.set i b) ≡ total val w [MOD m] := hset.trans hw.symm
  have hsum : total val (w.set i b) + val b ≡ total val (w.set i b) + val w[i] [MOD m] := by
    rw [total_set_add hi b]
    exact hmod.add_right _
  have hvals : val b = val w[i] :=
    (Nat.ModEq.add_left_cancel' _ hsum).eq_of_lt_of_lt (hval b) (hval w[i])
  exact hb (hinj hvals)

end ComplementSum
