import Mathlib.Data.List.Basic
import Mathlib.Data.Vector.Defs
import Mathlib.Tactic.Common

/-!
# Buffers of a fixed size

A buffer of `n` cells is a `List.Vector`.  The one operation on it is `copyFront`, which
replaces the first cells by given values and leaves the others alone.  A buffer that held one
value `z` everywhere is then the written values, padded with `z` (`toList_copyFront_replicate`).
The last section is about the part of a list from the first occurrence of a value on.
-/

variable {α : Type*}

namespace FixedBuffer

variable {n : ℕ}

/-- Copy `src` over the first cells of a buffer; whatever of `src` is beyond the last cell is
dropped. -/
def copyFront (v : List.Vector α n) (src : List α) : List.Vector α n :=
  ⟨src.take n ++ v.toList.drop src.length, by
    rw [List.length_append, List.length_take, List.length_drop, List.Vector.toList_length]
    omega⟩

lemma toList_copyFront (v : List.Vector α n) {src : List α} (h : src.length ≤ n) :
    (copyFront v src).toList = src ++ v.toList.drop src.length := by
  simp [copyFront, List.take_of_length_le h]

/-- The cells that were written hold what was written. -/
lemma take_copyFront (v : List.Vector α n) {src : List α} (h : src.length ≤ n) :
    (copyFront v src).toList.take src.length = src := by
  rw [toList_copyFront v h, List.take_left]

/-- Writing the same cells again changes nothing. -/
lemma copyFront_copyFront (v : List.Vector α n) {src : List α} (h : src.length ≤ n) :
    copyFront (copyFront v src) src = copyFront v src := by
  apply List.Vector.eq
  rw [toList_copyFront _ h, toList_copyFront _ h, List.drop_left]

/-- Writing to a buffer that holds one value everywhere pads what is written with that value. -/
lemma toList_copyFront_replicate (z : α) {src : List α} (h : src.length ≤ n) :
    (copyFront (List.Vector.replicate n z) src).toList = src.rightpad n z := by
  have hcells : (List.Vector.replicate n z).toList = List.replicate n z := rfl
  rw [toList_copyFront _ h, hcells, List.drop_replicate]
  rfl

/-- Copy `src` over the cells from `i` on; whatever of `src` is beyond the last cell is dropped. -/
def copyAt (v : List.Vector α n) (i : ℕ) (src : List α) : List.Vector α n :=
  ⟨v.toList.take i ++ src.take (n - i) ++ v.toList.drop (i + src.length), by
    simp only [List.length_append, List.length_take, List.length_drop, List.Vector.toList_length]
    omega⟩

/-- The cells that were written hold what was written. -/
lemma take_drop_copyAt (v : List.Vector α n) {i : ℕ} {src : List α} (h : i + src.length ≤ n) :
    ((copyAt v i src).toList.drop i).take src.length = src := by
  have hfits : src.take (n - i) = src := List.take_of_length_le (by omega)
  have hfront : (v.toList.take i).length = i := by
    rw [List.length_take, List.Vector.toList_length]
    omega
  have hcells : (copyAt v i src).toList =
      v.toList.take i ++ (src ++ v.toList.drop (i + src.length)) := by
    rw [← List.append_assoc, ← hfits]
    simp [copyAt, hfits]
  rw [hcells, List.drop_left' hfront, List.take_left]

end FixedBuffer

/-! ## Padded lists -/

namespace PaddedList

lemma length_rightpad_of_le {n : ℕ} {z : α} {l : List α} (h : l.length ≤ n) :
    (l.rightpad n z).length = n := by
  rw [List.rightpad, List.length_append, List.length_replicate]
  omega

/-- A list is the beginning of its padded form. -/
lemma isPrefix_rightpad (n : ℕ) (z : α) (l : List α) : l <+: l.rightpad n z :=
  List.prefix_append _ _

/-- Behind its elements, a padded list holds the value it is padded with. -/
lemma getElem?_rightpad {n j : ℕ} (z : α) {l : List α} (hj : j < n) :
    (l.rightpad n z)[j]? = some (l.getD j z) := by
  rw [List.rightpad, List.getD_eq_getElem?_getD]
  by_cases hin : j < l.length
  · rw [List.getElem?_append_left hin, List.getElem?_eq_getElem hin, Option.getD_some]
  · rw [List.getElem?_append_right (by omega), List.getElem?_replicate, if_pos (by omega),
      List.getElem?_eq_none (by omega), Option.getD_none]

end PaddedList

/-! ## The first occurrence of a value -/

namespace FirstOccurrence

variable [DecidableEq α]

/-- The list from the first occurrence of `m` on. -/
def fromFirst (m : α) (l : List α) : List α := l.dropWhile (· ≠ m)

lemma fromFirst_cons_self (m : α) (l : List α) : fromFirst m (m :: l) = m :: l := by
  simp [fromFirst]

lemma fromFirst_cons_of_ne {m a : α} (h : a ≠ m) (l : List α) :
    fromFirst m (a :: l) = fromFirst m l := by
  simp [fromFirst, h]

lemma length_fromFirst_le (m : α) (l : List α) : (fromFirst m l).length ≤ l.length :=
  (List.dropWhile_suffix _).length_le

/-- The list from the first occurrence on begins at the index of this occurrence. -/
lemma fromFirst_eq_drop (m : α) (l : List α) : fromFirst m l = l.drop (l.idxOf m) := by
  induction l with
  | nil => rfl
  | cons a l ih =>
    by_cases ha : a = m
    · rw [ha, fromFirst_cons_self, List.idxOf_cons_self, List.drop_zero]
    · rw [fromFirst_cons_of_ne ha, List.idxOf_cons_ne _ ha, List.drop_succ_cons, ih]

/-- Values other than `m` in front do not matter. -/
lemma fromFirst_append_of_notMem {m : α} {g : List α} (hg : m ∉ g) (l : List α) :
    fromFirst m (g ++ l) = fromFirst m l := by
  induction g with
  | nil => rfl
  | cons a g ih =>
    have ha : a ≠ m := fun h => hg (h ▸ List.mem_cons_self)
    rw [List.cons_append, fromFirst_cons_of_ne ha, ih fun h => hg (List.mem_cons_of_mem a h)]

/-- If `m` occurs at all, the list from its first occurrence on begins with it. -/
lemma exists_fromFirst_eq_cons {m : α} {l : List α} (h : m ∈ l) :
    ∃ t, fromFirst m l = m :: t := by
  obtain ⟨g, t, rfl, hg⟩ := List.eq_append_cons_of_mem h
  exact ⟨t, by rw [fromFirst_append_of_notMem hg, fromFirst_cons_self]⟩

end FirstOccurrence
