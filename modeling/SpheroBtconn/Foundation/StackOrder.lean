import Mathlib.Data.List.Basic
import Mathlib.Data.List.Perm.Basic
import Mathlib.Data.List.Range
import Mathlib.Tactic.Common

/-!
# The orders in which a stack hands out

The numbers `0, 1, 2, …` are pushed on a stack in this order, and at any time the number on top
may be popped.  `StackHistory n out stack` says that `n` numbers can have been pushed such that
those of `out` have been popped, in this order, while those of `stack` are still there.

Which orders are possible?  A number that is popped finds everything that has been pushed before
it and is still there below it, so that of two smaller numbers that come after it the larger one
comes first.  That this is all that can be said is `stackHistory_iff`: read what has been popped,
and then the stack from its top; what comes out are the numbers below `n` in an order in which no
number is followed by two smaller ones in increasing order.
-/

/-- The histories of a stack on which the numbers from 0 on are pushed in order: how many have been
pushed, which ones have been popped, and the stack, its top last. -/
inductive StackHistory : ℕ → List ℕ → List ℕ → Prop
  /-- Nothing has happened. -/
  | nil : StackHistory 0 [] []
  /-- The next number is pushed. -/
  | push {n : ℕ} {out stack : List ℕ} (h : StackHistory n out stack) :
      StackHistory (n + 1) out (stack ++ [n])
  /-- The top is popped. -/
  | pop {n a : ℕ} {out stack : List ℕ} (h : StackHistory n out (stack ++ [a])) :
      StackHistory n (out ++ [a]) stack

/-- No number of the list is followed by two smaller ones in increasing order. -/
def Avoids312 (l : List ℕ) : Prop := ∀ a b c, a < b → b < c → ¬ [c, a, b].Sublist l

/-- What a stack that holds `stack` and has handed out `out` looks like after `n` pushes. -/
structure IsStackOrder (n : ℕ) (out stack : List ℕ) : Prop where
  /-- Every number is either handed out or still there, once. -/
  perm : (out ++ stack.reverse).Perm (List.range n)
  /-- The order in which they have been and will be handed out. -/
  avoids : Avoids312 (out ++ stack.reverse)
  /-- The stack is in the order of the pushes. -/
  sorted : stack.Pairwise (· < ·)

/-! ## Avoiding the pattern -/

namespace Avoids312

variable {l l₁ l₂ : List ℕ} {n : ℕ}

lemma nil : Avoids312 [] := fun _ _ _ _ _ h => by simp at h

lemma of_sublist (h : Avoids312 l₂) (hsub : l₁.Sublist l₂) : Avoids312 l₁ :=
  fun a b c hab hbc hpat => h a b c hab hbc (hpat.trans hsub)

/-- It is enough to look at the members of the list. -/
lemma iff_forall_mem : Avoids312 l ↔
    ∀ a ∈ l, ∀ b ∈ l, ∀ c ∈ l, a < b → b < c → ¬ [c, a, b].Sublist l := by
  constructor
  · intro h a _ b _ c _
    exact h a b c
  · intro h a b c hab hbc hpat
    exact h a (hpat.subset (by simp)) b (hpat.subset (by simp)) c (hpat.subset (by simp)) hab hbc
      hpat

instance : Decidable (Avoids312 l) := decidable_of_iff _ iff_forall_mem.symm

/-- A number that is larger than all others can be put where only a decreasing list follows it. -/
lemma insert_max (h : Avoids312 (l₁ ++ l₂)) (hlt : ∀ x ∈ l₁ ++ l₂, x < n)
    (hdesc : l₂.Pairwise (· > ·)) : Avoids312 (l₁ ++ n :: l₂) := by
  intro a b c hab hbc hpat
  obtain ⟨p, q, hpq, hp, hq⟩ := List.sublist_append_iff.mp hpat
  rcases List.sublist_cons_iff.mp hq with hq | ⟨r, rfl, hr⟩
  · exact h a b c hab hbc (hpq ▸ hp.append hq)
  · -- the new number is one of the three, and it can only be the first one
    have hmem : ∀ x ∈ p, x < n := fun x hx => hlt x (List.mem_append_left _ (hp.subset hx))
    rcases p with - | ⟨x, - | ⟨y, - | ⟨z, p⟩⟩⟩
    · obtain ⟨rfl, rfl⟩ : c = n ∧ [a, b] = r := by simpa using hpq
      have hba : a > b := List.pairwise_iff_forall_sublist.mp hdesc hr
      omega
    · obtain ⟨rfl, rfl, -⟩ : c = x ∧ a = n ∧ [b] = r := by simpa using hpq
      have hcn := hmem c (by simp)
      omega
    · obtain ⟨rfl, rfl, rfl, -⟩ : c = x ∧ a = y ∧ b = n ∧ [] = r := by simpa using hpq
      have hcn := hmem c (by simp)
      omega
    · have hlength := congrArg List.length hpq
      simp at hlength

/-- What follows a number that is larger than all of it is decreasing. -/
lemma pairwise_of_max (h : Avoids312 (l₁ ++ n :: l₂)) (hlt : ∀ x ∈ l₂, x < n)
    (hnodup : l₂.Nodup) : l₂.Pairwise (· > ·) := by
  refine List.pairwise_iff_forall_sublist.mpr ?_
  intro a b hsub
  have hne : a ≠ b := List.pairwise_iff_forall_sublist.mp hnodup hsub
  have hbn := hlt b (hsub.subset (by simp))
  have hpat : [n, a, b].Sublist (l₁ ++ n :: l₂) :=
    (hsub.cons_cons n).trans (List.sublist_append_right l₁ _)
  have hnot : ¬ a < b := fun hab => h a b n hab hbn hpat
  omega

end Avoids312

/-! ## Histories -/

namespace IsStackOrder

variable {n a : ℕ} {out stack : List ℕ}

lemma nil : IsStackOrder 0 [] [] := ⟨by simp, .nil, .nil⟩

lemma mem_iff (h : IsStackOrder n out stack) {x : ℕ} : x ∈ out ++ stack.reverse ↔ x < n := by
  rw [h.perm.mem_iff, List.mem_range]

lemma lt_of_mem_out (h : IsStackOrder n out stack) (ha : a ∈ out) : a < n :=
  h.mem_iff.mp (List.mem_append_left _ ha)

lemma lt_of_mem_stack (h : IsStackOrder n out stack) (ha : a ∈ stack) : a < n :=
  h.mem_iff.mp (List.mem_append_right _ (List.mem_reverse.mpr ha))

/-- Nothing is handed out twice, and nothing that is handed out stays on the stack. -/
lemma nodup (h : IsStackOrder n out stack) : (out ++ stack.reverse).Nodup :=
  h.perm.nodup_iff.mpr List.nodup_range

/-- The next number goes on top. -/
lemma push (h : IsStackOrder n out stack) : IsStackOrder (n + 1) out (stack ++ [n]) := by
  have hrev : out ++ (stack ++ [n]).reverse = out ++ n :: stack.reverse := by simp
  refine ⟨?_, ?_, ?_⟩
  · rw [hrev, List.range_succ]
    exact List.perm_middle.trans ((h.perm.cons n).trans (List.perm_append_singleton n _).symm)
  · rw [hrev]
    exact h.avoids.insert_max (fun x => h.mem_iff.mp) (List.pairwise_reverse.mpr h.sorted)
  · refine List.pairwise_append.mpr ⟨h.sorted, List.pairwise_singleton _ _, ?_⟩
    intro x hx y hy
    rw [List.mem_singleton] at hy
    exact hy ▸ h.lt_of_mem_stack hx

/-- Popping does not change what the stack has handed out and will hand out. -/
lemma pop (h : IsStackOrder n out (stack ++ [a])) : IsStackOrder n (out ++ [a]) stack := by
  have hrev : out ++ [a] ++ stack.reverse = out ++ (stack ++ [a]).reverse := by simp
  exact ⟨hrev ▸ h.perm, hrev ▸ h.avoids, (List.pairwise_append.mp h.sorted).1⟩

end IsStackOrder

namespace StackHistory

variable {n : ℕ} {out more stack : List ℕ}

lemma isStackOrder (h : StackHistory n out stack) : IsStackOrder n out stack := by
  induction h with
  | nil => exact .nil
  | push _ ih => exact ih.push
  | pop _ ih => exact ih.pop

/-- Several pops in a row take from the top downwards. -/
lemma pops (h : StackHistory n out (stack ++ more.reverse)) :
    StackHistory n (out ++ more) stack := by
  induction more generalizing out with
  | nil => simpa using h
  | cons a more ih =>
    rw [List.reverse_cons, ← List.append_assoc] at h
    simpa using ih h.pop

/-- The larger of two positions in a stack is above the other, so that nothing above the last
number that has been pushed is larger. -/
lemma eq_nil_of_sorted {q₁ q₂ : List ℕ} (hlt : ∀ x ∈ q₁, x < n)
    (hsorted : (q₁ ++ n :: q₂).Pairwise (· > ·)) : q₁ = [] := by
  rcases q₁ with - | ⟨x, q₁⟩
  · rfl
  · have hxn : x > n := (List.pairwise_append.mp hsorted).2.2 x (by simp) n (by simp)
    have hnx := hlt x (by simp)
    omega

end StackHistory

/-- **The orders in which a stack hands out.**  After `n` pushes a stack can have handed out `out`
and hold `stack` if and only if these are the numbers below `n`, each once, the stack in the order
of the pushes, and if no number that has been or will be handed out is followed by two smaller
ones in increasing order. -/
theorem stackHistory_iff {n : ℕ} {out stack : List ℕ} :
    StackHistory n out stack ↔ IsStackOrder n out stack := by
  refine ⟨StackHistory.isStackOrder, ?_⟩
  intro h
  induction n generalizing out stack with
  | zero =>
    obtain ⟨rfl, hstack⟩ : out = [] ∧ stack = [] := by simpa using h.perm
    exact hstack ▸ .nil
  | succ n ih =>
    -- the last number that has been pushed; everything behind it was on the stack at that time
    obtain ⟨l₁, l₂, hl⟩ := List.append_of_mem (h.mem_iff.mpr (Nat.lt_succ_self n))
    have hperm : (l₁ ++ l₂).Perm (List.range n) := by
      have hcons := h.perm
      rw [hl, List.range_succ] at hcons
      exact (List.perm_middle.symm.trans (hcons.trans (List.perm_append_singleton n _))).cons_inv
    have hlt : ∀ x ∈ l₁ ++ l₂, x < n := fun x hx => List.mem_range.mp (hperm.mem_iff.mp hx)
    have hnodup : (l₁ ++ l₂).Nodup := hperm.nodup_iff.mpr List.nodup_range
    have havoids : Avoids312 (l₁ ++ n :: l₂) := hl ▸ h.avoids
    have hdesc : l₂.Pairwise (· > ·) := havoids.pairwise_of_max
      (fun x hx => hlt x (List.mem_append_right _ hx)) (List.nodup_append.mp hnodup).2.1
    have hbefore : IsStackOrder n l₁ l₂.reverse := by
      refine ⟨by rwa [List.reverse_reverse], ?_, List.pairwise_reverse.mpr hdesc⟩
      rw [List.reverse_reverse]
      exact havoids.of_sublist ((List.sublist_cons_self n l₂).append_left l₁)
    have hpushed := (ih hbefore).push
    rcases List.append_eq_append_iff.mp hl with ⟨q, rfl, hq⟩ | ⟨more, rfl, hmore⟩
    · -- it is still there, on top
      have hsorted : (q ++ n :: l₂).Pairwise (· > ·) := hq ▸ List.pairwise_reverse.mpr h.sorted
      have hnil := StackHistory.eq_nil_of_sorted
        (fun x hx => hlt x (List.mem_append_left _ (List.mem_append_right _ hx))) hsorted
      subst hnil
      have hstack : stack = l₂.reverse ++ [n] := by
        rw [← List.reverse_reverse stack, hq]
        simp
      rw [hstack]
      simpa using hpushed
    · rcases more with - | ⟨x, more⟩
      · have hstack : stack = l₂.reverse ++ [n] := by
          rw [← List.reverse_reverse stack, ← List.nil_append stack.reverse, ← hmore]
          simp
        rw [hstack]
        simpa using hpushed
      · -- it has been popped, and so have been the next ones
        obtain ⟨rfl, rfl⟩ : n = x ∧ l₂ = more ++ stack.reverse := by simpa using hmore
        have hpops := hpushed.pop
        rw [List.reverse_append, List.reverse_reverse] at hpops
        simpa using hpops.pops
