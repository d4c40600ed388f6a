import Mathlib.Data.List.Basic

/-!
# Loops that are left early

A loop works through a list.  Each pass looks at one element and a state, and either goes on with
a new state, or leaves the loop with a value, or fails.  Loops of this kind are evaluated in two
steps: the passes that go on are a fold (`loop_append_of_next`), and the first pass that does not
go on decides how the loop ends (`loop_of_exit`, `loop_of_error`).
-/

variable {α β ε σ : Type*}

namespace EarlyExit

/-- How a pass through the body of a loop ends. -/
inductive Pass (σ β : Type*) where
  /-- The loop goes on. -/
  | next (s : σ)
  /-- The loop is left with a value. -/
  | exit (value : β) (s : σ)
  deriving DecidableEq

/-- Work through a list until a pass leaves the loop.  The value is `none` if no pass does. -/
def loop (body : α → σ → Except ε (Pass σ β)) : List α → σ → Except ε (Option β × σ)
  | [], s => .ok (none, s)
  | x :: xs, s =>
    match body x s with
    | .error e => .error e
    | .ok (.next s) => loop body xs s
    | .ok (.exit value s) => .ok (some value, s)

variable {body : α → σ → Except ε (Pass σ β)} {s t : σ} {x : α}

/-- The first pass that leaves the loop decides its value. -/
lemma loop_of_exit {value : β} (h : body x s = .ok (.exit value t)) (xs : List α) :
    loop body (x :: xs) s = .ok (some value, t) := by
  rw [loop, h]

/-- The first pass that fails ends the loop. -/
lemma loop_of_error {e : ε} (h : body x s = .error e) (xs : List α) :
    loop body (x :: xs) s = .error e := by
  rw [loop, h]

/-- After a pass that goes on the loop works through the rest. -/
lemma loop_cons_of_next (h : body x s = .ok (.next t)) (xs : List α) :
    loop body (x :: xs) s = loop body xs t := by
  rw [loop, h]

/-- The passes of a loop that go on while an invariant holds are a fold over their elements. -/
theorem loop_append_of_next {I : σ → Prop} {f : σ → α → σ} {xs : List α}
    (h : ∀ x ∈ xs, ∀ s, I s → body x s = .ok (.next (f s x)) ∧ I (f s x)) (hs : I s)
    (ys : List α) : loop body (xs ++ ys) s = loop body ys (xs.foldl f s) := by
  induction xs generalizing s with
  | nil => rfl
  | cons x xs ih =>
    obtain ⟨hnext, hkeep⟩ := h x List.mem_cons_self s hs
    have hrest := ih (fun y hy => h y (List.mem_cons_of_mem x hy)) hkeep
    rw [List.cons_append, loop_cons_of_next hnext, List.foldl_cons]
    exact hrest

/-- A loop whose passes all go on is a fold. -/
lemma loop_of_next {I : σ → Prop} {f : σ → α → σ} {xs : List α}
    (h : ∀ x ∈ xs, ∀ s, I s → body x s = .ok (.next (f s x)) ∧ I (f s x)) (hs : I s) :
    loop body xs s = .ok (none, xs.foldl f s) := by
  have hloop := loop_append_of_next h hs []
  rwa [List.append_nil] at hloop

end EarlyExit
