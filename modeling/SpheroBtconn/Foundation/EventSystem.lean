import Mathlib.Data.List.Induction
import Mathlib.Tactic.Common

/-!
# Event systems and their runs

A deterministic system driven by events: a state, and a step that either takes an event or
says why it cannot be taken.  A *run* is a finite list of events taken one after the other
from the initial state; it fails at the first event that cannot be taken.

The module collects the rules by which properties of runs are proved.  `runFrom_append` cuts
a run in two, `run_induction` is induction along the events of a run with the whole history
at hand, and `run_invariant` is the special case in which the property only looks at the
state.
-/

variable {σ ε ρ τ δ κ : Type*}

/-- A system with states `σ`, events `ε` and reasons of refusal `ρ`. -/
structure EventSystem (σ ε ρ : Type*) where
  /-- The state before the first event. -/
  init : σ
  /-- The state after an event, or the reason why the event cannot be taken. -/
  step : σ → ε → Except ρ σ

namespace EventSystem

variable (M : EventSystem σ ε ρ)

/-- Take the events of `es` in order, starting from `s`. -/
def runFrom (s : σ) (es : List ε) : Except ρ σ := es.foldlM M.step s

/-- Take the events of `es` in order, starting from the initial state. -/
def run (es : List ε) : Except ρ σ := M.runFrom M.init es

@[simp] lemma runFrom_nil (s : σ) : M.runFrom s [] = .ok s := rfl

/-- The first event of a run decides whether and from where the rest is run. -/
lemma runFrom_cons (s : σ) (e : ε) (es : List ε) :
    M.runFrom s (e :: es) = (M.step s e).bind fun s' => M.runFrom s' es := rfl

/-- A run continues with the rest of its events once the first one is taken. -/
lemma runFrom_cons_ok {s s' : σ} {e : ε} (h : M.step s e = .ok s') (es : List ε) :
    M.runFrom s (e :: es) = M.runFrom s' es := by
  rw [runFrom_cons, h]
  rfl

/-- Running two lists of events one after the other. -/
lemma runFrom_append (s : σ) (es fs : List ε) :
    M.runFrom s (es ++ fs) = (M.runFrom s es).bind fun s' => M.runFrom s' fs := by
  simp only [runFrom, List.foldlM_append]
  rfl

/-- A run that succeeds can be cut anywhere. -/
lemma runFrom_append_ok_iff {s t : σ} {es fs : List ε} :
    M.runFrom s (es ++ fs) = .ok t ↔
      ∃ u, M.runFrom s es = .ok u ∧ M.runFrom u fs = .ok t := by
  rw [runFrom_append]
  cases h : M.runFrom s es with
  | error r => simp [Except.bind]
  | ok u => simp [Except.bind]

/-- A run that succeeds with one more event succeeds without it. -/
lemma runFrom_concat_ok_iff {s t : σ} {es : List ε} {e : ε} :
    M.runFrom s (es ++ [e]) = .ok t ↔ ∃ u, M.runFrom s es = .ok u ∧ M.step u e = .ok t := by
  rw [runFrom_append_ok_iff]
  refine exists_congr fun u => and_congr_right fun _ => ?_
  rw [runFrom_cons]
  cases h : M.step u e with
  | error r => simp [Except.bind]
  | ok v => simp [Except.bind]

lemma run_concat_ok_iff {t : σ} {es : List ε} {e : ε} :
    M.run (es ++ [e]) = .ok t ↔ ∃ s, M.run es = .ok s ∧ M.step s e = .ok t :=
  M.runFrom_concat_ok_iff

/-- A run that has reached `s` goes on from `s`. -/
lemma run_append_of_ok {s : σ} {es : List ε} (h : M.run es = .ok s) (fs : List ε) :
    M.run (es ++ fs) = M.runFrom s fs := by
  unfold run at h ⊢
  rw [runFrom_append, h]
  rfl

/-- A run fails at the first event that cannot be taken. -/
lemma run_eq_error_iff {r : ρ} {es : List ε} :
    M.run es = .error r ↔
      ∃ fs e gs s, es = fs ++ e :: gs ∧ M.run fs = .ok s ∧ M.step s e = .error r := by
  constructor
  · intro h
    induction es using List.reverseRecOn with
    | nil => cases h
    | append_singleton es e ih =>
      cases hes : M.run es with
      | error r' =>
        have hr : r' = r := by
          unfold run at h hes
          simpa [runFrom_append, hes, Except.bind] using h
        obtain ⟨fs, e', gs, s, rfl, hfs, he'⟩ := ih (hr ▸ hes)
        exact ⟨fs, e', gs ++ [e], s, by simp, hfs, he'⟩
      | ok s =>
        rw [M.run_append_of_ok hes, runFrom_cons] at h
        cases he : M.step s e with
        | error r' =>
          have hr : r' = r := by simpa [he, Except.bind] using h
          exact ⟨es, e, [], s, rfl, hes, hr ▸ he⟩
        | ok s' => simp [he, Except.bind] at h
  · rintro ⟨fs, e, gs, s, rfl, hfs, he⟩
    rw [M.run_append_of_ok hfs, runFrom_cons, he]
    rfl

/-- Induction along a run, with the history of events at hand. -/
theorem run_induction {P : List ε → σ → Prop} (hinit : P [] M.init)
    (hstep : ∀ es s e s', M.run es = .ok s → P es s → M.step s e = .ok s' → P (es ++ [e]) s')
    {es : List ε} {s : σ} (h : M.run es = .ok s) : P es s := by
  induction es using List.reverseRecOn generalizing s with
  | nil =>
    have hs : M.init = s := by simpa [run] using h
    exact hs ▸ hinit
  | append_singleton es e ih =>
    obtain ⟨u, hu, he⟩ := M.run_concat_ok_iff.mp h
    exact hstep es u e s hu (ih hu) he

/-- A property of states that holds initially and is kept by every step holds along runs. -/
theorem run_invariant {I : σ → Prop} (hinit : I M.init)
    (hstep : ∀ s e s', I s → M.step s e = .ok s' → I s') {es : List ε} {s : σ}
    (h : M.run es = .ok s) : I s :=
  M.run_induction (P := fun _ s => I s) hinit (fun _ s e s' _ hs he => hstep s e s' hs he) h

/-! ## Runs from any state -/

/-- A property that holds at the start of a run and is kept by its events holds at the end. -/
theorem runFrom_invariant {I : σ → Prop} {s t : σ} {es : List ε}
    (hstep : ∀ u e v, I u → e ∈ es → M.step u e = .ok v → I v)
    (h : M.runFrom s es = .ok t) (hs : I s) : I t := by
  induction es using List.reverseRecOn generalizing t with
  | nil =>
    have ht : s = t := by simpa using h
    exact ht ▸ hs
  | append_singleton es e ih =>
    obtain ⟨u, hu, he⟩ := M.runFrom_concat_ok_iff.mp h
    have hkept := ih (fun u e v hu he => hstep u e v hu (List.mem_append_left _ he)) hu
    exact hstep u e t hkept List.mem_concat_self he

/-- If every event of a kind `p` takes one from the potential `f` and only those of a kind `q` add to
it, at most `c` each, then a run has no more events of kind `p` than the potential at its start
and its events of kind `q` provide for. -/
theorem runFrom_countP_le {I : σ → Prop} {f : σ → ℕ} {p q : ε → Bool} {c : ℕ} {s t : σ}
    {es : List ε}
    (hstep : ∀ u e v, I u → e ∈ es → M.step u e = .ok v →
      I v ∧ f v + (if p e then 1 else 0) ≤ f u + (if q e then c else 0))
    (h : M.runFrom s es = .ok t) (hs : I s) :
    f t + es.countP p ≤ f s + c * es.countP q := by
  induction es generalizing s with
  | nil =>
    have ht : s = t := by simpa using h
    simp [ht]
  | cons e es ih =>
    cases he : M.step s e with
    | error r => simp [runFrom_cons, he, Except.bind] at h
    | ok u =>
      rw [M.runFrom_cons_ok he] at h
      obtain ⟨hu, hcost⟩ := hstep s e u hs List.mem_cons_self he
      have hrest := ih (fun u e v hu hmem => hstep u e v hu (List.mem_cons_of_mem _ hmem)) h hu
      have hgain : c * (if q e then 1 else 0) = if q e then c else 0 := by
        split_ifs <;> simp
      rw [List.countP_cons, List.countP_cons, Nat.mul_add, hgain]
      omega

/-- Every step of a run from `s` satisfies `R`. -/
def EveryStep (R : σ → ε → σ → Prop) (s : σ) (es : List ε) : Prop :=
  ∀ fs e u v, fs ++ [e] <+: es → M.runFrom s fs = .ok u → M.step u e = .ok v → R u e v

lemma EveryStep.of_isPrefix {M : EventSystem σ ε ρ} {R : σ → ε → σ → Prop} {s : σ}
    {fs es : List ε} (h : M.EveryStep R s es) (hfs : fs <+: es) : M.EveryStep R s fs :=
  fun gs e u v hgs => h gs e u v (hgs.trans hfs)

/-- Two descriptions of steps that agree wherever an invariant holds describe the same runs. -/
lemma everyStep_congr {I : σ → Prop} {R R' : σ → ε → σ → Prop} {s : σ} {es : List ε}
    (hs : I s) (hkeep : ∀ u e v, I u → M.step u e = .ok v → I v)
    (hiff : ∀ u e v, I u → M.step u e = .ok v → (R u e v ↔ R' u e v)) :
    M.EveryStep R s es ↔ M.EveryStep R' s es := by
  have hinv : ∀ fs u, M.runFrom s fs = .ok u → I u := fun fs u hu =>
    M.runFrom_invariant (fun u e v hu _ he => hkeep u e v hu he) hu hs
  constructor
  · intro h fs e u v hfs hu he
    exact (hiff u e v (hinv fs u hu) he).mp (h fs e u v hfs hu he)
  · intro h fs e u v hfs hu he
    exact (hiff u e v (hinv fs u hu) he).mpr (h fs e u v hfs hu he)

/-! ## Systems inside systems -/

/-- If every step of a system is a run of another one as far as `f` shows, then so is every run:
what holds after the runs of the second system holds of the `f` of all states the first one
reaches. -/
theorem exists_run_of_simulation {N : EventSystem τ δ κ} {f : σ → τ}
    (hinit : ∃ fs, N.run fs = .ok (f M.init))
    (hstep : ∀ s e t, M.step s e = .ok t → ∃ fs, N.runFrom (f s) fs = .ok (f t))
    {es : List ε} {s : σ} (h : M.run es = .ok s) : ∃ fs, N.run fs = .ok (f s) := by
  refine M.run_invariant (I := fun s => ∃ fs, N.run fs = .ok (f s)) hinit ?_ h
  rintro s e t ⟨fs, hfs⟩ he
  obtain ⟨gs, hgs⟩ := hstep s e t he
  exact ⟨fs ++ gs, (N.run_append_of_ok hfs gs).trans hgs⟩

/-- A run of one event. -/
lemma runFrom_singleton (s : σ) (e : ε) : M.runFrom s [e] = M.step s e := by
  rw [runFrom_cons]
  cases M.step s e <;> rfl

/-- A step of a part of a state, put back into the whole. -/
lemma map_eq_ok_iff {x : Except ρ σ} {f : σ → τ} {t : τ} :
    x.map f = .ok t ↔ ∃ s, x = .ok s ∧ f s = t := by
  cases x with
  | error r => simp [Except.map]
  | ok s => simp [Except.map]

/-- A step of a part of a state is refused for the reason for which the part refuses it. -/
lemma map_eq_error_iff {x : Except ρ σ} {f : σ → τ} {r : ρ} :
    x.map f = .error r ↔ x = .error r := by
  cases x with
  | error r' => simp [Except.map]
  | ok s => simp [Except.map]

/-! ## Guarded steps -/

/-- A guard in front of a step. -/
lemma guard_eq_ok_iff {p : Prop} [Decidable p] {r : ρ} {x : Except ρ σ} {t : σ} :
    (if p then x else .error r) = .ok t ↔ p ∧ x = .ok t := by
  split_ifs with h
  · simp [h]
  · simp [h]

/-- A guarded step is taken exactly if its guard holds. -/
lemma ite_eq_ok_iff {p : Prop} [Decidable p] {r : ρ} {s t : σ} :
    (if p then .ok s else .error r : Except ρ σ) = .ok t ↔ p ∧ t = s := by
  rw [guard_eq_ok_iff, Except.ok.injEq, eq_comm]

end EventSystem
