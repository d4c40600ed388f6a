import SpheroBtconn.Connection.Drain

/-!
# Connecting once

The thread `iothread_` is assigned by every `connect()` that succeeds, and it is never joined before
the destructor.  An object can therefore be connected once only: whatever has happened to the
connection since, also after `close()`, a second `connect()` that succeeds ends the program.
-/

namespace Btconn

variable {M : Type*}

namespace System

variable {s : System M} {es : List (Event M)}

/-- The thread has been started exactly if `connected_` is set. -/
lemma ioThread_eq_notStarted_iff (hin : InboundInv s) (hthread : ThreadInv s) :
    s.ioThread = .notStarted ↔ s.connected = false := by
  constructor
  · intro hio
    by_contra hconn
    exact hthread.started (by simpa using hconn) hio
  · intro hconn
    exact (hin.idle hconn).1

/-- A `connect()` that succeeds needs an object without a thread. -/
lemma step_connect_true (s : System M) : (s.step (.connect true) = .error (.fault .terminate) ↔
    s.ioThread ≠ .notStarted) ∧ (s.ioThread = .notStarted → ∃ t, s.step (.connect true) = .ok t) := by
  by_cases hio : s.ioThread = .notStarted
  · have hok := step_connect_of_notStarted hio
    exact ⟨by simp [hok, hio], fun _ => ⟨_, hok⟩⟩
  · simp [step, BtConnection.connect, BtConnection.readAsync_eq, hio]

/-- From every state that a run reaches there is a way to one in which the connection is connected;
the sending side and `shutdown_` stay as they are. -/
lemma exists_connected (hrun : (system M).run es = .ok s) :
    ∃ fs t, (system M).runFrom s fs = .ok t ∧ t.connected = true ∧
      (s.ioThread ≠ .returned → t.ioThread = .running) ∧
      t.messageQueue = s.messageQueue ∧ t.shuttingDown = s.shuttingDown := by
  cases hconn : s.connected with
  | true =>
    refine ⟨[], s, rfl, hconn, ?_, rfl, rfl⟩
    intro hreturned
    have hstarted := (threadInv_of_run hrun).started hconn
    cases hio : s.ioThread with
    | notStarted => exact absurd hio hstarted
    | running => rfl
    | returned => exact absurd hio hreturned
  | false =>
    have hconnect : (system M).step s (.connect true) = .ok _ :=
      step_connect_of_notStarted ((inboundInv_of_run hrun).idle hconn).1
    exact ⟨[.connect true], _, ((system M).runFrom_singleton s _).trans hconnect, rfl, fun _ => rfl,
      rfl, rfl⟩

/-- Every `connect()` that succeeds sets `connected_`, and then none succeeds any more. -/
lemma countP_connects (hrun : (system M).run es = .ok s) :
    es.countP Event.connects = if s.connected then 1 else 0 := by
  refine (system M).run_induction
    (P := fun es s => es.countP Event.connects = if s.connected then 1 else 0) (by rfl) ?_ hrun
  intro es s e t hes ih hstep
  have hconn := connected_step hstep
  rw [List.countP_append, ih, hconn, List.countP_singleton]
  cases hc : e.connects with
  | false => simp
  | true =>
    have hnot : s.connected = false := by
      cases e with
      | connect accepted =>
        rcases step_connect_cases hstep with ⟨rfl, -⟩ | ⟨-, hio, -⟩
        · cases hc
        · exact (ioThread_eq_notStarted_iff (inboundInv_of_run hes) (threadInv_of_run hes)).mp hio
      | _ => cases hc
    simp [hnot]

/-- **An object can be connected once.**  In every run at most one `connect()` succeeds.  After the
first one, whatever else has happened to the connection, another one that succeeds ends the
program; before it, one that succeeds always goes through. -/
theorem connects_once (hrun : (system M).run es = .ok s) :
    es.countP Event.connects ≤ 1 ∧
      (.connect true ∈ es → ∀ fs, (system M).run (es ++ .connect true :: fs) =
        .error (.fault .terminate)) ∧
      (.connect true ∉ es → ∃ t, (system M).run (es ++ [.connect true]) = .ok t) := by
  have hin := inboundInv_of_run hrun
  have hthread := threadInv_of_run hrun
  refine ⟨?_, ?_, ?_⟩
  · rw [countP_connects hrun]
    split_ifs <;> omega
  · intro hconn fs
    have hc := (connected_iff_of_run hrun).mpr hconn
    have hio : s.ioThread ≠ .notStarted := by
      rw [Ne, ioThread_eq_notStarted_iff hin hthread, hc]
      decide
    have hfault := (step_connect_true s).1.mpr hio
    exact (system M).run_eq_error_iff.mpr ⟨es, _, fs, s, rfl, hrun, hfault⟩
  · intro hconn
    have hc : s.connected = false := by
      rw [← Bool.not_eq_true, connected_iff_of_run hrun]
      exact hconn
    obtain ⟨t, ht⟩ := (step_connect_true s).2 ((ioThread_eq_notStarted_iff hin hthread).mpr hc)
    exact ⟨t, (system M).run_concat_ok_iff.mpr ⟨s, hrun, ht⟩⟩

/-- A connection that has been closed cannot be opened again. -/
theorem connects_once_after_close :
    (system ℕ).run ([.connect true, .close, .runPosted, .readFailed .other, .ioReturn] ++
      .connect true :: []) = .error (.fault .terminate) := by
  obtain ⟨s, hrun⟩ : ∃ s, (system ℕ).run [.connect true, .close, .runPosted, .readFailed .other,
      .ioReturn] = .ok s := ⟨_, rfl⟩
  exact (connects_once hrun).2.1 (by decide) []

end System

end Btconn
