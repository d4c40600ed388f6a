import SpheroBtconn.Connection.Inbound

/-!
# A connection that is down

`send` and `read` ask `connected_` whether there is a connection.  The flag is set by `connect()`
and never cleared, neither by `close()`, nor by a write that fails, nor at the end of the stream.
So it does not say whether the connection is up, but whether it has ever been: when a connection
that has been up goes down, `send` goes on accepting messages, and `read` waits for entries.
-/

namespace Btconn

variable {M : Type*}

/-- The events with which a connection ends: `close()`, a write that fails, the end of the
stream. -/
def Event.EndsConnection : Event M → Prop
  | .close => True
  | .writeDone _ ec => ec = true
  | .readFailed err => err = .eof
  | _ => False

/-- `send` and a `read` of an empty queue throw, and the connection stays as it is. -/
def BtConnection.ReportsDown (s : BtConnection M) : Prop :=
  (∀ msg : M, ∃ exception, s.send msg = (.threw exception, s)) ∧
    (s.readQueue = [] → ∀ {T : Type} (construct : RawData → T),
      ∃ exception, s.read construct = (.threw exception, s))

namespace BtConnection

variable {s : BtConnection M}

/-- Both calls throw if `connected_` is not set. -/
lemma reportsDown_of_not_connected (h : s.connected = false) : s.ReportsDown := by
  constructor
  · intro msg
    exact ⟨⟨"Unable to perform a write - Not connected"⟩, by simp [send, h]⟩
  · intro _ T construct
    exact ⟨⟨"Unable to perform a read - Not connected"⟩, by simp [read, h]⟩

/-- If `connected_` is set, `send` accepts every message. -/
lemma send_of_connected (h : s.connected = true) (msg : M) :
    s.send msg = (.returned (), { s with posted := s.posted ++ [.send msg] }) := by
  simp [send, h]

/-- If `connected_` is set, `read` of an empty queue waits. -/
lemma read_of_connected {T : Type*} (h : s.connected = true) (hqueue : s.readQueue = [])
    (construct : RawData → T) : s.read construct = (.waiting, s) := by
  simp [read, h, hqueue]

lemma reportsDown_iff [Nonempty M] : s.ReportsDown ↔ s.connected = false := by
  constructor
  · intro h
    by_contra hconn
    obtain ⟨msg⟩ := (inferInstance : Nonempty M)
    obtain ⟨exception, hthrew⟩ := h.1 msg
    rw [send_of_connected (by simpa using hconn)] at hthrew
    cases hthrew
  · exact reportsDown_of_not_connected

end BtConnection

namespace System

variable {s : System M}

/-- Handlers of operations only run after `connect()` has succeeded. -/
lemma connect_mem_of_endsConnection {fs gs : List (Event M)} {e : Event M}
    (hrun : (system M).run (fs ++ e :: gs) = .ok s) (he : e.EndsConnection) (hne : e ≠ .close) :
    .connect true ∈ fs := by
  obtain ⟨u, hu, hrest⟩ := (system M).runFrom_append_ok_iff.mp hrun
  have hrunning : u.ioThread = .running := by
    rw [EventSystem.runFrom_cons] at hrest
    cases hstep : (system M).step u e with
    | error reason => simp [hstep, Except.bind] at hrest
    | ok v =>
      cases e with
      | writeDone i ec =>
        obtain ⟨msg, hio, -⟩ := step_writeDone_ok_iff.mp hstep
        exact hio
      | readFailed err => exact (step_readFailed_ok_iff.mp hstep).1
      | close => exact absurd rfl hne
      | _ => exact absurd he id
  exact (connected_iff_of_run hu).mp ((inboundInv_of_run hu).connected_of_running hrunning)

/-- **A connection that is down is reported as down only if it has never been up.**  In every
state reached after an event that ends the connection, `send` and a `read` of an empty queue throw
and change nothing if and only if no `connect()` has succeeded.  After a write that has failed and
after the end of the stream this is never so. -/
theorem reportsDown_iff_of_run [Nonempty M] {fs gs : List (Event M)} {e : Event M}
    (hrun : (system M).run (fs ++ e :: gs) = .ok s) (he : e.EndsConnection) :
    (s.ReportsDown ↔ .connect true ∉ fs ++ e :: gs) ∧ (e ≠ .close → ¬ s.ReportsDown) := by
  have hiff : s.ReportsDown ↔ .connect true ∉ fs ++ e :: gs := by
    rw [BtConnection.reportsDown_iff, ← Bool.not_eq_true, connected_iff_of_run hrun]
  refine ⟨hiff, ?_⟩
  intro hne hdown
  have hconn := connect_mem_of_endsConnection hrun he hne
  exact hiff.mp hdown (List.mem_append_left _ hconn)

/-- `close()` before any `connect()`. -/
theorem reportsDown_close :
    ∃ s, (system ℕ).run ([] ++ .close :: []) = .ok s ∧ s.ReportsDown := by
  obtain ⟨s, hrun⟩ : ∃ s, (system ℕ).run ([] ++ .close :: []) = .ok s := ⟨_, rfl⟩
  exact ⟨s, hrun, (reportsDown_iff_of_run hrun trivial).1.mpr (by decide)⟩

/-- `close()` after `connect()`: a message is accepted, and a `read` waits. -/
theorem closed_connection_accepts :
    ∃ s, (system ℕ).run [.connect true, .close] = .ok s ∧ s.readQueue = [] ∧
      (s.send 7).1 = .returned () ∧ (s.read id).1 = .waiting ∧ ¬ s.ReportsDown := by
  obtain ⟨s, hrun, hconn, hqueue⟩ : ∃ s, (system ℕ).run [.connect true, .close] = .ok s ∧
      s.connected = true ∧ s.readQueue = [] := ⟨_, rfl, rfl, rfl⟩
  refine ⟨s, hrun, hqueue, ?_, ?_, ?_⟩
  · rw [BtConnection.send_of_connected hconn]
  · rw [BtConnection.read_of_connected hconn hqueue]
  · rw [BtConnection.reportsDown_iff, hconn]
    decide

end System

end Btconn
