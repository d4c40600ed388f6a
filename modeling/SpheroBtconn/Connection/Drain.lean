import SpheroBtconn.Connection.Shutdown
import SpheroBtconn.Connection.Inbound
import Mathlib.Algebra.BigOperators.Group.List.Basic
import Mathlib.Algebra.Ring.Nat

/-!
# Closing a connection

The destructor calls `close()` and then joins the I/O thread, which ends when `io_.run()` returns,
that is, when no handler is posted and no operation is outstanding.  Handlers make work for
further handlers: the handler of `send` may start a write, and a write that fails calls `close()`
again, which may post another handler.

Once `shutdown_` is set, all this is bounded by `workload`, which counts what each posted handler
and each operation can still give rise to.  Every handler lowers it (`workload_step`), so that only
finitely many can run, and as long as anything is left and `io_.run()` has not returned, some
handler can run (`exists_handler_step`).
-/

namespace Btconn

variable {M : Type*}

/-- The handlers, in contrast to the calls from other threads. -/
def Event.isHandler : Event M → Bool
  | .runPosted | .writeDone _ _ | .readDone _ | .readFailed _ => true
  | _ => false

/-- The calls of `send()` and `connect()`. -/
def Event.submits : Event M → Bool
  | .send _ | .connect _ => true
  | _ => false

/-- The calls of `close()`. -/
def Event.isClose : Event M → Bool
  | .close => true
  | _ => false

/-- How many handlers can come of a posted handler: from one of `send` itself, the handler of the
write it starts, and the one that `close` posts if this write fails. -/
def Posted.weight : Posted M → ℕ
  | .send _ => 3
  | .closeSocket => 1

namespace BtConnection

/-- How many handlers can still run on a connection that is shutting down. -/
def workload (s : BtConnection M) : ℕ :=
  (s.posted.map Posted.weight).sum + 2 * s.writes.length + s.reads

/-- Nothing is posted and nothing is outstanding. -/
def Drained (s : BtConnection M) : Prop := s.posted = [] ∧ s.writes = [] ∧ s.reads = 0

variable {s : BtConnection M}

lemma workload_le (s : BtConnection M) :
    s.workload ≤ 3 * s.posted.length + 2 * s.writes.length + s.reads := by
  have hposted : (s.posted.map Posted.weight).sum ≤ 3 * s.posted.length := by
    induction s.posted with
    | nil => rfl
    | cons handler rest ih =>
      have hweight : handler.weight ≤ 3 := by cases handler <;> simp [Posted.weight]
      simp only [List.map_cons, List.sum_cons, List.length_cons]
      omega
  simp only [workload]
  omega

end BtConnection

namespace System

variable {s t : System M} {e : Event M}

/-! ## The workload -/

/-- `close()` posts at most one handler of weight one. -/
lemma workload_close (h : s.step .close = .ok t) : t.workload ≤ s.workload + 1 := by
  rw [step_close_ok_iff.mp h]
  cases s.socketOpen with
  | false => simp [BtConnection.workload]
  | true =>
    simp only [BtConnection.workload, if_true, List.map_append, List.map_cons, List.map_nil,
      List.sum_append, List.sum_cons, List.sum_nil, Posted.weight]
    omega

/-- A posted handler lowers the workload by its own share. -/
lemma workload_runPosted (h : s.step .runPosted = .ok t) : t.workload + 1 ≤ s.workload := by
  obtain ⟨-, rest, ⟨hposted, rfl⟩ | ⟨msg, hposted, rfl⟩⟩ := step_runPosted_cases h
  · simp only [BtConnection.workload, hposted, List.map_cons, List.sum_cons, Posted.weight]
    omega
  · have hwrites : (if s.messageQueue = [] then s.writes ++ [msg] else s.writes).length ≤
        s.writes.length + 1 := by
      split_ifs <;> simp
    simp only [BtConnection.workload, hposted, List.map_cons, List.sum_cons, Posted.weight]
    omega

/-- The handler of a write lowers the workload: if the write has failed, `close()` takes the place
of one of its two units. -/
lemma workload_writeDone (hd : s.shuttingDown = true) {i : ℕ} {ec : Bool}
    (h : s.step (.writeDone i ec) = .ok t) : t.workload + 1 ≤ s.workload := by
  obtain ⟨-, msg, hmsg, hcases⟩ := step_writeDone_cases h
  obtain ⟨hi, -⟩ := List.getElem?_eq_some_iff.mp hmsg
  have hlength : (s.writes.eraseIdx i).length + 1 = s.writes.length := by
    rw [List.length_eraseIdx_of_lt hi]
    omega
  rcases hcases with ⟨-, rfl⟩ | ⟨-, rfl⟩
  · simp only [BtConnection.workload, hd, if_true, List.append_nil]
    omega
  · cases s.socketOpen with
    | false =>
      simp only [BtConnection.workload, Bool.false_eq_true, if_false]
      omega
    | true =>
      simp only [BtConnection.workload, if_true, List.map_append, List.map_cons, List.map_nil,
        List.sum_append, List.sum_cons, List.sum_nil, Posted.weight]
      omega

/-- On a connection that is shutting down every handler lowers the workload, and of the other
events only `close()` raises it, by at most one. -/
lemma workload_step (hd : s.shuttingDown = true) (he : e.submits = false)
    (h : s.step e = .ok t) :
    t.workload + (if e.isHandler then 1 else 0) ≤ s.workload + (if e.isClose then 1 else 0) := by
  cases e with
  | connect accepted => cases he
  | send msg => cases he
  | shutdown =>
    cases h
    exact le_rfl
  | close => exact workload_close h
  | runPosted => exact workload_runPosted h
  | writeDone i ec => exact workload_writeDone hd h
  | readDone chunk =>
    obtain ⟨hcan, ⟨-, rfl⟩ | ⟨hup, -⟩⟩ := step_readDone_cases h
    · have hreads := hcan.2.1
      simp only [deliver, BtConnection.workload, Event.isHandler, Event.isClose]
      simp
      omega
    · exact absurd (hd.symm.trans hup) (by decide)
  | readFailed err =>
    obtain ⟨-, hreads, rfl⟩ := step_readFailed_cases h
    simp only [BtConnection.workload, Event.isHandler, Event.isClose, hd, if_true,
      Bool.false_eq_true, if_false]
    omega
  | ioReturn =>
    obtain ⟨-, rfl⟩ := step_ioReturn_ok_iff.mp h
    exact le_rfl
  | readEnter reader =>
    obtain ⟨-, rfl⟩ := step_readEnter_ok_iff.mp h
    exact le_rfl
  | readTake reader =>
    obtain ⟨entry, -, -, rfl⟩ := step_readTake_ok_iff.mp h
    exact le_rfl

/-- As long as anything is left to do and `io_.run()` has not returned, some handler can run. -/
lemma exists_handler_step (hio : s.ioThread = .running) (hleft : ¬ s.Drained) :
    ∃ e u, e.isHandler = true ∧ s.step e = .ok u := by
  cases hposted : s.posted with
  | cons handler rest =>
    exact ⟨.runPosted, _, rfl, step_runPosted_ok_iff.mpr ⟨handler, rest, hio, hposted, rfl⟩⟩
  | nil =>
    cases hwrites : s.writes with
    | cons msg rest =>
      have hfirst : s.writes[0]? = some msg := by rw [hwrites]; rfl
      exact ⟨.writeDone 0 true, _, rfl, step_writeDone_ok_iff.mpr ⟨msg, hio, hfirst, rfl⟩⟩
    | nil =>
      have hreads : 0 < s.reads := by
        by_contra hzero
        exact hleft ⟨hposted, hwrites, by omega⟩
      exact ⟨.readFailed .other, _, rfl, step_readFailed_ok_iff.mpr ⟨hio, hreads, rfl⟩⟩

/-! ## The thread -/

/-- The invariant of the I/O thread. -/
structure ThreadInv (s : System M) : Prop where
  /-- `connect()` starts the thread. -/
  started : s.connected = true → s.ioThread ≠ .notStarted
  /-- Operations are only outstanding while the thread is inside `io_.run()`. -/
  quiet : s.ioThread ≠ .running → s.writes = [] ∧ s.reads = 0

lemma threadInv_new : ThreadInv (System.new : System M) :=
  ⟨nofun, fun _ => ⟨rfl, rfl⟩⟩

/-- Every event keeps the invariant of the thread. -/
lemma ThreadInv.step (h : ThreadInv s) (hstep : s.step e = .ok t) : ThreadInv t := by
  cases e with
  | connect accepted =>
    rcases step_connect_cases hstep with ⟨-, rfl⟩ | ⟨-, -, rfl⟩
    · exact ⟨h.started, h.quiet⟩
    · exact ⟨fun _ => by simp, fun hio => absurd rfl hio⟩
  | send msg =>
    rcases step_send_cases hstep with ⟨-, rfl⟩ | ⟨-, rfl⟩
    · exact h
    · exact ⟨h.started, h.quiet⟩
  | shutdown =>
    cases hstep
    exact ⟨h.started, h.quiet⟩
  | close =>
    rw [step_close_ok_iff.mp hstep]
    exact ⟨h.started, h.quiet⟩
  | runPosted =>
    have hio := (step_runPosted_cases hstep).1
    have hrunning := (sameInbound_step hstep rfl).ioThread.trans hio
    exact ⟨fun _ => by rw [hrunning]; decide, fun hnot => absurd hrunning hnot⟩
  | writeDone i ec =>
    have hio := (step_writeDone_cases hstep).1
    have hrunning := (sameInbound_step hstep rfl).ioThread.trans hio
    exact ⟨fun _ => by rw [hrunning]; decide, fun hnot => absurd hrunning hnot⟩
  | readDone chunk =>
    obtain ⟨hcan, ⟨-, rfl⟩ | ⟨-, entry, rfl⟩⟩ := step_readDone_cases hstep
    · exact ⟨h.started, fun hnot => absurd hcan.1 hnot⟩
    · exact ⟨h.started, fun hnot => absurd hcan.1 hnot⟩
  | readFailed err =>
    obtain ⟨hio, -, rfl⟩ := step_readFailed_cases hstep
    exact ⟨h.started, fun hnot => absurd hio hnot⟩
  | ioReturn =>
    obtain ⟨⟨-, -, hwrites, hreads⟩, rfl⟩ := step_ioReturn_ok_iff.mp hstep
    exact ⟨fun _ => by simp, fun _ => ⟨List.eq_nil_of_length_eq_zero hwrites, hreads⟩⟩
  | readEnter reader =>
    obtain ⟨-, rfl⟩ := step_readEnter_ok_iff.mp hstep
    exact ⟨h.started, h.quiet⟩
  | readTake reader =>
    obtain ⟨entry, -, -, rfl⟩ := step_readTake_ok_iff.mp hstep
    exact ⟨h.started, h.quiet⟩

lemma threadInv_of_run {es : List (Event M)} (h : (system M).run es = .ok s) : ThreadInv s :=
  (system M).run_invariant threadInv_new (fun _ _ _ hs hstep => hs.step hstep) h

/-! ## From `close()` on -/

/-- The invariant of a connection on which `close()` has been called. -/
structure Draining (s : System M) : Prop where
  /-- `shutdown_` is set. -/
  down : s.shuttingDown = true
  /-- As long as the socket is open, a handler that closes it is posted. -/
  closing : s.socketOpen = true → .closeSocket ∈ s.posted

lemma draining_of_close (h : s.step .close = .ok t) : Draining t := by
  rw [step_close_ok_iff.mp h]
  refine ⟨rfl, ?_⟩
  intro hopen
  have hopen' : s.socketOpen = true := hopen
  simp [hopen']

namespace Draining

/-- Once no handler is posted, the socket is closed. -/
lemma socketOpen_eq_false (h : Draining s) (hposted : s.posted = []) : s.socketOpen = false := by
  by_contra hopen
  have hmem := h.closing (by simpa using hopen)
  rw [hposted] at hmem
  cases hmem

/-- Only the handler that `close` posts leaves fewer of them, and it closes the socket. -/
lemma runPosted (h : Draining s) (hstep : s.step .runPosted = .ok t) : Draining t := by
  obtain ⟨-, rest, ⟨-, rfl⟩ | ⟨msg, hposted, rfl⟩⟩ := step_runPosted_cases hstep
  · exact ⟨h.down, fun hopen => by cases hopen⟩
  · refine ⟨h.down, ?_⟩
    intro hopen
    simpa [hposted] using h.closing hopen

/-- A write that fails posts another handler that closes the socket. -/
lemma writeDone (h : Draining s) {i : ℕ} {ec : Bool}
    (hstep : s.step (.writeDone i ec) = .ok t) : Draining t := by
  obtain ⟨-, msg, -, ⟨-, rfl⟩ | ⟨-, rfl⟩⟩ := step_writeDone_cases hstep
  · exact ⟨h.down, h.closing⟩
  · refine ⟨rfl, ?_⟩
    intro hopen
    have hopen' : s.socketOpen = true := hopen
    simp [hopen']

/-- Every event but a call of `send()` or `connect()` keeps the invariant. -/
lemma step (h : Draining s) (he : e.submits = false) (hstep : s.step e = .ok t) :
    Draining t := by
  cases e with
  | connect accepted => cases he
  | send msg => cases he
  | shutdown =>
    cases hstep
    exact ⟨rfl, h.closing⟩
  | close => exact draining_of_close hstep
  | runPosted => exact h.runPosted hstep
  | writeDone i ec => exact h.writeDone hstep
  | readDone chunk =>
    obtain ⟨-, ⟨-, rfl⟩ | ⟨-, entry, rfl⟩⟩ := step_readDone_cases hstep
    · exact ⟨h.down, h.closing⟩
    · exact ⟨h.down, h.closing⟩
  | readFailed err =>
    obtain ⟨-, -, rfl⟩ := step_readFailed_cases hstep
    exact ⟨h.down, h.closing⟩
  | ioReturn =>
    obtain ⟨-, rfl⟩ := step_ioReturn_ok_iff.mp hstep
    exact ⟨h.down, h.closing⟩
  | readEnter reader =>
    obtain ⟨-, rfl⟩ := step_readEnter_ok_iff.mp hstep
    exact ⟨h.down, h.closing⟩
  | readTake reader =>
    obtain ⟨entry, -, -, rfl⟩ := step_readTake_ok_iff.mp hstep
    exact ⟨h.down, h.closing⟩

/-- If `io_.run()` leaves nothing behind when it returns, then nothing is there afterwards: the
handlers are all run, and `close()` finds the socket closed. -/
lemma drained_step (h : Draining s) (hend : s.ioThread = .returned → s.Drained)
    (he : e.submits = false) (hstep : s.step e = .ok t) :
    t.ioThread = .returned → t.Drained := by
  intro hio
  have hnever : s.ioThread = .running → s.ioThread ≠ .returned := by
    intro hrunning hreturned
    rw [hrunning] at hreturned
    cases hreturned
  cases e with
  | connect accepted => cases he
  | send msg => cases he
  | shutdown =>
    cases hstep
    exact hend hio
  | close =>
    have hsame := (sameInbound_step hstep rfl).ioThread
    have hdrained := hend (hsame.symm.trans hio)
    have hclosed := h.socketOpen_eq_false hdrained.1
    rw [step_close_ok_iff.mp hstep]
    simpa [BtConnection.Drained, hclosed] using hdrained
  | runPosted =>
    have hrunning := (step_runPosted_cases hstep).1
    have hsame := (sameInbound_step hstep rfl).ioThread
    exact absurd (hsame.symm.trans hio) (hnever hrunning)
  | writeDone i ec =>
    have hrunning := (step_writeDone_cases hstep).1
    have hsame := (sameInbound_step hstep rfl).ioThread
    exact absurd (hsame.symm.trans hio) (hnever hrunning)
  | readDone chunk =>
    obtain ⟨hcan, ⟨-, rfl⟩ | ⟨-, entry, rfl⟩⟩ := step_readDone_cases hstep
    · exact absurd hio (hnever hcan.1)
    · exact absurd hio (hnever hcan.1)
  | readFailed err =>
    obtain ⟨hrunning, -, rfl⟩ := step_readFailed_cases hstep
    exact absurd hio (hnever hrunning)
  | ioReturn =>
    obtain ⟨⟨-, hposted, hwrites, hreads⟩, rfl⟩ := step_ioReturn_ok_iff.mp hstep
    exact ⟨hposted, List.eq_nil_of_length_eq_zero hwrites, hreads⟩
  | readEnter reader =>
    obtain ⟨-, rfl⟩ := step_readEnter_ok_iff.mp hstep
    exact hend hio
  | readTake reader =>
    obtain ⟨entry, -, -, rfl⟩ := step_readTake_ok_iff.mp hstep
    exact hend hio

/-- The invariant over runs. -/
lemma runFrom {fs : List (Event M)} (h : Draining s) (hrest : (system M).runFrom s fs = .ok t)
    (hfs : ∀ e ∈ fs, e.submits = false) : Draining t :=
  (system M).runFrom_invariant (fun _ e _ hu he hstep => hu.step (hfs e he) hstep) hrest h

/-- If `io_.run()` returns during a run, then it leaves nothing behind. -/
lemma drained_of_returned {fs : List (Event M)} (h : Draining s) (hio : s.ioThread = .running)
    (hrest : (system M).runFrom s fs = .ok t) (hfs : ∀ e ∈ fs, e.submits = false) :
    t.ioThread = .returned → t.Drained := by
  have hstart : s.ioThread = .returned → s.Drained := by
    intro hreturned
    rw [hio] at hreturned
    cases hreturned
  have hend := (system M).runFrom_invariant
    (I := fun u => Draining u ∧ (u.ioThread = .returned → u.Drained))
    (fun u e v hu he hstep =>
      ⟨hu.1.step (hfs e he) hstep, hu.1.drained_step hu.2 (hfs e he) hstep⟩) hrest ⟨h, hstart⟩
  exact hend.2

end Draining

/-! ## Whole runs -/

/-- The thread can be joined: it has left `io_.run()`, or nothing keeps it there. -/
def CanJoin (s : System M) : Prop := s.ioThread = .returned ∨ ∃ u, s.step .ioReturn = .ok u

lemma canJoin_of_drained (h : ThreadInv s) (hconn : s.connected = true) (hdrained : s.Drained) :
    s.CanJoin := by
  cases hio : s.ioThread with
  | notStarted => exact absurd hio (h.started hconn)
  | returned => exact Or.inl hio
  | running =>
    obtain ⟨hposted, hwrites, hreads⟩ := hdrained
    have hlength : s.writes.length = 0 := by rw [hwrites]; rfl
    exact Or.inr ⟨_, step_ioReturn_ok_iff.mpr ⟨⟨hio, hposted, hlength, hreads⟩, rfl⟩⟩

/-- **Closing drains the I/O thread.**  Take any run on a connection that has been connected, end
it with `close()`, and let any events follow in which `send()` and `connect()` are not called.

At most as many handlers run as the bound says, which only looks at the state after `close()`,
plus one for every further call of `close()`.  Once no posted handler is left, the socket is
closed.  As long as an operation is outstanding, the thread is inside `io_.run()`; and if it was
there when `close()` was called, then a state in which no handler can run any more has neither a
posted handler nor an outstanding operation.  In every such state the thread can be joined. -/
theorem close_drains {es fs : List (Event M)} (hrun : (system M).run (es ++ [.close]) = .ok s)
    (hconn : .connect true ∈ es) (hrest : (system M).runFrom s fs = .ok t)
    (hfs : ∀ e ∈ fs, e.submits = false) :
    fs.countP Event.isHandler ≤
        3 * s.posted.length + 2 * s.writes.length + s.reads + fs.countP Event.isClose ∧
      (t.posted = [] → t.socketOpen = false) ∧
      (0 < s.reads ∨ s.writes ≠ [] → s.ioThread = .running) ∧
      ((∀ e u, e.isHandler = true → t.step e ≠ .ok u) →
        (s.ioThread = .running → t.Drained) ∧ t.CanJoin) := by
  have hdraining : Draining s := by
    obtain ⟨u, -, hclose⟩ := (system M).run_concat_ok_iff.mp hrun
    exact draining_of_close hclose
  have hrun' : (system M).run (es ++ [.close] ++ fs) = .ok t :=
    ((system M).run_append_of_ok hrun fs).trans hrest
  have hconn' : t.connected = true := (connected_iff_of_run hrun').mpr (by simp [hconn])
  have hdraining' : Draining t := hdraining.runFrom hrest hfs
  have hthread : ThreadInv s := threadInv_of_run hrun
  have hthread' : ThreadInv t := threadInv_of_run hrun'
  -- a handler that cannot run is not there, unless the thread has ended
  have hstuck : (∀ e u, e.isHandler = true → t.step e ≠ .ok u) → t.ioThread = .running →
      t.Drained := by
    intro hnone hio
    by_contra hleft
    obtain ⟨e, u, he, hstep⟩ := exists_handler_step hio hleft
    exact hnone e u he hstep
  refine ⟨?_, ?_, ?_, ?_⟩
  · have hcount := (system M).runFrom_countP_le (I := Draining)
      (f := fun u => u.workload) (p := Event.isHandler) (q := Event.isClose) (c := 1)
      (fun u e v hu he hstep =>
        ⟨hu.step (hfs e he) hstep, workload_step hu.down (hfs e he) hstep⟩) hrest hdraining
    have hbound := BtConnection.workload_le s.toBtConnection
    omega
  · exact hdraining'.socketOpen_eq_false
  · intro hbusy
    by_contra hio
    obtain ⟨hwrites, hreads⟩ := hthread.quiet hio
    rcases hbusy with hread | hwrite
    · omega
    · exact hwrite hwrites
  · intro hnone
    constructor
    · intro hio
      cases hio' : t.ioThread with
      | notStarted => exact absurd hio' (hthread'.started hconn')
      | running => exact hstuck hnone hio'
      | returned => exact hdraining.drained_of_returned hio hrest hfs hio'
    · cases hio' : t.ioThread with
      | notStarted => exact absurd hio' (hthread'.started hconn')
      | running => exact canJoin_of_drained hthread' hconn' (hstuck hnone hio')
      | returned => exact Or.inl hio'

/-- A message that is posted when `close()` is called, and whose write fails. -/
theorem close_drains_failed_write :
    ∃ s t, (system ℕ).run ([.connect true, .send 7] ++ [.close]) = .ok s ∧
      (system ℕ).runFrom s [.runPosted, .runPosted, .writeDone 0 true, .readFailed .other] =
        .ok t ∧
      ([.runPosted, .runPosted, .writeDone 0 true, .readFailed .other] : List (Event ℕ)).countP
          Event.isHandler ≤
        3 * s.posted.length + 2 * s.writes.length + s.reads + 0 ∧
      t.posted = [] ∧ t.socketOpen = false ∧ t.Drained ∧ t.CanJoin := by
  obtain ⟨s, t, hrun, hrest, hreads, hposted, hwrites, hreads'⟩ :
      ∃ s t, (system ℕ).run ([.connect true, .send 7] ++ [.close]) = .ok s ∧
        (system ℕ).runFrom s [.runPosted, .runPosted, .writeDone 0 true, .readFailed .other] =
          .ok t ∧ 0 < s.reads ∧ t.posted = [] ∧ t.writes = [] ∧ t.reads = 0 :=
    ⟨_, _, rfl, rfl, by decide, rfl, rfl, rfl⟩
  obtain ⟨hcount, hclosed, hio, hend⟩ := close_drains hrun (by decide) hrest (by decide)
  have hnone : ∀ e u, e.isHandler = true → t.step e ≠ .ok u := by
    intro e u he hstep
    cases e with
    | runPosted => simp [step_runPosted_ok_iff, hposted] at hstep
    | writeDone i ec => simp [step_writeDone_ok_iff, hwrites] at hstep
    | readDone chunk => simp [step_readDone_ok_iff, CanDeliver, hreads'] at hstep
    | readFailed err => simp [step_readFailed_ok_iff, hreads'] at hstep
    | _ => cases he
  obtain ⟨hdrained, hjoin⟩ := hend hnone
  exact ⟨s, t, hrun, hrest, hcount, hposted, hclosed hposted, hdrained (hio (Or.inl hreads)),
    hjoin⟩

end System

end Btconn
