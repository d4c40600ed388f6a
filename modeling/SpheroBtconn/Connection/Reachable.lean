import SpheroBtconn.Connection.Flush
import SpheroBtconn.Connection.ReadStack
import SpheroBtconn.Connection.Readers

/-!
# The states of a connection that is up

An invariant says too much or too little about a system, unless every state that satisfies it can
be reached.  `IsUp` says what is known of a connection on which `connect()` has succeeded and on
which nothing has set `shutdown_`: messages go through the posted handlers and `messageQueue_` in
the order of their calls, and the front of the queue is being written; entries come out of
`readQueue_` as out of a stack; the two sides have nothing to do with each other.

Every such state is reached by some run (`reachable_up_iff`), so that nothing more can be said.
-/

namespace Btconn

variable {M : Type*}

namespace System

variable {s : System M} {es : List (Event M)}

/-- The states of a connection that is up. -/
structure IsUp (s : System M) : Prop where
  /-- `connect()` has succeeded. -/
  connected : s.connected = true
  /-- Nothing has set `shutdown_`. -/
  shuttingDown : s.shuttingDown = false
  /-- The socket is open. -/
  socketOpen : s.socketOpen = true
  /-- The thread is inside `io_.run()`. -/
  ioThread : s.ioThread = .running
  /-- One read is outstanding. -/
  reads : s.reads = 1
  /-- The receive buffer holds zeros. -/
  recvBuffer : s.recvBuffer = RawData.zero
  /-- Every posted handler is one of `send`. -/
  posted : s.posted = s.pending.map .send
  /-- Every accepted message is written, queued or posted, in this order. -/
  sent : s.sent = s.written ++ s.messageQueue ++ s.pending
  /-- Exactly the front of the queue is being written. -/
  writes : s.writes = s.messageQueue.take 1
  /-- The chunks that have been processed contain `0xFF`. -/
  chunks : ∀ c ∈ s.received, c.length ≤ 1024 ∧ 0xFF ∈ c
  /-- Their entries are taken and queued as by a stack. -/
  order : ∃ out stack, IsStackOrder s.received.length out stack ∧
    s.taken = entriesAt s.received out ∧ s.readQueue = entriesAt s.received stack
  /-- A thread only leaves the waiting loop of `read` once. -/
  readers : s.readers.Nodup
  /-- Before the first entry none has left it. -/
  first : s.received = [] → s.readers = []

/-! ## Reachable states -/

/-- The threads that have left the waiting loop. -/
lemma readers_of_run (hrun : (system M).run es = .ok s) :
    s.readers.Nodup ∧ (s.received = [] → s.readers = []) := by
  refine (system M).run_induction
    (P := fun _ s => s.readers.Nodup ∧ (s.received = [] → s.readers = []))
    ⟨List.nodup_nil, fun _ => rfl⟩ ?_ hrun
  rintro es s e t hes ⟨hnodup, hfirst⟩ hstep
  have hreceived := (inboundInv_of_run hes).received_isPrefix_of_step hstep
  have hnone : t.received = [] → s.received = [] := fun h => List.prefix_nil.mp (h ▸ hreceived)
  rcases readers_step hstep with
    ⟨reader, rfl, hr, -⟩ | ⟨reader, entry, -, -, hr, -⟩ | ⟨hr, -⟩
  · obtain ⟨⟨-, hqueue, hnew⟩, -⟩ := step_readEnter_ok_iff.mp hstep
    rw [hr]
    refine ⟨List.nodup_cons.mpr ⟨hnew, hnodup⟩, ?_⟩
    intro h
    -- without a chunk there is no entry to leave the loop for
    obtain ⟨out, stack, hstack, -, hentries⟩ := exists_stackHistory_of_run hes
    have hstack' : out = [] ∧ stack = [] := by
      simpa [hnone h] using hstack.isStackOrder.perm
    rw [hstack'.2] at hentries
    exact absurd hentries hqueue
  · rw [hr]
    refine ⟨hnodup.erase reader, ?_⟩
    intro h
    rw [hfirst (hnone h), List.erase_nil]
  · exact ⟨hr ▸ hnodup, fun h => hr ▸ hfirst (hnone h)⟩

lemma isUp_of_run (hrun : (system M).run es = .ok s) (hconn : .connect true ∈ es)
    (hes : ∀ e ∈ es, e.stops = false) : IsUp s := by
  have hc := (connected_iff_of_run hrun).mpr hconn
  have hd := not_shuttingDown_of_run hrun hes
  have hin := inboundInv_of_run hrun
  have hout := outboundInv_of_run hrun
  have hup := upInv_of_run hrun
  obtain ⟨hio, hreads⟩ := hin.reading hc hd
  obtain ⟨out, stack, hstack, htaken, hqueue⟩ := exists_stackHistory_of_run hrun
  obtain ⟨hnodup, hfirst⟩ := readers_of_run hrun
  exact {
    connected := hc
    shuttingDown := hd
    socketOpen := hup.socketOpen hd
    ioThread := hio
    reads := hreads
    recvBuffer := hin.clean hd
    posted := hup.posted hd
    sent := hout.order.symm
    writes := hout.writes_eq_take hd
    chunks := chunk_of_mem_received hrun
    order := ⟨out, stack, hstack.isStackOrder, htaken, hqueue⟩
    readers := hnodup
    first := hfirst }

/-! ## Reaching every state -/

/-- Calls of `send` one after the other. -/
lemma runFrom_send (hconn : s.connected = true) (ms : List M) :
    (system M).runFrom s (ms.map .send) =
      .ok { s with posted := s.posted ++ ms.map .send, sent := s.sent ++ ms } := by
  induction ms generalizing s with
  | nil => simp
  | cons msg ms ih =>
    have hstep : (system M).step s (.send msg) = .ok _ := step_send_of_connected hconn msg
    rw [List.map_cons, (system M).runFrom_cons_ok hstep]
    refine Eq.trans (ih ?_) ?_
    · exact hconn
    · simp

/-- On a connection on which nothing has been sent yet, messages can be left in any place. -/
lemma exists_runFrom_of_idle {u : System M} (hconn : u.connected = true)
    (hio : u.ioThread = .running) (hd : u.shuttingDown = false) (hposted : u.posted = [])
    (hqueue : u.messageQueue = []) (hwrites : u.writes = []) (hsent : u.sent = [])
    (hwritten : u.written = []) (w q p : List M) :
    ∃ fs, (∀ e ∈ fs, e.stops = false) ∧ (system M).runFrom u fs = .ok { u with
      posted := p.map .send
      messageQueue := q
      writes := q.take 1
      sent := w ++ q ++ p
      written := w } := by
  have hsend := runFrom_send hconn (w ++ q ++ p)
  simp only [hposted, hsent, hqueue, hwrites, hwritten, List.nil_append] at hsend
  have hcut : (w ++ q ++ p).map Posted.send = (w ++ q).map .send ++ p.map .send := List.map_append
  have hpost := runFrom_runPosted
    (s := { u with posted := (w ++ q ++ p).map .send, sent := w ++ q ++ p }) hio hcut
  simp only [hqueue, hwrites, hwritten, if_true, List.nil_append] at hpost
  have hwrite := runFrom_writeDone
    (s := { u with
      posted := p.map .send
      messageQueue := w ++ q
      writes := (w ++ q).take 1
      sent := w ++ q ++ p }) hio hd (Eq.refl (w ++ q)) rfl
  simp only [hwritten, List.nil_append] at hwrite
  refine ⟨(w ++ q ++ p).map .send ++ (List.replicate (w ++ q).length .runPosted ++
    List.replicate w.length (.writeDone 0 false)), ?_, ?_⟩
  · intro e he
    simp only [List.mem_append, List.mem_map, List.mem_replicate] at he
    rcases he with ⟨msg, -, rfl⟩ | ⟨-, rfl⟩ | ⟨-, rfl⟩ <;> rfl
  · refine (system M).runFrom_append_ok_iff.mpr ⟨_, hsend, ?_⟩
    exact (system M).runFrom_append_ok_iff.mpr ⟨_, hpost, hwrite⟩

/-- First everything that is received, then everything that is sent. -/
lemma exists_run_of_isUp (h : IsUp s) :
    ∃ es, (system M).run es = .ok s ∧ .connect true ∈ es ∧ ∀ e ∈ es, e.stops = false := by
  obtain ⟨out, stack, hstack, htaken, hqueue⟩ := h.order
  obtain ⟨es, hconn, hes, hrun⟩ := exists_run_of_stackHistory (M := M) h.chunks h.readers
    (stackHistory_iff.mpr hstack) le_rfl fun hzero => h.first (List.eq_nil_of_length_eq_zero hzero)
  obtain ⟨fs, hfs, hsend⟩ := exists_runFrom_of_idle
    (u := reading s.received s.received.length out stack s.readers) (M := M) rfl rfl rfl rfl rfl rfl
    rfl rfl s.written s.messageQueue s.pending
  refine ⟨es ++ fs, ((system M).run_append_of_ok hrun fs).trans (hsend.trans ?_), by simp [hconn],
    fun e he => (List.mem_append.mp he).elim (hes e) (hfs e)⟩
  have hreceived : s.received.take s.received.length = s.received := List.take_length
  rcases s with ⟨⟨⟩, _⟩
  simp only [reading, established, Except.ok.injEq, System.mk.injEq, BtConnection.mk.injEq]
  exact ⟨⟨h.connected.symm, h.shuttingDown.symm, h.socketOpen.symm, trivial, hqueue.symm,
    h.recvBuffer.symm, h.ioThread.symm, h.posted.symm, h.writes.symm, h.reads.symm⟩,
    trivial, h.sent.symm, trivial, hreceived, htaken.symm⟩

/-- **The states of a connection that is up.**  A state is reached by a run in which some
`connect()` succeeds and nothing sets `shutdown_` exactly if it satisfies `IsUp`: whatever has been
written, is queued and is posted can occur together with whatever a stack can have done with the
chunks received, and with any threads that have left the waiting loop of `read`. -/
theorem reachable_up_iff :
    (∃ es, (system M).run es = .ok s ∧ .connect true ∈ es ∧ ∀ e ∈ es, e.stops = false) ↔
      IsUp s :=
  ⟨fun ⟨_, hrun, hconn, hes⟩ => isUp_of_run hrun hconn hes, exists_run_of_isUp⟩

end System

end Btconn
