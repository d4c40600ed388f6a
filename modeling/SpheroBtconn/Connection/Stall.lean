import SpheroBtconn.Connection.Flush
import SpheroBtconn.Connection.Once

/-!
# When writing stops for good

A write is started in two places: by the handler of `send`, if it finds `messageQueue_` empty, and
by the completion handler of a write, unless `shutdown_` is set.  So a connection that is shutting
down and has a message in its queue, but no write outstanding, never writes again: the handler of
`send` always finds the queue non-empty, and there is no write that could complete (`Stalled`).

A write that fails always leads there, because it leaves its message in the queue.  The object does
not say so: `connected_` stays set, and `send` goes on accepting messages that nobody will ever
write (`failed_write_stalls`).  Apart from a thread that has ended, this is the only way in which
writing stops for good (`never_writes_again_iff`).
-/

namespace Btconn

variable {M : Type*}

namespace System

variable {s t u : System M} {e : Event M} {es fs : List (Event M)}

/-- A message is queued, none is being written, and the connection is shutting down. -/
structure Stalled (s : System M) : Prop where
  /-- `shutdown_` is set. -/
  down : s.shuttingDown = true
  /-- No write is outstanding. -/
  writes : s.writes = []
  /-- A message is queued. -/
  messageQueue : s.messageQueue ≠ []

/-! ## Stalled connections -/

/-- What an event can do to the queues of a connection that is stalled. -/
lemma Stalled.step (h : Stalled s) (hstep : s.step e = .ok t) :
    Stalled t ∧ t.written = s.written ∧ s.messageQueue <+: t.messageQueue := by
  cases e with
  | send msg =>
    rcases step_send_cases hstep with ⟨-, rfl⟩ | ⟨-, rfl⟩
    · exact ⟨h, rfl, List.prefix_rfl⟩
    · exact ⟨⟨h.down, h.writes, h.messageQueue⟩, rfl, List.prefix_rfl⟩
  | shutdown =>
    obtain rfl := Except.ok.inj hstep
    exact ⟨⟨rfl, h.writes, h.messageQueue⟩, rfl, List.prefix_rfl⟩
  | close =>
    rw [step_close_ok_iff.mp hstep]
    exact ⟨⟨rfl, h.writes, h.messageQueue⟩, rfl, List.prefix_rfl⟩
  | runPosted =>
    obtain ⟨-, rest, ⟨-, rfl⟩ | ⟨msg, -, rfl⟩⟩ := step_runPosted_cases hstep
    · exact ⟨⟨h.down, h.writes, h.messageQueue⟩, rfl, List.prefix_rfl⟩
    · have hwrites : (if s.messageQueue = [] then s.writes ++ [msg] else s.writes) = [] := by
        rw [if_neg h.messageQueue, h.writes]
      exact ⟨⟨h.down, hwrites, by simp⟩, rfl, List.prefix_append _ _⟩
  | writeDone i ec =>
    obtain ⟨-, msg, hmsg, -⟩ := step_writeDone_cases hstep
    simp [h.writes] at hmsg
  | _ =>
    have hsame := sameOutbound_step hstep rfl
    refine ⟨⟨?_, ?_, ?_⟩, hsame.written, ?_⟩
    · rw [hsame.shuttingDown, h.down]
    · rw [hsame.writes, h.writes]
    · rw [hsame.messageQueue]
      exact h.messageQueue
    · exact hsame.messageQueue ▸ List.prefix_rfl

/-- A connection that is stalled stays so, and its queue only grows. -/
lemma Stalled.runFrom (h : Stalled s) (hrest : (system M).runFrom s fs = .ok t) :
    Stalled t ∧ t.written = s.written ∧ s.messageQueue <+: t.messageQueue := by
  refine (system M).runFrom_invariant
    (I := fun u => Stalled u ∧ u.written = s.written ∧ s.messageQueue <+: u.messageQueue)
    ?_ hrest ⟨h, rfl, List.prefix_rfl⟩
  rintro u e v ⟨hu, hwritten, hqueue⟩ - hstep
  obtain ⟨hv, hwritten', hqueue'⟩ := hu.step hstep
  exact ⟨hv, hwritten'.trans hwritten, hqueue.trans hqueue'⟩

/-- A write that fails leaves its message at the front of the queue, and nothing is being written
any more. -/
lemma stalled_of_failed_write (hout : OutboundInv s) {i : ℕ} {msg : M}
    (hmsg : s.writes[i]? = some msg) (hstep : s.step (.writeDone i true) = .ok t) :
    Stalled t ∧ t.written = s.written ∧ t.messageQueue = s.messageQueue ∧
      t.messageQueue.head? = some msg := by
  obtain ⟨queue, hq, herase⟩ := hout.front_of_write hmsg
  obtain ⟨-, msg', -, ⟨hec, -⟩ | ⟨-, rfl⟩⟩ := step_writeDone_cases hstep
  · cases hec
  · exact ⟨⟨rfl, herase, by simp [hq]⟩, rfl, rfl, by simp [hq]⟩

/-- The handler that closes the socket is posted as by `close()`. -/
lemma draining_of_failed_write {i : ℕ} (hstep : s.step (.writeDone i true) = .ok t) :
    Draining t := by
  obtain ⟨-, msg, -, ⟨hec, -⟩ | ⟨-, rfl⟩⟩ := step_writeDone_cases hstep
  · cases hec
  · refine ⟨rfl, ?_⟩
    intro hopen
    have hopen' : s.socketOpen = true := hopen
    simp [hopen']

/-- Messages that have not been written do not change `connected_`. -/
lemma connected_of_runFrom (hconn : s.connected = true)
    (hrest : (system M).runFrom s fs = .ok t) : t.connected = true :=
  (system M).runFrom_invariant (I := fun u => u.connected = true)
    (fun u e v hu _ hstep => by rw [connected_step hstep, hu, Bool.true_or]) hrest hconn

/-- A message that is sent later does not change that the socket is going to be closed. -/
lemma Draining.step_of_not_connect (h : Draining s) (he : ∀ accepted, e ≠ .connect accepted)
    (hstep : s.step e = .ok t) : Draining t := by
  cases e with
  | connect accepted => exact absurd rfl (he accepted)
  | send msg =>
    rcases step_send_cases hstep with ⟨-, rfl⟩ | ⟨-, rfl⟩
    · exact h
    · exact ⟨h.down, fun hopen => List.mem_append_left _ (h.closing hopen)⟩
  | _ => exact h.step rfl hstep

/-- **After a write that has failed.**  Whatever follows, no write is ever started again and nothing
more is written: the message whose write has failed stays at the front of `messageQueue_`, the
messages behind it stay there, and those that `send` accepts later are queued behind them.
`send` goes on accepting messages all the same.  If `connect()` is not called again, the socket is
closed as soon as no posted handler is left; a further `connect()` can only fail, and opens it. -/
theorem failed_write_stalls {i : ℕ} (hrun : (system M).run es = .ok s)
    (hfail : s.step (.writeDone i true) = .ok t) (hrest : (system M).runFrom t fs = .ok u) :
    (u.writes = [] ∧ u.written = s.written) ∧
      (∃ msg, s.writes[i]? = some msg ∧ u.messageQueue.head? = some msg) ∧
      (∃ more, u.messageQueue = s.messageQueue ++ more ∧
        u.sent = s.written ++ s.messageQueue ++ more ++ u.pending) ∧
      (∀ msg, (u.send msg).1 = .returned ()) ∧
      ((∀ accepted, .connect accepted ∉ fs) → u.posted = [] → u.socketOpen = false) ∧
      ∀ accepted v, u.step (.connect accepted) = .ok v → accepted = false ∧ v.socketOpen = true := by
  have hout := outboundInv_of_run hrun
  obtain ⟨msg, hio, hmsg, -⟩ := step_writeDone_ok_iff.mp hfail
  obtain ⟨hstalled, hwritten, hqueue, hfront⟩ := stalled_of_failed_write hout hmsg hfail
  obtain ⟨hstalled', hwritten', more, hmore⟩ := hstalled.runFrom hrest
  have hrun' : (system M).run (es ++ [.writeDone i true]) = .ok t :=
    (system M).run_concat_ok_iff.mpr ⟨s, hrun, hfail⟩
  have hrun'' := ((system M).run_append_of_ok hrun' fs).trans hrest
  have horder := (outboundInv_of_run hrun'').order
  have hconn : u.connected = true := by
    have hsconn := (inboundInv_of_run hrun).connected_of_running hio
    exact connected_of_runFrom (by rw [connected_step hfail, hsconn, Bool.true_or]) hrest
  refine ⟨⟨hstalled'.writes, hwritten'.trans hwritten⟩, ⟨msg, hmsg, ?_⟩, ⟨more, ?_, ?_⟩, ?_, ?_, ?_⟩
  · obtain ⟨queue, hq⟩ := List.head?_eq_some_iff.mp hfront
    rw [← hmore, hq, List.cons_append, List.head?_cons]
  · rw [← hmore, hqueue]
  · rw [← horder, ← hmore, hwritten', hwritten, hqueue, ← List.append_assoc]
  · intro msg'
    simp [BtConnection.send, hconn]
  · intro hfs
    have hdraining := (system M).runFrom_invariant (I := Draining)
      (fun _ e _ hv he hstep =>
        hv.step_of_not_connect (fun accepted hc => hfs accepted (hc ▸ he)) hstep)
      hrest (draining_of_failed_write hfail)
    exact hdraining.socketOpen_eq_false
  · intro accepted v hstep
    rcases step_connect_cases hstep with ⟨rfl, rfl⟩ | ⟨-, hnot, -⟩
    · exact ⟨rfl, rfl⟩
    · exact absurd hnot ((threadInv_of_run hrun'').started hconn)

/-- The first of two messages cannot be written, and a third one is sent. -/
theorem failed_write_stalls_three :
    ∃ u, (system ℕ).run [.connect true, .send 7, .send 8, .runPosted, .runPosted, .writeDone 0 true,
        .send 9, .runPosted, .runPosted] = .ok u ∧
      u.writes = [] ∧ u.written = [] ∧ u.messageQueue.head? = some 7 ∧
      (u.send 10).1 = .returned () ∧ u.socketOpen = false := by
  obtain ⟨s, t, u, hrun, hfail, hrest, hall, hwritten, hwrites, hposted⟩ :
      ∃ s t u, (system ℕ).run [.connect true, .send 7, .send 8, .runPosted, .runPosted] = .ok s ∧
        s.step (.writeDone 0 true) = .ok t ∧
        (system ℕ).runFrom t [.send 9, .runPosted, .runPosted] = .ok u ∧
        (system ℕ).run [.connect true, .send 7, .send 8, .runPosted, .runPosted, .writeDone 0 true,
          .send 9, .runPosted, .runPosted] = .ok u ∧ s.written = [] ∧ s.writes = [7] ∧
        u.posted = [] := ⟨_, _, _, rfl, rfl, rfl, rfl, rfl, rfl, rfl⟩
  obtain ⟨⟨hnone, hsame⟩, ⟨msg, hmsg, hfront⟩, -, hsend, hclosed, -⟩ :=
    failed_write_stalls hrun hfail hrest
  rw [hwrites] at hmsg
  obtain rfl : 7 = msg := by simpa using hmsg
  exact ⟨u, hall, hnone, hsame.trans hwritten, hfront, hsend 10, hclosed (by simp) hposted⟩

/-! ## Exactly when writing stops -/

/-- A thread that has returned does not start again. -/
lemma returned_of_step (hio : s.ioThread = .returned) (hstep : s.step e = .ok t) :
    t.ioThread = .returned := by
  cases e with
  | connect accepted =>
    rcases step_connect_cases hstep with ⟨-, rfl⟩ | ⟨-, hnot, -⟩
    · exact hio
    · rw [hio] at hnot
      cases hnot
  | readDone chunk =>
    obtain ⟨-, ⟨-, rfl⟩ | ⟨-, entry, rfl⟩⟩ := step_readDone_cases hstep <;> exact hio
  | readFailed err =>
    obtain ⟨-, -, rfl⟩ := step_readFailed_cases hstep
    exact hio
  | ioReturn =>
    obtain ⟨-, rfl⟩ := step_ioReturn_ok_iff.mp hstep
    rfl
  | readEnter reader =>
    obtain ⟨-, rfl⟩ := step_readEnter_ok_iff.mp hstep
    exact hio
  | readTake reader =>
    obtain ⟨entry, -, -, rfl⟩ := step_readTake_ok_iff.mp hstep
    exact hio
  | _ => exact (sameInbound_step hstep rfl).ioThread.trans hio

/-- If the queue is empty, the first handler of `send` that is run starts a write. -/
lemma exists_write_of_posted (hio : s.ioThread = .running) (hqueue : s.messageQueue = []) {msg : M}
    (hmem : .send msg ∈ s.posted) :
    ∃ fs t, (system M).runFrom s fs = .ok t ∧ t.writes ≠ [] := by
  induction hposted : s.posted generalizing s with
  | nil =>
    rw [hposted] at hmem
    cases hmem
  | cons handler rest ih =>
    have hstep : (system M).step s .runPosted = .ok _ :=
      step_runPosted_ok_iff.mpr ⟨handler, rest, hio, hposted, rfl⟩
    cases handler with
    | send first =>
      refine ⟨[.runPosted], _, ((system M).runFrom_singleton s _).trans hstep, ?_⟩
      simp [BtConnection.runHandler_send, hqueue]
    | closeSocket =>
      have hmem' : .send msg ∈ rest := by simpa [hposted] using hmem
      obtain ⟨fs, t, hrest, hwrites⟩ := ih (s := { s with posted := rest, socketOpen := false })
        hio hqueue hmem' rfl
      exact ⟨.runPosted :: fs, t, ((system M).runFrom_cons_ok hstep fs).trans hrest, hwrites⟩

/-- On a connection with a thread and an empty queue, `send` leads to a write. -/
lemma exists_write_of_send (msg : M) (hconn : s.connected = true) (hio : s.ioThread = .running)
    (hqueue : s.messageQueue = []) : ∃ fs t, (system M).runFrom s fs = .ok t ∧ t.writes ≠ [] := by
  have hsend : (system M).step s (.send msg) = .ok _ := step_send_of_connected hconn msg
  have hmem : .send msg ∈ s.posted ++ [.send msg] := List.mem_concat_self
  obtain ⟨fs, t, hrest, hwrites⟩ := exists_write_of_posted
    (s := { s with posted := s.posted ++ [.send msg], sent := s.sent ++ [msg] }) hio hqueue hmem
  exact ⟨.send msg :: fs, t, ((system M).runFrom_cons_ok hsend fs).trans hrest, hwrites⟩

/-- **When writing stops for good.**  In a state that some run reaches, no write is outstanding
and none will be, whatever happens next, if and only if the connection is stalled or the thread
has left `io_.run()`. -/
theorem never_writes_again_iff [Nonempty M] (hrun : (system M).run es = .ok s) :
    (∀ fs t, (system M).runFrom s fs = .ok t → t.writes = []) ↔
      Stalled s ∨ s.ioThread = .returned := by
  have hout := outboundInv_of_run hrun
  constructor
  · intro hnever
    by_contra hother
    obtain ⟨hstalled, hreturned⟩ := not_or.mp hother
    have hwrites : s.writes = [] := hnever [] s rfl
    have hqueue : s.messageQueue = [] := by
      by_contra hne
      cases hd : s.shuttingDown with
      | true => exact hstalled ⟨hd, hwrites, hne⟩
      | false => exact hout.busy hd hne hwrites
    obtain ⟨msg⟩ := (inferInstance : Nonempty M)
    -- a connection that has not been made yet is made first
    obtain ⟨fs, t, hconnect, hconn, hio, hsame, -⟩ := exists_connected hrun
    obtain ⟨gs, u, hwrite, hne⟩ :=
      exists_write_of_send msg hconn (hio hreturned) (hsame.trans hqueue)
    exact hne (hnever (fs ++ gs) u ((system M).runFrom_append_ok_iff.mpr ⟨t, hconnect, hwrite⟩))
  · rintro (hstalled | hreturned) fs t hrest
    · exact (hstalled.runFrom hrest).1.writes
    · have hend := (system M).runFrom_invariant (I := fun u => u.ioThread = .returned)
        (fun u e v hu _ hstep => returned_of_step hu hstep) hrest hreturned
      have hthread := threadInv_of_run (((system M).run_append_of_ok hrun fs).trans hrest)
      exact (hthread.quiet (by rw [hend]; decide)).1

/-- `shutdown()` while the first of two messages is being written. -/
theorem never_writes_again_shutdown :
    ∃ s, (system ℕ).run [.connect true, .send 7, .send 8, .runPosted, .runPosted, .shutdown,
        .writeDone 0 false] = .ok s ∧
      ∀ fs t, (system ℕ).runFrom s fs = .ok t → t.writes = [] := by
  obtain ⟨s, hrun, hd, hw, hq⟩ : ∃ s, (system ℕ).run [.connect true, .send 7, .send 8, .runPosted,
      .runPosted, .shutdown, .writeDone 0 false] = .ok s ∧ s.shuttingDown = true ∧ s.writes = [] ∧
      s.messageQueue ≠ [] := ⟨_, rfl, rfl, rfl, by decide⟩
  exact ⟨s, hrun, (never_writes_again_iff hrun).mpr (Or.inl ⟨hd, hw, hq⟩)⟩

end System

end Btconn
