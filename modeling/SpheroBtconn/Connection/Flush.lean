import SpheroBtconn.Connection.Inbound
import SpheroBtconn.Connection.Outbound

/-!
# Every message is written

As long as nothing has set `shutdown_`, a message that `send` has accepted is on its way: either
the handler that queues it is posted, or it is in `messageQueue_`, whose front is being written.
`unsent` counts what is left to do, two handlers for each posted message and one for each queued
one.  Every handler of the sending side takes one from it (`unsent_step`) and only `send` adds to
it (`unsent_step_le`), and as long as it is not zero some handler of the sending side can run
(`exists_flush_step`).  So all messages are written after exactly that many handlers, in whatever
order these and everything else happen.
-/

namespace Btconn

variable {M : Type*}

/-- The handlers of the sending side. -/
def Event.flushes : Event M → Bool
  | .runPosted => true
  | .writeDone _ _ => true
  | _ => false

/-- How many handlers of the sending side are left to run. -/
def BtConnection.unsent (s : BtConnection M) : ℕ := 2 * s.posted.length + s.messageQueue.length

namespace System

variable {s t : System M} {e : Event M} {es : List (Event M)}

/-! ## The invariant -/

/-- What is posted while the connection is not shutting down. -/
structure UpInv (s : System M) : Prop where
  /-- Nothing has closed the socket. -/
  socketOpen : s.shuttingDown = false → s.socketOpen = true
  /-- Every posted handler is one of `send`. -/
  posted : s.shuttingDown = false → s.posted = s.pending.map .send

lemma upInv_new : UpInv (System.new : System M) := ⟨fun _ => rfl, fun _ => rfl⟩

namespace UpInv

/-- An event of the receiving side leaves what is posted as it is, and no socket is closed. -/
lemma of_sameOutbound (h : UpInv s) (hsame : SameOutbound s t)
    (hsocket : s.socketOpen = true → t.socketOpen = true) : UpInv t := by
  refine ⟨?_, ?_⟩
  · intro hd
    exact hsocket (h.socketOpen (hsame.shuttingDown ▸ hd))
  · intro hd
    rw [BtConnection.pending, hsame.posted]
    exact h.posted (hsame.shuttingDown ▸ hd)

/-- The handler of `close` is only posted when `shutdown_` is set. -/
lemma closeSocket_notMem (h : UpInv s) (hd : s.shuttingDown = false) :
    Posted.closeSocket ∉ s.posted := by
  intro hmem
  rw [h.posted hd] at hmem
  obtain ⟨msg, -, hmsg⟩ := List.mem_map.mp hmem
  cases hmsg

lemma runPosted (h : UpInv s) (hstep : s.step .runPosted = .ok t) : UpInv t := by
  obtain ⟨-, rest, ⟨hposted, rfl⟩ | ⟨msg, hposted, rfl⟩⟩ := step_runPosted_cases hstep
  · have hclose : s.shuttingDown ≠ false := by
      intro hd
      exact h.closeSocket_notMem hd (hposted ▸ List.mem_cons_self)
    exact ⟨fun hd => absurd hd hclose, fun hd => absurd hd hclose⟩
  · refine ⟨h.socketOpen, ?_⟩
    intro hd
    have hall := h.posted hd
    rw [BtConnection.pending, hposted] at hall
    simpa [Posted.msg?, BtConnection.pending] using hall

/-- Every event keeps the invariant. -/
lemma step (h : UpInv s) (hstep : s.step e = .ok t) : UpInv t := by
  cases e with
  | connect accepted =>
    refine h.of_sameOutbound (sameOutbound_step hstep rfl) fun _ => ?_
    rcases step_connect_cases hstep with ⟨-, rfl⟩ | ⟨-, -, rfl⟩ <;> rfl
  | send msg =>
    rcases step_send_cases hstep with ⟨-, rfl⟩ | ⟨-, rfl⟩
    · exact h
    · refine ⟨h.socketOpen, ?_⟩
      intro hd
      simpa [BtConnection.pending, Posted.msg?] using h.posted hd
  | shutdown =>
    obtain rfl := Except.ok.inj hstep
    exact ⟨by simp [BtConnection.shutdown], by simp [BtConnection.shutdown]⟩
  | close =>
    obtain rfl := step_close_ok_iff.mp hstep
    exact ⟨by simp, by simp⟩
  | runPosted => exact h.runPosted hstep
  | writeDone i ec =>
    obtain ⟨-, msg, -, ⟨-, rfl⟩ | ⟨-, rfl⟩⟩ := step_writeDone_cases hstep
    · exact ⟨h.socketOpen, h.posted⟩
    · exact ⟨by simp, by simp⟩
  | readDone chunk =>
    refine h.of_sameOutbound (sameOutbound_step hstep rfl) ?_
    obtain ⟨-, ⟨-, rfl⟩ | ⟨-, entry, rfl⟩⟩ := step_readDone_cases hstep <;> exact id
  | readFailed err =>
    refine h.of_sameOutbound (sameOutbound_step hstep rfl) ?_
    obtain ⟨-, -, rfl⟩ := step_readFailed_cases hstep
    exact id
  | ioReturn =>
    refine h.of_sameOutbound (sameOutbound_step hstep rfl) ?_
    obtain ⟨-, rfl⟩ := step_ioReturn_ok_iff.mp hstep
    exact id
  | readEnter reader =>
    refine h.of_sameOutbound (sameOutbound_step hstep rfl) ?_
    obtain ⟨-, rfl⟩ := step_readEnter_ok_iff.mp hstep
    exact id
  | readTake reader =>
    refine h.of_sameOutbound (sameOutbound_step hstep rfl) ?_
    obtain ⟨entry, -, -, rfl⟩ := step_readTake_ok_iff.mp hstep
    exact id

end UpInv

lemma upInv_of_run (h : (system M).run es = .ok s) : UpInv s :=
  (system M).run_invariant upInv_new (fun _ _ _ hs hstep => hs.step hstep) h

/-- A queue that is being written, and nothing else that is. -/
lemma OutboundInv.writes_eq_take (h : OutboundInv s) (hd : s.shuttingDown = false) :
    s.writes = s.messageQueue.take 1 := by
  by_cases hq : s.messageQueue = []
  · rw [hq, h.writes_eq_nil hq, List.take_nil]
  · rcases h.single with hw | ⟨msg, rest, hcons, hw⟩
    · exact absurd hw (h.busy hd hq)
    · rw [hcons, hw, List.take_succ_cons, List.take_zero]

/-! ## What is left to do -/

/-- The part of a state that `unsent` looks at. -/
lemma unsent_of_sameOutbound (hsame : SameOutbound s t) : t.unsent = s.unsent := by
  rw [BtConnection.unsent, hsame.posted, hsame.messageQueue, BtConnection.unsent]

/-- A handler of the sending side takes one from what is left to do, and no other event but `send`
changes it. -/
lemma unsent_step (h : OutboundInv s) (hup : UpInv s) (hd : s.shuttingDown = false)
    (he : e.stops = false) (hsend : e.isSend = false) (hstep : s.step e = .ok t) :
    t.unsent + (if e.flushes then 1 else 0) = s.unsent := by
  cases e with
  | send msg => cases hsend
  | runPosted =>
    simp only [Event.flushes, if_true]
    obtain ⟨-, rest, ⟨hposted, rfl⟩ | ⟨msg, hposted, rfl⟩⟩ := step_runPosted_cases hstep
    · exact absurd (hposted ▸ List.mem_cons_self) (hup.closeSocket_notMem hd)
    · simp only [BtConnection.unsent, hposted, List.length_cons, List.length_append,
        List.length_nil]
      omega
  | writeDone i ec =>
    simp only [Event.flushes, if_true]
    obtain ⟨-, msg, hmsg, ⟨-, rfl⟩ | ⟨rfl, -⟩⟩ := step_writeDone_cases hstep
    · obtain ⟨queue, hq, -⟩ := h.front_of_write hmsg
      simp only [BtConnection.unsent, hq, List.tail_cons, List.length_cons]
      omega
    · cases he
  | shutdown => cases he
  | close => cases he
  | _ =>
    have hsame := unsent_of_sameOutbound (sameOutbound_step hstep rfl)
    simp only [Event.flushes, Bool.false_eq_true, if_false]
    omega

/-- A `send` adds two at most. -/
lemma unsent_step_le (h : OutboundInv s) (hup : UpInv s) (hd : s.shuttingDown = false)
    (he : e.stops = false) (hstep : s.step e = .ok t) :
    t.unsent + (if e.flushes then 1 else 0) ≤ s.unsent + (if e.isSend then 2 else 0) := by
  cases hsend : e.isSend with
  | false => exact (unsent_step h hup hd he hsend hstep).le
  | true =>
    cases e with
    | send msg =>
      rcases step_send_cases hstep with ⟨-, rfl⟩ | ⟨-, rfl⟩
      · simp [Event.flushes]
      · simp only [BtConnection.unsent, Event.flushes, List.length_append, List.length_singleton,
          Bool.false_eq_true, if_false, if_true]
        omega
    | _ => cases hsend

/-- As long as there is something left to do, a handler of the sending side can run, and nothing
but a write that fails sets `shutdown_`. -/
lemma exists_flush_step (h : OutboundInv s) (hio : s.ioThread = .running)
    (hd : s.shuttingDown = false) (hleft : s.unsent ≠ 0) :
    ∃ e t, e.flushes = true ∧ e.stops = false ∧ s.step e = .ok t := by
  by_cases hposted : s.posted = []
  · have hq : s.messageQueue ≠ [] := by
      intro hq
      simp [BtConnection.unsent, hposted, hq] at hleft
    obtain ⟨msg, hw⟩ : ∃ msg, s.writes[0]? = some msg := by
      obtain ⟨msg, queue, hcons⟩ := List.exists_cons_of_ne_nil hq
      exact ⟨msg, by rw [h.writes_eq_take hd, hcons]; rfl⟩
    exact ⟨.writeDone 0 false, _, rfl, rfl, step_writeDone_ok_iff.mpr ⟨msg, hio, hw, rfl⟩⟩
  · obtain ⟨handler, rest, hcons⟩ := List.exists_cons_of_ne_nil hposted
    exact ⟨.runPosted, _, rfl, rfl, step_runPosted_ok_iff.mpr ⟨handler, rest, hio, hcons, rfl⟩⟩

/-- Nothing is left to do when all messages have been written. -/
lemma OutboundInv.written_eq_sent_iff (h : OutboundInv s) (hup : UpInv s)
    (hd : s.shuttingDown = false) : s.written = s.sent ↔ s.unsent = 0 := by
  have horder := congrArg List.length h.order
  have hposted : s.posted.length = s.pending.length := by
    rw [hup.posted hd, List.length_map]
  rw [List.length_append, List.length_append] at horder
  constructor
  · intro hall
    rw [hall] at horder
    simp only [BtConnection.unsent]
    omega
  · intro hnone
    simp only [BtConnection.unsent] at hnone
    have hq : s.messageQueue = [] := List.eq_nil_of_length_eq_zero (by omega)
    have hpending : s.pending = [] := List.eq_nil_of_length_eq_zero (by omega)
    have hsent := h.order
    rwa [hq, hpending, List.append_nil, List.append_nil] at hsent

/-! ## Handlers one after the other -/

lemma step_runPosted_of_send (hio : s.ioThread = .running) {msg : M} {rest : List (Posted M)}
    (hposted : s.posted = .send msg :: rest) :
    (system M).step s .runPosted = .ok { s with
      posted := rest
      messageQueue := s.messageQueue ++ [msg]
      writes := if s.messageQueue = [] then s.writes ++ [msg] else s.writes } := by
  have hstep : (system M).step s .runPosted = .ok _ :=
    step_runPosted_ok_iff.mpr ⟨.send msg, rest, hio, hposted, rfl⟩
  rw [hstep, BtConnection.runHandler_send]

lemma step_writeDone_of_up (hio : s.ioThread = .running) (hd : s.shuttingDown = false) {i : ℕ}
    {msg : M} (hmsg : s.writes[i]? = some msg) :
    (system M).step s (.writeDone i false) = .ok { s with
      messageQueue := s.messageQueue.tail
      writes := s.writes.eraseIdx i ++ s.messageQueue.tail.take 1
      written := s.written ++ [msg] } := by
  have hstep : (system M).step s (.writeDone i false) = .ok _ :=
    step_writeDone_ok_iff.mpr ⟨msg, hio, hmsg, rfl⟩
  rw [hstep, BtConnection.writeHandler_ok]
  simp [hd]

/-- Handlers of `send` move their messages into the queue. -/
lemma runFrom_runPosted (hio : s.ioThread = .running) {ms : List M} {rest : List (Posted M)}
    (hposted : s.posted = ms.map .send ++ rest) :
    (system M).runFrom s (List.replicate ms.length .runPosted) = .ok { s with
      posted := rest
      messageQueue := s.messageQueue ++ ms
      writes := if s.messageQueue = [] then s.writes ++ ms.take 1 else s.writes } := by
  induction ms generalizing s with
  | nil =>
    rw [List.map_nil, List.nil_append] at hposted
    simp [← hposted]
  | cons msg ms ih =>
    rw [List.length_cons, List.replicate_succ,
      (system M).runFrom_cons_ok (step_runPosted_of_send hio hposted)]
    refine Eq.trans (ih ?_ ?_) ?_
    · exact hio
    · rfl
    · simp

/-- Writes that succeed take their messages out of the queue. -/
lemma runFrom_writeDone (hio : s.ioThread = .running) (hd : s.shuttingDown = false) {ms q : List M}
    (hq : s.messageQueue = ms ++ q) (hw : s.writes = s.messageQueue.take 1) :
    (system M).runFrom s (List.replicate ms.length (.writeDone 0 false)) = .ok { s with
      messageQueue := q
      writes := q.take 1
      written := s.written ++ ms } := by
  induction ms generalizing s with
  | nil =>
    rw [List.nil_append] at hq
    simp [← hq, ← hw]
  | cons msg ms ih =>
    have hfirst : s.writes[0]? = some msg := by
      rw [hw, hq]
      rfl
    have hstep := step_writeDone_of_up hio hd hfirst
    have hwrites : s.writes.eraseIdx 0 ++ s.messageQueue.tail.take 1 = (ms ++ q).take 1 := by
      rw [hw, hq]
      rfl
    have hqueue : s.messageQueue.tail = ms ++ q := by
      rw [hq]
      rfl
    rw [hwrites, hqueue] at hstep
    rw [List.length_cons, List.replicate_succ, (system M).runFrom_cons_ok hstep]
    refine Eq.trans (ih ?_ ?_ ?_ ?_) ?_
    · exact hio
    · exact hd
    · rfl
    · rfl
    · simp

/-- As many handlers as there is left to do write everything that has been accepted. -/
lemma runFrom_flush (hout : OutboundInv s) (hup : UpInv s) (hio : s.ioThread = .running)
    (hd : s.shuttingDown = false) :
    ∃ gs u, (∀ e ∈ gs, e.flushes = true) ∧ gs.length = s.unsent ∧
      (system M).runFrom s gs = .ok u ∧ u.written = s.sent ∧ SameInbound s u := by
  have hposted : s.posted = s.pending.map .send ++ [] := by
    rw [List.append_nil]
    exact hup.posted hd
  have hqueue := runFrom_runPosted hio hposted
  have hwrites : (if s.messageQueue = [] then s.writes ++ s.pending.take 1 else s.writes) =
      (s.messageQueue ++ s.pending).take 1 := by
    rw [hout.writes_eq_take hd]
    cases s.messageQueue with
    | nil => simp
    | cons front queue => simp
  rw [hwrites] at hqueue
  have hwrite := runFrom_writeDone (s := { s with
      posted := []
      messageQueue := s.messageQueue ++ s.pending
      writes := (s.messageQueue ++ s.pending).take 1 })
    hio hd (List.append_nil (s.messageQueue ++ s.pending)).symm rfl
  refine ⟨_, _, ?_, ?_, (system M).runFrom_append_ok_iff.mpr ⟨_, hqueue, hwrite⟩, ?_, ?_⟩
  · intro e he
    rcases List.mem_append.mp he with he | he
    · rw [List.eq_of_mem_replicate he]
      rfl
    · rw [List.eq_of_mem_replicate he]
      rfl
  · have hlength : s.posted.length = s.pending.length := by
      rw [hposted, List.append_nil, List.length_map]
    simp only [List.length_append, List.length_replicate, BtConnection.unsent, hlength]
    omega
  · rw [← hout.order, List.append_assoc]
  · exact ⟨⟨rfl, rfl, rfl, rfl, rfl, id⟩, rfl, rfl, rfl⟩

/-! ## Whole runs -/

/-- **Every accepted message is written.**  Take any run on a connection that has been connected,
in which nothing sets `shutdown_` and no write fails, and continue it in any such way.  No more
handlers of the sending side run than there is left to do at the beginning and two for every
further `send`; and when none of them can run any more, all messages that `send` has accepted have
been written.  To get there from the state before, exactly as many of these handlers are needed as
there is left to do, and nothing else has to happen. -/
theorem accepted_messages_written {fs : List (Event M)} (hrun : (system M).run es = .ok s)
    (hconn : .connect true ∈ es) (hes : ∀ e ∈ es, e.stops = false)
    (hrest : (system M).runFrom s fs = .ok t) (hfs : ∀ e ∈ fs, e.stops = false) :
    fs.countP Event.flushes ≤ s.unsent + 2 * fs.countP Event.isSend ∧
      ((∀ e u, e.flushes = true → t.step e ≠ .ok u) → t.written = t.sent) ∧
      ∃ gs u, (∀ e ∈ gs, e.flushes = true) ∧ gs.length = t.unsent ∧
        (system M).runFrom t gs = .ok u ∧ u.written = t.sent ∧ SameInbound t u := by
  have hrun' : (system M).run (es ++ fs) = .ok t := ((system M).run_append_of_ok hrun fs).trans hrest
  have hup : ∀ e ∈ es ++ fs, e.stops = false := fun e he =>
    (List.mem_append.mp he).elim (hes e) (hfs e)
  have hd : t.shuttingDown = false := not_shuttingDown_of_run hrun' hup
  have hc : t.connected = true := (connected_iff_of_run hrun').mpr (by simp [hconn])
  have hout := outboundInv_of_run hrun'
  have hposted := upInv_of_run hrun'
  have hio := ((inboundInv_of_run hrun').reading hc hd).1
  refine ⟨?_, ?_, ?_⟩
  · have hcount := (system M).runFrom_countP_le
      (I := fun u => OutboundInv u ∧ UpInv u ∧ u.shuttingDown = false) (f := fun u => u.unsent)
      (p := Event.flushes) (q := Event.isSend) (c := 2) ?_ hrest
      ⟨outboundInv_of_run hrun, upInv_of_run hrun, not_shuttingDown_of_run hrun hes⟩
    · omega
    · rintro u e v ⟨hu, hup, hd⟩ he hstep
      have hdown := shuttingDown_step hstep
      rw [hd, hfs e he] at hdown
      exact ⟨⟨hu.step hstep, hup.step hstep, hdown⟩, unsent_step_le hu hup hd (hfs e he) hstep⟩
  · intro hnone
    refine (hout.written_eq_sent_iff hposted hd).mpr ?_
    by_contra hleft
    obtain ⟨e, u, he, -, hstep⟩ := exists_flush_step hout hio hd hleft
    exact hnone e u he hstep
  · exact runFrom_flush hout hposted hio hd

/-- A message that is being written while a second one is posted. -/
theorem accepted_messages_written_two :
    ∃ t, (system ℕ).run ([.connect true, .send 7, .send 8] ++ [.runPosted]) = .ok t ∧
      ∃ gs u, (∀ e ∈ gs, e.flushes = true) ∧ gs.length = 3 ∧
        (system ℕ).runFrom t gs = .ok u ∧ u.written = [7, 8] := by
  obtain ⟨s, t, hrun, hrest, hunsent, hsent⟩ :
      ∃ s t, (system ℕ).run [.connect true, .send 7, .send 8] = .ok s ∧
        (system ℕ).runFrom s [.runPosted] = .ok t ∧ t.unsent = 3 ∧ t.sent = [7, 8] :=
    ⟨_, _, rfl, rfl, rfl, rfl⟩
  obtain ⟨-, -, gs, u, hgs, hlength, hflush, hwritten, -⟩ :=
    accepted_messages_written hrun (by decide) (by decide) hrest (by decide)
  exact ⟨t, ((system ℕ).run_append_of_ok hrun _).trans hrest, gs, u, hgs, hlength.trans hunsent,
    hflush, hwritten.trans hsent⟩

end System

end Btconn
