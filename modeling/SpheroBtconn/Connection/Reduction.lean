import SpheroBtconn.Connection.FineSteps
import SpheroBtconn.Connection.Inbound

/-!
# Atomic handlers and fine steps

A connection that runs in fine steps does things that no run with atomic handlers does: an entry can
be queued after `shutdown()` has returned.  But between two handlers it is never in a state that
atomic handlers do not reach (`reachable_between_handlers_iff`), so that an invariant of all states
needs to be proved for atomic handlers only.

The runs are not the same, and this is how one becomes the other.  While a handler is between its
test and the mutex, other threads take entries and call member functions.  In the atomic run, what
is taken is taken before the handler, and the calls come after it (`swap_read`).  If one of the calls
has set `shutdown_`, then the handler has started a read that it does not start in fine steps, and
this read is made to fail.
-/

namespace Btconn

variable {M : Type*}

/-- The calls of member functions other than `read`. -/
def Event.isCall : Event M → Bool
  | .connect _ | .send _ | .shutdown | .close => true
  | _ => false

/-- The two steps of a call of `read`. -/
def Event.isRead : Event M → Bool
  | .readEnter _ | .readTake _ => true
  | _ => false

namespace System

variable {s t u w : System M} {e : Event M} {late : List (Event M)} {chunk : List UInt8}

/-! ## Messages -/

/-- A message that an event starts to write has been sent. -/
lemma sent_of_started (hout : OutboundInv s) {msg : M}
    (hmsg : s.started e = some msg) : e.isSend = false ∧ msg ∈ s.sent := by
  have hsent : ∀ m, m ∈ s.messageQueue ∨ m ∈ s.pending → m ∈ s.sent := by
    intro m hm
    rw [← hout.order, List.append_assoc]
    exact List.mem_append_right _ (List.mem_append.mpr hm)
  cases e with
  | runPosted =>
    refine ⟨rfl, hsent msg (Or.inr ?_)⟩
    simp only [started] at hmsg
    split at hmsg
    · rename_i h rest hio hposted
      cases h with
      | closeSocket => cases hmsg
      | send first =>
        simp only [BtConnection.startedByPosted] at hmsg
        split_ifs at hmsg
        obtain rfl := Option.some.inj hmsg
        simp [BtConnection.pending, hposted, Posted.msg?]
    · cases hmsg
  | writeDone i ec =>
    refine ⟨rfl, hsent msg (Or.inl ?_)⟩
    simp only [started] at hmsg
    split at hmsg
    · simp only [BtConnection.startedByWrite] at hmsg
      split_ifs at hmsg
      exact List.mem_of_getElem? hmsg
    · cases hmsg
  | _ => cases hmsg

/-- What has been sent stays sent. -/
lemma sent_isPrefix_of_step (hstep : s.step e = .ok t) : s.sent <+: t.sent := by
  cases hsend : e.isSend with
  | false => exact (sent_step hsend hstep) ▸ List.prefix_rfl
  | true =>
    cases e with
    | send msg =>
      rcases step_send_cases hstep with ⟨-, rfl⟩ | ⟨-, rfl⟩
      · exact List.prefix_rfl
      · exact List.prefix_append _ _
    | _ => cases hsend

/-! ## Moving events -/

/-- A state with the queue, the buffer, the reads and the readers of another one. -/
def withInbound (s u : System M) : System M :=
  { s with
    readQueue := u.readQueue
    recvBuffer := u.recvBuffer
    reads := u.reads
    readers := u.readers
    received := u.received
    taken := u.taken }

/-- The state in which a read has completed with a chunk and its handler has done nothing yet. -/
def delivered (s : System M) (chunk : List UInt8) : System M :=
  { s with toBtConnection := s.deliver chunk }

/-- What a call does while the thread runs does not depend on the receiving side. -/
lemma step_call (he : e.isCall = true) (hio : s.ioThread = .running) (hstep : s.step e = .ok t) :
    (∀ u : System M, (s.withInbound u).step e = .ok (t.withInbound u)) ∧ t = t.withInbound s ∧
      t.ioThread = .running ∧ t.connected = s.connected := by
  cases e with
  | connect accepted =>
    rcases step_connect_cases hstep with ⟨rfl, rfl⟩ | ⟨-, hnot, -⟩
    · exact ⟨fun u => rfl, rfl, hio, rfl⟩
    · rw [hio] at hnot
      cases hnot
  | send msg =>
    rcases step_send_cases hstep with ⟨hconn, rfl⟩ | ⟨hconn, rfl⟩
    · exact ⟨fun u => step_send_of_not_connected (s := t.withInbound u) hconn msg, rfl, hio, rfl⟩
    · exact ⟨fun u => step_send_of_connected (s := s.withInbound u) hconn msg, rfl, hio, rfl⟩
  | shutdown =>
    cases hstep
    exact ⟨fun u => rfl, rfl, hio, rfl⟩
  | close =>
    obtain rfl := step_close_ok_iff.mp hstep
    exact ⟨fun u => step_close_ok_iff.mpr rfl, rfl, hio, rfl⟩
  | _ => cases he

/-- The same for any number of calls. -/
lemma runFrom_calls (hlate : ∀ e ∈ late, e.isCall = true) (hio : s.ioThread = .running)
    (hrun : (system M).runFrom s late = .ok t) :
    (∀ u : System M, (system M).runFrom (s.withInbound u) late = .ok (t.withInbound u)) ∧
      t = t.withInbound s ∧ t.ioThread = .running ∧ t.connected = s.connected := by
  induction late using List.reverseRecOn generalizing t with
  | nil =>
    obtain rfl : s = t := by simpa using hrun
    exact ⟨fun u => rfl, rfl, hio, rfl⟩
  | append_singleton late e ih =>
    obtain ⟨v, hv, hstep⟩ := (system M).runFrom_concat_ok_iff.mp hrun
    obtain ⟨hmove, hsame, hvio, hvconn⟩ := ih (fun e he => hlate e (List.mem_append_left _ he)) hv
    obtain ⟨hmove', hsame', htio, htconn⟩ := step_call (hlate e List.mem_concat_self) hvio hstep
    refine ⟨fun u => (system M).runFrom_concat_ok_iff.mpr ⟨_, hmove u, hmove' u⟩, ?_, htio,
      htconn.trans hvconn⟩
    rw [hsame', hsame]
    rfl

/-- What a step of `read` does is the same in all states with the same queue and readers. -/
lemma step_read (he : e.isRead = true) (hstep : s.step e = .ok t) :
    t = { s with readQueue := t.readQueue, readers := t.readers, taken := t.taken } ∧
      ∀ u : System M, u.connected = s.connected → u.readQueue = s.readQueue →
        u.readers = s.readers → u.taken = s.taken →
        u.step e = .ok { u with readQueue := t.readQueue, readers := t.readers, taken := t.taken } := by
  cases e with
  | readEnter reader =>
    obtain ⟨hguard, rfl⟩ := step_readEnter_ok_iff.mp hstep
    refine ⟨rfl, ?_⟩
    intro u hconn hqueue hreaders htaken
    rw [← hconn, ← hqueue, ← hreaders] at hguard
    refine step_readEnter_ok_iff.mpr ⟨hguard, ?_⟩
    simp only [← hqueue, ← hreaders, ← htaken]
  | readTake reader =>
    obtain ⟨entry, hmem, hlast, rfl⟩ := step_readTake_ok_iff.mp hstep
    refine ⟨rfl, ?_⟩
    intro u hconn hqueue hreaders htaken
    rw [← hreaders] at hmem
    rw [← hqueue] at hlast
    refine step_readTake_ok_iff.mpr ⟨entry, hmem, hlast, ?_⟩
    simp only [← hqueue, ← hreaders, ← htaken]
  | _ => cases he

/-- A step of `read` that comes after calls can come before them. -/
lemma swap_read (hlate : ∀ e ∈ late, e.isCall = true) (hio : s.ioThread = .running)
    (hrun : (system M).runFrom s late = .ok t) (he : e.isRead = true) (hstep : t.step e = .ok u) :
    ∃ v, s.step e = .ok v ∧ (system M).runFrom v late = .ok u ∧
      v.shuttingDown = s.shuttingDown ∧ v.ioThread = s.ioThread ∧ v.reads = s.reads := by
  obtain ⟨hmove, hsame, -, hconn⟩ := runFrom_calls hlate hio hrun
  obtain ⟨hu, hread⟩ := step_read he hstep
  have hqueue : t.readQueue = s.readQueue := by rw [hsame]; rfl
  have hreaders : t.readers = s.readers := by rw [hsame]; rfl
  have htaken : t.taken = s.taken := by rw [hsame]; rfl
  refine ⟨_, hread s hconn.symm hqueue.symm hreaders.symm htaken.symm, ?_, rfl, rfl, rfl⟩
  have hmoved := hmove { s with readQueue := u.readQueue, readers := u.readers, taken := u.taken }
  have hend : t.withInbound { s with
      readQueue := u.readQueue, readers := u.readers, taken := u.taken } = u := by
    rw [hu, hsame]
    rfl
  rw [hend] at hmoved
  exact hmoved

/-- A call after the delivery of a chunk can come before it. -/
lemma swap_call (he : e.isCall = true) (hio : w.ioThread = .running)
    (hstep : (w.delivered chunk).step e = .ok t) :
    ∃ v, w.step e = .ok v ∧ t = v.delivered chunk := by
  obtain ⟨hmove, hsame, -, -⟩ := step_call (s := w.delivered chunk) he hio hstep
  exact ⟨t.withInbound w, hmove w, hsame⟩

/-- So can a step of `read`. -/
lemma swap_read_deliver (he : e.isRead = true) (hstep : (w.delivered chunk).step e = .ok t) :
    ∃ v, w.step e = .ok v ∧ t = v.delivered chunk := by
  obtain ⟨ht, hread⟩ := step_read he hstep
  exact ⟨_, hread w rfl rfl rfl rfl, ht⟩

/-! ## A handler under way -/

/-- The state is reached by a run at whose end a read can complete with `chunk` and its handler finds
`shutdown_` cleared, and by calls that come after it. -/
def Delayed (w : System M) (chunk : List UInt8) : Prop :=
  ∃ es u late, (system M).run es = .ok u ∧ u.shuttingDown = false ∧ u.CanDeliver chunk ∧
    (∀ e ∈ late, e.isCall = true) ∧ (system M).runFrom u late = .ok w

namespace Delayed

/-- Such a state is one that a run reaches. -/
lemma exists_run (h : Delayed w chunk) : ∃ es, (system M).run es = .ok w := by
  obtain ⟨es, u, late, hrun, -, -, -, hrest⟩ := h
  exact ⟨es ++ late, ((system M).run_append_of_ok hrun late).trans hrest⟩

/-- The chunk is in a buffer that has been clean, and no other read is outstanding. -/
lemma facts (h : Delayed w chunk) :
    w.ioThread = .running ∧ w.connected = true ∧ w.reads = 1 ∧ w.recvBuffer = RawData.zero ∧
      0 < chunk.length ∧ chunk.length ≤ 1024 := by
  obtain ⟨es, u, late, hrun, hd, hcan, hlate, hrest⟩ := h
  have hin := inboundInv_of_run hrun
  have hconn := hin.connected_of_running hcan.1
  obtain ⟨-, hsame, hio, hwconn⟩ := runFrom_calls hlate hcan.1 hrest
  refine ⟨hio, hwconn.trans hconn, ?_, ?_, hcan.2.2⟩
  · rw [hsame]
    exact (hin.reading hconn hd).2
  · rw [hsame]
    exact hin.clean hd

/-- A call is one more of those that come after the handler. -/
lemma call (h : Delayed w chunk) (he : e.isCall = true) (hstep : w.step e = .ok t) :
    Delayed t chunk := by
  obtain ⟨es, u, late, hrun, hd, hcan, hlate, hrest⟩ := h
  refine ⟨es, u, late ++ [e], hrun, hd, hcan, ?_, ?_⟩
  · intro e' he'
    rcases List.mem_append.mp he' with he' | he'
    · exact hlate e' he'
    · exact List.mem_singleton.mp he' ▸ he
  · exact (system M).runFrom_concat_ok_iff.mpr ⟨w, hrest, hstep⟩

/-- A step of `read` comes before the handler. -/
lemma read (h : Delayed w chunk) (he : e.isRead = true) (hstep : w.step e = .ok t) :
    Delayed t chunk := by
  obtain ⟨es, u, late, hrun, hd, hcan, hlate, hrest⟩ := h
  obtain ⟨v, hv, hmoved, hvd, hvio, hvreads⟩ := swap_read hlate hcan.1 hrest he hstep
  refine ⟨es ++ [e], v, late, (system M).run_concat_ok_iff.mpr ⟨u, hrun, hv⟩, hvd.trans hd, ?_,
    hlate, hmoved⟩
  rw [CanDeliver, hvio, hvreads]
  exact hcan

/-- The handler of a chunk with a `0xFF` can come to its end: before the calls, and with a read that
fails if the calls have set `shutdown_`. -/
lemma exists_run_of_handled (h : Delayed w chunk) (hmem : 0xFF ∈ chunk) :
    ∃ es, (system M).run es = .ok { w with
      readQueue := w.readQueue ++ [entryOf chunk]
      received := w.received ++ [chunk]
      reads := if w.shuttingDown then 0 else 1 } := by
  obtain ⟨hio, -, hreads, -⟩ := h.facts
  obtain ⟨es, u, late, hrun, hd, hcan, hlate, hrest⟩ := h
  obtain ⟨hmove, hsame, -, -⟩ := runFrom_calls hlate hcan.1 hrest
  have hdone : (system M).step u (.readDone chunk) = .ok _ :=
    (inboundInv_of_run hrun).step_readDone_of_mem hd hcan hmem
  have hmoved := hmove { u with
    readQueue := u.readQueue ++ [entryOf chunk], received := u.received ++ [chunk] }
  have hend : w.withInbound { u with
      readQueue := u.readQueue ++ [entryOf chunk], received := u.received ++ [chunk] } =
      { w with
        readQueue := w.readQueue ++ [entryOf chunk], received := w.received ++ [chunk] } := by
    rw [hsame]
    rfl
  rw [hend] at hmoved
  have hall : (system M).run (es ++ [.readDone chunk] ++ late) = .ok _ :=
    ((system M).run_append_of_ok ((system M).run_concat_ok_iff.mpr ⟨u, hrun, hdone⟩) late).trans
      hmoved
  by_cases hwd : w.shuttingDown = true
  · -- the read that has not been started in fine steps
    have hfail : (system M).step { w with
        readQueue := w.readQueue ++ [entryOf chunk]
        received := w.received ++ [chunk] } (.readFailed .other) = .ok _ :=
      step_readFailed_ok_iff.mpr ⟨hio, by rw [hreads]; decide, rfl⟩
    refine ⟨_, ((system M).run_concat_ok_iff.mpr ⟨_, hall, hfail⟩).trans ?_⟩
    simp [BtConnection.readAsync_eq, hwd, hreads]
  · refine ⟨_, hall.trans ?_⟩
    rw [if_neg hwd, ← hreads]

end Delayed

end System

/-! ## Every fine run -/

namespace FineSystem

/-- Between two handlers the state is one that atomic handlers reach; in the middle of a handler, it
is one in which the chunk of the handler has been delivered a little later. -/
structure Reduced (s : FineSystem M) : Prop where
  /-- Between two handlers. -/
  idle : s.handling = none → ∃ es, (system M).run es = .ok s.toSystem
  /-- In the middle of a handler. -/
  busy : ∀ chunk, s.handling = some chunk →
    ∃ w, System.Delayed w chunk ∧ s.toSystem = w.delivered chunk

variable {s t : FineSystem M} {e : Event M} {chunk : List UInt8}

lemma reduced_new : Reduced (new : FineSystem M) :=
  ⟨fun _ => ⟨[], rfl⟩, fun _ h => by cases h⟩

namespace Reduced

/-- The sending side is as it should be. -/
lemma outbound (h : Reduced s) : System.OutboundInv s.toSystem := by
  cases hs : s.handling with
  | none =>
    obtain ⟨es, hes⟩ := h.idle hs
    exact System.outboundInv_of_run hes
  | some chunk =>
    obtain ⟨w, hw, hsame⟩ := h.busy chunk hs
    obtain ⟨es, hes⟩ := hw.exists_run
    rw [hsame]
    exact (System.outboundInv_of_run hes).of_sameOutbound ⟨⟨rfl, rfl, rfl, rfl⟩, rfl, rfl⟩

/-- The chunk of a handler under way is in a buffer that has been clean. -/
lemma recvBuffer_eq (h : Reduced s) (hs : s.handling = some chunk) :
    s.recvBuffer = FixedBuffer.copyFront RawData.zero chunk ∧ chunk.length ≤ 1024 := by
  obtain ⟨w, hw, hsame⟩ := h.busy chunk hs
  obtain ⟨-, -, -, hclean, -, hlen⟩ := hw.facts
  refine ⟨?_, hlen⟩
  rw [hsame, ← hclean]
  rfl

end Reduced

variable [MsgType M]

namespace Reduced

/-- An event that is taken with the checks is taken without them. -/
lemma step_of_stepChecked (h : Reduced s) {u : System M} (hstep : s.stepChecked e = .ok u) :
    s.toSystem.step e = .ok u := by
  rw [System.stepChecked_eq h.outbound] at hstep
  split_ifs at hstep
  exact hstep

/-- The handler of a read has found `shutdown_` cleared, or it has ended. -/
lemma readDone (h : Reduced s) (hstep : s.step (.event (.readDone chunk)) = .ok t) :
    Reduced t := by
  obtain ⟨⟨hs, hcan⟩, rfl⟩ := step_readDone_ok_iff.mp hstep
  obtain ⟨es, hes⟩ := h.idle hs
  cases hd : s.shuttingDown with
  | true =>
    have hdone : (system M).step s.toSystem (.readDone chunk) = .ok _ :=
      System.step_readDone_ok_iff.mpr
        ⟨hcan, _, BtConnection.readCompletion_of_shuttingDown (s := s.deliver chunk) hd _ _, rfl⟩
    rw [if_pos hd] at hdone
    refine ⟨fun _ => ⟨_, (system M).run_concat_ok_iff.mpr ⟨_, hes, hdone⟩⟩, ?_⟩
    intro chunk' hc
    cases hc
  | false =>
    refine ⟨fun hc => absurd hc (by simp), ?_⟩
    intro chunk' hc
    obtain rfl : chunk = chunk' := by simpa using hc
    exact ⟨s.toSystem, ⟨es, s.toSystem, [], hes, hd, hcan, by simp, rfl⟩, rfl⟩

/-- Any other event. -/
lemma event (h : Reduced s) (he : ∀ chunk, e ≠ .readDone chunk)
    (hstep : s.step (.event e) = .ok t) : Reduced t := by
  obtain ⟨hguard, u, hchecked, rfl⟩ := (step_event_ok_iff he).mp hstep
  have hu := h.step_of_stepChecked hchecked
  constructor
  · intro hs
    obtain ⟨es, hes⟩ := h.idle hs
    exact ⟨es ++ [e], (system M).run_concat_ok_iff.mpr ⟨_, hes, hu⟩⟩
  · intro chunk hs
    obtain ⟨w, hw, hsame⟩ := h.busy chunk hs
    rw [hsame] at hu
    have hother : e.onIoThread = false := by
      rcases hguard with hnone | hother
      · exact absurd (hs.symm.trans hnone) (by simp)
      · exact hother
    have hkind : e.isCall = true ∨ e.isRead = true := by
      cases e <;> simp_all [Event.isCall, Event.isRead, Event.onIoThread]
    rcases hkind with hcall | hread
    · obtain ⟨v, hv, rfl⟩ := System.swap_call hcall hw.facts.1 hu
      exact ⟨v, hw.call hcall hv, rfl⟩
    · obtain ⟨v, hv, rfl⟩ := System.swap_read_deliver hread hu
      exact ⟨v, hw.read hread hv, rfl⟩

/-- With a `0xFF` in the chunk, the handler queues its entry and starts the next read unless
`shutdown_` has been set in the meantime. -/
lemma step_readHandler_of_mem (h : Reduced s) (hs : s.handling = some chunk) (hmem : 0xFF ∈ chunk) :
    s.step .readHandler = .ok { s with
      readQueue := s.readQueue ++ [entryOf chunk]
      recvBuffer := RawData.zero
      reads := if s.shuttingDown then s.reads else s.reads + 1
      received := s.received ++ [chunk]
      handling := none } := by
  obtain ⟨hbuffer, hlen⟩ := h.recvBuffer_eq hs
  exact step_readHandler_ok_iff.mpr
    ⟨chunk, _, hs, BtConnection.readHandler_of_mem hbuffer hlen hmem, rfl⟩

/-- Without one, it dereferences the end of the buffer. -/
lemma step_readHandler_of_notMem (h : Reduced s) (hs : s.handling = some chunk)
    (hmem : 0xFF ∉ chunk) : s.step .readHandler = .error (.fault .derefEnd) := by
  obtain ⟨hbuffer, hlen⟩ := h.recvBuffer_eq hs
  simp [FineSystem.step, hs, BtConnection.readHandler_of_notMem hbuffer hlen hmem]

/-- What a handler that comes to its end has done. -/
lemma step_readHandler_cases (h : Reduced s) (hstep : s.step .readHandler = .ok t) :
    ∃ chunk, s.handling = some chunk ∧ 0xFF ∈ chunk ∧ t = { s with
      readQueue := s.readQueue ++ [entryOf chunk]
      recvBuffer := RawData.zero
      reads := if s.shuttingDown then s.reads else s.reads + 1
      received := s.received ++ [chunk]
      handling := none } := by
  obtain ⟨chunk, -, hs, -⟩ := step_readHandler_ok_iff.mp hstep
  by_cases hmem : 0xFF ∈ chunk
  · rw [h.step_readHandler_of_mem hs hmem, Except.ok.injEq] at hstep
    exact ⟨chunk, hs, hmem, hstep.symm⟩
  · rw [h.step_readHandler_of_notMem hs hmem] at hstep
    cases hstep

/-- The handler of a read comes to its end. -/
lemma readHandler (h : Reduced s) (hstep : s.step .readHandler = .ok t) : Reduced t := by
  obtain ⟨chunk, hs, hmem, rfl⟩ := h.step_readHandler_cases hstep
  obtain ⟨w, hw, hsame⟩ := h.busy chunk hs
  obtain ⟨-, -, hreads, hclean, -⟩ := hw.facts
  refine ⟨fun _ => ?_, fun _ hnone => by cases hnone⟩
  obtain ⟨es, hes⟩ := hw.exists_run_of_handled hmem
  refine ⟨es, hes.trans ?_⟩
  simp [hsame, System.delivered, System.deliver, hclean, hreads]

/-- **Every fine step keeps the state reduced.** -/
theorem step (h : Reduced s) {e : FineEvent M} (hstep : s.step e = .ok t) : Reduced t := by
  cases e with
  | readHandler => exact h.readHandler hstep
  | event e =>
    rcases System.eq_readDone_or e with ⟨chunk, rfl⟩ | he
    · exact h.readDone hstep
    · exact h.event he hstep

/-- What a fine step can do: the handler of a read tests `shutdown_`, another event happens as it
does without the checks, or the handler goes on and queues its entry. -/
lemma step_cases (h : Reduced s) {e : FineEvent M} (hstep : s.step e = .ok t) :
    (∃ chunk, s.handling = none ∧ t = { s with
      toBtConnection := s.deliver chunk
      handling := if s.shuttingDown then none else some chunk }) ∨
    (∃ e' u, e = .event e' ∧ (∀ chunk, e' ≠ .readDone chunk) ∧ s.toSystem.step e' = .ok u ∧
      t = { s with toSystem := u }) ∨
    ∃ chunk, s.handling = some chunk ∧ 0xFF ∈ chunk ∧ t = { s with
      readQueue := s.readQueue ++ [entryOf chunk]
      recvBuffer := RawData.zero
      reads := if s.shuttingDown then s.reads else s.reads + 1
      received := s.received ++ [chunk]
      handling := none } := by
  cases e with
  | readHandler => exact Or.inr (Or.inr (h.step_readHandler_cases hstep))
  | event e =>
    rcases System.eq_readDone_or e with ⟨chunk, rfl⟩ | he
    · obtain ⟨⟨hnone, -⟩, ht⟩ := step_readDone_ok_iff.mp hstep
      exact Or.inl ⟨chunk, hnone, ht⟩
    · obtain ⟨-, u, hu, ht⟩ := (step_event_ok_iff he).mp hstep
      exact Or.inr (Or.inl ⟨e, u, rfl, he, h.step_of_stepChecked hu, ht⟩)

end Reduced

lemma reduced_of_run {es : List (FineEvent M)} (h : (fineSystem M).run es = .ok s) : Reduced s :=
  (fineSystem M).run_invariant reduced_new (fun _ _ _ hs hstep => hs.step hstep) h

/-! ## Every atomic run -/

/-- An event of a connection with atomic handlers, in fine steps. -/
lemma exists_fine_step {s t : System M} {es : List (Event M)} (hrun : (system M).run es = .ok s)
    (hsent : ∀ msg ∈ t.sent, MsgType.buffer msg ≠ none) (hstep : s.step e = .ok t) :
    ∃ fs, (fineSystem M).runFrom ⟨s, none⟩ fs = .ok ⟨t, none⟩ := by
  have hout := System.outboundInv_of_run hrun
  rcases System.eq_readDone_or e with ⟨chunk, rfl⟩ | he
  · have hin := System.inboundInv_of_run hrun
    have hreduced : Reduced (⟨s, none⟩ : FineSystem M) :=
      ⟨fun _ => ⟨es, hrun⟩, fun _ hnone => by cases hnone⟩
    obtain ⟨hcan, ⟨hd, rfl⟩ | ⟨hd, -⟩⟩ := System.step_readDone_cases hstep
    · have hdone : (fineSystem M).step ⟨s, none⟩ (.event (.readDone chunk)) = .ok _ :=
        step_readDone_ok_iff.mpr ⟨⟨rfl, hcan⟩, rfl⟩
      refine ⟨[.event (.readDone chunk)], ((fineSystem M).runFrom_singleton _ _).trans ?_⟩
      rw [hdone]
      simp [hd]
    · have hmem : 0xFF ∈ chunk := by
        by_contra hmem
        rw [hin.step_readDone_of_notMem hd hcan hmem] at hstep
        cases hstep
      rw [hin.step_readDone_of_mem hd hcan hmem, Except.ok.injEq] at hstep
      have hdone : (fineSystem M).step ⟨s, none⟩ (.event (.readDone chunk)) =
          .ok ⟨s.delivered chunk, some chunk⟩ := by
        refine step_readDone_ok_iff.mpr ⟨⟨rfl, hcan⟩, ?_⟩
        simp [System.delivered, hd]
      have hhandled := (hreduced.readDone hdone).step_readHandler_of_mem rfl hmem
      have hreads := (hin.reading (hin.connected_of_running hcan.1) hd).2
      refine ⟨[.event (.readDone chunk), .readHandler], ?_⟩
      rw [(fineSystem M).runFrom_cons_ok hdone, (fineSystem M).runFrom_singleton]
      refine hhandled.trans ?_
      simp [← hstep, System.delivered, System.deliver, hd, hreads, hin.clean hd]
  · have hchecked : s.stepChecked e = .ok t := by
      rw [System.stepChecked_eq hout, if_neg, hstep]
      intro hover
      obtain ⟨msg, hmsg, hbuffer⟩ := MsgType.overruns_iff.mp hover
      obtain ⟨hsend, hmem⟩ := System.sent_of_started hout hmsg
      exact hsent msg (System.sent_step hsend hstep ▸ hmem) hbuffer
    have hfine : (fineSystem M).step ⟨s, none⟩ (.event e) = .ok ⟨t, none⟩ :=
      (step_event_ok_iff he).mpr ⟨Or.inl rfl, t, hchecked, rfl⟩
    exact ⟨[.event e], ((fineSystem M).runFrom_singleton _ _).trans hfine⟩

/-- A run with atomic handlers, in fine steps. -/
lemma exists_fine_run {s : System M} {es : List (Event M)} (hrun : (system M).run es = .ok s)
    (hsent : ∀ msg ∈ s.sent, MsgType.buffer msg ≠ none) :
    ∃ fs, (fineSystem M).run fs = .ok ⟨s, none⟩ := by
  revert hsent
  refine (system M).run_induction (P := fun _ s => (∀ msg ∈ s.sent, MsgType.buffer msg ≠ none) →
    ∃ fs, (fineSystem M).run fs = .ok ⟨s, none⟩) (fun _ => ⟨[], rfl⟩) ?_ hrun
  intro es s e t hes ih hstep hsent
  obtain ⟨fs, hfs⟩ := ih fun msg hmsg => hsent msg ((System.sent_isPrefix_of_step hstep).subset hmsg)
  obtain ⟨gs, hgs⟩ := exists_fine_step hes hsent hstep
  exact ⟨fs ++ gs, ((fineSystem M).run_append_of_ok hfs gs).trans hgs⟩

/-- **Atomic handlers suffice for the states between handlers.**  Let every message that has been
sent in a state have a buffer that lies inside of it.  A run in fine steps reaches this state, with no
handler under way, if and only if a run with atomic handlers reaches it. -/
theorem reachable_between_handlers_iff {s : System M}
    (hsent : ∀ msg ∈ s.sent, MsgType.buffer msg ≠ none) :
    (∃ fs, (fineSystem M).run fs = .ok ⟨s, none⟩) ↔ ∃ es, (system M).run es = .ok s := by
  constructor
  · rintro ⟨fs, hfs⟩
    exact (reduced_of_run hfs).idle rfl
  · rintro ⟨es, hes⟩
    exact exists_fine_run hes hsent

/-- A command, a response and `shutdown()`. -/
theorem reachable_between_handlers_iff_shutdown :
    ∃ s, (system SpheroClientCommand).run [.connect true, .send SpheroClientCommand.new.assemble,
        .runPosted, .readDone [0xFF, 0xFF, 0x00, 0x01, 0x00], .shutdown] = .ok s ∧
      ∃ fs, (fineSystem SpheroClientCommand).run fs = .ok ⟨s, none⟩ := by
  obtain ⟨s, hrun, hsent⟩ : ∃ s, (system SpheroClientCommand).run [.connect true,
      .send SpheroClientCommand.new.assemble, .runPosted, .readDone [0xFF, 0xFF, 0x00, 0x01, 0x00],
      .shutdown] = .ok s ∧ s.sent = [SpheroClientCommand.new.assemble] := by
    -- the handler of the read works through a buffer of 1024 bytes
    set_option maxRecDepth 8000 in exact ⟨_, rfl, rfl⟩
  refine ⟨s, hrun, (reachable_between_handlers_iff ?_).mpr ⟨_, hrun⟩⟩
  intro msg hmsg
  rw [hsent, List.mem_singleton] at hmsg
  rw [hmsg, SpheroClientCommand.buffer_assemble]
  exact Option.some_ne_none _

end FineSystem

end Btconn
