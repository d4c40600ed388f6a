import SpheroBtconn.Connection.Flags

/-!
# The outbound queue

Messages go from `send` through the queue of posted handlers into `messageQueue_`, and from its
front to the socket.  `doSend` is called in two places: by a posted handler that finds the queue
empty, and by the completion handler of a write that leaves the queue non-empty.  That there is
never a second write beside an outstanding one rests on the invariant `OutboundInv`:

* an outstanding write is the only one, and it writes the front of the queue;
* the written messages, the queue and the messages of the posted handlers, in this order, are
  the messages in posting order;
* as long as the connection is not shutting down, a queue that is not empty is being written.

A failed write leaves its message at the front of the queue and sets `shutdown_`, so nothing
behind it is ever written.
-/

namespace Btconn

variable {M : Type*}

/-- The message that a posted handler carries. -/
def Posted.msg? : Posted M → Option M
  | .send msg => some msg
  | .closeSocket => none

/-- The event is a call of `send`. -/
def Event.isSend : Event M → Bool
  | .send _ => true
  | _ => false

/-- The messages of the posted handlers. -/
def BtConnection.pending (s : BtConnection M) : List M := s.posted.filterMap Posted.msg?

namespace System

/-- The invariant of the sending side. -/
structure OutboundInv (s : System M) : Prop where
  /-- An outstanding write is the only one, and its message is the front of the queue. -/
  single : s.writes = [] ∨ ∃ msg rest, s.messageQueue = msg :: rest ∧ s.writes = [msg]
  /-- No message is lost, repeated or overtaken on its way to the socket. -/
  order : s.written ++ s.messageQueue ++ s.pending = s.sent
  /-- Unless the connection is shutting down, a queue that is not empty is being written. -/
  busy : s.shuttingDown = false → s.messageQueue ≠ [] → s.writes ≠ []

lemma outboundInv_new : OutboundInv (System.new : System M) :=
  ⟨Or.inl rfl, rfl, fun _ h => absurd rfl h⟩

namespace OutboundInv

variable {s t : System M}

/-- The invariant only looks at the sending side. -/
lemma of_sameOutbound (h : OutboundInv s) (hsame : SameOutbound s t) : OutboundInv t := by
  refine ⟨?_, ?_, ?_⟩
  · rw [hsame.messageQueue, hsame.writes]
    exact h.single
  · rw [hsame.messageQueue, hsame.sent, hsame.written, BtConnection.pending, hsame.posted]
    exact h.order
  · rw [hsame.messageQueue, hsame.writes, hsame.shuttingDown]
    exact h.busy

/-- Setting `shutdown_` keeps the invariant. -/
lemma shutdown (h : OutboundInv s) :
    OutboundInv { s with toBtConnection := s.toBtConnection.shutdown } :=
  ⟨h.single, h.order, fun hd => by cases hd⟩

/-- `close` sets `shutdown_` and posts a handler that carries no message. -/
lemma close (h : OutboundInv s) :
    OutboundInv { s with
      shuttingDown := true
      posted := if s.socketOpen then s.posted ++ [.closeSocket] else s.posted } := by
  refine ⟨h.single, ?_, fun hd => by cases hd⟩
  cases s.socketOpen with
  | false => exact h.order
  | true => simpa [BtConnection.pending, List.filterMap_cons, Posted.msg?] using h.order

/-- Posting a message puts it behind all others. -/
lemma send (h : OutboundInv s) (msg : M) :
    OutboundInv { s with posted := s.posted ++ [.send msg], sent := s.sent ++ [msg] } := by
  refine ⟨h.single, ?_, h.busy⟩
  simp [BtConnection.pending, Posted.msg?, ← h.order]

/-- While the queue is empty no write is outstanding, because the front of the queue is the only
thing that is ever written. -/
lemma writes_eq_nil (h : OutboundInv s) (hq : s.messageQueue = []) : s.writes = [] := by
  rcases h.single with hw | ⟨msg, rest, hcons, -⟩
  · exact hw
  · rw [hq] at hcons
    cases hcons

/-- An outstanding write is the only one, and its message is the front of the queue. -/
lemma front_of_write (h : OutboundInv s) {i : ℕ} {msg : M} (hmsg : s.writes[i]? = some msg) :
    ∃ queue, s.messageQueue = msg :: queue ∧ s.writes.eraseIdx i = [] := by
  rcases h.single with hw | ⟨front, queue, hq, hw⟩
  · simp [hw] at hmsg
  · rw [hw] at hmsg ⊢
    cases i with
    | zero =>
      have hfront : front = msg := by simpa using hmsg
      exact ⟨queue, hfront ▸ hq, rfl⟩
    | succ i => simp at hmsg

/-- The outstanding write is for the front of the queue. -/
lemma head_of_mem_writes (h : OutboundInv s) {msg : M} (hmsg : msg ∈ s.writes) :
    s.messageQueue.head? = some msg := by
  obtain ⟨i, hi⟩ := List.mem_iff_getElem?.mp hmsg
  obtain ⟨queue, hq, -⟩ := h.front_of_write hi
  rw [hq, List.head?_cons]

/-- At most one write is outstanding. -/
lemma length_writes_le (h : OutboundInv s) : s.writes.length ≤ 1 := by
  rcases h.single with hw | ⟨msg, rest, -, hw⟩
  · simp [hw]
  · simp [hw]

/-- What has been handed to the socket are the first messages. -/
lemma transmitted_isPrefix (h : OutboundInv s) : s.written ++ s.writes <+: s.sent := by
  have horder := h.order
  rcases h.single with hw | ⟨msg, rest, hq, hw⟩
  · rw [hw, List.append_nil, ← horder, List.append_assoc]
    exact List.prefix_append _ _
  · exact ⟨rest ++ s.pending, by rw [hw, ← horder, hq]; simp⟩

/-- A posted handler moves its message to the queue, and starts to write it if the queue was
empty. -/
lemma runPosted (h : OutboundInv s) (hstep : s.step .runPosted = .ok t) : OutboundInv t := by
  have horder := h.order
  obtain ⟨-, rest, ⟨hposted, rfl⟩ | ⟨msg, hposted, rfl⟩⟩ := step_runPosted_cases hstep
  · rw [BtConnection.pending, hposted] at horder
    exact ⟨h.single, horder, h.busy⟩
  · have horder' : s.written ++ (s.messageQueue ++ [msg]) ++ rest.filterMap Posted.msg? =
        s.sent := by
      rw [BtConnection.pending, hposted] at horder
      simpa [Posted.msg?] using horder
    by_cases hq : s.messageQueue = []
    · refine ⟨Or.inr ⟨msg, [], ?_, ?_⟩, horder', ?_⟩
      · simp [hq]
      · simp [hq, h.writes_eq_nil hq]
      · intro _ _
        simp [hq]
    · refine ⟨?_, horder', ?_⟩
      · rcases h.single with hw | ⟨front, queue, hcons, hw⟩
        · exact Or.inl (by simp [hq, hw])
        · exact Or.inr ⟨front, queue ++ [msg], by simp [hcons], by simp [hcons, hw]⟩
      · intro hd _
        simpa [hq] using h.busy hd hq

/-- A write that succeeds is the only one; its message leaves the front of the queue, and the next
one is started unless the connection is shutting down.  A write that fails is the only one as well;
its message stays where it is and the connection is closed. -/
lemma writeDone (h : OutboundInv s) {i : ℕ} {ec : Bool}
    (hstep : s.step (.writeDone i ec) = .ok t) : OutboundInv t := by
  have horder := h.order
  obtain ⟨-, msg, hmsg, ⟨-, rfl⟩ | ⟨-, rfl⟩⟩ := step_writeDone_cases hstep
  · obtain ⟨queue, hq, herase⟩ := h.front_of_write hmsg
    have horder' : s.written ++ [msg] ++ s.messageQueue.tail ++ s.pending = s.sent := by
      rw [hq] at horder ⊢
      simpa using horder
    cases hd : s.shuttingDown with
    | true =>
      refine ⟨Or.inl (by simp [herase]), horder', ?_⟩
      intro hup
      cases hup
    | false =>
      cases queue with
      | nil => exact ⟨Or.inl (by simp [hq, herase]), horder', by simp [hq]⟩
      | cons next others =>
        refine ⟨Or.inr ⟨next, others, by simp [hq], by simp [hq, herase]⟩, horder', ?_⟩
        intro _ _
        simp [hq, herase]
  · obtain ⟨queue, hq, herase⟩ := h.front_of_write hmsg
    have hidle : OutboundInv { s with writes := s.writes.eraseIdx i, shuttingDown := true } :=
      ⟨Or.inl herase, h.order, fun hd => by cases hd⟩
    exact hidle.close

/-! ## One event -/

/-- **Every event keeps the invariant of the sending side.** -/
theorem step (h : OutboundInv s) {e : Event M} (hstep : s.step e = .ok t) : OutboundInv t := by
  cases e with
  | send msg =>
    rcases step_send_cases hstep with ⟨-, rfl⟩ | ⟨-, rfl⟩
    · exact h
    · exact h.send msg
  | shutdown =>
    cases hstep
    exact h.shutdown
  | close =>
    rw [step_close_ok_iff.mp hstep]
    exact h.close
  | runPosted => exact h.runPosted hstep
  | writeDone i ec => exact h.writeDone hstep
  | _ => exact h.of_sameOutbound (sameOutbound_step hstep rfl)

end OutboundInv

/-- Only `send` adds to the messages that have been sent. -/
lemma sent_step {s t : System M} {e : Event M} (he : e.isSend = false)
    (hstep : s.step e = .ok t) : t.sent = s.sent := by
  cases e with
  | send msg => cases he
  | shutdown => cases hstep; rfl
  | close => rw [step_close_ok_iff.mp hstep]
  | runPosted =>
    obtain ⟨-, rest, ⟨-, rfl⟩ | ⟨msg, -, rfl⟩⟩ := step_runPosted_cases hstep
    · rfl
    · rfl
  | writeDone i ec =>
    obtain ⟨-, msg, -, ⟨-, rfl⟩ | ⟨-, rfl⟩⟩ := step_writeDone_cases hstep
    · rfl
    · rfl
  | _ => exact (sameOutbound_step hstep rfl).sent

/-! ## Whole runs -/

lemma outboundInv_of_run {es : List (Event M)} {s : System M}
    (h : (system M).run es = .ok s) : OutboundInv s :=
  (system M).run_invariant outboundInv_new (fun _ _ _ hs hstep => hs.step hstep) h

/-- **The outbound queue protocol.**  After every run, at most one write is outstanding and its
message is the front of the queue; the written messages and the outstanding one are a prefix of
the messages in posting order; and if nothing has set `shutdown_`, a write is outstanding exactly
while the queue is not empty, so that nothing is left over once all is quiet. -/
theorem outbound_protocol {es : List (Event M)} {s : System M}
    (hrun : (system M).run es = .ok s) :
    (s.writes.length ≤ 1 ∧ ∀ msg ∈ s.writes, s.messageQueue.head? = some msg) ∧
      s.written ++ s.writes <+: s.sent ∧
      ((∀ e ∈ es, e.stops = false) →
        (s.messageQueue ≠ [] ↔ s.writes ≠ []) ∧
          (s.posted = [] → s.writes = [] → s.written = s.sent)) := by
  have hinv := outboundInv_of_run hrun
  have horder := hinv.order
  refine ⟨⟨hinv.length_writes_le, fun _ => hinv.head_of_mem_writes⟩, hinv.transmitted_isPrefix, ?_⟩
  · intro hes
    have hdown := not_shuttingDown_of_run hrun hes
    have hbusy : s.messageQueue ≠ [] ↔ s.writes ≠ [] := by
      refine ⟨hinv.busy hdown, ?_⟩
      intro hw
      rcases hinv.single with hidle | ⟨msg, rest, hq, -⟩
      · exact absurd hidle hw
      · simp [hq]
    refine ⟨hbusy, ?_⟩
    intro hposted hidle
    have hq : s.messageQueue = [] := by
      by_contra hne
      exact hbusy.mp hne hidle
    have hpending : s.pending = [] := by simp [BtConnection.pending, hposted]
    rw [hq, hpending, List.append_nil, List.append_nil] at horder
    exact horder

/-- Two messages, of which the first has been written. -/
theorem outbound_protocol_two_messages :
    ∃ s, (system ℕ).run [.connect true, .send 7, .send 8, .runPosted, .runPosted,
        .writeDone 0 false] = .ok s ∧
      s.writes = [8] ∧ s.messageQueue.head? = some 8 ∧ s.written ++ s.writes <+: s.sent ∧
      (s.messageQueue ≠ [] ↔ s.writes ≠ []) := by
  obtain ⟨s, hrun, hw⟩ : ∃ s, (system ℕ).run [.connect true, .send 7, .send 8, .runPosted,
      .runPosted, .writeDone 0 false] = .ok s ∧ s.writes = [8] := ⟨_, rfl, rfl⟩
  obtain ⟨⟨-, hfront⟩, horder, hbusy⟩ := outbound_protocol hrun
  exact ⟨s, hrun, hw, hfront 8 (by simp [hw]), horder, (hbusy (by decide)).1⟩

end System

end Btconn
