import SpheroBtconn.Connection.Flush
import SpheroBtconn.Connection.Readers
import SpheroBtconn.Handler.Pipeline

/-!
# Every command gets its response

A command passes through five events on its way: its message is queued, its write completes, the
device answers it, the answer arrives, and a reader takes it.  On a connection that nothing stops
these are all there is: `remaining` counts how many of them are left for all commands together, each
of them takes one from it, `sendCommand` adds five, and nothing else changes it (`remaining_step`).
As long as something remains, one of these events can happen, or a reader can leave the waiting loop
(`exists_advance`).  So the commands are answered and read after exactly five events for each of
them, in whatever order they happen (`commands_completed`).
-/

namespace Btconn

/-- The event is one of those that a command passes through. -/
def Event.advances {M : Type*} : Event M → Bool
  | .runPosted => true
  | .writeDone _ _ => true
  | .readTake _ => true
  | _ => false

/-- The event is one of those that a command passes through. -/
def PipelineEvent.advances : PipelineEvent → Bool
  | .handler (.sendCommand _) => false
  | .handler (.conn e) => e.advances
  | .answer _ _ => true
  | .deliver => true

/-- The event sets `shutdown_`. -/
def PipelineEvent.stops : PipelineEvent → Bool
  | .handler (.conn e) => e.stops
  | _ => false

/-- A thread leaves the waiting loop of `read`. -/
def PipelineEvent.enters : PipelineEvent → Bool
  | .handler (.conn (.readEnter _)) => true
  | _ => false

namespace System

variable {M : Type*} {s t : System M} {e : Event M}

/-- What is left to be written and to be read, when nothing is sent and no chunk arrives. -/
lemma load_step (hout : OutboundInv s) (hup : UpInv s) (hin : InboundInv s)
    (hd : s.shuttingDown = false) (he : e.stops = false) (hsend : e.isSend = false)
    (hchunk : ∀ chunk, e ≠ .readDone chunk) (hstep : s.step e = .ok t) :
    t.unsent + t.readQueue.length + (if e.advances then 1 else 0) =
      s.unsent + s.readQueue.length := by
  have hunsent := unsent_step hout hup hd he hsend hstep
  rcases hin.readQueue_step hstep with
    ⟨hq, -, ht⟩ | ⟨chunk, rfl, -⟩ | ⟨reader, entry, rfl, hq, -⟩
  · have hsame : e.advances = e.flushes := by
      cases e with
      | readTake reader =>
        obtain ⟨entry, -, -, rfl⟩ := step_readTake_ok_iff.mp hstep
        simp at ht
      | _ => rfl
    rw [hq, hsame]
    omega
  · exact absurd rfl (hchunk chunk)
  · rw [hq, List.length_append, List.length_singleton]
    simp only [Event.flushes, Event.advances, Bool.false_eq_true, if_false, if_true] at hunsent ⊢
    omega

/-- Messages are only accepted on a connection that has been connected. -/
lemma connected_of_sent {es : List (Event M)} (hrun : (system M).run es = .ok s)
    (hsent : s.sent ≠ []) : s.connected = true := by
  have hinv : s.connected = false → s.sent = [] := by
    refine (system M).run_invariant (I := fun s => s.connected = false → s.sent = [])
      (fun _ => rfl) ?_ hrun
    intro s e t ih hstep hconn
    have hbefore := connected_step hstep
    rw [hconn, eq_comm, Bool.or_eq_false_iff] at hbefore
    rcases hsend : e.isSend with - | -
    · exact (sent_step hsend hstep).trans (ih hbefore.1)
    · cases e with
      | send msg =>
        have hsame : (system M).step s (.send msg) = .ok s := step_send_of_not_connected hbefore.1 msg
        obtain rfl := Except.ok.inj (hsame.symm.trans hstep)
        exact ih hbefore.1
      | _ => cases hsend
  by_contra hconn
  exact hsent (hinv (by simpa using hconn))

end System

namespace Pipeline

variable {s t : Pipeline} {e : PipelineEvent} {es : List PipelineEvent}

/-- How many events are left for the commands that have been issued: five for a command that is
posted, three for one that has been written, two for an answer under way, one for an entry. -/
def remaining (s : Pipeline) : ℕ :=
  s.unsent + 3 * (s.sent.length - s.answers.length) + 2 * (s.answers.length - s.delivered) +
    s.readQueue.length

/-! ## What is left to do -/

/-- Only commands that have been issued are answered. -/
lemma PipelineInv.answers_subset (h : PipelineInv s) :
    s.answers.map Prod.fst ⊆ List.range s.issued.length := by
  intro k hk
  obtain ⟨a, ha, rfl⟩ := List.mem_map.mp hk
  rw [← h.length_sent]
  exact List.mem_range.mpr (h.echoed a ha).2.1

/-- No more commands are answered than have been sent. -/
lemma PipelineInv.length_answers_le (h : PipelineInv s) : s.answers.length ≤ s.sent.length := by
  rw [h.length_sent]
  simpa using (List.subperm_of_subset h.nodup h.answers_subset).length_le

/-- The invariant of the sending side on a connection that nothing stops. -/
lemma PipelineInv.exists_outbound (h : PipelineInv s) :
    System.OutboundInv s.toSystem ∧ System.UpInv s.toSystem := by
  obtain ⟨gs, hgs⟩ := h.exists_run
  exact ⟨System.outboundInv_of_run hgs, System.upInv_of_run hgs⟩

/-- **Five events for each command.**  On a connection that nothing stops, each of the five events
takes one from what remains, `sendCommand` adds five if it returns, and nothing else changes it. -/
theorem remaining_step (h : PipelineInv s) (hd : s.shuttingDown = false) (he : e.stops = false)
    (hstep : s.step e = .ok t) :
    t.remaining + (if e.advances then 1 else 0) + 5 * s.issued.length =
      s.remaining + 5 * t.issued.length := by
  have hanswers := h.length_answers_le
  have hdelivered := h.delivered
  cases e with
  | handler e =>
    obtain ⟨hreceives, u, hu, rfl⟩ := step_handler_ok_iff.mp hstep
    cases e with
    | sendCommand cmd =>
      cases hconn : s.connected with
      | false =>
        rw [HandlerSystem.step_sendCommand_of_not_connected hconn, Except.ok.injEq] at hu
        subst hu
        rfl
      | true =>
        rw [HandlerSystem.step_sendCommand_of_connected hconn, Except.ok.injEq] at hu
        subst hu
        simp only [remaining, BtConnection.unsent, PipelineEvent.advances, List.length_append,
          List.length_singleton, Bool.false_eq_true, if_false]
        omega
    | conn e =>
      obtain ⟨hsend, v, hv, rfl⟩ := HandlerSystem.step_conn_ok_iff.mp hu
      obtain ⟨hout, hup⟩ := h.exists_outbound
      have hsent : v.sent = s.sent := System.sent_step hsend hv
      have hchunk : ∀ chunk, e ≠ .readDone chunk := by
        rintro chunk rfl
        cases hreceives
      have hload := System.load_step hout hup h.inbound hd he hsend hchunk hv
      have hadvances : (PipelineEvent.handler (.conn e)).advances = e.advances := rfl
      rw [hadvances]
      simp only [remaining, hsent]
      omega
  | answer k p =>
    obtain ⟨hcan, rfl⟩ := step_answer_ok_iff.mp hstep
    have hafter := (h.answer hcan).length_answers_le
    simp only [List.length_append, List.length_singleton] at hafter
    simp only [remaining, PipelineEvent.advances, List.length_append, List.length_singleton, if_true]
    omega
  | deliver =>
    obtain ⟨k, p, u, hnext, hu, rfl⟩ := step_deliver_ok_iff.mp hstep
    obtain ⟨hlt, -⟩ := List.getElem?_eq_some_iff.mp hnext
    obtain ⟨-, ⟨hdown, -⟩ | ⟨-, entry, rfl⟩⟩ := System.step_readDone_cases hu
    · cases hd.symm.trans hdown
    · simp only [remaining, BtConnection.unsent, PipelineEvent.advances, List.length_append,
        List.length_singleton, if_true]
      omega

/-! ## Something can happen as long as something is left -/

/-- Entries are received, and then queued, and then taken. -/
lemma PipelineInv.length_received (h : PipelineInv s) :
    s.taken.length + s.readQueue.length = s.received.length := by
  obtain ⟨gs, hgs⟩ := h.exists_run
  simpa using (System.taken_append_readQueue_perm hgs).length_eq

/-- If something remains, the connection has been connected. -/
lemma PipelineInv.connected_of_remaining (h : PipelineInv s) (hd : s.shuttingDown = false)
    (hleft : s.remaining ≠ 0) : s.connected = true := by
  obtain ⟨gs, hgs⟩ := h.exists_run
  obtain ⟨hout, hup⟩ := h.exists_outbound
  refine System.connected_of_sent hgs ?_
  intro hsent
  have horder := congrArg List.length hout.order
  have hanswers := h.length_answers_le
  have hdelivered := h.delivered
  have hreceived := h.length_received
  rw [h.complete hd] at hreceived
  simp only [hsent, List.length_append, List.length_nil] at horder hanswers
  have hposted : s.posted.length = s.pending.length := by
    rw [hup.posted hd, List.length_map]
  simp only [remaining, BtConnection.unsent, hsent, List.length_nil] at hleft
  omega

/-- An event of the connection is one of the whole. -/
lemma exists_step_conn {e : Event SpheroClientCommand} {u : System SpheroClientCommand}
    (hsend : e.isSend = false) (hchunk : ∀ chunk, e ≠ .readDone chunk)
    (hstep : s.toSystem.step e = .ok u) : ∃ t, s.step (.handler (.conn e)) = .ok t := by
  refine ⟨_, step_handler_ok_iff.mpr ⟨?_, _,
    HandlerSystem.step_conn_ok_iff.mpr ⟨hsend, u, hstep, rfl⟩, rfl⟩⟩
  cases e with
  | readDone chunk => exact absurd rfl (hchunk chunk)
  | _ => rfl

/-- A device that has received a frame can answer it. -/
lemma PipelineInv.exists_answer (h : PipelineInv s) (hwritten : s.written = s.sent)
    (hless : s.answers.length < s.sent.length) : ∃ k p, s.CanAnswer k p := by
  obtain ⟨k, hk, hnew⟩ : ∃ k < s.sent.length, k ∉ s.answers.map Prod.fst := by
    by_contra! hall
    have hsub : List.range s.sent.length ⊆ s.answers.map Prod.fst :=
      fun k hk => hall k (List.mem_range.mp hk)
    have hle := (List.subperm_of_subset List.nodup_range hsub).length_le
    rw [List.length_range, List.length_map] at hle
    omega
  have hget := List.getElem?_eq_getElem hk
  obtain ⟨cmd, -, hbuffer, hpacket⟩ := h.numbering.exists_frame hget
  refine ⟨k, [0xFF, 0xFF, 0x00, UInt8.ofNat (k % 256), 0x00], hnew, ⟨rfl, by simp, rfl⟩,
    s.sent[k], ?_, ?_⟩
  · rw [hwritten, List.getElem?_append_left hk]
    exact hget
  · rw [hbuffer, hpacket, SpheroCommand.getElem?_frame]
    rfl

/-- An answer that has been sent can arrive. -/
lemma PipelineInv.exists_deliver (h : PipelineInv s) (hconn : s.connected = true)
    (hd : s.shuttingDown = false) (hless : s.delivered < s.answers.length) :
    ∃ t, s.step .deliver = .ok t := by
  obtain ⟨⟨k, p⟩, hget⟩ : ∃ a, s.answers[s.delivered]? = some a :=
    ⟨_, List.getElem?_eq_getElem hless⟩
  obtain ⟨hio, hreads⟩ := h.inbound.reading hconn hd
  have hp := (h.echoed _ (List.mem_of_getElem? hget)).1
  have hpos : 0 < p.length := List.length_pos_of_ne_nil hp.ne_nil
  have hcan : s.CanDeliver p := ⟨hio, by omega, hpos, hp.length_le.trans (by decide)⟩
  exact ⟨_, step_deliver_ok_iff.mpr
    ⟨k, p, _, hget, h.inbound.step_readDone_of_mem hd hcan hp.mem_start, rfl⟩⟩

/-- As long as something remains, one of the five events can happen, or a reader can leave the
waiting loop. -/
theorem exists_advance (h : PipelineInv s) (hd : s.shuttingDown = false)
    (hleft : s.remaining ≠ 0) :
    ∃ e t, (e.advances = true ∨ e.enters = true) ∧ s.step e = .ok t := by
  obtain ⟨hout, hup⟩ := h.exists_outbound
  have hconn := h.connected_of_remaining hd hleft
  have hio := (h.inbound.reading hconn hd).1
  by_cases hunsent : s.unsent = 0
  · have hwritten : s.written = s.sent := (hout.written_eq_sent_iff hup hd).mpr hunsent
    by_cases hanswers : s.answers.length < s.sent.length
    · obtain ⟨k, p, hcan⟩ := h.exists_answer hwritten hanswers
      exact ⟨.answer k p, _, Or.inl rfl, step_answer_ok_iff.mpr ⟨hcan, rfl⟩⟩
    · by_cases hdelivered : s.delivered < s.answers.length
      · obtain ⟨t, hstep⟩ := h.exists_deliver hconn hd hdelivered
        exact ⟨.deliver, t, Or.inl rfl, hstep⟩
      · have hqueue : s.readQueue ≠ [] := by
          intro hqueue
          simp only [remaining, hunsent, hqueue, List.length_nil] at hleft
          omega
        obtain ⟨reader, hreader⟩ := Infinite.exists_notMem_finset s.readers.toFinset
        have henter : s.toSystem.step (.readEnter reader) = .ok _ :=
          System.step_readEnter_ok_iff.mpr ⟨⟨hconn, hqueue, by simpa using hreader⟩, rfl⟩
        obtain ⟨t, hstep⟩ := exists_step_conn rfl (by simp) henter
        exact ⟨_, t, Or.inr rfl, hstep⟩
  · obtain ⟨e, u, hflush, -, hstep⟩ := System.exists_flush_step hout hio hd hunsent
    cases e with
    | runPosted =>
      obtain ⟨t, ht⟩ := exists_step_conn rfl (by simp) hstep
      exact ⟨_, t, Or.inl rfl, ht⟩
    | writeDone i ec =>
      obtain ⟨t, ht⟩ := exists_step_conn rfl (by simp) hstep
      exact ⟨_, t, Or.inl rfl, ht⟩
    | _ => cases hflush

/-! ## When nothing is left -/

/-- All commands have been written, and the responses that have been read are the answers to them,
one for each, in some order. -/
def Completed (s : Pipeline) (mem : SpheroServerResponse) : Prop :=
  s.written = s.sent ∧ ∃ order : List (ℕ × SpheroPacket), order.Perm s.answers ∧
    (order.map Prod.fst).Perm (List.range s.issued.length) ∧
    s.taken.map (reportOf mem) = order.map fun a => some a.2

/-- If as many commands have been answered as have been sent, it is all of them. -/
lemma PipelineInv.perm_of_length_eq (h : PipelineInv s) (hall : s.answers.length = s.sent.length) :
    (s.answers.map Prod.fst).Perm (List.range s.issued.length) := by
  refine (List.subperm_of_subset h.nodup h.answers_subset).perm_of_length_le ?_
  rw [List.length_range, List.length_map, hall, h.length_sent]

/-- The elements of a list, in the order of their positions. -/
lemma map_getD_range {α : Type*} (l : List α) (d : α) :
    (List.range l.length).map (fun i => l.getD i d) = l := by
  apply List.ext_getElem
  · simp
  · intro i hi hi'
    simp [hi']

/-- Nothing remains exactly when all commands have been completed. -/
theorem remaining_eq_zero_iff (h : PipelineInv s) (hd : s.shuttingDown = false)
    (mem : SpheroServerResponse) : s.remaining = 0 ↔ s.Completed mem := by
  obtain ⟨hout, hup⟩ := h.exists_outbound
  have hwritten := hout.written_eq_sent_iff hup hd
  have hanswers := h.length_answers_le
  have hdelivered := h.delivered
  have hreceived := h.length_received
  rw [h.complete hd] at hreceived
  constructor
  · intro hnone
    simp only [remaining] at hnone
    have hqueue : s.readQueue = [] := List.eq_nil_of_length_eq_zero (by omega)
    have hlength : s.received.length = s.answers.length := by
      rw [h.complete hd]
      omega
    obtain ⟨out, stack, horder, htaken, hstack⟩ := h.exists_order mem
    rw [hqueue, List.map_nil, eq_comm, List.map_eq_nil_iff] at hstack
    subst hstack
    have hperm : out.Perm (List.range s.answers.length) := by
      simpa [hlength] using horder.perm
    refine ⟨hwritten.mpr (by omega), out.map fun i => s.answers.getD i (0, []), ?_, ?_, ?_⟩
    · have hmap := hperm.map fun i => s.answers.getD i (0, [])
      rwa [map_getD_range] at hmap
    · have hmap := (hperm.map fun i => s.answers.getD i (0, [])).map Prod.fst
      rw [map_getD_range] at hmap
      exact hmap.trans (h.perm_of_length_eq (by omega))
    · rw [htaken, List.map_map]
      refine List.map_congr_left fun i hi => ?_
      have hlt : i < s.answers.length := List.mem_range.mp (hperm.mem_iff.mp hi)
      simp [List.getElem?_eq_getElem hlt]
  · rintro ⟨hall, order, hperm, hnumbers, htaken⟩
    have hlength := congrArg List.length htaken
    have hissued := hnumbers.length_eq
    rw [List.length_map, List.length_map, hperm.length_eq] at hlength
    rw [List.length_map, List.length_range, hperm.length_eq, ← h.length_sent] at hissued
    have hunsent := hwritten.mp hall
    simp only [remaining]
    omega

/-! ## Whole runs -/

/-- Only the events that set `shutdown_` set it. -/
lemma not_shuttingDown_step (hd : s.shuttingDown = false) (he : e.stops = false)
    (hstep : s.step e = .ok t) : t.shuttingDown = false := by
  have hconn : ∀ {e u}, Event.stops e = false → s.toSystem.step e = .ok u →
      u.shuttingDown = false := by
    intro e u he hu
    rw [System.shuttingDown_step hu, hd, he]
    rfl
  cases e with
  | handler e =>
    obtain ⟨-, u, hu, rfl⟩ := step_handler_ok_iff.mp hstep
    cases e with
    | sendCommand cmd =>
      cases hc : s.connected with
      | false =>
        rw [HandlerSystem.step_sendCommand_of_not_connected hc, Except.ok.injEq] at hu
        exact hu ▸ hd
      | true =>
        rw [HandlerSystem.step_sendCommand_of_connected hc, Except.ok.injEq] at hu
        exact hu ▸ hd
    | conn e =>
      obtain ⟨-, v, hv, rfl⟩ := HandlerSystem.step_conn_ok_iff.mp hu
      exact hconn he hv
  | answer k p =>
    obtain ⟨-, rfl⟩ := step_answer_ok_iff.mp hstep
    exact hd
  | deliver =>
    obtain ⟨k, p, u, -, hu, rfl⟩ := step_deliver_ok_iff.mp hstep
    exact hconn rfl hu

/-- The events that have happened and those that remain are five for each command. -/
theorem countP_advances_of_run (hrun : pipeline.run es = .ok s)
    (hes : ∀ e ∈ es, e.stops = false) :
    s.shuttingDown = false ∧
      es.countP PipelineEvent.advances + s.remaining = 5 * s.issued.length := by
  refine pipeline.run_induction (P := fun es s => (∀ e ∈ es, e.stops = false) →
    s.shuttingDown = false ∧
      es.countP PipelineEvent.advances + s.remaining = 5 * s.issued.length)
    (fun _ => ⟨rfl, rfl⟩) ?_ hrun hes
  intro es s e t hrun ih hstep hes
  have he : e.stops = false := hes e (List.mem_append_right _ (List.mem_singleton_self e))
  obtain ⟨hd, hcount⟩ := ih fun e' he' => hes e' (List.mem_append_left _ he')
  have hremaining := remaining_step (pipelineInv_of_run hrun) hd he hstep
  refine ⟨not_shuttingDown_step hd he hstep, ?_⟩
  rw [List.countP_append, List.countP_singleton]
  omega

/-- **Every command gets its response after five events.**  In every run in which nothing sets
`shutdown_`, at most five of these events happen for each command for which `sendCommand` has
returned; all of them have happened exactly if all commands have been written and answered and the
responses that have been read are the answers, one for each command; and this is so as soon as none
of the events can happen and no reader can leave the waiting loop. -/
theorem commands_completed (hrun : pipeline.run es = .ok s) (hes : ∀ e ∈ es, e.stops = false)
    (mem : SpheroServerResponse) :
    es.countP PipelineEvent.advances ≤ 5 * s.issued.length ∧
      (es.countP PipelineEvent.advances = 5 * s.issued.length ↔ s.Completed mem) ∧
      ((∀ e t, e.advances = true ∨ e.enters = true → s.step e ≠ .ok t) → s.Completed mem) := by
  have hinv := pipelineInv_of_run hrun
  obtain ⟨hd, hcount⟩ := countP_advances_of_run hrun hes
  have hiff := remaining_eq_zero_iff hinv hd mem
  refine ⟨by omega, ?_, ?_⟩
  · rw [← hiff]
    omega
  · intro hnone
    refine hiff.mp ?_
    by_contra hleft
    obtain ⟨e, t, hkind, hstep⟩ := exists_advance hinv hd hleft
    exact hnone e t hkind hstep

/-- Two commands, whose responses are read in the other order. -/
theorem commands_completed_two :
    ∃ s, pipeline.run [.handler (.conn (.connect true)), .handler (.sendCommand ⟨0x00, 0x01⟩),
        .handler (.sendCommand ⟨0x00, 0x02⟩), .handler (.conn .runPosted),
        .handler (.conn .runPosted), .answer 0 [0xFF, 0xFF, 0x00, 0x00, 0x00],
        .handler (.conn (.writeDone 0 false)), .answer 1 [0xFF, 0xFF, 0x00, 0x01, 0x00], .deliver,
        .deliver, .handler (.conn (.writeDone 0 false)), .handler (.conn (.readEnter 0)),
        .handler (.conn (.readTake 0)), .handler (.conn (.readEnter 0)),
        .handler (.conn (.readTake 0))] = .ok s ∧ s.Completed .new := by
  obtain ⟨s, hrun, hissued⟩ : ∃ s, pipeline.run [.handler (.conn (.connect true)),
      .handler (.sendCommand ⟨0x00, 0x01⟩), .handler (.sendCommand ⟨0x00, 0x02⟩),
      .handler (.conn .runPosted), .handler (.conn .runPosted),
      .answer 0 [0xFF, 0xFF, 0x00, 0x00, 0x00], .handler (.conn (.writeDone 0 false)),
      .answer 1 [0xFF, 0xFF, 0x00, 0x01, 0x00], .deliver, .deliver,
      .handler (.conn (.writeDone 0 false)), .handler (.conn (.readEnter 0)),
      .handler (.conn (.readTake 0)), .handler (.conn (.readEnter 0)),
      .handler (.conn (.readTake 0))] = .ok s ∧ s.issued.length = 2 := by
    -- the run fills buffers of 1024 bytes
    set_option maxRecDepth 8000 in exact ⟨_, rfl, rfl⟩
  refine ⟨s, hrun, (commands_completed hrun (by decide) .new).2.1.mp ?_⟩
  rw [hissued]
  rfl

end Pipeline

end Btconn
