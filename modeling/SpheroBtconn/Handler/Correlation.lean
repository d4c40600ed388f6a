import SpheroBtconn.Handler.Session

/-!
# Responses and commands

In a session every response is the response to its command.  That the sequence byte fits is a
consequence and not the reason: the handler does not compare it.  The reason is that there is never
more than one answer between the device and the caller, so that taking from the wrong end of
`readQueue_` makes no difference.

A round always ends.  As long as the caller is inside `readResponse`, something other than a new
call can happen (`exists_step`); and everything that happens in between takes one from `backlog`,
to which only a new command adds (`backlog_step`).
-/

namespace Btconn

/-- How many steps of `readResponse` the caller has before it. -/
def Phase.weight : Phase → ℕ
  | .ready => 0
  | .waiting => 2
  | .reading => 1

namespace Session

variable {s t : Session} {e : SessionEvent}

/-! ## Faults -/

/-- The faults of what happens to the handler are those of the connection. -/
lemma step_fault_of_handle {c : Event SpheroClientCommand} {f : HandlerSystem → Session}
    {fault : Fault} (h : s.handle (.conn c) f = .error (.fault fault)) :
    s.toSystem.step c = .error (.fault fault) := by
  simp only [handle, HandlerSystem.step] at h
  split_ifs at h
  · cases h
  · cases hc : s.toSystem.step c with
    | ok u =>
      rw [hc] at h
      cases h
    | error r =>
      rw [hc] at h
      simpa [Except.map] using h

/-- Only connecting, receiving and taking can end in a fault. -/
lemma handle_ne_fault {c : Event SpheroClientCommand} {f : HandlerSystem → Session}
    {fault : Fault} (hconnect : c ≠ .connect true) (htake : ∀ reader, c ≠ .readTake reader)
    (hreceive : ∀ chunk, c ≠ .readDone chunk) : s.handle (.conn c) f ≠ .error (.fault fault) := by
  intro h
  rcases System.step_fault_cases (step_fault_of_handle h) with
    ⟨hc, -⟩ | ⟨reader, hc, -⟩ | ⟨chunk, hc, -⟩
  · exact hconnect hc
  · exact htake reader hc
  · exact hreceive chunk hc

/-- An answer is received without a fault. -/
lemma SessionInv.readDone_ne_fault (h : SessionInv s) {p : SpheroPacket}
    (hp : IsResponsePacket p) {fault : Fault} :
    s.toSystem.step (.readDone p) ≠ .error (.fault fault) := by
  intro hstep
  rcases System.step_fault_cases hstep with ⟨hc, -⟩ | ⟨reader, hc, -⟩ | ⟨chunk, hc, hcan, -⟩
  · cases hc
  · cases hc
  · cases hc
    rw [h.inbound.step_readDone_of_mem h.up.2 hcan hp.mem_start] at hstep
    cases hstep

/-- The caller finds the entry that it has left the loop for. -/
lemma SessionInv.exists_readTake (h : SessionInv s) (hreading : s.phase = .reading) :
    ∃ u, s.toSystem.step (.readTake 0) = .ok u := by
  have hlast := List.getLast?_eq_some_getLast (h.available hreading)
  have hmem : 0 ∈ s.readers := by
    rw [h.reader, if_pos hreading]
    exact List.mem_singleton_self 0
  exact ⟨_, System.step_readTake_ok_iff.mpr ⟨_, hmem, hlast, rfl⟩⟩

/-- **Nothing that can happen in a session is undefined or ends the program.** -/
theorem SessionInv.step_ne_fault (h : SessionInv s) (e : SessionEvent) (fault : Fault) :
    s.step e ≠ .error (.fault fault) := by
  intro hfault
  unfold Session.step at hfault
  cases e with
  | sendCommand cmd =>
    have hcall := HandlerSystem.step_sendCommand_of_connected h.up.1 cmd
    simp only [handle, hcall] at hfault
    split_ifs at hfault
    · cases hfault
    · cases hfault
  | runPosted => exact handle_ne_fault (c := .runPosted) (by simp) (by simp) (by simp) hfault
  | writeDone i =>
    exact handle_ne_fault (c := .writeDone i false) (by simp) (by simp) (by simp) hfault
  | answer k p =>
    dsimp only at hfault
    split_ifs at hfault
    cases hfault
  | deliver =>
    dsimp only at hfault
    split at hfault
    · cases hfault
    · rename_i k p hnext
      have hp := (h.echoed _ (List.mem_of_getElem? hnext)).1
      exact h.readDone_ne_fault hp (step_fault_of_handle hfault)
  | readEnter =>
    dsimp only at hfault
    split_ifs at hfault
    · exact handle_ne_fault (c := .readEnter 0) (by simp) (by simp) (by simp) hfault
    · cases hfault
  | readTake mem =>
    dsimp only at hfault
    split_ifs at hfault with hreading
    · obtain ⟨u, hu⟩ := h.exists_readTake hreading
      rw [step_fault_of_handle hfault] at hu
      cases hu
    · cases hfault

/-! ## No round gets stuck -/

/-- A command frame that has not been answered can be answered. -/
lemma SessionInv.exists_answer (h : SessionInv s) (hmore : s.answers.length < s.transmitted.length) :
    ∃ k p, s.CanAnswer k p := by
  have hframe := List.getElem?_eq_getElem hmore
  obtain ⟨cmd, -, hbuffer⟩ := h.exists_command hframe
  refine ⟨s.answers.length, [0xFF, 0xFF, 0x00, UInt8.ofNat (s.answers.length % 256), 0x00], ?_,
    ?_, _, hframe, ?_⟩
  · rw [h.numbered]
    simp
  · exact ⟨rfl, le_rfl, rfl⟩
  · rw [hbuffer, SpheroCommand.getElem?_frame]
    rfl

/-- If the frame of the last command has not been transmitted, the I/O thread has work to do. -/
lemma SessionInv.exists_outbound_step (h : SessionInv s)
    (hless : s.transmitted.length < s.sent.length) :
    ∃ t, s.step .runPosted = .ok t ∨ ∃ i, s.step (.writeDone i) = .ok t := by
  have hio := (h.inbound.reading h.up.1 h.up.2).1
  cases hwrites : s.writes with
  | cons msg rest =>
    have hfirst : s.writes[0]? = some msg := by rw [hwrites]; rfl
    obtain ⟨u, hu⟩ : ∃ u, s.toSystem.step (.writeDone 0 false) = .ok u :=
      ⟨_, System.step_writeDone_ok_iff.mpr ⟨msg, hio, hfirst, rfl⟩⟩
    exact ⟨_, Or.inr ⟨0, step_writeDone_ok_iff.mpr ⟨u, hu, rfl⟩⟩⟩
  | nil =>
    have hqueue : s.messageQueue = [] := by
      by_contra hne
      exact h.outbound.busy h.up.2 hne hwrites
    have hmessages := h.length_sent
    have htransmitted := h.length_transmitted.1
    rw [hqueue, List.length_nil] at hmessages
    rw [hwrites, List.length_nil] at htransmitted
    cases hposted : s.posted with
    | nil =>
      have hpending : s.pending.length = 0 := by
        rw [BtConnection.pending, hposted]
        rfl
      omega
    | cons handler rest =>
      have hstep := System.step_runPosted_ok_iff.mpr ⟨handler, rest, hio, hposted, rfl⟩
      exact ⟨_, Or.inl (step_runPosted_ok_iff.mpr ⟨_, hstep, rfl⟩)⟩

/-- An answer that has not arrived can arrive. -/
lemma SessionInv.exists_deliver (h : SessionInv s) (hmore : s.received.length < s.answers.length) :
    ∃ t, s.step .deliver = .ok t := by
  obtain ⟨hio, hreads⟩ := h.inbound.reading h.up.1 h.up.2
  have hnext := List.getElem?_eq_getElem hmore
  have hp := (h.echoed _ (List.getElem_mem hmore)).1
  have hcan : s.CanDeliver s.answers[s.received.length].2 :=
    ⟨hio, by omega, List.length_pos_of_mem hp.mem_start, hp.length_le.trans (by decide)⟩
  have hstep := h.inbound.step_readDone_of_mem h.up.2 hcan hp.mem_start
  exact ⟨_, step_deliver_ok_iff.mpr ⟨_, _, _, hnext, hstep, rfl⟩⟩

/-- **As long as the caller is inside `readResponse`, something can happen that is not a call.** -/
theorem SessionInv.exists_step (h : SessionInv s) (hphase : s.phase ≠ .ready) :
    ∃ e t, e.isCall = false ∧ s.step e = .ok t := by
  cases hp : s.phase with
  | ready => exact absurd hp hphase
  | reading =>
    obtain ⟨u, hu⟩ := h.exists_readTake hp
    exact ⟨.readTake .new, _, rfl, step_readTake_ok_iff.mpr ⟨hp, u, hu, rfl⟩⟩
  | waiting =>
    have hround := h.round
    have hreader := h.reader
    have harrived := h.length_arrived
    have hsent := h.length_arrived_le
    have hanswered := h.answered
    rw [if_neg hphase] at hround
    rw [hp, if_neg (by decide)] at hreader
    by_cases hqueue : s.readQueue = []
    · rw [hqueue, List.length_nil] at harrived
      -- the last frame is on its way to the device, at the device, or on its way back
      rcases Nat.lt_or_ge s.transmitted.length s.sent.length with hless | hall
      · obtain ⟨t, ht | ⟨i, ht⟩⟩ := h.exists_outbound_step hless
        · exact ⟨.runPosted, t, rfl, ht⟩
        · exact ⟨.writeDone i, t, rfl, ht⟩
      · rcases Nat.lt_or_ge s.answers.length s.transmitted.length with hmore | hdone
        · obtain ⟨k, p, hcan⟩ := h.exists_answer hmore
          exact ⟨.answer k p, _, rfl, step_answer_ok_iff.mpr ⟨hcan, rfl⟩⟩
        · obtain ⟨t, ht⟩ := h.exists_deliver (by omega)
          exact ⟨.deliver, t, rfl, ht⟩
    · have hfree : 0 ∉ s.readers := by
        rw [hreader]
        exact List.not_mem_nil
      have hstep := System.step_readEnter_ok_iff.mpr ⟨⟨h.up.1, hqueue, hfree⟩, rfl⟩
      exact ⟨.readEnter, _, rfl, step_readEnter_ok_iff.mpr ⟨hp, _, hstep, rfl⟩⟩

/-! ## Every round ends -/

/-- How much can still happen before the next call: running and writing the messages, answering
them, delivering the answers, and taking the entry. -/
def backlog (s : Session) : ℕ :=
  2 * s.posted.length + s.messageQueue.length + (s.sent.length - s.answers.length) +
    (s.sent.length - s.received.length) + s.phase.weight

/-- A posted handler leaves at most a message in the queue. -/
lemma load_of_runPosted {u v : System SpheroClientCommand} (hstep : u.step .runPosted = .ok v) :
    2 * v.posted.length + v.messageQueue.length + 1 ≤
      2 * u.posted.length + u.messageQueue.length := by
  obtain ⟨-, rest, ⟨hposted, rfl⟩ | ⟨msg, hposted, rfl⟩⟩ := System.step_runPosted_cases hstep
  · rw [hposted, List.length_cons]
    dsimp only
    omega
  · rw [hposted, List.length_cons]
    simp only [List.length_append, List.length_singleton]
    omega

/-- A write that succeeds takes its message from the queue. -/
lemma load_of_writeDone {u v : System SpheroClientCommand} {i : ℕ} (h : System.OutboundInv u)
    (hstep : u.step (.writeDone i false) = .ok v) :
    2 * v.posted.length + v.messageQueue.length + 1 ≤
      2 * u.posted.length + u.messageQueue.length := by
  obtain ⟨-, msg, hmsg, ⟨-, rfl⟩ | ⟨hec, -⟩⟩ := System.step_writeDone_cases hstep
  · obtain ⟨queue, hq, -⟩ := h.front_of_write hmsg
    simp only [hq, List.tail_cons, List.length_cons]
    omega
  · cases hec

/-- **A call adds at most six to the backlog, and everything else takes one from it.** -/
theorem SessionInv.backlog_step (h : SessionInv s) (hstep : s.step e = .ok t) :
    (e.isCall = true → t.backlog ≤ s.backlog + 6) ∧
      (e.isCall = false → t.backlog + 1 ≤ s.backlog) := by
  have harrived := h.length_arrived_le
  have hanswered := h.answered
  have htransmitted := h.length_transmitted.2
  cases e with
  | sendCommand cmd =>
    obtain ⟨hready, u, hu, rfl⟩ := step_sendCommand_ok_iff.mp hstep
    rw [HandlerSystem.step_sendCommand_of_connected h.up.1, Except.ok.injEq] at hu
    subst hu
    refine ⟨fun _ => ?_, nofun⟩
    simp only [backlog, hready, Phase.weight, List.length_append, List.length_singleton]
    omega
  | runPosted =>
    obtain ⟨u, hu, rfl⟩ := step_runPosted_ok_iff.mp hstep
    have hload := load_of_runPosted hu
    have hsent := System.sent_step rfl hu
    have hsame := System.sameInbound_step hu rfl
    refine ⟨nofun, fun _ => ?_⟩
    simp only [backlog, hsent, hsame.received]
    omega
  | writeDone i =>
    obtain ⟨u, hu, rfl⟩ := step_writeDone_ok_iff.mp hstep
    have hload := load_of_writeDone h.outbound hu
    have hsent := System.sent_step rfl hu
    have hsame := System.sameInbound_step hu rfl
    refine ⟨nofun, fun _ => ?_⟩
    simp only [backlog, hsent, hsame.received]
    omega
  | answer k p =>
    obtain ⟨hcan, rfl⟩ := step_answer_ok_iff.mp hstep
    obtain ⟨hk, hlt, -⟩ := h.eq_length_of_canAnswer hcan
    refine ⟨nofun, fun _ => ?_⟩
    simp only [backlog, List.length_append, List.length_singleton]
    omega
  | deliver =>
    obtain ⟨k, p, u, hnext, hu, rfl⟩ := step_deliver_ok_iff.mp hstep
    have hp := (h.echoed _ (List.mem_of_getElem? hnext)).1
    have hcan := (System.step_readDone_ok_iff.mp hu).1
    obtain ⟨hlt, -⟩ := List.getElem?_eq_some_iff.mp hnext
    rw [h.inbound.step_readDone_of_mem h.up.2 hcan hp.mem_start, Except.ok.injEq] at hu
    subst hu
    refine ⟨nofun, fun _ => ?_⟩
    simp only [backlog, List.length_append, List.length_singleton]
    omega
  | readEnter =>
    obtain ⟨hwaiting, u, hu, rfl⟩ := step_readEnter_ok_iff.mp hstep
    obtain ⟨-, rfl⟩ := System.step_readEnter_ok_iff.mp hu
    refine ⟨nofun, fun _ => ?_⟩
    simp only [backlog, hwaiting, Phase.weight]
    omega
  | readTake mem =>
    obtain ⟨hreading, u, hu, rfl⟩ := step_readTake_ok_iff.mp hstep
    obtain ⟨entry, -, -, rfl⟩ := System.step_readTake_ok_iff.mp hu
    refine ⟨nofun, fun _ => ?_⟩
    simp only [backlog, hreading, Phase.weight]
    omega

/-- In a run there are at most six other events for every call. -/
lemma countP_le_of_run {es : List SessionEvent} (hrun : session.run es = .ok s) :
    es.countP (fun e => !e.isCall) ≤ 6 * es.countP SessionEvent.isCall := by
  have hcount := session.runFrom_countP_le (I := SessionInv) (f := backlog)
    (p := fun e => !e.isCall) (q := SessionEvent.isCall) (c := 6)
    (fun u e v hu _ hstep => ⟨hu.step hstep, ?_⟩) hrun sessionInv_new
  · have hempty : session.init.backlog = 0 := rfl
    omega
  · obtain ⟨hcall, hother⟩ := hu.backlog_step hstep
    cases he : e.isCall with
    | true => simpa using hcall he
    | false => simpa using hother he

/-! ## Which response belongs to which command -/

/-- The place of an answer is the number of its frame, -/
lemma SessionInv.number_eq (h : SessionInv s) {k : ℕ} {a : ℕ × SpheroPacket}
    (ha : s.answers[k]? = some a) : a.1 = k := by
  obtain ⟨hlt, -⟩ := List.getElem?_eq_some_iff.mp ha
  have hnumber := congrArg (fun l => l[k]?) h.numbered
  simpa only [List.getElem?_map, ha, Option.map_some, List.getElem?_range hlt,
    Option.some.injEq] using hnumber

/-- so that there is only one answer for a frame. -/
lemma SessionInv.mem_answers_iff (h : SessionInv s) {k : ℕ} {p : SpheroPacket} :
    (k, p) ∈ s.answers ↔ s.answers[k]? = some (k, p) := by
  constructor
  · intro hmem
    obtain ⟨j, hj⟩ := List.mem_iff_getElem?.mp hmem
    have hnumber : k = j := h.number_eq hj
    exact hnumber ▸ hj
  · exact List.mem_of_getElem?

/-- The `k`-th response reports the answer to the `k`-th command frame. -/
lemma SessionInv.exists_answer_of_response (h : SessionInv s) {k : ℕ}
    {response : Option SpheroServerResponse} (hresponse : s.responses[k]? = some response) :
    ∃ r, response = some r ∧ s.answers[k]? = some (k, r.reported) := by
  have hk := congrArg (fun l => l[k]?) h.reported
  simp only [List.getElem?_map, hresponse, Option.map_some] at hk
  obtain ⟨p, hp, hreported⟩ := Option.map_eq_some_iff.mp hk.symm
  obtain ⟨r, rfl, rfl⟩ := Option.map_eq_some_iff.mp hreported.symm
  -- what has been taken has arrived, and what has arrived has been sent, in the same order
  obtain ⟨rest, hrest⟩ := (List.take_prefix s.taken.length s.received).trans h.arrived
  obtain ⟨hlt, -⟩ := List.getElem?_eq_some_iff.mp hp
  have hpacket : (s.answers.map Prod.snd)[k]? = some r.reported := by
    rw [← hrest, List.getElem?_append_left hlt, hp]
  rw [List.getElem?_map] at hpacket
  obtain ⟨a, ha, hsnd⟩ := Option.map_eq_some_iff.mp hpacket
  refine ⟨r, rfl, ?_⟩
  rw [ha, ← h.number_eq ha, ← hsnd]

/-- A frame that has been answered is the frame of its command. -/
lemma SessionInv.exists_command_of_answer (h : SessionInv s) {k : ℕ} {a : ℕ × SpheroPacket}
    (ha : s.answers[k]? = some a) :
    ∃ cmd, s.issued[k]? = some cmd ∧
      s.transmitted[k]?.map (·.sendBuffer) = some (cmd.frame (UInt8.ofNat (k % 256))) := by
  obtain ⟨hlt, -⟩ := List.getElem?_eq_some_iff.mp ha
  have hframe := List.getElem?_eq_getElem (hlt.trans_le h.answered)
  obtain ⟨cmd, hcmd, hbuffer⟩ := h.exists_command hframe
  refine ⟨cmd, hcmd, ?_⟩
  rw [hframe, Option.map_some, hbuffer]

/-! ## Whole runs -/

/-- **Responses and commands correspond.**  Take any run of a session, with any number of rounds.

The `k`-th response, counted from 0, reports the one packet with which the device has answered the
frame of the `k`-th command: status, length and data are those that were sent, and the sequence
number is `k` modulo 256.  A response is what `readResponse` returns in the state in which the
caller takes it.  `readQueue_` has at most one entry and `messageQueue_` at most two messages, and
nothing that can happen is undefined.

Every round ends: a run has at most six other events for every call, and when nothing but a call
can happen any more, the caller is ready for it and has a response to every command. -/
theorem responses_correspond {es : List SessionEvent} (hrun : session.run es = .ok s) :
    (∀ k response, s.responses[k]? = some response → ∃ r cmd, response = some r ∧
      s.issued[k]? = some cmd ∧
      s.transmitted[k]?.map (·.sendBuffer) = some (cmd.frame (UInt8.ofNat (k % 256))) ∧
      (∀ p, (k, p) ∈ s.answers ↔ p = r.reported) ∧
      r.sequenceNum = UInt8.ofNat (k % 256) ∧
      r.reported[2]? = some r.messageResponse ∧ r.reported[4]? = some r.dataLength ∧
      r.reported.drop 5 = r.msgData.toList.take r.dataLength.toNat) ∧
    (∀ mem t, s.step (.readTake mem) = .ok t → ∃ r,
      t.responses = s.responses ++ [some r] ∧
        (s.handler.readResponse mem).1 = .returned (some r)) ∧
    s.readQueue.length ≤ 1 ∧ s.messageQueue.length ≤ 2 ∧
    (∀ e fault, s.step e ≠ .error (.fault fault)) ∧
    es.countP (fun e => !e.isCall) ≤ 6 * es.countP SessionEvent.isCall ∧
    ((∀ e t, e.isCall = false → s.step e ≠ .ok t) →
      s.phase = .ready ∧ s.responses.length = s.issued.length) := by
  have hinv := sessionInv_of_run hrun
  refine ⟨?_, ?_, hinv.queues_le.1, hinv.queues_le.2, hinv.step_ne_fault, countP_le_of_run hrun, ?_⟩
  · intro k response hresponse
    obtain ⟨r, rfl, ha⟩ := hinv.exists_answer_of_response hresponse
    obtain ⟨cmd, hcmd, hframe⟩ := hinv.exists_command_of_answer ha
    obtain ⟨-, hmrsp, hseq, hdlen, hdata⟩ := r.getElem?_reported
    have hecho := (hinv.echoed _ (List.mem_of_getElem? ha)).2
    refine ⟨r, cmd, rfl, hcmd, hframe, ?_, ?_, hmrsp, hdlen, hdata⟩
    · intro p
      rw [hinv.mem_answers_iff, ha, Option.some.injEq, Prod.mk.injEq]
      exact ⟨fun hp => hp.2.symm, fun hp => ⟨rfl, hp.symm⟩⟩
    · exact Option.some.inj (hseq.symm.trans hecho)
  · intro mem t hstep
    obtain ⟨-, u, hu, rfl⟩ := step_readTake_ok_iff.mp hstep
    obtain ⟨r, hresponse, -, hreturned⟩ := hinv.exists_response mem hu
    exact ⟨r, by rw [hresponse], hreturned⟩
  · intro hquiet
    have hready : s.phase = .ready := by
      by_contra hphase
      obtain ⟨e, t, he, hstep⟩ := hinv.exists_step hphase
      exact hquiet e t he hstep
    refine ⟨hready, ?_⟩
    have hround := hinv.round
    have harrived := hinv.length_arrived
    have hcount := congrArg List.length hinv.reported
    have hissued := congrArg List.length hinv.numbering.sent
    rw [hready, if_pos rfl] at hround
    rw [List.length_map, List.length_map, List.length_take] at hcount
    rw [List.length_mapIdx] at hissued
    omega

/-- A response that is read before the handler of the write of its command has run, so that the next
command is queued behind it. -/
theorem responses_correspond_late_handler :
    ∃ s, session.run [.sendCommand ⟨0x00, 0x01⟩, .runPosted,
        .answer 0 [0xFF, 0xFF, 0x00, 0x00, 0x00], .deliver, .readEnter, .readTake .new,
        .sendCommand ⟨0x00, 0x02⟩, .runPosted] = .ok s ∧
      s.messageQueue.length = 2 ∧ s.readQueue.length ≤ 1 ∧
      ∃ r, s.responses[0]? = some (some r) ∧ r.sequenceNum = 0x00 ∧
        ∀ p, (0, p) ∈ s.answers ↔ p = r.reported := by
  obtain ⟨s, hrun, hmessages, hcount⟩ : ∃ s, session.run [.sendCommand ⟨0x00, 0x01⟩, .runPosted,
      .answer 0 [0xFF, 0xFF, 0x00, 0x00, 0x00], .deliver, .readEnter, .readTake .new,
      .sendCommand ⟨0x00, 0x02⟩, .runPosted] = .ok s ∧ s.messageQueue.length = 2 ∧
      s.responses.length = 1 := by
    -- the run fills buffers of 1024 bytes
    set_option maxRecDepth 8000 in exact ⟨_, rfl, rfl, rfl⟩
  obtain ⟨hresponses, -, hqueue, -⟩ := responses_correspond hrun
  have hfirst := List.getElem?_eq_getElem (show 0 < s.responses.length by omega)
  obtain ⟨r, cmd, hr, -, -, hanswer, hseq, -⟩ := hresponses 0 _ hfirst
  exact ⟨s, hrun, hmessages, hqueue, r, hr ▸ hfirst, hseq, hanswer⟩

end Session

end Btconn
