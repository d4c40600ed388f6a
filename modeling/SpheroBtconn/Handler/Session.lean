import SpheroBtconn.Connection.Inbound
import SpheroBtconn.Handler.SendCommand

/-!
# A caller and a device in lock-step

The usage that the Readme shows: one caller alternates `sendCommand` and `readResponse`, and the
device answers every command frame with one response packet that echoes the sequence byte of the
frame.  This module puts a handler, such a caller and such a device together.

What is assumed of the surroundings is in the guards of `step`: no read or write fails and nobody
sets `shutdown_`; the device answers a frame only once, after its write has been started, and in
any order; the answers arrive in the order in which they were sent, each as one chunk.  Everything
else is left open: when posted handlers run, when a write completes (also after the answer to its
frame has been read), when an answer arrives, and when the caller leaves its waiting loop.

`SessionInv` ties the rounds of the caller, the queues, the outstanding write and the answers
together.  Its consequences for responses are in `Handler/Correlation.lean`.
-/

namespace Btconn

/-- What the caller is about to do. -/
inductive Phase where
  /-- It calls `sendCommand`. -/
  | ready
  /-- It has called `readResponse` and waits for an entry. -/
  | waiting
  /-- It has left the waiting loop and takes an entry. -/
  | reading
  deriving DecidableEq

/-- A handler, its caller, and the device. -/
structure Session extends HandlerSystem where
  /-- What the caller is about to do. -/
  phase : Phase
  /-- What the device has sent: the number of the command frame it answers, and the packet. -/
  answers : List (ℕ × SpheroPacket)
  /-- What the calls of `readResponse` have returned; `none` stands for an access outside the
  entry. -/
  responses : List (Option SpheroServerResponse)
  deriving DecidableEq

/-- What can happen next. -/
inductive SessionEvent where
  /-- The caller calls `sendCommand(cmd)`, and `readResponse()` right after it. -/
  | sendCommand (cmd : SpheroCommand)
  /-- The I/O thread runs the oldest posted handler. -/
  | runPosted
  /-- An outstanding write succeeds and its handler runs. -/
  | writeDone (i : ℕ)
  /-- The device answers the `k`-th command frame with `p`. -/
  | answer (k : ℕ) (p : SpheroPacket)
  /-- The next answer arrives and the handler of the read runs. -/
  | deliver
  /-- The caller leaves the waiting loop of `read`. -/
  | readEnter
  /-- The caller takes an entry and parses it; `mem` is what the memory of the response holds. -/
  | readTake (mem : SpheroServerResponse)
  deriving DecidableEq

/-- The event begins a round. -/
def SessionEvent.isCall : SessionEvent → Bool
  | .sendCommand _ => true
  | _ => false

/-- The state of a handler whose constructor has returned. -/
def HandlerSystem.constructed : HandlerSystem :=
  { HandlerSystem.new with connected := true, ioThread := .running, reads := 1 }

namespace Session

/-- The state before the first round. -/
def new : Session where
  toHandlerSystem := .constructed
  phase := .ready
  answers := []
  responses := []

/-- The command frames that the device may have received, one for each write that has been
started. -/
def transmitted (s : Session) : List SpheroClientCommand := s.written ++ s.writes

/-- The device can answer the `k`-th command frame with `p`: it has not answered it yet, and `p` is
a response packet with the sequence byte of the frame. -/
def CanAnswer (s : Session) (k : ℕ) (p : SpheroPacket) : Prop :=
  k ∉ s.answers.map Prod.fst ∧ IsResponsePacket p ∧
    ∃ msg ∈ s.transmitted[k]?, p[3]? = msg.sendBuffer[4]?

instance (s : Session) (k : ℕ) (p : SpheroPacket) : Decidable (s.CanAnswer k p) :=
  inferInstanceAs (Decidable (_ ∧ _))

/-- Something that happens to the handler. -/
def handle (s : Session) (e : HandlerEvent) (f : HandlerSystem → Session) :
    Except Stuck Session :=
  (s.toHandlerSystem.step e).map f

/-- One event. -/
def step (s : Session) : SessionEvent → Except Stuck Session
  | .sendCommand cmd =>
    if s.phase = .ready then
      s.handle (.sendCommand cmd) fun t => { s with toHandlerSystem := t, phase := .waiting }
    else .error .disabled
  | .runPosted => s.handle (.conn .runPosted) fun t => { s with toHandlerSystem := t }
  | .writeDone i => s.handle (.conn (.writeDone i false)) fun t => { s with toHandlerSystem := t }
  | .answer k p =>
    if s.CanAnswer k p then .ok { s with answers := s.answers ++ [(k, p)] }
    else .error .disabled
  | .deliver =>
    match s.answers[s.received.length]? with
    | none => .error .disabled
    | some (_, p) => s.handle (.conn (.readDone p)) fun t => { s with toHandlerSystem := t }
  | .readEnter =>
    if s.phase = .waiting then
      s.handle (.conn (.readEnter 0)) fun t => { s with toHandlerSystem := t, phase := .reading }
    else .error .disabled
  | .readTake mem =>
    if s.phase = .reading then
      s.handle (.conn (.readTake 0)) fun t => { s with
        toHandlerSystem := t
        phase := .ready
        responses := s.responses ++ (t.taken.drop s.taken.length).map fun entry =>
          (SpheroServerResponse.ofArray mem entry).parseFromInternalData }
    else .error .disabled

end Session

/-- Runs of a session from the first round on. -/
def session : EventSystem Session SessionEvent Stuck where
  init := Session.new
  step := Session.step

namespace Session

variable {s t : Session}

/-- However often connecting fails, a session begins when it has succeeded. -/
lemma run_connects (n : ℕ) :
    handlerSystem.run (List.replicate n (.conn (.connect false)) ++ [.conn (.connect true)]) =
      .ok .constructed := by
  have hfail : ∀ n, handlerSystem.run (List.replicate n (.conn (.connect false))) = .ok .new := by
    intro n
    induction n with
    | zero => rfl
    | succ n ih =>
      rw [List.replicate_succ', handlerSystem.run_concat_ok_iff]
      exact ⟨_, ih, rfl⟩
  exact handlerSystem.run_concat_ok_iff.mpr ⟨_, hfail n, rfl⟩

/-! ## What each event does -/

lemma handle_conn_ok_iff {e : Event SpheroClientCommand} (he : e.isSend = false)
    {f : HandlerSystem → Session} :
    s.handle (.conn e) f = .ok t ↔
      ∃ u, s.toSystem.step e = .ok u ∧ f { s.toHandlerSystem with toSystem := u } = t := by
  unfold handle
  rw [EventSystem.map_eq_ok_iff]
  constructor
  · rintro ⟨v, hv, hf⟩
    obtain ⟨-, u, hu, rfl⟩ := HandlerSystem.step_conn_ok_iff.mp hv
    exact ⟨u, hu, hf⟩
  · rintro ⟨u, hu, hf⟩
    exact ⟨_, HandlerSystem.step_conn_ok_iff.mpr ⟨he, u, hu, rfl⟩, hf⟩

lemma step_sendCommand_ok_iff {cmd : SpheroCommand} :
    s.step (.sendCommand cmd) = .ok t ↔ s.phase = .ready ∧
      ∃ u, s.toHandlerSystem.step (.sendCommand cmd) = .ok u ∧
        t = { s with toHandlerSystem := u, phase := .waiting } := by
  unfold step
  rw [EventSystem.guard_eq_ok_iff, handle, EventSystem.map_eq_ok_iff]
  simp only [eq_comm]

lemma step_runPosted_ok_iff :
    s.step .runPosted = .ok t ↔
      ∃ u, s.toSystem.step .runPosted = .ok u ∧ t = { s with toSystem := u } := by
  unfold step
  rw [handle_conn_ok_iff rfl]
  simp only [eq_comm]

lemma step_writeDone_ok_iff {i : ℕ} :
    s.step (.writeDone i) = .ok t ↔
      ∃ u, s.toSystem.step (.writeDone i false) = .ok u ∧ t = { s with toSystem := u } := by
  unfold step
  rw [handle_conn_ok_iff rfl]
  simp only [eq_comm]

lemma step_answer_ok_iff {k : ℕ} {p : SpheroPacket} :
    s.step (.answer k p) = .ok t ↔
      s.CanAnswer k p ∧ t = { s with answers := s.answers ++ [(k, p)] } :=
  EventSystem.ite_eq_ok_iff

lemma step_deliver_ok_iff :
    s.step .deliver = .ok t ↔ ∃ k p u, s.answers[s.received.length]? = some (k, p) ∧
      s.toSystem.step (.readDone p) = .ok u ∧ t = { s with toSystem := u } := by
  simp only [step]
  cases s.answers[s.received.length]? with
  | none => simp
  | some a =>
    rw [handle_conn_ok_iff rfl]
    simp [Prod.ext_iff, eq_comm]

lemma step_readEnter_ok_iff :
    s.step .readEnter = .ok t ↔ s.phase = .waiting ∧
      ∃ u, s.toSystem.step (.readEnter 0) = .ok u ∧
        t = { s with toSystem := u, phase := .reading } := by
  unfold step
  rw [EventSystem.guard_eq_ok_iff, handle_conn_ok_iff rfl]
  simp only [eq_comm]

lemma step_readTake_ok_iff {mem : SpheroServerResponse} :
    s.step (.readTake mem) = .ok t ↔ s.phase = .reading ∧
      ∃ u, s.toSystem.step (.readTake 0) = .ok u ∧
        t = { s with
          toSystem := u
          phase := .ready
          responses := s.responses ++ (u.taken.drop s.taken.length).map fun entry =>
            (SpheroServerResponse.ofArray mem entry).parseFromInternalData } := by
  unfold step
  rw [EventSystem.guard_eq_ok_iff, handle_conn_ok_iff rfl]
  simp only [eq_comm]

/-! ## The sending side -/

/-- A posted handler completes no write. -/
lemma length_transmitted_of_runPosted {u v : System SpheroClientCommand}
    (hstep : u.step .runPosted = .ok v) :
    (u.written ++ u.writes).length ≤ (v.written ++ v.writes).length := by
  obtain ⟨-, rest, ⟨-, rfl⟩ | ⟨msg, -, rfl⟩⟩ := System.step_runPosted_cases hstep
  · exact le_rfl
  · by_cases hq : u.messageQueue = []
    · simp [hq]
    · simp [hq]

/-- A write that succeeds stays transmitted. -/
lemma length_transmitted_of_writeDone {u v : System SpheroClientCommand} {i : ℕ}
    (hstep : u.step (.writeDone i false) = .ok v) :
    (u.written ++ u.writes).length ≤ (v.written ++ v.writes).length := by
  obtain ⟨-, msg, hmsg, ⟨-, rfl⟩ | ⟨hec, -⟩⟩ := System.step_writeDone_cases hstep
  · obtain ⟨hi, -⟩ := List.getElem?_eq_some_iff.mp hmsg
    have herase := List.length_eraseIdx_of_lt hi
    simp only [List.length_append, List.length_singleton]
    omega
  · cases hec

/-! ## The invariant -/

/-- The invariant of a session. -/
structure SessionInv (s : Session) : Prop where
  /-- The handler and its connection are in a state that a run of them alone reaches. -/
  simulated : ∃ fs, handlerSystem.run fs = .ok s.toHandlerSystem
  /-- The connection is up. -/
  up : s.connected = true ∧ s.shuttingDown = false
  /-- The device has sent response packets that echo the sequence bytes. -/
  echoed : ∀ a ∈ s.answers, IsResponsePacket a.2 ∧ a.2[3]? = some (UInt8.ofNat (a.1 % 256))
  /-- The answers are in the order of the frames. -/
  numbered : s.answers.map Prod.fst = List.range s.answers.length
  /-- Only frames that have been transmitted are answered. -/
  answered : s.answers.length ≤ s.transmitted.length
  /-- What has arrived are the first answers. -/
  arrived : s.received <+: s.answers.map Prod.snd
  /-- What the caller has taken and what is queued are the entries of what has arrived. -/
  queued : s.taken ++ s.readQueue = s.received.map entryOf
  /-- The responses report the packets that have been taken. -/
  reported : s.responses.map (Option.map SpheroServerResponse.reported) =
    (s.received.take s.taken.length).map some
  /-- The caller is one command ahead of the responses, except between two rounds. -/
  round : s.sent.length = s.taken.length + if s.phase = .ready then 0 else 1
  /-- The caller is the only reader. -/
  reader : s.readers = if s.phase = .reading then [0] else []
  /-- When it has left the loop there is something to take. -/
  available : s.phase = .reading → s.readQueue ≠ []

lemma sessionInv_new : SessionInv new where
  simulated := ⟨_, run_connects 0⟩
  up := ⟨rfl, rfl⟩
  echoed := nofun
  numbered := rfl
  answered := le_rfl
  arrived := List.prefix_rfl
  queued := rfl
  reported := rfl
  round := rfl
  reader := rfl
  available := nofun

namespace SessionInv

lemma outbound (h : SessionInv s) : System.OutboundInv s.toSystem := by
  obtain ⟨fs, hfs⟩ := h.simulated
  obtain ⟨gs, hgs⟩ := HandlerSystem.exists_run_of_handlerSystem hfs
  exact System.outboundInv_of_run hgs

lemma inbound (h : SessionInv s) : System.InboundInv s.toSystem := by
  obtain ⟨fs, hfs⟩ := h.simulated
  obtain ⟨gs, hgs⟩ := HandlerSystem.exists_run_of_handlerSystem hfs
  exact System.inboundInv_of_run hgs

lemma numbering (h : SessionInv s) : HandlerSystem.NumberingInv s.toHandlerSystem := by
  obtain ⟨fs, hfs⟩ := h.simulated
  exact HandlerSystem.numberingInv_of_run hfs

/-- What the handler does next is part of a run of it alone. -/
lemma simulated_step (h : SessionInv s) {e : HandlerEvent} {u : HandlerSystem}
    (hstep : s.toHandlerSystem.step e = .ok u) : ∃ fs, handlerSystem.run fs = .ok u := by
  obtain ⟨fs, hfs⟩ := h.simulated
  exact ⟨fs ++ [e], handlerSystem.run_concat_ok_iff.mpr ⟨_, hfs, hstep⟩⟩

lemma simulated_conn (h : SessionInv s) {e : Event SpheroClientCommand}
    {u : System SpheroClientCommand} (he : e.isSend = false) (hstep : s.toSystem.step e = .ok u) :
    ∃ fs, handlerSystem.run fs = .ok { s.toHandlerSystem with toSystem := u } :=
  h.simulated_step (HandlerSystem.step_conn_ok_iff.mpr ⟨he, u, hstep, rfl⟩)

/-! ## Counting -/

/-- The transmitted frames are the first messages. -/
lemma transmitted_isPrefix (h : SessionInv s) : s.transmitted <+: s.sent :=
  h.outbound.transmitted_isPrefix

/-- Every entry in the read queue has arrived and has not been taken. -/
lemma length_arrived (h : SessionInv s) :
    s.received.length = s.taken.length + s.readQueue.length := by
  have hlength := congrArg List.length h.queued
  rw [List.length_append, List.length_map] at hlength
  exact hlength.symm

/-- What has arrived has been sent by the device. -/
lemma length_arrived_le (h : SessionInv s) : s.received.length ≤ s.answers.length := by
  have hle := h.arrived.length_le
  rwa [List.length_map] at hle

/-- The caller is at most one command ahead of what it has taken. -/
lemma length_sent_le (h : SessionInv s) : s.sent.length ≤ s.taken.length + 1 := by
  have hround := h.round
  split_ifs at hround <;> omega

/-- The number of transmitted frames. -/
lemma length_transmitted (h : SessionInv s) :
    s.transmitted.length = s.written.length + s.writes.length ∧
      s.transmitted.length ≤ s.sent.length :=
  ⟨List.length_append, h.transmitted_isPrefix.length_le⟩

/-- Every message is written, queued, or posted. -/
lemma length_sent (h : SessionInv s) :
    s.sent.length = s.written.length + s.messageQueue.length + s.pending.length := by
  rw [← h.outbound.order, List.length_append, List.length_append]

/-- **The read queue never holds more than one entry, and `messageQueue_` never more than two
messages.** -/
lemma queues_le (h : SessionInv s) : s.readQueue.length ≤ 1 ∧ s.messageQueue.length ≤ 2 := by
  have harrived := h.length_arrived
  have hsent := h.length_arrived_le
  have hanswered := h.answered
  have htransmitted := h.length_transmitted
  have hround := h.length_sent_le
  have hwrites := h.outbound.length_writes_le
  have hmessages := h.length_sent
  omega

/-! ## Every event keeps the invariant -/

/-- A call of `sendCommand` posts one more message. -/
lemma sendCommand (h : SessionInv s) {cmd : SpheroCommand} {u : HandlerSystem}
    (hready : s.phase = .ready) (hstep : s.toHandlerSystem.step (.sendCommand cmd) = .ok u) :
    SessionInv { s with toHandlerSystem := u, phase := .waiting } := by
  have hsim := h.simulated_step hstep
  have hround := h.round
  have hreader := h.reader
  rw [if_pos hready] at hround
  rw [hready] at hreader
  rw [HandlerSystem.step_sendCommand_of_connected h.up.1, Except.ok.injEq] at hstep
  subst hstep
  exact {
    simulated := hsim
    up := h.up
    echoed := h.echoed
    numbered := h.numbered
    answered := h.answered
    arrived := h.arrived
    queued := h.queued
    reported := h.reported
    round := by simpa using hround
    reader := hreader
    available := nofun }

/-- The I/O thread works on the sending side. -/
lemma outbound_step (h : SessionInv s) {e : Event SpheroClientCommand}
    {u : System SpheroClientCommand} (hstep : s.toSystem.step e = .ok u)
    (hout : e.isOutbound = true) (hsend : e.isSend = false) (hstop : e.stops = false)
    (hmore : (s.written ++ s.writes).length ≤ (u.written ++ u.writes).length) :
    SessionInv { s with toSystem := u } := by
  have hsame := System.sameInbound_step hstep hout
  have hsent := System.sent_step hsend hstep
  have hdown := System.shuttingDown_step hstep
  exact {
    simulated := h.simulated_conn hsend hstep
    up := ⟨hsame.connected.trans h.up.1, by rw [hdown, h.up.2, hstop]; rfl⟩
    echoed := h.echoed
    numbered := h.numbered
    answered := h.answered.trans hmore
    arrived := hsame.received ▸ h.arrived
    queued := by rw [hsame.taken, hsame.readQueue, hsame.received]; exact h.queued
    reported := by rw [hsame.received, hsame.taken]; exact h.reported
    round := by rw [hsent, hsame.taken]; exact h.round
    reader := hsame.readers.trans h.reader
    available := by rw [hsame.readQueue]; exact h.available }

/-- A transmitted frame is the frame of its command. -/
lemma exists_command (h : SessionInv s) {k : ℕ} {msg : SpheroClientCommand}
    (hmsg : s.transmitted[k]? = some msg) :
    ∃ cmd, s.issued[k]? = some cmd ∧ msg.sendBuffer = cmd.frame (UInt8.ofNat (k % 256)) := by
  obtain ⟨rest, hrest⟩ := h.transmitted_isPrefix
  obtain ⟨hk, -⟩ := List.getElem?_eq_some_iff.mp hmsg
  have hsent : s.sent[k]? = some msg := by
    rw [← hrest, List.getElem?_append_left hk, hmsg]
  obtain ⟨cmd, hcmd, hbuffer, hpacket⟩ := h.numbering.exists_frame hsent
  exact ⟨cmd, hcmd, hbuffer.trans hpacket⟩

/-- The number of the next answer: there is only one frame that has not been answered. -/
lemma eq_length_of_canAnswer (h : SessionInv s) {k : ℕ} {p : SpheroPacket}
    (hcan : s.CanAnswer k p) : k = s.answers.length ∧ k < s.transmitted.length ∧
      IsResponsePacket p ∧ p[3]? = some (UInt8.ofNat (k % 256)) := by
  obtain ⟨hnew, hp, msg, hmsg, hseq⟩ := hcan
  have htransmitted : s.transmitted[k]? = some msg := hmsg
  obtain ⟨hk, -⟩ := List.getElem?_eq_some_iff.mp htransmitted
  rw [h.numbered, List.mem_range] at hnew
  have hround := h.length_sent_le
  have harrived := h.length_arrived
  have hle := h.length_arrived_le
  have hprefix := h.length_transmitted.2
  refine ⟨by omega, hk, hp, ?_⟩
  obtain ⟨cmd, -, hbuffer⟩ := h.exists_command htransmitted
  rw [hseq, hbuffer, SpheroCommand.getElem?_frame]

/-- The device answers. -/
lemma answer (h : SessionInv s) {k : ℕ} {p : SpheroPacket} (hcan : s.CanAnswer k p) :
    SessionInv { s with answers := s.answers ++ [(k, p)] } := by
  obtain ⟨rfl, hlt, hp, hseq⟩ := h.eq_length_of_canAnswer hcan
  refine { h with
    echoed := ?_
    numbered := ?_
    answered := ?_
    arrived := ?_ }
  · intro a ha
    rcases List.mem_append.mp ha with hold | hnew
    · exact h.echoed a hold
    · rw [List.mem_singleton] at hnew
      exact hnew ▸ ⟨hp, hseq⟩
  · rw [List.map_append, h.numbered, List.length_append, List.length_singleton, List.range_succ]
    rfl
  · rw [List.length_append, List.length_singleton]
    exact hlt
  · rw [List.map_append]
    exact h.arrived.trans (List.prefix_append _ _)

/-- The next answer arrives: its entry is put into the queue. -/
lemma deliver (h : SessionInv s) {k : ℕ} {p : SpheroPacket} {u : System SpheroClientCommand}
    (hnext : s.answers[s.received.length]? = some (k, p))
    (hstep : s.toSystem.step (.readDone p) = .ok u) : SessionInv { s with toSystem := u } := by
  have hsim := h.simulated_conn rfl hstep
  have hp := (h.echoed _ (List.mem_of_getElem? hnext)).1
  have hcan := (System.step_readDone_ok_iff.mp hstep).1
  rw [h.inbound.step_readDone_of_mem h.up.2 hcan hp.mem_start, Except.ok.injEq] at hstep
  subst hstep
  have htaken : s.taken.length ≤ s.received.length := by
    have harrived := h.length_arrived
    omega
  refine { h with
    simulated := hsim
    arrived := ?_
    queued := ?_
    reported := ?_
    available := ?_ }
  · have hsnd : (s.answers.map Prod.snd)[s.received.length]? = some p := by
      rw [List.getElem?_map, hnext]
      rfl
    have hnow := List.prefix_iff_eq_take.mp h.arrived
    have hone : s.received ++ [p] = (s.answers.map Prod.snd).take (s.received.length + 1) := by
      rw [List.take_add_one, hsnd, ← hnow]
      rfl
    exact hone ▸ List.take_prefix _ _
  · rw [List.map_append, ← h.queued, List.append_assoc]
    rfl
  · rw [List.take_append_of_le_length htaken]
    exact h.reported
  · intro _
    simp

/-- The caller leaves the waiting loop. -/
lemma readEnter (h : SessionInv s) {u : System SpheroClientCommand} (hwaiting : s.phase = .waiting)
    (hstep : s.toSystem.step (.readEnter 0) = .ok u) :
    SessionInv { s with toSystem := u, phase := .reading } := by
  have hsim := h.simulated_conn rfl hstep
  have hround := h.round
  have hreader := h.reader
  rw [hwaiting] at hround hreader
  obtain ⟨⟨-, hqueue, -⟩, rfl⟩ := System.step_readEnter_ok_iff.mp hstep
  exact {
    simulated := hsim
    up := h.up
    echoed := h.echoed
    numbered := h.numbered
    answered := h.answered
    arrived := h.arrived
    queued := h.queued
    reported := h.reported
    round := hround
    reader := congrArg (0 :: ·) hreader
    available := fun _ => hqueue }

/-- A queued entry is the only one, and it is the entry of the answer that arrived last. -/
lemma exists_arrived_of_getLast? (h : SessionInv s) {entry : RawData}
    (hlast : s.readQueue.getLast? = some entry) :
    s.readQueue = [entry] ∧ ∃ p, IsResponsePacket p ∧ entry = entryOf p ∧
      s.received[s.taken.length]? = some p ∧ s.received.length = s.taken.length + 1 := by
  have hqueue : s.readQueue = [entry] := by
    have hone := h.queues_le.1
    match hq : s.readQueue, hone, hlast with
    | [x], _, hx => exact congrArg (fun x => [x]) (Option.some.inj hx)
  have hlength := h.length_arrived
  rw [hqueue, List.length_singleton] at hlength
  have hlt : s.taken.length < s.received.length := by omega
  have hget := List.getElem?_eq_getElem hlt
  refine ⟨hqueue, s.received[s.taken.length], ?_, ?_, hget, hlength⟩
  · have hmem : s.received[s.taken.length] ∈ s.answers.map Prod.snd :=
      h.arrived.subset (List.getElem_mem hlt)
    obtain ⟨a, ha, hpacket⟩ := List.mem_map.mp hmem
    exact hpacket ▸ (h.echoed a ha).1
  · have hentry := congrArg (fun l => l[s.taken.length]?) h.queued
    rw [hqueue] at hentry
    simpa [hget] using hentry

/-- What the caller makes of the entry it takes is what `readResponse` returns, and it reports the
packet that has arrived last. -/
lemma exists_response (h : SessionInv s) (mem : SpheroServerResponse)
    {u : System SpheroClientCommand} (hstep : s.toSystem.step (.readTake 0) = .ok u) :
    ∃ r, ((u.taken.drop s.taken.length).map fun entry =>
        (SpheroServerResponse.ofArray mem entry).parseFromInternalData) = [some r] ∧
      s.received[s.taken.length]? = some r.reported ∧
      (s.handler.readResponse mem).1 = .returned (some r) := by
  obtain ⟨entry, -, hlast, rfl⟩ := System.step_readTake_ok_iff.mp hstep
  obtain ⟨-, p, hp, rfl, hget, -⟩ := h.exists_arrived_of_getLast? hlast
  have hlen : p.length ≤ 1024 := hp.length_le.trans (by decide)
  have hbegin := framedPacket_isPrefix hlen
  rw [framedPacket_of_isResponsePacket hp] at hbegin
  obtain ⟨r, hparse, rfl⟩ := SpheroServerResponse.exists_parse_of_isPrefix mem hp hbegin
  refine ⟨r, ?_, hget, ?_⟩
  · rw [List.drop_left]
    exact congrArg (fun x => [x]) hparse
  · have hconn : s.handler.spheroConn.connected = true := h.up.1
    have hback : s.handler.spheroConn.readQueue.getLast? = some (entryOf r.reported) := hlast
    simp [SpheroHandler.readResponse, BtConnection.isConnected, BtConnection.read, hconn, hback,
      SpheroServerResponse.ofArray, hparse]

/-- The caller takes the entry and begins the next round. -/
lemma readTake (h : SessionInv s) {mem : SpheroServerResponse} {u : System SpheroClientCommand}
    (hreading : s.phase = .reading) (hstep : s.toSystem.step (.readTake 0) = .ok u) :
    SessionInv { s with
      toSystem := u
      phase := .ready
      responses := s.responses ++ (u.taken.drop s.taken.length).map fun entry =>
        (SpheroServerResponse.ofArray mem entry).parseFromInternalData } := by
  have hsim := h.simulated_conn rfl hstep
  obtain ⟨r, hresponse, hget, -⟩ := h.exists_response mem hstep
  have hround := h.round
  have hreader := h.reader
  rw [hreading] at hround hreader
  obtain ⟨entry, -, hlast, rfl⟩ := System.step_readTake_ok_iff.mp hstep
  obtain ⟨hqueue, -⟩ := h.exists_arrived_of_getLast? hlast
  have hqueued := h.queued
  rw [hqueue] at hqueued
  exact {
    simulated := hsim
    up := h.up
    echoed := h.echoed
    numbered := h.numbered
    answered := h.answered
    arrived := h.arrived
    queued := by simpa [hqueue] using hqueued
    reported := by
      rw [hresponse, List.map_append, h.reported, List.length_append, List.length_singleton,
        List.take_add_one, hget, List.map_append]
      rfl
    round := by simpa using hround
    reader := congrArg (List.erase · 0) hreader
    available := nofun }

/-- **Every event keeps the invariant of the session.** -/
theorem step (h : SessionInv s) {e : SessionEvent} (hstep : s.step e = .ok t) : SessionInv t := by
  cases e with
  | sendCommand cmd =>
    obtain ⟨hready, u, hu, rfl⟩ := step_sendCommand_ok_iff.mp hstep
    exact h.sendCommand hready hu
  | runPosted =>
    obtain ⟨u, hu, rfl⟩ := step_runPosted_ok_iff.mp hstep
    exact h.outbound_step hu rfl rfl rfl (length_transmitted_of_runPosted hu)
  | writeDone i =>
    obtain ⟨u, hu, rfl⟩ := step_writeDone_ok_iff.mp hstep
    exact h.outbound_step hu rfl rfl rfl (length_transmitted_of_writeDone hu)
  | answer k p =>
    obtain ⟨hcan, rfl⟩ := step_answer_ok_iff.mp hstep
    exact h.answer hcan
  | deliver =>
    obtain ⟨k, p, u, hnext, hu, rfl⟩ := step_deliver_ok_iff.mp hstep
    exact h.deliver hnext hu
  | readEnter =>
    obtain ⟨hwaiting, u, hu, rfl⟩ := step_readEnter_ok_iff.mp hstep
    exact h.readEnter hwaiting hu
  | readTake mem =>
    obtain ⟨hreading, u, hu, rfl⟩ := step_readTake_ok_iff.mp hstep
    exact h.readTake hreading hu

end SessionInv

lemma sessionInv_of_run {es : List SessionEvent} (h : session.run es = .ok s) : SessionInv s :=
  session.run_invariant sessionInv_new (fun _ _ _ hs hstep => hs.step hstep) h

end Session

end Btconn
