import SpheroBtconn.Connection.ReadStack
import SpheroBtconn.Handler.ReadOrder
import SpheroBtconn.Handler.SendCommand

/-!
# Several commands at a time

A caller need not wait for the response to one command before it sends the next one.  In this
module a handler is used in any way at all: any calls in any order, any number of threads that
read, writes and reads that fail, `shutdown()` and `close()`.  Only the device is as the protocol
says: it answers every frame that it has received at most once, with a response packet that
echoes the sequence byte, in any order; its answers arrive in the order in which they were sent,
each as one chunk.

Every response is then the answer to one command, unchanged, and no two of them answer the same
command (`responses_are_answers`).  But they come in the order of a stack, and the sequence byte is
all that tells them apart: it says which command a response belongs to as long as the commands
without a response lie within 256 numbers (`sequence_identifies_command`).
-/

namespace Btconn

/-- The event delivers a chunk. -/
def HandlerEvent.receives : HandlerEvent → Bool
  | .conn (.readDone _) => true
  | _ => false

/-- A handler in the hands of any callers, and the device. -/
structure Pipeline extends HandlerSystem where
  /-- What the device has sent: the number of the command frame it answers, and the packet. -/
  answers : List (ℕ × SpheroPacket)
  /-- How many answers have arrived. -/
  delivered : ℕ
  deriving DecidableEq

/-- What can happen next. -/
inductive PipelineEvent where
  /-- Anything that happens to the handler but the arrival of a chunk. -/
  | handler (e : HandlerEvent)
  /-- The device answers the `k`-th command frame with `p`. -/
  | answer (k : ℕ) (p : SpheroPacket)
  /-- The next answer arrives and the handler of the read runs. -/
  | deliver
  deriving DecidableEq

namespace Pipeline

/-- The state before anything has happened. -/
def new : Pipeline where
  toHandlerSystem := .new
  answers := []
  delivered := 0

/-- The device can answer the `k`-th command frame with `p`: the frame has been written or is being
written, it has not been answered yet, and `p` is a response packet with its sequence byte. -/
def CanAnswer (s : Pipeline) (k : ℕ) (p : SpheroPacket) : Prop :=
  k ∉ s.answers.map Prod.fst ∧ IsResponsePacket p ∧
    ∃ msg ∈ (s.written ++ s.writes)[k]?, p[3]? = msg.sendBuffer[4]?

instance (s : Pipeline) (k : ℕ) (p : SpheroPacket) : Decidable (s.CanAnswer k p) :=
  inferInstanceAs (Decidable (_ ∧ _))

/-- One event. -/
def step (s : Pipeline) : PipelineEvent → Except Stuck Pipeline
  | .handler e =>
    if e.receives = false then
      (s.toHandlerSystem.step e).map fun t => { s with toHandlerSystem := t }
    else .error .disabled
  | .answer k p =>
    if s.CanAnswer k p then .ok { s with answers := s.answers ++ [(k, p)] }
    else .error .disabled
  | .deliver =>
    match s.answers[s.delivered]? with
    | none => .error .disabled
    | some (_, p) => (s.toHandlerSystem.step (.conn (.readDone p))).map fun t =>
      { s with toHandlerSystem := t, delivered := s.delivered + 1 }

end Pipeline

/-- Runs of a handler and a device from the construction of the connection on. -/
def pipeline : EventSystem Pipeline PipelineEvent Stuck where
  init := Pipeline.new
  step := Pipeline.step

namespace Pipeline

variable {s t : Pipeline} {es : List PipelineEvent}

/-! ## What each event does -/

lemma step_handler_ok_iff {e : HandlerEvent} :
    s.step (.handler e) = .ok t ↔ e.receives = false ∧
      ∃ u, s.toHandlerSystem.step e = .ok u ∧ t = { s with toHandlerSystem := u } := by
  unfold step
  rw [EventSystem.guard_eq_ok_iff, EventSystem.map_eq_ok_iff]
  simp only [eq_comm]

lemma step_answer_ok_iff {k : ℕ} {p : SpheroPacket} :
    s.step (.answer k p) = .ok t ↔
      s.CanAnswer k p ∧ t = { s with answers := s.answers ++ [(k, p)] } :=
  EventSystem.ite_eq_ok_iff

lemma step_deliver_ok_iff :
    s.step .deliver = .ok t ↔ ∃ k p u, s.answers[s.delivered]? = some (k, p) ∧
      s.toSystem.step (.readDone p) = .ok u ∧
      t = { s with toSystem := u, delivered := s.delivered + 1 } := by
  simp only [step]
  cases s.answers[s.delivered]? with
  | none => simp
  | some a =>
    rw [EventSystem.map_eq_ok_iff]
    constructor
    · rintro ⟨v, hv, rfl⟩
      obtain ⟨-, u, hu, rfl⟩ := HandlerSystem.step_conn_ok_iff.mp hv
      exact ⟨a.1, a.2, u, rfl, hu, rfl⟩
    · rintro ⟨k, p, u, ha, hu, rfl⟩
      obtain rfl : a = (k, p) := Option.some.inj ha
      exact ⟨_, HandlerSystem.step_conn_ok_iff.mpr ⟨rfl, u, hu, rfl⟩, rfl⟩

/-- What the handler does with anything but a chunk. -/
lemma handler_step {u v : HandlerSystem} {e : HandlerEvent} (hin : System.InboundInv u.toSystem)
    (he : e.receives = false) (hstep : u.step e = .ok v) :
    v.received = u.received ∧ u.sent <+: v.sent ∧
      (v.shuttingDown = false → u.shuttingDown = false) := by
  cases e with
  | sendCommand cmd =>
    cases hconn : u.connected with
    | false =>
      rw [HandlerSystem.step_sendCommand_of_not_connected hconn, Except.ok.injEq] at hstep
      exact hstep ▸ ⟨rfl, List.prefix_rfl, id⟩
    | true =>
      rw [HandlerSystem.step_sendCommand_of_connected hconn, Except.ok.injEq] at hstep
      exact hstep ▸ ⟨rfl, List.prefix_append _ _, id⟩
  | conn e =>
    obtain ⟨hsend, w, hw, rfl⟩ := HandlerSystem.step_conn_ok_iff.mp hstep
    have hsent := System.sent_step hsend hw
    have hdown := System.shuttingDown_step hw
    refine ⟨?_, ?_, ?_⟩
    · rcases hin.readQueue_step hw with ⟨-, hr, -⟩ | ⟨chunk, rfl, -⟩ | ⟨reader, entry, -, -, hr, -⟩
      · exact hr
      · cases he
      · exact hr
    · exact hsent ▸ List.prefix_rfl
    · intro hd
      have hboth : (u.shuttingDown || e.stops) = false := hdown.symm.trans hd
      exact (Bool.or_eq_false_iff.mp hboth).1

/-! ## The invariant -/

/-- The invariant of a handler and a device. -/
structure PipelineInv (s : Pipeline) : Prop where
  /-- The handler is in a state that a run of it alone reaches. -/
  simulated : ∃ fs, handlerSystem.run fs = .ok s.toHandlerSystem
  /-- The device has sent response packets that echo the sequence bytes of messages. -/
  echoed : ∀ a ∈ s.answers, IsResponsePacket a.2 ∧ a.1 < s.sent.length ∧
    a.2[3]? = some (UInt8.ofNat (a.1 % 256))
  /-- No frame is answered twice. -/
  nodup : (s.answers.map Prod.fst).Nodup
  /-- No more answers arrive than have been sent. -/
  delivered : s.delivered ≤ s.answers.length
  /-- What has been received are the first answers, -/
  received : s.received <+: s.answers.map Prod.snd
  /-- all that have arrived unless the connection is shutting down. -/
  complete : s.shuttingDown = false → s.received.length = s.delivered

lemma pipelineInv_new : PipelineInv new where
  simulated := ⟨[], rfl⟩
  echoed := by simp [new]
  nodup := List.nodup_nil
  delivered := le_rfl
  received := List.prefix_rfl
  complete := fun _ => rfl

namespace PipelineInv

lemma exists_run (h : PipelineInv s) :
    ∃ gs, (system SpheroClientCommand).run gs = .ok s.toSystem := by
  obtain ⟨fs, hfs⟩ := h.simulated
  exact HandlerSystem.exists_run_of_handlerSystem hfs

lemma inbound (h : PipelineInv s) : System.InboundInv s.toSystem := by
  obtain ⟨gs, hgs⟩ := h.exists_run
  exact System.inboundInv_of_run hgs

lemma numbering (h : PipelineInv s) : HandlerSystem.NumberingInv s.toHandlerSystem := by
  obtain ⟨fs, hfs⟩ := h.simulated
  exact HandlerSystem.numberingInv_of_run hfs

/-- Every message is the one of a command. -/
lemma length_sent (h : PipelineInv s) : s.sent.length = s.issued.length := by
  rw [h.numbering.sent, List.length_mapIdx]

/-- What the handler does next is part of a run of it alone. -/
lemma simulated_step (h : PipelineInv s) {e : HandlerEvent} {u : HandlerSystem}
    (hstep : s.toHandlerSystem.step e = .ok u) : ∃ fs, handlerSystem.run fs = .ok u := by
  obtain ⟨fs, hfs⟩ := h.simulated
  exact ⟨fs ++ [e], handlerSystem.run_concat_ok_iff.mpr ⟨_, hfs, hstep⟩⟩

lemma handler (h : PipelineInv s) {e : HandlerEvent} {u : HandlerSystem}
    (he : e.receives = false) (hstep : s.toHandlerSystem.step e = .ok u) :
    PipelineInv { s with toHandlerSystem := u } := by
  obtain ⟨hreceived, hsent, hup⟩ := handler_step h.inbound he hstep
  refine { h with
    simulated := h.simulated_step hstep
    echoed := ?_
    received := hreceived ▸ h.received
    complete := fun hd => hreceived ▸ h.complete (hup hd) }
  intro a ha
  obtain ⟨hp, hlt, hseq⟩ := h.echoed a ha
  exact ⟨hp, hlt.trans_le hsent.length_le, hseq⟩

/-- The device answers: its packet carries the sequence byte of the command. -/
lemma answer (h : PipelineInv s) {k : ℕ} {p : SpheroPacket} (hcan : s.CanAnswer k p) :
    PipelineInv { s with answers := s.answers ++ [(k, p)] } := by
  obtain ⟨hnew, hp, msg, hmsg, hseq⟩ := hcan
  obtain ⟨gs, hgs⟩ := h.exists_run
  obtain ⟨rest, hrest⟩ := (System.outboundInv_of_run hgs).transmitted_isPrefix
  have hget : (s.written ++ s.writes)[k]? = some msg := hmsg
  obtain ⟨hk, -⟩ := List.getElem?_eq_some_iff.mp hget
  have hsent : s.sent[k]? = some msg := by
    rw [← hrest, List.getElem?_append_left hk, hget]
  obtain ⟨cmd, -, hbuffer, hpacket⟩ := h.numbering.exists_frame hsent
  obtain ⟨hlt, -⟩ := List.getElem?_eq_some_iff.mp hsent
  rw [hbuffer, hpacket, SpheroCommand.getElem?_frame] at hseq
  refine { h with
    echoed := ?_
    nodup := ?_
    delivered := h.delivered.trans (by simp)
    received := ?_ }
  · intro a ha
    rcases List.mem_append.mp ha with ha | ha
    · exact h.echoed a ha
    · obtain rfl : a = (k, p) := List.mem_singleton.mp ha
      exact ⟨hp, hlt, hseq⟩
  · rw [List.map_append, List.map_singleton]
    refine List.nodup_append.mpr ⟨h.nodup, List.nodup_singleton _, ?_⟩
    intro a ha b hb hab
    rw [hab, List.mem_singleton.mp hb] at ha
    exact hnew ha
  · rw [List.map_append]
    exact h.received.trans (List.prefix_append _ _)

/-- The next answer arrives: it is received, or dropped if the connection is shutting down. -/
lemma deliver (h : PipelineInv s) {k : ℕ} {p : SpheroPacket} {u : System SpheroClientCommand}
    (hnext : s.answers[s.delivered]? = some (k, p))
    (hstep : s.toSystem.step (.readDone p) = .ok u) :
    PipelineInv { s with toSystem := u, delivered := s.delivered + 1 } := by
  have hsim := h.simulated_step (HandlerSystem.step_conn_ok_iff.mpr ⟨rfl, u, hstep, rfl⟩)
  have hsent : u.sent = s.sent := System.sent_step rfl hstep
  obtain ⟨hlt, -⟩ := List.getElem?_eq_some_iff.mp hnext
  obtain ⟨-, ⟨hd, rfl⟩ | ⟨hd, entry, rfl⟩⟩ := System.step_readDone_cases hstep
  · refine { h with
      simulated := hsim
      delivered := hlt
      complete := ?_ }
    intro hup
    exact absurd (hd.symm.trans hup) (by decide)
  · refine { h with
      simulated := hsim
      delivered := hlt
      received := ?_
      complete := fun _ => by simpa using h.complete hd }
    have hsnd : (s.answers.map Prod.snd)[s.received.length]? = some p := by
      rw [h.complete hd, List.getElem?_map, hnext]
      rfl
    have hnow := List.prefix_iff_eq_take.mp h.received
    have hone : s.received ++ [p] = (s.answers.map Prod.snd).take (s.received.length + 1) := by
      rw [List.take_add_one, hsnd, ← hnow]
      rfl
    exact hone ▸ List.take_prefix _ _

/-- **Every event keeps the invariant.** -/
theorem step (h : PipelineInv s) {e : PipelineEvent} (hstep : s.step e = .ok t) :
    PipelineInv t := by
  cases e with
  | handler e =>
    obtain ⟨he, u, hu, rfl⟩ := step_handler_ok_iff.mp hstep
    exact h.handler he hu
  | answer k p =>
    obtain ⟨hcan, rfl⟩ := step_answer_ok_iff.mp hstep
    exact h.answer hcan
  | deliver =>
    obtain ⟨k, p, u, hnext, hu, rfl⟩ := step_deliver_ok_iff.mp hstep
    exact h.deliver hnext hu

/-- Every chunk that has been received is a response packet. -/
lemma isResponsePacket (h : PipelineInv s) : ∀ p ∈ s.received, IsResponsePacket p := by
  intro p hp
  obtain ⟨a, ha, rfl⟩ := List.mem_map.mp (h.received.subset hp)
  exact (h.echoed a ha).1

/-- The chunk with the number `i` is the packet of the `i`-th answer. -/
lemma getElem?_received (h : PipelineInv s) {i : ℕ} (hi : i < s.received.length) :
    s.received[i]? = s.answers[i]?.map Prod.snd := by
  rw [← List.getElem?_map]
  obtain ⟨rest, hrest⟩ := h.received
  rw [← hrest, List.getElem?_append_left hi]

/-- Every chunk that has been received answers a command. -/
lemma exists_command (h : PipelineInv s) {i : ℕ} (hi : i < s.received.length) :
    ∃ k p cmd, s.answers[i]? = some (k, p) ∧ s.issued[k]? = some cmd ∧
      p[3]? = some (UInt8.ofNat (k % 256)) := by
  have hlen := h.received.length_le
  rw [List.length_map] at hlen
  have hget := List.getElem?_eq_getElem (hi.trans_le hlen)
  obtain ⟨-, hk, hseq⟩ := h.echoed _ (List.mem_of_getElem? hget)
  obtain ⟨cmd, hcmd, -⟩ := h.numbering.exists_frame (List.getElem?_eq_getElem hk)
  exact ⟨_, _, cmd, hget, hcmd, hseq⟩

end PipelineInv

lemma pipelineInv_of_run (h : pipeline.run es = .ok s) : PipelineInv s :=
  pipeline.run_invariant pipelineInv_new (fun _ _ _ hs hstep => hs.step hstep) h

/-! ## Responses -/

/-- What `read` and the parser report of the entries of response packets. -/
lemma map_reportOf_entriesAt (mem : SpheroServerResponse) {chunks : List (List UInt8)}
    (hps : ∀ p ∈ chunks, IsResponsePacket p) {is : List ℕ} (his : ∀ i ∈ is, i < chunks.length) :
    (entriesAt chunks is).map (reportOf mem) = is.map fun i => chunks[i]? := by
  induction is with
  | nil => rfl
  | cons i is ih =>
    have hget := List.getElem?_eq_getElem (his i (by simp))
    have hp := hps _ (List.getElem_mem (his i (by simp)))
    rw [← List.singleton_append, entriesAt_append, entriesAt_singleton hget, List.map_append,
      ih fun j hj => his j (List.mem_cons_of_mem i hj), List.map_singleton,
      reportOf_entryOf mem hp, List.map_append, List.map_singleton, hget]

/-- The responses that have been read and those that are queued are the answers that have arrived,
in an order that a stack can produce. -/
lemma PipelineInv.exists_order (h : PipelineInv s) (mem : SpheroServerResponse) :
    ∃ out stack, IsStackOrder s.received.length out stack ∧
      s.taken.map (reportOf mem) = out.map (fun i => s.answers[i]?.map Prod.snd) ∧
      s.readQueue.map (reportOf mem) = stack.map fun i => s.answers[i]?.map Prod.snd := by
  obtain ⟨gs, hgs⟩ := h.exists_run
  obtain ⟨out, stack, hstack, htaken, hqueue⟩ := System.exists_stackHistory_of_run hgs
  have horder := hstack.isStackOrder
  refine ⟨out, stack, horder, ?_, ?_⟩
  · rw [htaken, map_reportOf_entriesAt mem h.isResponsePacket fun i => horder.lt_of_mem_out]
    exact List.map_congr_left fun i hi => h.getElem?_received (horder.lt_of_mem_out hi)
  · rw [hqueue, map_reportOf_entriesAt mem h.isResponsePacket fun i => horder.lt_of_mem_stack]
    exact List.map_congr_left fun i hi => h.getElem?_received (horder.lt_of_mem_stack hi)

/-- **Every response answers one command.**  In every run of a handler and a device, the responses
that have been read and those that are still queued are packets of the device, unchanged, each
answer at most once, and the order in which they have been and will be read is one that a stack
can produce from the order in which they arrived.  Every one of them answers a command for which
`sendCommand` has returned, with the number of its call modulo 256 as sequence byte, and no two
answer the same command.  As long as the connection is not shutting down, no answer that has
arrived is missing. -/
theorem responses_are_answers (hrun : pipeline.run es = .ok s) (mem : SpheroServerResponse) :
    (∃ out stack, IsStackOrder s.received.length out stack ∧
      s.taken.map (reportOf mem) = out.map (fun i => s.answers[i]?.map Prod.snd) ∧
      s.readQueue.map (reportOf mem) = stack.map fun i => s.answers[i]?.map Prod.snd) ∧
    (∀ i < s.received.length, ∃ k p cmd, s.answers[i]? = some (k, p) ∧ s.issued[k]? = some cmd ∧
      p[3]? = some (UInt8.ofNat (k % 256))) ∧
    (s.answers.map Prod.fst).Nodup ∧
    (s.shuttingDown = false → s.received.length = s.delivered) := by
  have hinv := pipelineInv_of_run hrun
  exact ⟨hinv.exists_order mem, fun i => hinv.exists_command, hinv.nodup, hinv.complete⟩

/-- Two commands whose answers are in the queue when the first response is read. -/
theorem responses_are_answers_two :
    ∃ s, pipeline.run [.handler (.conn (.connect true)), .handler (.sendCommand ⟨0x00, 0x01⟩),
        .handler (.sendCommand ⟨0x00, 0x02⟩), .handler (.conn .runPosted),
        .handler (.conn .runPosted), .answer 0 [0xFF, 0xFF, 0x00, 0x00, 0x00],
        .handler (.conn (.writeDone 0 false)), .answer 1 [0xFF, 0xFF, 0x00, 0x01, 0x00], .deliver,
        .deliver, .handler (.conn (.readEnter 0)), .handler (.conn (.readTake 0))] = .ok s ∧
      (∃ out stack, IsStackOrder 2 out stack ∧
        s.taken.map (reportOf .new) = out.map (fun i => s.answers[i]?.map Prod.snd) ∧
        s.readQueue.map (reportOf .new) = stack.map fun i => s.answers[i]?.map Prod.snd) ∧
      s.delivered = 2 := by
  obtain ⟨s, hrun, hreceived, hd⟩ : ∃ s, pipeline.run [.handler (.conn (.connect true)),
      .handler (.sendCommand ⟨0x00, 0x01⟩), .handler (.sendCommand ⟨0x00, 0x02⟩),
      .handler (.conn .runPosted), .handler (.conn .runPosted),
      .answer 0 [0xFF, 0xFF, 0x00, 0x00, 0x00], .handler (.conn (.writeDone 0 false)),
      .answer 1 [0xFF, 0xFF, 0x00, 0x01, 0x00], .deliver, .deliver,
      .handler (.conn (.readEnter 0)), .handler (.conn (.readTake 0))] = .ok s ∧
      s.received.length = 2 ∧ s.shuttingDown = false := by
    -- the run fills buffers of 1024 bytes
    set_option maxRecDepth 8000 in exact ⟨_, rfl, rfl, rfl⟩
  obtain ⟨⟨out, stack, horder, htaken, hqueue⟩, -, -, hall⟩ := responses_are_answers hrun .new
  rw [hreceived] at horder hall
  exact ⟨s, hrun, ⟨out, stack, horder, htaken, hqueue⟩, (hall hd).symm⟩

/-! ## Sequence bytes -/

/-- The numbers of the commands that the answers with the given positions belong to. -/
def numbersAt (s : Pipeline) (is : List ℕ) : List ℕ := is.filterMap fun i => s.answers[i]?.map Prod.fst

/-- The command with the number `k` has been sent, and of the answers read, those with the positions
of `out`, none belongs to it. -/
def Unread (s : Pipeline) (out : List ℕ) (k : ℕ) : Prop :=
  k < s.issued.length ∧ k ∉ s.numbersAt out

instance (s : Pipeline) (out : List ℕ) (k : ℕ) : Decidable (s.Unread out k) :=
  inferInstanceAs (Decidable (_ ∧ _))

/-- A queued answer belongs to a command without a response. -/
lemma PipelineInv.unread (h : PipelineInv s) {out stack : List ℕ}
    (horder : IsStackOrder s.received.length out stack) {i k : ℕ} {p : SpheroPacket}
    (hi : i ∈ stack) (ha : s.answers[i]? = some (k, p)) : s.Unread out k := by
  obtain ⟨k', p', cmd, ha', hcmd, -⟩ := h.exists_command (horder.lt_of_mem_stack hi)
  obtain ⟨rfl, rfl⟩ : k = k' ∧ p = p' := by simpa using ha.symm.trans ha'
  obtain ⟨hk, -⟩ := List.getElem?_eq_some_iff.mp hcmd
  refine ⟨hk, ?_⟩
  intro hmem
  obtain ⟨j, hj, hfst⟩ := List.mem_filterMap.mp hmem
  -- an answer with the same number is the same answer, and it would have been taken
  have hsame : (s.answers.map Prod.fst)[i]? = (s.answers.map Prod.fst)[j]? := by
    rw [List.getElem?_map, List.getElem?_map, ha, hfst]
    rfl
  have hlen := h.received.length_le
  rw [List.length_map] at hlen
  have hlt : i < (s.answers.map Prod.fst).length := by
    rw [List.length_map]
    exact (horder.lt_of_mem_stack hi).trans_le hlen
  obtain rfl : i = j := (List.getElem?_inj hlt h.nodup).mp hsame
  have hdisjoint := (List.nodup_append.mp horder.nodup).2.2
  exact hdisjoint i hj i (List.mem_reverse.mpr hi) rfl

/-- **When a sequence byte identifies a command.**  In every run, each response that is still queued
belongs to a command without a response.  If all commands without a response lie within 256
numbers, it is the only one of them with its sequence byte. -/
theorem sequence_identifies_command (hrun : pipeline.run es = .ok s) (mem : SpheroServerResponse) :
    ∃ out stack, IsStackOrder s.received.length out stack ∧
      s.taken.map (reportOf mem) = out.map (fun i => s.answers[i]?.map Prod.snd) ∧
      s.readQueue.map (reportOf mem) = stack.map (fun i => s.answers[i]?.map Prod.snd) ∧
      ∀ i ∈ stack, ∀ k p, s.answers[i]? = some (k, p) → s.Unread out k ∧
        ((∀ j j', s.Unread out j → s.Unread out j' → j < j' + 256) →
          ∀ j, s.Unread out j → (p[3]? = some (UInt8.ofNat (j % 256)) ↔ j = k)) := by
  have hinv := pipelineInv_of_run hrun
  obtain ⟨out, stack, horder, htaken, hqueue⟩ := hinv.exists_order mem
  refine ⟨out, stack, horder, htaken, hqueue, ?_⟩
  intro i hi k p ha
  have hk := hinv.unread horder hi ha
  have hseq := (hinv.echoed _ (List.mem_of_getElem? ha)).2.2
  refine ⟨hk, ?_⟩
  intro hwindow j hj
  constructor
  · intro hsame
    have hbyte := Option.some.inj (hseq.symm.trans hsame)
    have hjk := hwindow j k hj hk
    have hkj := hwindow k j hk hj
    rcases Nat.lt_trichotomy j k with hlt | heq | hlt
    · exact absurd hbyte.symm (HandlerSystem.ofNat_mod_ne hlt hkj)
    · exact heq
    · exact absurd hbyte (HandlerSystem.ofNat_mod_ne hlt hjk)
  · rintro rfl
    exact hseq

/-- Two commands without a response, of which the second one has been answered first. -/
theorem sequence_identifies_command_second :
    ∃ s, pipeline.run [.handler (.conn (.connect true)), .handler (.sendCommand ⟨0x00, 0x01⟩),
        .handler (.sendCommand ⟨0x00, 0x02⟩), .handler (.conn .runPosted),
        .handler (.conn .runPosted), .handler (.conn (.writeDone 0 false)),
        .answer 1 [0xFF, 0xFF, 0x00, 0x01, 0x00], .deliver] = .ok s ∧
      ∃ out stack, IsStackOrder 1 out stack ∧
        ∀ i ∈ stack, ∀ k p, s.answers[i]? = some (k, p) →
          ∀ j, s.Unread out j → (p[3]? = some (UInt8.ofNat (j % 256)) ↔ j = k) := by
  obtain ⟨s, hrun, hreceived, hissued⟩ : ∃ s, pipeline.run [.handler (.conn (.connect true)),
      .handler (.sendCommand ⟨0x00, 0x01⟩), .handler (.sendCommand ⟨0x00, 0x02⟩),
      .handler (.conn .runPosted), .handler (.conn .runPosted),
      .handler (.conn (.writeDone 0 false)), .answer 1 [0xFF, 0xFF, 0x00, 0x01, 0x00],
      .deliver] = .ok s ∧ s.received.length = 1 ∧ s.issued.length = 2 := by
    set_option maxRecDepth 8000 in exact ⟨_, rfl, rfl, rfl⟩
  obtain ⟨out, stack, horder, -, -, hidentify⟩ := sequence_identifies_command hrun .new
  rw [hreceived] at horder
  refine ⟨s, hrun, out, stack, horder, ?_⟩
  intro i hi k p ha
  refine (hidentify i hi k p ha).2 fun j j' hj _ => ?_
  have hlt := hj.1
  omega

end Pipeline

end Btconn
