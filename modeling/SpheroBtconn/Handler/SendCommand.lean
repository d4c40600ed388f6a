import SpheroBtconn.Connection.SendBuffer
import SpheroBtconn.Handler.SpheroHandler
import SpheroBtconn.Packet.CommandFrame

/-!
# Sending commands

`sendCommand` of `SpheroHandler.h` generates a message for a command, with the low byte of
`seqNum` as its sequence number, assembles it, passes it to the connection, and increments
`seqNum`.  A call on a connection that is not connected throws before any of this.

`HandlerSystem` is a connection in the hands of one handler: messages are only sent by
`sendCommand`, and everything else can happen to the connection as before.  It simulates the
system of the connection alone (`exists_run_of_handlerSystem`), so all invariants of the latter
hold of it.  The messages posted over a whole run are determined by the commands of the calls
that have returned (`NumberingInv`): the `i`-th one is the frame of the `i`-th command with the
sequence number `i` modulo 256.
-/

namespace Btconn

/-- `SpheroCommand<DID, CID>`: a command without data, given by its two template arguments. -/
structure SpheroCommand where
  /-- `did_`. -/
  did : UInt8
  /-- `cid_`. -/
  cid : UInt8
  deriving DecidableEq

namespace SpheroCommand

/-- `generateCommandMessage`. -/
def generateCommandMessage (cmd : SpheroCommand) (seq : UInt8) : SpheroClientCommand :=
  let ret := SpheroClientCommand.ofFlags true true
  let ret := ret.setDeviceId cmd.did
  let ret := ret.setCommandId cmd.cid
  ret.setSeqNum seq

/-- The frame of a command: start bytes, ids, sequence number, the length of the checksum, and the
checksum. -/
def frame (cmd : SpheroCommand) (seq : UInt8) : SpheroPacket :=
  [0xFF, 0xFF, cmd.did, cmd.cid, seq, 0x01, ~~~ (cmd.did + cmd.cid + seq + 1)]

/-- The sequence byte of a frame. -/
lemma getElem?_frame (cmd : SpheroCommand) (seq : UInt8) : (cmd.frame seq)[4]? = some seq := rfl

/-- The checksum of a generated message is taken over the ids, the sequence number and the length
byte. -/
lemma calculateChecksum_generateCommandMessage (cmd : SpheroCommand) (seq : UInt8) :
    (cmd.generateCommandMessage seq).calculateChecksum.1 =
      ~~~ (cmd.did + cmd.cid + seq + 1) := by
  have hchecked : (cmd.generateCommandMessage seq).checked = [cmd.did, cmd.cid, seq, 1] := rfl
  have hsum : UInt8.ofNat (([cmd.did, cmd.cid, seq, 1] : List UInt8).map UInt8.toNat).sum =
      cmd.did + cmd.cid + seq + 1 := by
    apply UInt8.toNat_inj.mp
    simp only [List.map_cons, List.map_nil, List.sum_cons, List.sum_nil, UInt8.toNat_ofNat',
      UInt8.toNat_add, UInt8.toNat_one]
    omega
  rw [SpheroClientCommand.calculateChecksum_eq_not, hchecked, hsum]

/-- A generated message is assembled to its frame, -/
lemma packet_assemble_generateCommandMessage (cmd : SpheroCommand) (seq : UInt8) :
    (cmd.generateCommandMessage seq).assemble.packet = cmd.frame seq := by
  have hfields : (cmd.generateCommandMessage seq).fieldBytes =
      [0xFF, 0xFF, cmd.did, cmd.cid, seq, 0x01] ++
        [(cmd.generateCommandMessage seq).calculateChecksum.1] := rfl
  rw [SpheroClientCommand.assemble_packet, hfields, calculateChecksum_generateCommandMessage]
  rfl

/-- and its frame is what a write of the message transmits. -/
lemma sendBuffer_assemble_generateCommandMessage (cmd : SpheroCommand) (seq : UInt8) :
    (cmd.generateCommandMessage seq).assemble.sendBuffer = cmd.frame seq := by
  have hnew : (cmd.generateCommandMessage seq).packet = [] := rfl
  rw [SpheroClientCommand.sendBuffer_assemble _ hnew, ← packet_assemble_generateCommandMessage,
    SpheroClientCommand.assemble_packet, hnew, List.nil_append]

/-- The message of the `i`-th command: its sequence number is the low byte of the counter. -/
def message (cmd : SpheroCommand) (i : ℕ) : SpheroClientCommand :=
  (cmd.generateCommandMessage (UInt64.ofNat i).toUInt8).assemble

lemma packet_message (cmd : SpheroCommand) (i : ℕ) :
    (cmd.message i).packet = cmd.frame (UInt8.ofNat (i % 256)) := by
  have hseq : (UInt64.ofNat i).toUInt8 = UInt8.ofNat (i % 256) := by
    rw [UInt64.toUInt8_ofNat', UInt8.ofNat_mod_size]
  rw [message, hseq, packet_assemble_generateCommandMessage]

lemma keepsContract_message (cmd : SpheroCommand) (i : ℕ) :
    MsgType.KeepsContract (cmd.message i) :=
  (SpheroClientCommand.keepsContract_assemble_iff _).mpr rfl

lemma sendBuffer_message (cmd : SpheroCommand) (i : ℕ) :
    (cmd.message i).sendBuffer = (cmd.message i).packet := by
  rw [message, sendBuffer_assemble_generateCommandMessage, packet_assemble_generateCommandMessage]

end SpheroCommand

namespace SpheroHandler

/-- `sendCommand`. -/
def sendCommand (cmd : SpheroCommand) (h : SpheroHandler) : Outcome Unit × SpheroHandler :=
  if !h.spheroConn.isConnected then
    (.threw ⟨"Unable to send Sphero Commands - Not Connected"⟩, h)
  else
    let msg := cmd.generateCommandMessage h.seqNum.toUInt8
    let msg := msg.assemble
    match h.spheroConn.send msg with
    | (.returned _, c) => (.returned (), { h with spheroConn := c, seqNum := h.seqNum + 1 })
    | (outcome, c) => (outcome, { h with spheroConn := c })

variable {h : SpheroHandler}

/-- A call on a connection that is not connected throws and changes nothing. -/
lemma sendCommand_of_not_connected (hconn : h.spheroConn.connected = false)
    (cmd : SpheroCommand) :
    h.sendCommand cmd = (.threw ⟨"Unable to send Sphero Commands - Not Connected"⟩, h) := by
  unfold sendCommand BtConnection.isConnected
  rw [hconn]
  rfl

/-- Any other call posts the assembled message and increments the counter. -/
lemma sendCommand_of_connected (hconn : h.spheroConn.connected = true) (cmd : SpheroCommand) :
    h.sendCommand cmd = (.returned (), {
      spheroConn := { h.spheroConn with
        posted := h.spheroConn.posted ++
          [.send (cmd.generateCommandMessage h.seqNum.toUInt8).assemble] }
      seqNum := h.seqNum + 1 }) := by
  unfold sendCommand BtConnection.isConnected BtConnection.send
  simp [hconn]

end SpheroHandler

/-! ## A connection in the hands of one handler -/

/-- The connection of a handler and its surroundings, the counter of the handler, and the commands
of the calls of `sendCommand` that have returned. -/
structure HandlerSystem extends System SpheroClientCommand where
  /-- `seqNum`. -/
  seqNum : UInt64
  /-- The commands for which `sendCommand` has returned, in order. -/
  issued : List SpheroCommand
  deriving DecidableEq

/-- What can happen next. -/
inductive HandlerEvent where
  /-- `sendCommand(cmd)`. -/
  | sendCommand (cmd : SpheroCommand)
  /-- Anything else that happens to the connection. -/
  | conn (e : Event SpheroClientCommand)
  deriving DecidableEq

namespace HandlerSystem

/-- The state after construction. -/
def new : HandlerSystem where
  toSystem := System.new
  seqNum := 0
  issued := []

/-- The handler. -/
def handler (s : HandlerSystem) : SpheroHandler := ⟨s.toBtConnection, s.seqNum⟩

/-- One event.  What a call of `sendCommand` has sent is what it has put behind the handlers that
were posted before. -/
def step (s : HandlerSystem) : HandlerEvent → Except Stuck HandlerSystem
  | .sendCommand cmd =>
    let (outcome, h) := s.handler.sendCommand cmd
    .ok { s with
      toBtConnection := h.spheroConn
      seqNum := h.seqNum
      sent := s.sent ++ (h.spheroConn.posted.drop s.posted.length).filterMap Posted.msg?
      issued := if outcome = .returned () then s.issued ++ [cmd] else s.issued }
  | .conn e =>
    -- the caller only sends through the handler
    if e.isSend then .error .disabled
    else (s.toSystem.step e).map fun t => { s with toSystem := t }

end HandlerSystem

/-- Runs of a handler from the construction of its connection on. -/
def handlerSystem : EventSystem HandlerSystem HandlerEvent Stuck where
  init := HandlerSystem.new
  step := HandlerSystem.step

namespace HandlerSystem

variable {s t : HandlerSystem}

lemma step_sendCommand_of_not_connected (hconn : s.connected = false) (cmd : SpheroCommand) :
    s.step (.sendCommand cmd) = .ok s := by
  have hcall := SpheroHandler.sendCommand_of_not_connected (h := s.handler) hconn cmd
  simp only [step, hcall]
  simp [handler]

lemma step_sendCommand_of_connected (hconn : s.connected = true) (cmd : SpheroCommand) :
    s.step (.sendCommand cmd) = .ok { s with
      posted := s.posted ++ [.send (cmd.generateCommandMessage s.seqNum.toUInt8).assemble]
      sent := s.sent ++ [(cmd.generateCommandMessage s.seqNum.toUInt8).assemble]
      seqNum := s.seqNum + 1
      issued := s.issued ++ [cmd] } := by
  have hcall := SpheroHandler.sendCommand_of_connected (h := s.handler) hconn cmd
  simp only [step, hcall]
  simp [handler, Posted.msg?]

lemma step_conn_ok_iff {e : Event SpheroClientCommand} :
    s.step (.conn e) = .ok t ↔
      e.isSend = false ∧ ∃ u, s.toSystem.step e = .ok u ∧ t = { s with toSystem := u } := by
  simp only [step]
  split_ifs with he
  · simp [he]
  · rw [EventSystem.map_eq_ok_iff]
    simp [he, eq_comm]

/-- Every step is one of the connection alone: `sendCommand` is a call of `send`, with the message
it has generated. -/
lemma exists_step_of_step {e : HandlerEvent} (hstep : s.step e = .ok t) :
    ∃ e', s.toSystem.step e' = .ok t.toSystem := by
  cases e with
  | sendCommand cmd =>
    refine ⟨.send (cmd.generateCommandMessage s.seqNum.toUInt8).assemble, ?_⟩
    cases hconn : s.connected with
    | false =>
      rw [step_sendCommand_of_not_connected hconn, Except.ok.injEq] at hstep
      rw [System.step_send_of_not_connected hconn, hstep]
    | true =>
      rw [step_sendCommand_of_connected hconn, Except.ok.injEq] at hstep
      rw [System.step_send_of_connected hconn, ← hstep]
  | conn e =>
    obtain ⟨-, u, hu, rfl⟩ := step_conn_ok_iff.mp hstep
    exact ⟨e, hu⟩

/-- **The handler's system simulates the system of its connection.** -/
theorem exists_run_of_handlerSystem {es : List HandlerEvent} (h : handlerSystem.run es = .ok s) :
    ∃ fs, (system SpheroClientCommand).run fs = .ok s.toSystem := by
  refine handlerSystem.exists_run_of_simulation (f := toSystem) ⟨[], rfl⟩ ?_ h
  intro s e t hstep
  obtain ⟨e', he'⟩ := exists_step_of_step hstep
  exact ⟨[e'], ((system SpheroClientCommand).runFrom_singleton s.toSystem e').trans he'⟩

/-! ## The numbers of the messages -/

/-- The invariant of the counter: the messages are those of the issued commands, numbered from 0,
and the counter holds the number of the next one. -/
structure NumberingInv (s : HandlerSystem) : Prop where
  sent : s.sent = s.issued.mapIdx fun i cmd => cmd.message i
  seqNum : s.seqNum = UInt64.ofNat s.issued.length

lemma numberingInv_new : NumberingInv new := ⟨rfl, rfl⟩

/-- **Every event keeps the invariant of the counter.** -/
theorem NumberingInv.step (h : NumberingInv s) {e : HandlerEvent} (hstep : s.step e = .ok t) :
    NumberingInv t := by
  cases e with
  | sendCommand cmd =>
    cases hconn : s.connected with
    | false =>
      rw [step_sendCommand_of_not_connected hconn, Except.ok.injEq] at hstep
      exact hstep ▸ h
    | true =>
      rw [step_sendCommand_of_connected hconn, Except.ok.injEq] at hstep
      subst hstep
      refine ⟨?_, ?_⟩
      · simp only [h.sent, h.seqNum, List.mapIdx_concat, SpheroCommand.message]
      · simp only [h.seqNum, List.length_append, List.length_singleton, UInt64.ofNat_add]
        rfl
  | conn e =>
    obtain ⟨he, u, hu, rfl⟩ := step_conn_ok_iff.mp hstep
    exact ⟨(System.sent_step he hu).trans h.sent, h.seqNum⟩

lemma numberingInv_of_run {es : List HandlerEvent} (h : handlerSystem.run es = .ok s) :
    NumberingInv s :=
  handlerSystem.run_invariant numberingInv_new (fun _ _ _ hs hstep => hs.step hstep) h

/-- What a write of a message transmits is its vector, the frame of its command. -/
lemma NumberingInv.exists_frame (h : NumberingInv s) {i : ℕ} {msg : SpheroClientCommand}
    (hmsg : s.sent[i]? = some msg) : ∃ cmd, s.issued[i]? = some cmd ∧
      msg.sendBuffer = msg.packet ∧ msg.packet = cmd.frame (UInt8.ofNat (i % 256)) := by
  rw [h.sent, List.getElem?_mapIdx, Option.map_eq_some_iff] at hmsg
  obtain ⟨cmd, hcmd, rfl⟩ := hmsg
  exact ⟨cmd, hcmd, cmd.sendBuffer_message i, cmd.packet_message i⟩

/-- The sequence byte of a message. -/
lemma NumberingInv.sequenceByte (h : NumberingInv s) {i : ℕ} {msg : SpheroClientCommand}
    (hmsg : s.sent[i]? = some msg) : msg.packet[4]? = some (UInt8.ofNat (i % 256)) := by
  obtain ⟨cmd, -, -, hpacket⟩ := h.exists_frame hmsg
  rw [hpacket, SpheroCommand.getElem?_frame]

/-- Numbers that are less than 256 apart have different low bytes. -/
lemma ofNat_mod_ne {i j : ℕ} (hij : i < j) (hj : j < i + 256) :
    UInt8.ofNat (i % 256) ≠ UInt8.ofNat (j % 256) := by
  intro h
  have hnat := congrArg UInt8.toNat h
  rw [UInt8.toNat_ofNat', UInt8.toNat_ofNat'] at hnat
  omega

/-- `length()` of a message is the size of its vector. -/
lemma NumberingInv.keepsContract (h : NumberingInv s) {msg : SpheroClientCommand}
    (hmsg : msg ∈ s.sent) : MsgType.KeepsContract msg := by
  rw [h.sent] at hmsg
  obtain ⟨i, hi, rfl⟩ := List.mem_mapIdx.mp hmsg
  exact s.issued[i].keepsContract_message i

/-- Any 256 messages in a row have different sequence bytes. -/
lemma NumberingInv.nodup_window (h : NumberingInv s) (k : ℕ) :
    (((s.sent.drop k).take 256).map fun msg => msg.packet[4]?).Nodup := by
  rw [List.nodup_iff_pairwise_ne, List.pairwise_iff_getElem]
  intro i j hi hj hij
  have hbounds := hj
  rw [List.length_map, List.length_take, List.length_drop] at hbounds
  have hfirst := h.sequenceByte (List.getElem?_eq_getElem (show k + i < s.sent.length by omega))
  have hsecond := h.sequenceByte (List.getElem?_eq_getElem (show k + j < s.sent.length by omega))
  rw [List.getElem_map, List.getElem_map, List.getElem_take, List.getElem_take, List.getElem_drop,
    List.getElem_drop, hfirst, hsecond, ne_eq, Option.some.injEq]
  exact ofNat_mod_ne (by omega) (by omega)

/-! ## Whole runs -/

/-- **The messages are numbered by the calls that return.**  After every run, the messages that have
been posted, in order, are those that are written, queued, and still to be run.  The `i`-th of them
is the frame of the command of the `i`-th call of `sendCommand` that has returned, with the
sequence number `i` modulo 256, and this frame is what a write transmits.  A call returns exactly
if the connection is connected; a call that throws changes nothing, neither what is posted nor the
counter.  Hence any 256 messages in a row have different sequence bytes. -/
theorem sendCommand_numbers_messages {es : List HandlerEvent}
    (hrun : handlerSystem.run es = .ok s) :
    s.written ++ s.messageQueue ++ s.pending = s.sent ∧
      s.sent.map (·.packet) = s.issued.mapIdx (fun i cmd => cmd.frame (UInt8.ofNat (i % 256))) ∧
      s.sent.map (·.sendBuffer) = s.sent.map (·.packet) ∧
      (∀ cmd, (s.handler.sendCommand cmd).1 = .returned () ↔ s.connected = true) ∧
      (∀ cmd exception, (s.handler.sendCommand cmd).1 = .threw exception →
        s.step (.sendCommand cmd) = .ok s) ∧
      ∀ k, (((s.sent.drop k).take 256).map fun msg => msg.packet[4]?).Nodup := by
  have hinv := numberingInv_of_run hrun
  obtain ⟨fs, hfs⟩ := exists_run_of_handlerSystem hrun
  refine ⟨(System.outboundInv_of_run hfs).order, ?_, ?_, ?_, ?_, hinv.nodup_window⟩
  · rw [eq_comm, List.mapIdx_eq_iff]
    intro i
    rw [hinv.sent, List.getElem?_map, List.getElem?_mapIdx, Option.map_map]
    exact congrArg (s.issued[i]?.map ·) (funext fun cmd => cmd.packet_message i)
  · apply List.map_congr_left
    intro msg hmsg
    obtain ⟨i, hi⟩ := List.mem_iff_getElem?.mp hmsg
    obtain ⟨cmd, -, hbuffer, -⟩ := hinv.exists_frame hi
    exact hbuffer
  · intro cmd
    cases hconn : s.connected with
    | false =>
      rw [SpheroHandler.sendCommand_of_not_connected (h := s.handler) hconn]
      simp
    | true =>
      rw [SpheroHandler.sendCommand_of_connected (h := s.handler) hconn]
      simp
  · intro cmd exception hthrew
    cases hconn : s.connected with
    | false => exact step_sendCommand_of_not_connected hconn cmd
    | true =>
      rw [SpheroHandler.sendCommand_of_connected (h := s.handler) hconn] at hthrew
      cases hthrew

/-- A call before the connection is up, which is not counted, and two after it. -/
theorem sendCommand_numbers_two_messages :
    ∃ s, handlerSystem.run [.sendCommand ⟨0x00, 0x01⟩, .conn (.connect true),
        .sendCommand ⟨0x00, 0x01⟩, .sendCommand ⟨0x00, 0x02⟩] = .ok s ∧
      s.sent.map (·.packet) =
        [[0xFF, 0xFF, 0x00, 0x01, 0x00, 0x01, 0xFD], [0xFF, 0xFF, 0x00, 0x02, 0x01, 0x01, 0xFB]] ∧
      (((s.sent.drop 0).take 256).map fun msg => msg.packet[4]?).Nodup := by
  obtain ⟨s, hrun, hissued⟩ : ∃ s, handlerSystem.run [.sendCommand ⟨0x00, 0x01⟩,
      .conn (.connect true), .sendCommand ⟨0x00, 0x01⟩, .sendCommand ⟨0x00, 0x02⟩] = .ok s ∧
      s.issued = [⟨0x00, 0x01⟩, ⟨0x00, 0x02⟩] := ⟨_, rfl, rfl⟩
  obtain ⟨-, hpackets, -, -, -, hwindow⟩ := sendCommand_numbers_messages hrun
  rw [hissued] at hpackets
  exact ⟨s, hrun, hpackets.trans (by decide), hwindow 0⟩

end HandlerSystem

end Btconn
