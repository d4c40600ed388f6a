import SpheroBtconn.Connection.Reduction
import SpheroBtconn.Handler.SendCommand

/-!
# What the device receives

The device sees a stream of bytes: the buffers of the writes that have succeeded, one after the
other, and some part of the buffer of the next one, which may still be under way or may have
failed.  Whatever has happened to the connection until then, the frames that the device can read
from this stream are those of the first messages, in order and each once, if every message is a
command that has been assembled once, with a payload of less than 255 bytes
(`device_receives_messages`).  The messages that `sendCommand` makes are of this kind, and their
frames are numbered from 0 on modulo 256 (`device_receives_commands`).  Their writes never leave them
(`writes_stay_inside`).
-/

namespace Btconn

open SpheroClientCommand

namespace SpheroCommand

variable (cmd : SpheroCommand) (seq : UInt8)

/-- The frame of a command is one of the protocol's. -/
lemma isFrame_frame : commandFormat.IsFrame (cmd.frame seq) := rfl

lemma checksumLaw_frame : ChecksumLaw (cmd.frame seq) := by
  have hframe : (cmd.generateCommandMessage seq).frame = cmd.frame seq := by
    rw [frame_eq, ← packet_assemble_generateCommandMessage, assemble_packet]
    rfl
  rw [← hframe]
  exact SpheroClientCommand.checksumLaw_frame _

end SpheroCommand

/-- The bytes that writing some messages transmits. -/
def transmittedBytes (ms : List SpheroClientCommand) : List UInt8 :=
  (ms.map SpheroClientCommand.sendBuffer).flatten

namespace SpheroClientCommand

/-- A command that has just been assembled for the first time, with a payload of less than 255
bytes. -/
def IsReady (msg : SpheroClientCommand) : Prop :=
  ∃ c : SpheroClientCommand, c.packet = [] ∧ c.dataLength ≠ 255 ∧ msg = c.assemble

namespace IsReady

variable {msg : SpheroClientCommand}

/-- The vector of such a command is one frame. -/
lemma exists_frame (h : IsReady msg) :
    ∃ c : SpheroClientCommand, c.dataLength ≠ 255 ∧ msg.packet = c.frame ∧
      msg.sendBuffer = c.frame := by
  obtain ⟨c, hempty, hdata, rfl⟩ := h
  refine ⟨c, hdata, ?_, ?_⟩
  · rw [assemble_packet, hempty, List.nil_append, frame_eq]
  · rw [sendBuffer_assemble c hempty, frame_eq]

lemma sendBuffer_eq (h : IsReady msg) : msg.sendBuffer = msg.packet := by
  obtain ⟨c, -, hpacket, hbuffer⟩ := h.exists_frame
  rw [hbuffer, hpacket]

lemma isFrame (h : IsReady msg) : commandFormat.IsFrame msg.packet := by
  obtain ⟨c, hdata, hpacket, -⟩ := h.exists_frame
  exact hpacket ▸ (isFrame_commandFormat_iff c).mpr hdata

lemma checksumLaw (h : IsReady msg) : ChecksumLaw msg.packet := by
  obtain ⟨c, -, hpacket, -⟩ := h.exists_frame
  exact hpacket ▸ SpheroClientCommand.checksumLaw_frame c

end IsReady

end SpheroClientCommand

namespace System

variable {s : System SpheroClientCommand} {es : List (Event SpheroClientCommand)}
  {bytes : List UInt8}

/-- The messages written and the one that is next are the first ones. -/
lemma written_append_front_isPrefix (h : OutboundInv s) :
    s.written ++ s.messageQueue.take 1 <+: s.sent := by
  rw [← h.order, List.append_assoc, List.prefix_append_right_inj]
  exact (List.take_prefix 1 _).trans (List.prefix_append _ _)

/-- If every message that has been sent transmits a frame, the frames that the device has received
are those of the first messages. -/
lemma exists_receive_eq (h : OutboundInv s)
    (hframes : ∀ msg ∈ s.sent, commandFormat.IsFrame msg.sendBuffer)
    (hwritten : transmittedBytes s.written <+: bytes)
    (hfront : bytes <+: transmittedBytes (s.written ++ s.messageQueue.take 1)) :
    ∃ k, s.written.length ≤ k ∧ k ≤ s.written.length + 1 ∧ k ≤ s.sent.length ∧
      (commandFormat.receive bytes).1 = (s.sent.take k).map SpheroClientCommand.sendBuffer := by
  obtain ⟨rest, hrest⟩ := written_append_front_isPrefix h
  have hlength : (s.messageQueue.take 1).length ≤ 1 := by
    rw [List.length_take]
    exact min_le_left _ _
  have hall : ∀ f ∈ (s.written ++ s.messageQueue.take 1).map SpheroClientCommand.sendBuffer,
      commandFormat.IsFrame f := by
    intro f hf
    obtain ⟨msg, hmsg, rfl⟩ := List.mem_map.mp hf
    exact hframes msg (hrest ▸ List.mem_append_left _ hmsg)
  obtain ⟨k, t, hmin, hmax, hreceive⟩ := FrameFormat.receive_of_isPrefix (m := s.written.length)
    hall (by simp) (by rw [List.map_append, List.take_left' (by simp)]; exact hwritten) hfront
  rw [List.length_map] at hmax
  have htotal := congrArg List.length hrest
  rw [List.length_append] at htotal
  have htake : s.sent.take k = (s.written ++ s.messageQueue.take 1).take k := by
    rw [← hrest, List.take_append_of_le_length hmax]
  rw [List.length_append] at hmax htotal
  refine ⟨k, hmin, by omega, by omega, ?_⟩
  rw [hreceive, htake, List.map_take]

/-- **The device receives the messages in order.**  Let every message that has been sent be a command
that has just been assembled for the first time, with a payload of less than 255 bytes, and let the
device have received all bytes of the messages that have been written and any part of the bytes of
the one at the front of `messageQueue_`.  The complete frames among them are the vectors of the first
messages, one for every message written and perhaps one more, and each obeys the checksum law. -/
theorem device_receives_messages (hrun : (system SpheroClientCommand).run es = .ok s)
    (hsent : ∀ msg ∈ s.sent, msg.IsReady) (hwritten : transmittedBytes s.written <+: bytes)
    (hfront : bytes <+: transmittedBytes (s.written ++ s.messageQueue.take 1)) :
    ∃ k, s.written.length ≤ k ∧ k ≤ s.written.length + 1 ∧ k ≤ s.sent.length ∧
      (commandFormat.receive bytes).1 = (s.sent.take k).map SpheroClientCommand.packet ∧
      ∀ f ∈ (commandFormat.receive bytes).1, ChecksumLaw f := by
  obtain ⟨k, hmin, hmax, hk, hfound⟩ := exists_receive_eq (outboundInv_of_run hrun)
    (fun msg hmsg => (hsent msg hmsg).sendBuffer_eq ▸ (hsent msg hmsg).isFrame) hwritten hfront
  have hpackets : (s.sent.take k).map SpheroClientCommand.sendBuffer =
      (s.sent.take k).map SpheroClientCommand.packet :=
    List.map_congr_left fun msg hmsg => (hsent msg (List.mem_of_mem_take hmsg)).sendBuffer_eq
  rw [hpackets] at hfound
  refine ⟨k, hmin, hmax, hk, hfound, ?_⟩
  intro f hf
  rw [hfound] at hf
  obtain ⟨msg, hmsg, rfl⟩ := List.mem_map.mp hf
  exact (hsent msg (List.mem_of_mem_take hmsg)).checksumLaw

/-- A command with one byte of payload, of which the last byte is still under way. -/
theorem device_receives_messages_payload :
    ∃ c s, (SpheroClientCommand.ofFlags true true).setData [0x07] = .ok c ∧
      (system SpheroClientCommand).run [.connect true, .send c.assemble, .runPosted] = .ok s ∧
      ∃ k ≤ 1, (commandFormat.receive [0xFF, 0xFF, 0x00, 0x00, 0x00, 0x02, 0x07]).1 =
        (s.sent.take k).map SpheroClientCommand.packet := by
  have hdata := SpheroClientCommand.setData_of_le (SpheroClientCommand.ofFlags true true)
    (show [(0x07 : UInt8)].length ≤ 255 by decide)
  obtain ⟨c, hc, hempty, hone⟩ : ∃ c, (SpheroClientCommand.ofFlags true true).setData [0x07] =
      .ok c ∧ c.packet = [] ∧ c.fieldBytes = [0xFF, 0xFF, 0x00, 0x00, 0x00, 0x02] ++ c.payload ++
        [c.calculateChecksum.1] := ⟨_, hdata, rfl, rfl⟩
  obtain ⟨hlength, hpayload⟩ := SpheroClientCommand.payload_of_setData hc
  obtain ⟨s, hrun, hsent, hwritten, hqueue⟩ : ∃ s, (system SpheroClientCommand).run
      [.connect true, .send c.assemble, .runPosted] = .ok s ∧ s.sent = [c.assemble] ∧
        s.written = [] ∧ s.messageQueue = [c.assemble] := ⟨_, rfl, rfl, rfl, rfl⟩
  have hready : ∀ msg ∈ s.sent, msg.IsReady := by
    intro msg hmsg
    rw [hsent, List.mem_singleton] at hmsg
    refine ⟨c, hempty, ?_, hmsg⟩
    intro hfull
    have hfull' : c.dlen.toNat = 255 := congrArg UInt8.toNat hfull
    rw [hlength] at hfull'
    cases hfull'
  have hfront : [0xFF, 0xFF, 0x00, 0x00, 0x00, 0x02, 0x07] <+:
      transmittedBytes (s.written ++ s.messageQueue.take 1) := by
    rw [hwritten, hqueue]
    simp [transmittedBytes, SpheroClientCommand.sendBuffer_assemble c hempty, hone, hpayload]
  obtain ⟨k, -, hmax, -, hfound, -⟩ :=
    device_receives_messages hrun hready (by simp [hwritten, transmittedBytes]) hfront
  rw [hwritten] at hmax
  exact ⟨c, s, hc, hrun, k, hmax, hfound⟩

end System

namespace HandlerSystem

variable {s : HandlerSystem} {es : List HandlerEvent}

/-- The messages of a handler keep the contract of `length()`, so no event starts a write that leaves
its message. -/
lemma NumberingInv.stepChecked_eq (h : NumberingInv s) (hout : System.OutboundInv s.toSystem)
    (e : Event SpheroClientCommand) : s.stepChecked e = s.toSystem.step e := by
  rw [System.stepChecked_eq hout, if_neg]
  intro hover
  obtain ⟨msg, hmsg, hbuffer⟩ := MsgType.overruns_iff.mp hover
  obtain ⟨-, hmem⟩ := System.sent_of_started hout hmsg
  rw [(h.keepsContract hmem).buffer_eq] at hbuffer
  cases hbuffer

/-- **The writes of a handler stay inside its messages.**  In every run each message that has been
written, and the one that is being written, is transmitted as a whole.  No event of the connection
starts a write that leaves its message or takes the front of an empty `messageQueue_`, and a run in
fine steps, with all preconditions checked, reaches the same state of the connection. -/
theorem writes_stay_inside (hrun : handlerSystem.run es = .ok s) :
    (∀ msg ∈ s.written ++ s.writes, MsgType.buffer msg = some msg.packet) ∧
      (∀ msg ∈ s.writes, s.doSendBuffer = some msg.packet) ∧
      (∀ e, s.stepChecked e = s.toSystem.step e) ∧
      ∃ fs, (fineSystem SpheroClientCommand).run fs = .ok ⟨s.toSystem, none⟩ := by
  obtain ⟨gs, hgs⟩ := exists_run_of_handlerSystem hrun
  have hinv := numberingInv_of_run hrun
  obtain ⟨hwhole, hcurrent⟩ := System.buffer_of_run hgs fun _ => hinv.keepsContract
  refine ⟨hwhole, hcurrent, hinv.stepChecked_eq (System.outboundInv_of_run hgs), ?_⟩
  refine FineSystem.exists_fine_run hgs fun msg hmsg => ?_
  rw [(hinv.keepsContract hmsg).buffer_eq]
  exact Option.some_ne_none _

/-- One command written, the next one being written, and a third one waiting. -/
theorem writes_stay_inside_two :
    ∃ s, handlerSystem.run [.conn (.connect true), .sendCommand ⟨0x00, 0x01⟩,
        .sendCommand ⟨0x00, 0x02⟩, .conn .runPosted, .conn .runPosted, .conn (.writeDone 0 false),
        .sendCommand ⟨0x00, 0x01⟩] = .ok s ∧
      s.writes.map (·.packet) = [[0xFF, 0xFF, 0x00, 0x02, 0x01, 0x01, 0xFB]] ∧
      (∀ msg ∈ s.writes, s.doSendBuffer = some msg.packet) ∧
      ∀ e, s.stepChecked e = s.toSystem.step e := by
  obtain ⟨s, hrun, hwrites⟩ : ∃ s, handlerSystem.run [.conn (.connect true),
      .sendCommand ⟨0x00, 0x01⟩, .sendCommand ⟨0x00, 0x02⟩, .conn .runPosted, .conn .runPosted,
      .conn (.writeDone 0 false), .sendCommand ⟨0x00, 0x01⟩] = .ok s ∧
      s.writes = [SpheroCommand.message ⟨0x00, 0x02⟩ 1] := ⟨_, rfl, rfl⟩
  obtain ⟨-, hcurrent, hchecked, -⟩ := writes_stay_inside hrun
  refine ⟨s, hrun, ?_, hcurrent, hchecked⟩
  rw [hwrites, List.map_singleton, SpheroCommand.packet_message]
  rfl

/-- The frames of the commands for which `sendCommand` has returned, numbered modulo 256. -/
def issuedFrames (s : HandlerSystem) : List SpheroPacket :=
  s.issued.mapIdx fun i cmd => cmd.frame (UInt8.ofNat (i % 256))

lemma isFrame_of_mem_issuedFrames {f : SpheroPacket} (hf : f ∈ s.issuedFrames) :
    commandFormat.IsFrame f ∧ ChecksumLaw f ∧ f.take 2 = [0xFF, 0xFF] := by
  obtain ⟨i, hi, rfl⟩ := List.mem_mapIdx.mp hf
  exact ⟨SpheroCommand.isFrame_frame _ _, SpheroCommand.checksumLaw_frame _ _, rfl⟩

/-- What writing all messages would transmit. -/
lemma NumberingInv.map_sendBuffer (h : NumberingInv s) :
    s.sent.map SpheroClientCommand.sendBuffer = s.issuedFrames := by
  rw [issuedFrames, eq_comm, List.mapIdx_eq_iff]
  intro i
  rw [h.sent, List.getElem?_map, List.getElem?_mapIdx, Option.map_map]
  refine congrArg (s.issued[i]?.map ·) (funext fun cmd => ?_)
  rw [Function.comp_apply, SpheroCommand.sendBuffer_message, SpheroCommand.packet_message]

/-- **The device receives the commands in order.**  In every run, let the device have received all
bytes of the messages that have been written, and any part of the bytes of the one at the front
of `messageQueue_`.  The complete frames among them are those of the first commands for which
`sendCommand` has returned: one for every message written, and perhaps one more.  Each of them
carries the number of its call modulo 256, obeys the checksum law, and asks for an answer. -/
theorem device_receives_commands (hrun : handlerSystem.run es = .ok s) {bytes : List UInt8}
    (hwritten : transmittedBytes s.written <+: bytes)
    (hfront : bytes <+: transmittedBytes (s.written ++ s.messageQueue.take 1)) :
    ∃ k, s.written.length ≤ k ∧ k ≤ s.written.length + 1 ∧ k ≤ s.issued.length ∧
      (commandFormat.receive bytes).1 = s.issuedFrames.take k ∧
      ∀ f ∈ (commandFormat.receive bytes).1, ChecksumLaw f ∧ f.take 2 = [0xFF, 0xFF] := by
  obtain ⟨gs, hgs⟩ := exists_run_of_handlerSystem hrun
  have hbuffers := (numberingInv_of_run hrun).map_sendBuffer
  have hframes : ∀ msg ∈ s.sent, commandFormat.IsFrame msg.sendBuffer := fun msg hmsg =>
    (isFrame_of_mem_issuedFrames (hbuffers ▸ List.mem_map_of_mem hmsg)).1
  obtain ⟨k, hmin, hmax, hk, hfound⟩ :=
    System.exists_receive_eq (System.outboundInv_of_run hgs) hframes hwritten hfront
  rw [List.map_take, hbuffers] at hfound
  have hissued : s.issuedFrames.length = s.issued.length := List.length_mapIdx
  rw [← hbuffers, List.length_map] at hissued
  refine ⟨k, hmin, hmax, hissued ▸ hk, hfound, ?_⟩
  intro f hf
  rw [hfound] at hf
  exact (isFrame_of_mem_issuedFrames (List.mem_of_mem_take hf)).2

/-- One command written, and a write that has failed in the middle of the next one. -/
theorem device_receives_commands_partial :
    ∃ s, handlerSystem.run [.conn (.connect true), .sendCommand ⟨0x00, 0x01⟩,
        .sendCommand ⟨0x00, 0x02⟩, .conn .runPosted, .conn .runPosted, .conn (.writeDone 0 false),
        .conn (.writeDone 0 true)] = .ok s ∧
      ∃ k, 1 ≤ k ∧ k ≤ 2 ∧
        (commandFormat.receive [0xFF, 0xFF, 0x00, 0x01, 0x00, 0x01, 0xFD, 0xFF, 0xFF, 0x00]).1 =
          s.issuedFrames.take k := by
  obtain ⟨s, hrun, hw, hq⟩ : ∃ s, handlerSystem.run [.conn (.connect true),
      .sendCommand ⟨0x00, 0x01⟩, .sendCommand ⟨0x00, 0x02⟩, .conn .runPosted, .conn .runPosted,
      .conn (.writeDone 0 false), .conn (.writeDone 0 true)] = .ok s ∧
      s.written = [SpheroCommand.message ⟨0x00, 0x01⟩ 0] ∧
      s.messageQueue.take 1 = [SpheroCommand.message ⟨0x00, 0x02⟩ 1] := ⟨_, rfl, rfl, rfl⟩
  have hbytes : ∀ i cmd, transmittedBytes [SpheroCommand.message cmd i] =
      cmd.frame (UInt8.ofNat (i % 256)) := by
    intro i cmd
    simp [transmittedBytes, SpheroCommand.sendBuffer_message, SpheroCommand.packet_message]
  have hwritten : transmittedBytes s.written <+:
      [0xFF, 0xFF, 0x00, 0x01, 0x00, 0x01, 0xFD, 0xFF, 0xFF, 0x00] := by
    rw [hw, hbytes]
    decide
  have hfront : [0xFF, 0xFF, 0x00, 0x01, 0x00, 0x01, 0xFD, 0xFF, 0xFF, 0x00] <+:
      transmittedBytes (s.written ++ s.messageQueue.take 1) := by
    rw [hw, hq, transmittedBytes, List.map_append, List.flatten_append]
    rw [← transmittedBytes, ← transmittedBytes, hbytes, hbytes]
    decide
  obtain ⟨k, hmin, hmax, -, hfound, -⟩ := device_receives_commands hrun hwritten hfront
  rw [hw] at hmin hmax
  exact ⟨s, hrun, k, hmin, hmax, hfound⟩

end HandlerSystem

end Btconn
