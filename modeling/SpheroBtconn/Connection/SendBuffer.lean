import SpheroBtconn.Connection.Outbound
import SpheroBtconn.Packet.CommandHistory
import SpheroBtconn.Packet.ResponseHistory

/-!
# The buffers that are written

`doSend` does not look at the bytes of a message.  It passes on the pointer that `data()` returns
and the number that `length()` returns, so the write stays inside the vector of the message only if
`length()` is not too large.  `BtConnection.h` asks the type of the messages to see to this: its
`length()` must return the size of the raw data (`MsgType.KeepsContract`).

Commands keep the contract if they are assembled once.  Responses have a `length()` that counts a
checksum which `assemble` does not append and `parseFromInternalData` does not read
(`length_eq_succ`), so it is never the length of what is encoded, and the write of a response that
has been assembled once reads one byte past the end of its vector.
-/

namespace Btconn

/-- What `BtConnection` uses of its messages. -/
class MsgType (M : Type*) where
  /-- The bytes that `data()` points to. -/
  data : M → List UInt8
  /-- `length()`. -/
  length : M → ℕ

namespace MsgType

variable {M : Type*} [MsgType M] {msg : M}

/-- `boost::asio::buffer(data(), length())`; there is nothing if it does not lie inside the bytes of
the message. -/
def buffer (msg : M) : Option (List UInt8) :=
  if length msg ≤ (data msg).length then some ((data msg).take (length msg)) else none

/-- `length()` returns the size of the raw data. -/
def KeepsContract (msg : M) : Prop := length msg = (data msg).length

lemma buffer_eq_none_iff : buffer msg = none ↔ (data msg).length < length msg := by
  unfold buffer
  split_ifs with hle
  · simp [hle]
  · exact iff_of_true rfl (Nat.lt_of_not_le hle)

/-- A message that keeps the contract is written as a whole. -/
lemma KeepsContract.buffer_eq (h : KeepsContract msg) : buffer msg = some (data msg) := by
  unfold KeepsContract at h
  rw [buffer, if_pos h.le, h, List.take_length]

end MsgType

namespace BtConnection

variable {M : Type*} [MsgType M]

/-- The buffer that `doSend` makes of the front of the queue. -/
def doSendBuffer (s : BtConnection M) : Option (List UInt8) :=
  s.messageQueue.head?.bind MsgType.buffer

/-- `doSend` starts to write the front of the queue, from its buffer. -/
lemma doSend_of_cons {s : BtConnection M} {msg : M} {rest : List M}
    (hq : s.messageQueue = msg :: rest) :
    s.doSend.writes = s.writes ++ [msg] ∧ s.doSendBuffer = MsgType.buffer msg := by
  simp [doSend, doSendBuffer, hq]

end BtConnection

namespace System

variable {M : Type*} [MsgType M] {s : System M} {es : List (Event M)}

/-- The outstanding write has been started with the buffer of the front of the queue. -/
lemma doSendBuffer_of_mem_writes (hrun : (system M).run es = .ok s) {msg : M}
    (hmsg : msg ∈ s.writes) : s.doSendBuffer = MsgType.buffer msg := by
  rw [BtConnection.doSendBuffer, (outboundInv_of_run hrun).head_of_mem_writes hmsg]
  rfl

/-- **If every message keeps the contract, then every write transmits its message as a whole.**
This holds of the writes that have succeeded and of the outstanding one, which has been started with
the buffer of the front of the queue. -/
theorem buffer_of_run (hrun : (system M).run es = .ok s)
    (hsent : ∀ msg ∈ s.sent, MsgType.KeepsContract msg) :
    (∀ msg ∈ s.written ++ s.writes, MsgType.buffer msg = some (MsgType.data msg)) ∧
      ∀ msg ∈ s.writes, s.doSendBuffer = some (MsgType.data msg) := by
  have hordered := (outboundInv_of_run hrun).transmitted_isPrefix
  have hwhole : ∀ msg ∈ s.written ++ s.writes, MsgType.buffer msg = some (MsgType.data msg) :=
    fun msg hmsg => (hsent msg (hordered.subset hmsg)).buffer_eq
  refine ⟨hwhole, ?_⟩
  intro msg hmsg
  rw [doSendBuffer_of_mem_writes hrun hmsg, hwhole msg (List.mem_append_right _ hmsg)]

end System

/-! ## Commands -/

namespace SpheroClientCommand

instance : MsgType SpheroClientCommand := ⟨packet, length⟩

/-- A command is written inside its vector after every `assemble`. -/
lemma buffer_assemble (c : SpheroClientCommand) :
    MsgType.buffer c.assemble = some c.assemble.sendBuffer := by
  have hle : c.assemble.length ≤ c.assemble.packet.length := by
    rw [assemble_length, assemble_packet, ← frame_eq, List.length_append, length_frame]
    exact Nat.le_add_left _ _
  exact if_pos hle

/-- It keeps the contract exactly if this is the first one. -/
lemma keepsContract_assemble_iff (c : SpheroClientCommand) :
    MsgType.KeepsContract c.assemble ↔ c.packet = [] := length_assemble_eq_iff c

end SpheroClientCommand

/-! ## Responses -/

namespace SpheroServerResponse

instance : MsgType SpheroServerResponse := ⟨packet, length⟩

/-- `length` counts one byte more than `assemble` appends. -/
lemma length_eq_succ (r : SpheroServerResponse) : r.length = r.frame.length + 1 := by
  rw [frame_eq, length_reported, length, dataLength]
  omega

/-- A response is written past the end of its vector after an `assemble` exactly if the vector was
empty. -/
lemma buffer_assemble_eq_none_iff (r : SpheroServerResponse) :
    MsgType.buffer r.assemble = none ↔ r.packet = [] := by
  rw [MsgType.buffer_eq_none_iff, ← List.length_eq_zero_iff]
  change r.assemble.packet.length < r.length ↔ _
  rw [assemble_packet, ← frame_eq, List.length_append, length_eq_succ]
  omega

end SpheroServerResponse

/-! ## Messages of both kinds -/

/-- `SpheroMessage`: an object of one of the two classes that are derived from it. -/
inductive SpheroMessage where
  /-- A `SpheroClientCommand`. -/
  | clientCommand (c : SpheroClientCommand)
  /-- A `SpheroServerResponse`. -/
  | serverResponse (r : SpheroServerResponse)
  deriving DecidableEq

namespace SpheroMessage

/-- `data`. -/
def data : SpheroMessage → SpheroPacket
  | .clientCommand c => c.packet
  | .serverResponse r => r.packet

/-- `length`. -/
def length : SpheroMessage → ℕ
  | .clientCommand c => c.length
  | .serverResponse r => r.length

/-- `assemble`. -/
def assemble : SpheroMessage → SpheroMessage
  | .clientCommand c => .clientCommand c.assemble
  | .serverResponse r => .serverResponse r.assemble

instance : MsgType SpheroMessage := ⟨data, length⟩

/-- Of all messages that have been assembled, only the responses that were empty before are written
past the end of their vectors. -/
lemma buffer_assemble_eq_none_iff (msg : SpheroMessage) :
    MsgType.buffer msg.assemble = none ↔ ∃ r, msg = .serverResponse r ∧ r.packet = [] := by
  cases msg with
  | clientCommand c =>
    have hbuffer : MsgType.buffer (clientCommand c).assemble = some c.assemble.sendBuffer :=
      c.buffer_assemble
    simp [hbuffer]
  | serverResponse r =>
    have hiff : MsgType.buffer (serverResponse r).assemble = none ↔ r.packet = [] :=
      r.buffer_assemble_eq_none_iff
    simp [hiff]

end SpheroMessage

/-! ## `length()` of a response -/

namespace SpheroServerResponse

/-- **The length of a response is never the length of its encoding.**  It is not the number of bytes
that `assemble` appends, whatever the fields are; if the response has been parsed from a complete
packet, it is not the length of this packet; and if the vector of the response was empty before an
`assemble`, then `doSend`, with the response at the front of the queue, starts a write whose buffer
does not lie inside the vector. -/
theorem length_ne_encoding (r : SpheroServerResponse) :
    r.length ≠ r.frame.length ∧
    (∀ (mem : SpheroServerResponse) (v : SpheroPacket),
      (ofPacket mem v).parseFromInternalData = some r → v.length = 5 + (v.getD 4 0).toNat →
        r.length ≠ v.length) ∧
    (r.packet = [] → ∀ (s : BtConnection SpheroMessage) (rest : List SpheroMessage),
      s.messageQueue = .serverResponse r.assemble :: rest →
        s.doSend.writes = s.writes ++ [.serverResponse r.assemble] ∧ s.doSendBuffer = none) := by
  have hsucc := r.length_eq_succ
  refine ⟨?_, ?_, ?_⟩
  · omega
  · intro mem v hparse hv
    rw [frame_eq, reported_of_parse hparse, ← hv, List.take_length] at hsucc
    omega
  · intro hempty s rest hq
    obtain ⟨hwrites, hbuffer⟩ := BtConnection.doSend_of_cons hq
    exact ⟨hwrites, hbuffer.trans (r.buffer_assemble_eq_none_iff.mpr hempty)⟩

/-- A default response, assembled once and sent: its vector has five bytes, and six are written. -/
theorem default_response_written_past_end :
    ∃ s, (system SpheroMessage).run [.connect true, .send (.serverResponse new.assemble),
        .runPosted] = .ok s ∧
      s.writes = [.serverResponse new.assemble] ∧ s.doSendBuffer = none ∧
      new.assemble.packet = [0xFF, 0xFC, 0x00, 0x00, 0x00] ∧ new.assemble.length = 6 ∧
      new.length ≠ new.frame.length :=
  ⟨_, rfl, rfl, rfl, rfl, rfl, by decide⟩

end SpheroServerResponse

end Btconn
