import SpheroBtconn.Packet.ClientCommand
import Mathlib.Data.List.Induction

/-!
# Commands with a history

A command object can be changed and assembled again before it is sent.  `runCalls` follows an
object through any list of calls of its setters and of `assemble`.  Since `assemble` appends to
the vector and never empties it, the vector is empty exactly as long as the object has not been
assembled (`packet_runCalls_eq_nil_iff`), and what a connection would transmit after a final
`assemble` is the frame of the current fields exactly if there was no earlier one.
-/

namespace Btconn

namespace SpheroClientCommand

/-- The constructors that initialise every field. -/
inductive Constructor where
  /-- The default constructor. -/
  | default
  /-- The constructor from the two flags. -/
  | flags (resetTimeout answer : Bool)
  deriving DecidableEq

/-- The object a constructor builds. -/
def Constructor.build : Constructor → SpheroClientCommand
  | .default => new
  | .flags resetTimeout answer => ofFlags resetTimeout answer

/-- A call of a member function that changes the object. -/
inductive Call where
  /-- `setDeviceId(did)`. -/
  | setDeviceId (did : UInt8)
  /-- `setCommandId(cid)`. -/
  | setCommandId (cid : UInt8)
  /-- `setSeqNum(seq)`. -/
  | setSeqNum (seq : UInt8)
  /-- `setData(payload, payload.size())`. -/
  | setData (payload : List UInt8)
  /-- `assemble()`. -/
  | assemble
  deriving DecidableEq

/-- The object after a call.  A `setData` that throws leaves the object as it was. -/
def apply (c : SpheroClientCommand) : Call → SpheroClientCommand
  | .setDeviceId did => c.setDeviceId did
  | .setCommandId cid => c.setCommandId cid
  | .setSeqNum seq => c.setSeqNum seq
  | .setData payload =>
    match c.setData payload with
    | .ok c' => c'
    | .error _ => c
  | .assemble => c.assemble

/-- The object after a list of calls. -/
def runCalls (c : SpheroClientCommand) (calls : List Call) : SpheroClientCommand :=
  calls.foldl apply c

lemma runCalls_concat (c : SpheroClientCommand) (calls : List Call) (call : Call) :
    c.runCalls (calls ++ [call]) = (c.runCalls calls).apply call := by
  simp [runCalls]

/-- A constructed object has an empty vector. -/
lemma packet_build (k : Constructor) : k.build.packet = [] := by
  cases k <;> rfl

/-- Only `assemble` changes the vector. -/
lemma packet_apply_of_ne {call : Call} (h : call ≠ .assemble) (c : SpheroClientCommand) :
    (c.apply call).packet = c.packet := by
  cases call with
  | setDeviceId did => rfl
  | setCommandId cid => rfl
  | setSeqNum seq => rfl
  | setData payload =>
    rcases Nat.lt_or_ge 255 payload.length with hd | hd
    · simp [apply, setData_of_lt c hd]
    · simp [apply, setData_of_le c hd]
  | assemble => exact absurd rfl h

/-- An assembled object has a vector that is not empty. -/
lemma packet_assemble_ne_nil (c : SpheroClientCommand) : c.assemble.packet ≠ [] := by
  simp [assemble_packet, fieldBytes]

/-- The vector is empty exactly as long as the object has not been assembled. -/
lemma packet_runCalls_eq_nil_iff (k : Constructor) (calls : List Call) :
    (k.build.runCalls calls).packet = [] ↔ .assemble ∉ calls := by
  induction calls using List.reverseRecOn with
  | nil => simp [runCalls, packet_build]
  | append_singleton calls call ih =>
    rw [runCalls_concat, List.mem_append, List.mem_singleton, not_or]
    by_cases hcall : call = .assemble
    · subst hcall
      constructor
      · intro h
        exact absurd h (packet_assemble_ne_nil _)
      · rintro ⟨_, h⟩
        exact absurd rfl h
    · rw [packet_apply_of_ne hcall, ih]
      exact ⟨fun h => ⟨h, Ne.symm hcall⟩, fun h => h.1⟩

/-- After an `assemble`, the vector is as long as `length` says exactly if it was empty. -/
lemma length_assemble_eq_iff (c : SpheroClientCommand) :
    c.assemble.length = c.assemble.packet.length ↔ c.packet = [] := by
  rw [assemble_length, assemble_packet, ← frame_eq, List.length_append, length_frame,
    ← List.length_eq_zero_iff]
  omega

/-- The bytes that are sent after the first `assemble` are the bytes of the fields. -/
lemma sendBuffer_assemble (c : SpheroClientCommand) (h : c.packet = []) :
    c.assemble.sendBuffer = c.fieldBytes := by
  rw [sendBuffer, assemble_length, assemble_packet, h, List.nil_append, ← length_frame, frame_eq,
    List.take_length]

/-- **What is transmitted is the current command exactly if it was assembled once.**  After any
calls that end with an `assemble`, `length` is the number of bytes in the vector and the first
`length` bytes of the vector are the bytes of the fields at that last `assemble`, if and only if
none of the calls before it was an `assemble`. -/
theorem sends_current_iff_assembled_once (k : Constructor) (calls : List Call) :
    ((k.build.runCalls (calls ++ [.assemble])).length =
        (k.build.runCalls (calls ++ [.assemble])).packet.length ∧
      (k.build.runCalls (calls ++ [.assemble])).sendBuffer =
        (k.build.runCalls calls).fieldBytes) ↔
      .assemble ∉ calls := by
  rw [runCalls_concat, ← packet_runCalls_eq_nil_iff k calls]
  constructor
  · rintro ⟨h, _⟩
    exact (length_assemble_eq_iff _).mp h
  · intro h
    exact ⟨(length_assemble_eq_iff _).mpr h, sendBuffer_assemble _ h⟩

/-- A command that is sent again with the next sequence number: its vector has become longer than
`length` says, and the bytes sent are not those of the current fields. -/
theorem resent_command_sends_old_frame :
    let calls : List Call := [.setCommandId 1, .setSeqNum 0, .assemble, .setSeqNum 1]
    let c := (ofFlags true true).runCalls calls
    let sent := (ofFlags true true).runCalls (calls ++ [.assemble])
    sent.length ≠ sent.packet.length ∧ sent.sendBuffer ≠ c.fieldBytes ∧
      sent.sendBuffer = [0xFF, 0xFF, 0x00, 0x01, 0x00, 0x01, 0xFD] := by
  decide

end SpheroClientCommand

end Btconn
