import SpheroBtconn.Connection.SendBuffer
import SpheroBtconn.Packet.CommandFrame

/-!
# Commands that are changed after they have been assembled

The vector of a command holds the frames that have been assembled so far, back to back and as the
fields were at the time (`frames_of_history`).  Their start bytes never change: the flags are set by
the constructor and there is no setter for them.  A write transmits as many bytes from the front of
the vector as `length()` says at the time of the write, so what is sent again is the first frame, if
the payload is as long as it was then, and a part of the vector or more than the vector otherwise
(`resends_first_frame_iff`).
-/

namespace Btconn

/-- The bytes at the front of a message are written exactly if `length()` counts them. -/
lemma MsgType.buffer_eq_some_iff {M : Type*} [MsgType M] {msg : M} {f more : List UInt8}
    (h : MsgType.data msg = f ++ more) :
    MsgType.buffer msg = some f ↔ MsgType.length msg = f.length := by
  unfold MsgType.buffer
  rw [h, List.length_append]
  constructor
  · intro hbuffer
    split_ifs at hbuffer with hle
    have hlength := congrArg List.length (Option.some.inj hbuffer)
    rw [List.length_take, List.length_append] at hlength
    omega
  · intro hlength
    rw [if_pos (by omega), List.take_left' hlength.symm]

namespace SpheroClientCommand

/-! ## The constructors -/

/-- The default constructor of `SpheroAsyncClientCommand`. -/
def Constructor.async : Constructor := .flags true false

/-- The constructor `SpheroAsyncClientCommand(bool resetTimeout)`. -/
def Constructor.asyncFlag (resetTimeout : Bool) : Constructor := .flags resetTimeout false

/-- The command asks the device to reset its timeout.  The default constructor has no arguments; it
sets the second start byte to `0xFE`, in which the bit of this flag is set. -/
def Constructor.resetTimeout : Constructor → Bool
  | .default => true
  | .flags resetTimeout _ => resetTimeout

/-- The command asks for an answer.  In the start byte `0xFE` of the default constructor the bit of
this flag is clear. -/
def Constructor.answer : Constructor → Bool
  | .default => false
  | .flags _ answer => answer

/-- The start bytes that announce the two flags. -/
def AnnouncesFlags (f : SpheroPacket) (resetTimeout answer : Bool) : Prop :=
  ∃ sop2, f.take 2 = [0xFF, sop2] ∧ sop2 &&& 0xFC = 0xFC ∧
    (sop2 &&& 0x2 = 0x2 ↔ resetTimeout = true) ∧ (sop2 &&& 0x1 = 0x1 ↔ answer = true)

variable {c : SpheroClientCommand} {calls : List Call}

/-- A frame begins with the start bytes of its object. -/
lemma take_two_frame (c : SpheroClientCommand) : c.frame.take 2 = [c.sop1, c.sop2] := by
  rw [frame_eq]
  rfl

/-- A constructed object announces the flags of its constructor. -/
lemma announcesFlags_build (k : Constructor) :
    AnnouncesFlags k.build.frame k.resetTimeout k.answer := by
  rw [AnnouncesFlags, take_two_frame]
  cases k with
  | default => exact ⟨0xFE, rfl, rfl, by decide, by decide⟩
  | flags resetTimeout answer =>
    refine ⟨(ofFlags resetTimeout answer).sop2, rfl, ?_⟩
    cases resetTimeout <;> cases answer <;> decide

/-- No call changes the start bytes. -/
lemma take_two_frame_apply (c : SpheroClientCommand) (call : Call) :
    (c.apply call).frame.take 2 = c.frame.take 2 := by
  rw [take_two_frame, take_two_frame]
  cases call with
  | setData payload =>
    rcases Nat.lt_or_ge 255 payload.length with hd | hd
    · simp [apply, setData_of_lt c hd]
    · simp [apply, setData_of_le c hd]
  | _ => rfl

/-! ## The frames of a history -/

/-- The frames that the calls of a history assemble, in order. -/
def assembledFrames (c : SpheroClientCommand) : List Call → List SpheroPacket
  | [] => []
  | call :: calls =>
    (if call = .assemble then [c.frame] else []) ++ (c.apply call).assembledFrames calls

lemma runCalls_cons (c : SpheroClientCommand) (call : Call) (calls : List Call) :
    c.runCalls (call :: calls) = (c.apply call).runCalls calls := rfl

lemma runCalls_append (c : SpheroClientCommand) (calls more : List Call) :
    c.runCalls (calls ++ more) = (c.runCalls calls).runCalls more := List.foldl_append

/-- Assembling appends a frame. -/
lemma packet_assemble (c : SpheroClientCommand) : c.assemble.packet = c.packet ++ c.frame := by
  rw [assemble_packet, frame_eq]

/-- The frames of a history stand behind what the vector held before. -/
lemma packet_runCalls (c : SpheroClientCommand) (calls : List Call) :
    (c.runCalls calls).packet = c.packet ++ (c.assembledFrames calls).flatten := by
  induction calls generalizing c with
  | nil => simp [runCalls, assembledFrames]
  | cons call calls ih =>
    rw [runCalls_cons, ih, assembledFrames, List.flatten_append, ← List.append_assoc]
    by_cases hcall : call = .assemble
    · subst hcall
      rw [apply, packet_assemble]
      simp
    · rw [packet_apply_of_ne hcall, if_neg hcall]
      simp

lemma length_assembledFrames (c : SpheroClientCommand) (calls : List Call) :
    (c.assembledFrames calls).length = calls.count .assemble := by
  induction calls generalizing c with
  | nil => rfl
  | cons call calls ih =>
    rw [assembledFrames, List.length_append, ih, List.count_cons]
    by_cases hcall : call = .assemble
    · simp [hcall, Nat.add_comm]
    · simp [hcall]

/-- Each frame is the one of the fields at its time, with the start bytes that the object has had
all along. -/
lemma exists_of_mem_assembledFrames {f : SpheroPacket} (hf : f ∈ c.assembledFrames calls) :
    ∃ before after, calls = before ++ .assemble :: after ∧ f = (c.runCalls before).frame ∧
      f.take 2 = c.frame.take 2 := by
  induction calls generalizing c with
  | nil => cases hf
  | cons call calls ih =>
    rcases List.mem_append.mp hf with hnow | hlater
    · split_ifs at hnow with hcall
      · obtain rfl := List.mem_singleton.mp hnow
        exact ⟨[], calls, by rw [hcall, List.nil_append], rfl, rfl⟩
      · cases hnow
    · obtain ⟨before, after, rfl, hframe, htwo⟩ := ih hlater
      exact ⟨call :: before, after, rfl, hframe, htwo.trans (take_two_frame_apply c call)⟩

/-- Every frame announces the flags of the constructor. -/
lemma announcesFlags_of_mem (k : Constructor) {f : SpheroPacket}
    (hf : f ∈ k.build.assembledFrames calls) : AnnouncesFlags f k.resetTimeout k.answer := by
  obtain ⟨before, after, -, -, htwo⟩ := exists_of_mem_assembledFrames hf
  rw [AnnouncesFlags, htwo]
  exact announcesFlags_build k

/-- No frame of an asynchronous command asks for an answer. -/
lemma announcesFlags_of_async {k : Constructor} (hk : k = .async ∨ ∃ r, k = .asyncFlag r)
    {f : SpheroPacket} (hf : f ∈ k.build.assembledFrames calls) :
    AnnouncesFlags f k.resetTimeout false := by
  have hflags := announcesFlags_of_mem k hf
  rcases hk with rfl | ⟨r, rfl⟩
  · exact hflags
  · exact hflags

/-- **The vector of a command is its history.**  After any calls on a constructed object its vector
consists of one frame for each call of `assemble`, in order.  Each of them is the frame of the
fields at its time, obeys the checksum law, and announces the flags of the constructor; so no frame of
an asynchronous command asks for an answer. -/
theorem frames_of_history (k : Constructor) (calls : List Call) :
    (k.build.runCalls calls).packet = (k.build.assembledFrames calls).flatten ∧
      (k.build.assembledFrames calls).length = calls.count .assemble ∧
      ∀ f ∈ k.build.assembledFrames calls,
        (∃ before after, calls = before ++ .assemble :: after ∧
          f = (k.build.runCalls before).fieldBytes) ∧
        ChecksumLaw f ∧ AnnouncesFlags f k.resetTimeout k.answer ∧
        (k = .async ∨ (∃ r, k = .asyncFlag r) → AnnouncesFlags f k.resetTimeout false) := by
  refine ⟨?_, length_assembledFrames _ _, ?_⟩
  · rw [packet_runCalls, packet_build, List.nil_append]
  · intro f hf
    have hflags := announcesFlags_of_mem k hf
    have hasync : k = .async ∨ (∃ r, k = .asyncFlag r) → AnnouncesFlags f k.resetTimeout false :=
      fun hk => announcesFlags_of_async hk hf
    obtain ⟨before, after, hcalls, rfl, -⟩ := exists_of_mem_assembledFrames hf
    exact ⟨⟨before, after, hcalls, frame_eq _⟩, checksumLaw_frame _, hflags, hasync⟩

/-! ## Sending again -/

/-- **What is sent after further calls.**  Let a constructed object be assembled for the first time,
and then be changed and assembled again in any way.  A write of it transmits its first frame, and
nothing else, if and only if the payload is now as long as it was then; and it reads behind the end
of the vector if and only if the payload has become longer than all that has been assembled. -/
theorem resends_first_frame_iff (k : Constructor) {before : List Call}
    (hfirst : .assemble ∉ before) (after : List Call) :
    (MsgType.buffer (k.build.runCalls (before ++ .assemble :: after)) =
        some (k.build.runCalls before).fieldBytes ↔
      (k.build.runCalls (before ++ .assemble :: after)).dataLength =
        (k.build.runCalls before).dataLength) ∧
    (MsgType.buffer (k.build.runCalls (before ++ .assemble :: after)) = none ↔
      ((k.build.assembledFrames (before ++ .assemble :: after)).map List.length).sum <
        7 + (k.build.runCalls (before ++ .assemble :: after)).dataLength.toNat) := by
  have hempty : (k.build.runCalls before).packet = [] :=
    (packet_runCalls_eq_nil_iff k before).mpr hfirst
  have hpacket : MsgType.data (k.build.runCalls (before ++ .assemble :: after)) =
      (k.build.runCalls before).frame ++
        ((k.build.runCalls before).assemble.assembledFrames after).flatten := by
    change SpheroClientCommand.packet _ = _
    rw [runCalls_append, runCalls_cons, packet_runCalls, apply, packet_assemble, hempty,
      List.nil_append]
  constructor
  · rw [← frame_eq, MsgType.buffer_eq_some_iff hpacket, length_frame]
    change 7 + _ = 7 + _ ↔ _
    rw [Nat.add_left_cancel_iff, UInt8.toNat_inj]
    rfl
  · rw [MsgType.buffer_eq_none_iff, ← List.length_flatten]
    change (SpheroClientCommand.packet _).length < 7 + _ ↔ _
    rw [packet_runCalls, packet_build, List.nil_append]
    rfl

/-- A payload of one byte where there was none: the write reads one byte behind the vector. -/
theorem resends_first_frame_longer :
    MsgType.buffer ((ofFlags true true).runCalls [.assemble, .setData [7]]) = none := by
  have hfirst : Call.assemble ∉ ([] : List Call) := List.not_mem_nil
  exact (resends_first_frame_iff (.flags true true) hfirst [.setData [7]]).2.mpr (by decide)

end SpheroClientCommand

end Btconn
