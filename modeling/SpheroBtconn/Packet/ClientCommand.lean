import SpheroBtconn.Packet.ServerResponse
import SpheroBtconn.Foundation.ComplementSum

/-!
# Commands to the device

`SpheroClientCommand` of `SpheroPacketTypes.h`: the inherited vector, the fields of the class,
the setters, the checksum and `assemble`, which appends the bytes of the fields to the vector
one by one.  The loops of the source are folds over the indices they visit.

`frame` is what one call of `assemble` appends, `frame_eq` says that these are the bytes of the
fields in wire order, and `checksum_toNat` gives the last of them as arithmetic of natural
numbers.
-/

namespace Btconn

/-- The exception `std::out_of_range` with its text. -/
structure OutOfRange where
  /-- The text of the exception. -/
  what : String
  deriving DecidableEq

/-- A command: the inherited vector and the fields of the class. -/
@[ext]
structure SpheroClientCommand where
  /-- The inherited vector. -/
  packet : SpheroPacket
  /-- Start of packet 1. -/
  sop1 : UInt8
  /-- Start of packet 2: `111111RA`, with `R` to reset the timeout and `A` to ask for an answer. -/
  sop2 : UInt8
  /-- Device id. -/
  did : UInt8
  /-- Command id. -/
  cid : UInt8
  /-- Sequence number. -/
  seq : UInt8
  /-- Data segment length. -/
  dlen : UInt8
  /-- Data segment. -/
  data : List.Vector UInt8 256
  /-- Checksum. -/
  chksum : UInt8
  deriving DecidableEq

namespace SpheroClientCommand

/-- The default constructor. -/
def new : SpheroClientCommand where
  packet := []
  sop1 := 0xFF
  sop2 := 0xFE
  did := 0x00
  cid := 0x00
  seq := 0x00
  dlen := 0x01
  data := List.Vector.replicate 256 0
  chksum := 0x00

/-- The constructor `SpheroClientCommand(bool resetTimeout, bool answer)`. -/
def ofFlags (resetTimeout answer : Bool) : SpheroClientCommand :=
  let sop2 : UInt8 := 0xFC
  let sop2 := if resetTimeout then sop2 ||| 0x2 else sop2
  let sop2 := if answer then sop2 ||| 0x1 else sop2
  { packet := []
    sop1 := 0xFF
    sop2 := sop2
    did := 0x00
    cid := 0x00
    seq := 0x00
    dlen := 0x00
    data := List.Vector.replicate 256 0
    chksum := 0x00 }

/-- `startOfPacket`. -/
def startOfPacket (c : SpheroClientCommand) : UInt8 := c.sop2

/-- `deviceId`. -/
def deviceId (c : SpheroClientCommand) : UInt8 := c.did

/-- `commandId`. -/
def commandId (c : SpheroClientCommand) : UInt8 := c.cid

/-- `sequenceNum`. -/
def sequenceNum (c : SpheroClientCommand) : UInt8 := c.seq

/-- `dataLength`. -/
def dataLength (c : SpheroClientCommand) : UInt8 := c.dlen

/-- `msgData`. -/
def msgData (c : SpheroClientCommand) : List.Vector UInt8 256 := c.data

/-- `setDeviceId`. -/
def setDeviceId (c : SpheroClientCommand) (did : UInt8) : SpheroClientCommand :=
  { c with did := did }

/-- `setCommandId`. -/
def setCommandId (c : SpheroClientCommand) (cid : UInt8) : SpheroClientCommand :=
  { c with cid := cid }

/-- `setSeqNum`. -/
def setSeqNum (c : SpheroClientCommand) (seq : UInt8) : SpheroClientCommand :=
  { c with seq := seq }

/-- `setData`: copy the payload to the front of the data segment. -/
def setData (c : SpheroClientCommand) (payload : List UInt8) :
    Except OutOfRange SpheroClientCommand :=
  if payload.length > 255 then .error ⟨"Length of data must be < 256 bytes"⟩
  else .ok { c with
    data := FixedBuffer.copyFront c.data payload
    dlen := UInt8.ofNat payload.length }

/-- `DATA[i]`; the loops below only use it for `i < DLEN`, which is inside the array. -/
def dataAt (c : SpheroClientCommand) (i : ℕ) : UInt8 := c.data.toList.getD i 0

/-- The sum that `calculateChecksum` computes before reducing it. -/
def checksumSum (c : SpheroClientCommand) : UInt32 :=
  (List.range c.dlen.toNat).foldl (fun sum i => sum + (c.dataAt i).toUInt32)
    (c.did.toUInt32 + c.cid.toUInt32 + c.seq.toUInt32 + c.dlen.toUInt32 + 1)

/-- `calculateChecksum`: the returned byte, and the object with the byte stored in it. -/
def calculateChecksum (c : SpheroClientCommand) : UInt8 × SpheroClientCommand :=
  let mod : UInt32 := c.checksumSum % 256
  let mod := ~~~mod
  let chksum := mod.toUInt8
  (chksum, { c with chksum := chksum })

/-- `assemble`: append the bytes of the command to the vector. -/
def assemble (c : SpheroClientCommand) : SpheroClientCommand :=
  let dlen : UInt8 := c.dlen + 1
  let v := c.packet ++ [c.sop1] ++ [c.sop2] ++ [c.did] ++ [c.cid] ++ [c.seq] ++ [dlen]
  let v := (List.range c.dlen.toNat).foldl (fun v i => v ++ [c.dataAt i]) v
  let (chk, c) := c.calculateChecksum
  { c with packet := v ++ [chk] }

/-- `length`. -/
def length (c : SpheroClientCommand) : ℕ := 7 + c.dlen.toNat

/-- The first `length()` bytes of `data()`: the buffer that `doSend` passes on, as far as it lies
inside the vector. -/
def sendBuffer (c : SpheroClientCommand) : SpheroPacket := c.packet.take c.length

/-- The bytes that one call of `assemble` appends. -/
def frame (c : SpheroClientCommand) : SpheroPacket := c.assemble.packet.drop c.packet.length

/-- The payload: the data bytes in use. -/
def payload (c : SpheroClientCommand) : List UInt8 := c.data.toList.take c.dlen.toNat

/-- The frame that the fields describe: both start bytes, device id, command id, sequence number,
length byte, payload and checksum. -/
def fieldBytes (c : SpheroClientCommand) : SpheroPacket :=
  [c.sop1, c.sop2, c.did, c.cid, c.seq, c.dlen + 1] ++ c.payload ++ [c.calculateChecksum.1]

/-! ## The setters -/

/-- `setData` accepts exactly the payloads of at most 255 bytes. -/
lemma setData_of_le (c : SpheroClientCommand) {d : List UInt8} (hd : d.length ≤ 255) :
    c.setData d = .ok { c with
      data := FixedBuffer.copyFront c.data d, dlen := UInt8.ofNat d.length } := by
  rw [setData, if_neg (by omega)]

lemma setData_of_lt (c : SpheroClientCommand) {d : List UInt8} (hd : 255 < d.length) :
    c.setData d = .error ⟨"Length of data must be < 256 bytes"⟩ := by
  rw [setData, if_pos hd]

/-- An accepted payload is the payload of the command, and its length the stored length. -/
lemma payload_of_setData {c c' : SpheroClientCommand} {d : List UInt8}
    (h : c.setData d = .ok c') : c'.dlen.toNat = d.length ∧ c'.payload = d := by
  rcases Nat.lt_or_ge 255 d.length with hd | hd
  · simp [setData_of_lt c hd] at h
  · rw [setData_of_le c hd, Except.ok.injEq] at h
    subst h
    have hlen : (UInt8.ofNat d.length).toNat = d.length := by
      rw [UInt8.toNat_ofNat', Nat.mod_eq_of_lt (by omega)]
    refine ⟨hlen, ?_⟩
    rw [payload, hlen]
    exact FixedBuffer.take_copyFront c.data (by omega)

/-! ## What `assemble` appends -/

lemma length_payload (c : SpheroClientCommand) : c.payload.length = c.dlen.toNat := by
  have hlt := c.dlen.toNat_lt
  rw [payload, List.length_take, List.Vector.toList_length]
  omega

/-- The byte of the data segment at an index of the loops. -/
lemma take_succ_data (c : SpheroClientCommand) {i : ℕ} (hi : i < c.dlen.toNat) :
    c.data.toList.take (i + 1) = c.data.toList.take i ++ [c.dataAt i] := by
  have hlt : i < c.data.toList.length := by
    have hbyte := c.dlen.toNat_lt
    rw [List.Vector.toList_length]
    omega
  rw [List.take_add_one, dataAt, List.getD_eq_getElem?_getD, List.getElem?_eq_getElem hlt]
  rfl

/-- The loop of `assemble` appends the data bytes it visits. -/
lemma foldl_push_dataAt (c : SpheroClientCommand) (v : SpheroPacket) {n : ℕ}
    (hn : n ≤ c.dlen.toNat) :
    (List.range n).foldl (fun v i => v ++ [c.dataAt i]) v = v ++ c.data.toList.take n := by
  induction n with
  | zero => simp
  | succ n ih =>
    rw [List.range_succ, List.foldl_append, ih (Nat.le_of_succ_le hn), take_succ_data c hn]
    simp

/-- The loop of `calculateChecksum` adds the data bytes it visits, modulo 256. -/
lemma foldl_add_dataAt (c : SpheroClientCommand) (s : UInt32) {n : ℕ} (hn : n ≤ c.dlen.toNat) :
    ((List.range n).foldl (fun sum i => sum + (c.dataAt i).toUInt32) s).toNat % 256 =
      (s.toNat + ComplementSum.total UInt8.toNat (c.data.toList.take n)) % 256 := by
  induction n with
  | zero => simp
  | succ n ih =>
    have hprev := ih (Nat.le_of_succ_le hn)
    rw [List.range_succ, List.foldl_append, take_succ_data c hn]
    simp only [List.foldl_cons, List.foldl_nil, UInt32.toNat_add, UInt8.toNat_toUInt32,
      ComplementSum.total_append, ComplementSum.total_cons, ComplementSum.total_nil]
    omega

/-- The sum of the header fields and the length byte, before any reduction. -/
lemma checksumSum_toNat_mod (c : SpheroClientCommand) :
    c.checksumSum.toNat % 256 =
      ComplementSum.total UInt8.toNat ([c.did, c.cid, c.seq, c.dlen + 1] ++ c.payload) % 256 := by
  rw [checksumSum, foldl_add_dataAt c _ le_rfl]
  simp only [UInt32.toNat_add, UInt8.toNat_toUInt32, UInt8.toNat_add, payload,
    ComplementSum.total_append, ComplementSum.total_cons, ComplementSum.total_nil,
    UInt32.toNat_one, UInt8.toNat_one]
  omega

/-- The checksum is the complement of the sum of the bytes it covers, as they are on the wire. -/
lemma checksum_toNat (c : SpheroClientCommand) :
    c.calculateChecksum.1.toNat = 255 -
      ComplementSum.total UInt8.toNat ([c.did, c.cid, c.seq, c.dlen + 1] ++ c.payload) % 256 := by
  rw [← checksumSum_toNat_mod]
  simp only [calculateChecksum, UInt32.toNat_toUInt8, UInt32.toNat_not, UInt32.toNat_mod,
    UInt32.toNat_ofNat, UInt32.size, Nat.reducePow, Nat.reduceMod]
  have hmod : c.checksumSum.toNat % 256 < 256 := Nat.mod_lt _ (by decide)
  omega

/-- Assembling appends the bytes of the fields and does not touch what was there. -/
lemma assemble_packet (c : SpheroClientCommand) :
    c.assemble.packet = c.packet ++ c.fieldBytes := by
  simp only [assemble, calculateChecksum, foldl_push_dataAt c _ le_rfl, fieldBytes, payload]
  simp

/-- The frame, written out. -/
lemma frame_eq (c : SpheroClientCommand) : c.frame = c.fieldBytes := by
  rw [frame, assemble_packet, List.drop_left]

/-- The frame has seven bytes besides the payload, which is what `length` says. -/
lemma length_frame (c : SpheroClientCommand) : c.frame.length = c.length := by
  rw [frame_eq, fieldBytes, length]
  simp only [List.length_append, List.length_cons, List.length_nil, length_payload]
  omega

/-- Assembling changes the vector and the stored checksum only. -/
lemma assemble_length (c : SpheroClientCommand) : c.assemble.length = c.length := rfl

end SpheroClientCommand

end Btconn
