import SpheroBtconn.Foundation.FixedBuffer
import SpheroBtconn.Foundation.FrameFormat
import Mathlib.Data.Vector.Basic

/-!
# Responses from the device

`SpheroServerResponse` of `SpheroPacketTypes.h`: a vector of raw bytes together with the fields
that `parseFromInternalData` reads off it.  The constructors that take bytes leave the fields
uninitialised, so they are modelled with one more argument, the contents of the memory in which
the object is built; what the source does with a response must not depend on it.

A *response packet* is `0xFF`, four header bytes, the last of which is the length of the data
segment, and the data segment.  The main lemma, `exists_parse_of_isPrefix`, says that parsing
any bytes that begin with a response packet stays inside them and reports that packet, whatever
follows it and whatever the memory held.
-/

namespace Btconn

/-- `SpheroPacket`: the raw bytes of a message. -/
abbrev SpheroPacket := List UInt8

/-- A response: the inherited vector and the fields of the class. -/
@[ext]
structure SpheroServerResponse where
  /-- The inherited vector. -/
  packet : SpheroPacket
  /-- Start of packet 1. -/
  sop1 : UInt8
  /-- Start of packet 2. -/
  sop2 : UInt8
  /-- Message response. -/
  mrsp : UInt8
  /-- Sequence number. -/
  seq : UInt8
  /-- Data segment length. -/
  dlen : UInt8
  /-- Data segment. -/
  data : List.Vector UInt8 256
  /-- Checksum; no function reads it. -/
  chksum : UInt8
  deriving DecidableEq

namespace SpheroServerResponse

/-- The default constructor. -/
def new : SpheroServerResponse where
  packet := []
  sop1 := 0xFF
  sop2 := 0xFC
  mrsp := 0x00
  seq := 0x00
  dlen := 0x00
  data := List.Vector.replicate 256 0
  chksum := 0x00

/-- The constructors from a pointer and a count and from an initializer list: only the vector is
initialised, the fields are what the memory `mem` happened to hold. -/
def ofPacket (mem : SpheroServerResponse) (v : SpheroPacket) : SpheroServerResponse :=
  { mem with packet := v }

/-- The constructor from a `std::array`. -/
def ofArray {n : ℕ} (mem : SpheroServerResponse) (init : List.Vector UInt8 n) :
    SpheroServerResponse :=
  ofPacket mem init.toList

/-- `parseFromInternalData`: read the fields off the vector.  The result is `none` if a byte
outside the vector is accessed. -/
def parseFromInternalData (r : SpheroServerResponse) : Option SpheroServerResponse := do
  let sop1 ← r.packet[0]?
  let sop2 ← r.packet[1]?
  let mrsp ← r.packet[2]?
  let seq ← r.packet[3]?
  let dlen ← r.packet[4]?
  -- `memcpy_s` reads `DLEN` bytes from position 5 on; at most 255, so `DATA` has room for them
  let src := (r.packet.drop 5).take dlen.toNat
  if src.length = dlen.toNat then
    some { r with
      sop1 := sop1, sop2 := sop2, mrsp := mrsp, seq := seq, dlen := dlen
      data := FixedBuffer.copyFront r.data src }
  else none

/-- `startOfPacket`. -/
def startOfPacket (r : SpheroServerResponse) : UInt8 := r.sop2

/-- `messageResponse`. -/
def messageResponse (r : SpheroServerResponse) : UInt8 := r.mrsp

/-- `sequenceNum`. -/
def sequenceNum (r : SpheroServerResponse) : UInt8 := r.seq

/-- `dataLength`. -/
def dataLength (r : SpheroServerResponse) : UInt8 := r.dlen

/-- `msgData`. -/
def msgData (r : SpheroServerResponse) : List.Vector UInt8 256 := r.data

/-- `assemble`: append the fields to the vector. -/
def assemble (r : SpheroServerResponse) : SpheroServerResponse :=
  { r with
    packet := (r.packet ++ [r.sop1, r.sop2, r.mrsp, r.seq, r.dlen]) ++
      r.data.toList.take r.dlen.toNat }

/-- `length`. -/
def length (r : SpheroServerResponse) : ℕ := 6 + r.dlen.toNat

/-- The packet that the fields of a response report. -/
def reported (r : SpheroServerResponse) : SpheroPacket :=
  [r.sop1, r.sop2, r.mrsp, r.seq, r.dlen] ++ r.data.toList.take r.dlen.toNat

/-- `msgData()[i]`; outside the array there is nothing, and no function below reads there. -/
def dataAt (r : SpheroServerResponse) (i : ℕ) : UInt8 := r.data.toList.getD i 0

/-- The data bytes in use. -/
def payload (r : SpheroServerResponse) : List UInt8 := r.data.toList.take r.dlen.toNat

@[simp] lemma length_payload (r : SpheroServerResponse) : r.payload.length = r.dlen.toNat := by
  have hlt := r.dlen.toNat_lt
  rw [payload, List.length_take, List.Vector.toList_length]
  omega

/-- The data byte at an index below the data length. -/
lemma getElem?_payload (r : SpheroServerResponse) {i : ℕ} (hi : i < r.dlen.toNat) :
    r.payload[i]? = some (r.dataAt i) := by
  have hlt := r.dlen.toNat_lt
  have hcell : i < r.data.toList.length := by
    rw [List.Vector.toList_length]
    omega
  rw [payload, List.getElem?_take_of_lt hi, dataAt, List.getD_eq_getElem?_getD,
    List.getElem?_eq_getElem hcell, Option.getD_some]

/-- Assembling appends the reported packet. -/
lemma assemble_packet (r : SpheroServerResponse) :
    r.assemble.packet = r.packet ++ r.reported := by
  simp [assemble, reported]

end SpheroServerResponse

/-! ## Response packets -/

/-- The format of responses: five header bytes, the last of which announces the data segment. -/
def responseFormat : FrameFormat UInt8 where
  header := 5
  body := fun h => (h.getD 4 0).toNat
  header_pos := by decide

/-- The length that the header of a vector announces is its fifth byte. -/
lemma responseFormat_body_take (v : SpheroPacket) :
    responseFormat.body (v.take responseFormat.header) = (v.getD 4 0).toNat := by
  change ((v.take 5).getD 4 0).toNat = (v.getD 4 0).toNat
  rw [List.getD_eq_getElem?_getD, List.getElem?_take_of_lt (by decide),
    List.getD_eq_getElem?_getD]

/-- A frame of responses is as long as its fifth byte says. -/
lemma isFrame_responseFormat_iff {p : SpheroPacket} :
    responseFormat.IsFrame p ↔ p.length = 5 + (p.getD 4 0).toNat := by
  rw [← responseFormat_body_take]
  exact Iff.rfl

/-- The frame of responses at the beginning of a vector. -/
lemma isFrame_and_isPrefix_iff {p v : SpheroPacket} : responseFormat.IsFrame p ∧ p <+: v ↔
    5 + (v.getD 4 0).toNat ≤ v.length ∧ p = v.take (5 + (v.getD 4 0).toNat) := by
  rw [FrameFormat.isFrame_and_isPrefix_iff, responseFormat_body_take]
  exact Iff.rfl

/-- The bytes of a frame of responses, one by one. -/
lemma exists_eq_of_isFrame {p : SpheroPacket} (h : responseFormat.IsFrame p) :
    ∃ sop1 sop2 mrsp seq dlen : UInt8, ∃ d : List UInt8,
      p = sop1 :: sop2 :: mrsp :: seq :: dlen :: d ∧ d.length = dlen.toNat := by
  have hlen := isFrame_responseFormat_iff.mp h
  match p, hlen with
  | sop1 :: sop2 :: mrsp :: seq :: dlen :: d, hlen =>
    refine ⟨sop1, sop2, mrsp, seq, dlen, d, rfl, ?_⟩
    simp only [List.length_cons, List.getD_cons_succ, List.getD_cons_zero] at hlen
    omega

/-- A well-formed response packet: it starts with `0xFF`, has at least five bytes, and exactly
as many data bytes as its fifth byte says. -/
def IsResponsePacket (p : SpheroPacket) : Prop :=
  p[0]? = some 0xFF ∧ 5 ≤ p.length ∧ p.length = 5 + (p.getD 4 0).toNat

instance (p : SpheroPacket) : Decidable (IsResponsePacket p) :=
  inferInstanceAs (Decidable (_ ∧ _))

namespace IsResponsePacket

variable {p : SpheroPacket}

/-- A response packet is a frame of the response format. -/
lemma isFrame (h : IsResponsePacket p) : responseFormat.IsFrame p :=
  isFrame_responseFormat_iff.mpr h.2.2

/-- A frame of responses that starts with `0xFF` is a response packet. -/
lemma of_isFrame (h : responseFormat.IsFrame p) (hstart : p[0]? = some 0xFF) :
    IsResponsePacket p :=
  ⟨hstart, h.header_le, isFrame_responseFormat_iff.mp h⟩

/-- The bytes of a response packet, one by one. -/
lemma exists_eq (h : IsResponsePacket p) :
    ∃ sop2 mrsp seq dlen : UInt8, ∃ d : List UInt8,
      p = 0xFF :: sop2 :: mrsp :: seq :: dlen :: d ∧ d.length = dlen.toNat := by
  obtain ⟨sop1, sop2, mrsp, seq, dlen, d, rfl, hd⟩ := exists_eq_of_isFrame h.isFrame
  have hsop1 : sop1 = 0xFF := by simpa using h.1
  subst hsop1
  exact ⟨sop2, mrsp, seq, dlen, d, rfl, hd⟩

/-- The data segment has at most 255 bytes. -/
lemma length_le (h : IsResponsePacket p) : p.length ≤ 260 := by
  have hbyte := (p.getD 4 0).toNat_lt
  have hlen := h.2.2
  omega

lemma ne_nil (h : IsResponsePacket p) : p ≠ [] := h.isFrame.ne_nil

lemma mem_start (h : IsResponsePacket p) : (0xFF : UInt8) ∈ p := by
  obtain ⟨sop2, mrsp, seq, dlen, d, rfl, _⟩ := h.exists_eq
  exact List.mem_cons_self

end IsResponsePacket

/-! ## Parsing -/

namespace SpheroServerResponse

/-- Parsing a vector that has all the bytes it announces. -/
lemma parse_ofPacket (mem : SpheroServerResponse) (sop1 sop2 mrsp seq dlen : UInt8)
    {d : List UInt8} (hd : d.length = dlen.toNat) (t : List UInt8) :
    (ofPacket mem (sop1 :: sop2 :: mrsp :: seq :: dlen :: (d ++ t))).parseFromInternalData =
      some { ofPacket mem (sop1 :: sop2 :: mrsp :: seq :: dlen :: (d ++ t)) with
        sop1 := sop1, sop2 := sop2, mrsp := mrsp, seq := seq, dlen := dlen
        data := FixedBuffer.copyFront mem.data d } := by
  simp [parseFromInternalData, ofPacket, ← hd]

/-- The data bytes that a parse has copied are found again in front of the data segment. -/
lemma take_copyFront_data (v : List.Vector UInt8 256) {d : List UInt8} {dlen : UInt8}
    (hd : d.length = dlen.toNat) : (FixedBuffer.copyFront v d).toList.take dlen.toNat = d := by
  have hlt := dlen.toNat_lt
  rw [← hd]
  exact FixedBuffer.take_copyFront v (by omega)

/-- What a parse that stays inside the vector has found there and stored. -/
lemma exists_of_parse {r s : SpheroServerResponse} (h : r.parseFromInternalData = some s) :
    ∃ sop1 sop2 mrsp seq dlen : UInt8, ∃ d t : List UInt8,
      r.packet = sop1 :: sop2 :: mrsp :: seq :: dlen :: (d ++ t) ∧ d.length = dlen.toNat ∧
        s = { r with
          sop1 := sop1, sop2 := sop2, mrsp := mrsp, seq := seq, dlen := dlen
          data := FixedBuffer.copyFront r.data d } := by
  simp only [parseFromInternalData, Option.bind_eq_bind, Option.bind_eq_some_iff] at h
  obtain ⟨sop1, h0, sop2, h1, mrsp, h2, seq, h3, dlen, h4, hcopy⟩ := h
  split_ifs at hcopy with hlen
  refine ⟨sop1, sop2, mrsp, seq, dlen, (r.packet.drop 5).take dlen.toNat,
    (r.packet.drop 5).drop dlen.toNat, ?_, hlen, (Option.some.inj hcopy).symm⟩
  rw [List.take_append_drop]
  match hv : r.packet, h0, h1, h2, h3, h4 with
  | _ :: _ :: _ :: _ :: _ :: _, rfl, rfl, rfl, rfl, rfl => rfl

/-- **Parsing reads a frame.**  A parse stays inside the vector and reports `p` if and only if `p`
is a frame and the vector begins with it. -/
theorem exists_parse_iff {mem : SpheroServerResponse} {p v : SpheroPacket} :
    (∃ r, (ofPacket mem v).parseFromInternalData = some r ∧ r.reported = p) ↔
      responseFormat.IsFrame p ∧ p <+: v := by
  constructor
  · rintro ⟨r, hparse, rfl⟩
    obtain ⟨sop1, sop2, mrsp, seq, dlen, d, t, hv, hd, rfl⟩ := exists_of_parse hparse
    have hv' : v = sop1 :: sop2 :: mrsp :: seq :: dlen :: (d ++ t) := hv
    simp only [reported, ofPacket, take_copyFront_data mem.data hd]
    constructor
    · rw [isFrame_responseFormat_iff]
      simp only [List.length_append, List.length_cons, List.length_nil, hd]
      rfl
    · rw [hv']
      exact List.prefix_append ([sop1, sop2, mrsp, seq, dlen] ++ d) t
  · rintro ⟨hp, t, rfl⟩
    obtain ⟨sop1, sop2, mrsp, seq, dlen, d, rfl, hd⟩ := exists_eq_of_isFrame hp
    refine ⟨_, parse_ofPacket mem sop1 sop2 mrsp seq dlen hd t, ?_⟩
    simp only [reported, take_copyFront_data mem.data hd]
    rfl

/-- Bytes that begin with a response packet are parsed inside their bounds, and the parse
reports exactly that packet. -/
theorem exists_parse_of_isPrefix (mem : SpheroServerResponse) {p v : SpheroPacket}
    (hp : IsResponsePacket p) (hv : p <+: v) :
    ∃ r, (ofPacket mem v).parseFromInternalData = some r ∧ r.reported = p :=
  exists_parse_iff.mpr ⟨hp.isFrame, hv⟩

/-- A reported packet has five header bytes and the data that the last of them announces. -/
lemma length_reported (r : SpheroServerResponse) :
    r.reported.length = 5 + r.dataLength.toNat := by
  have hdata : r.reported.length = 5 + r.payload.length := by
    unfold reported payload
    rw [List.length_append]
    rfl
  rw [hdata, length_payload]
  rfl

/-- The fields of a response are the bytes of the packet it reports. -/
lemma getElem?_reported (r : SpheroServerResponse) :
    r.reported[1]? = some r.startOfPacket ∧ r.reported[2]? = some r.messageResponse ∧
      r.reported[3]? = some r.sequenceNum ∧ r.reported[4]? = some r.dataLength ∧
      r.reported.drop 5 = r.msgData.toList.take r.dataLength.toNat :=
  ⟨rfl, rfl, rfl, rfl, rfl⟩

end SpheroServerResponse

end Btconn
