import SpheroBtconn.Packet.ServerResponse

/-!
# Responses that are parsed and assembled

A response keeps its raw bytes: `parseFromInternalData` reads the fields off the front of the
vector, and `assemble` appends the bytes of the fields to its end.  Parsing stays inside the vector
exactly if it begins with a frame, and then assembling appends this frame once more, so that it is
found again by a response that is built from nothing else.

A response that has been parsed is a fixed point of parsing (`Settled`), and remains one whatever is
appended to its vector.  This is the invariant of `runCalls`, which follows a response through any
calls of the two functions.
-/

namespace Btconn

namespace SpheroServerResponse

variable {mem r s : SpheroServerResponse} {v : SpheroPacket}

/-- The bytes that one call of `assemble` appends. -/
def frame (r : SpheroServerResponse) : SpheroPacket := r.assemble.packet.drop r.packet.length

lemma frame_eq (r : SpheroServerResponse) : r.frame = r.reported := by
  rw [frame, assemble_packet, List.drop_left]

/-- Whatever the fields are, they make up a frame. -/
lemma isFrame_reported (r : SpheroServerResponse) : responseFormat.IsFrame r.reported :=
  isFrame_responseFormat_iff.mpr r.length_reported

/-! ## Where the parser reads -/

/-- Parsing stays inside the vector exactly if it has all the bytes that its header announces. -/
lemma isSome_parse_iff : (ofPacket mem v).parseFromInternalData.isSome ↔
    5 + (v.getD 4 0).toNat ≤ v.length := by
  rw [Option.isSome_iff_exists]
  constructor
  · rintro ⟨r, hparse⟩
    exact (isFrame_and_isPrefix_iff.mp (exists_parse_iff.mp ⟨r, hparse, rfl⟩)).1
  · intro hle
    obtain ⟨r, hparse, -⟩ := exists_parse_iff.mpr (isFrame_and_isPrefix_iff.mpr ⟨hle, rfl⟩)
    exact ⟨r, hparse⟩

/-- What is reported is the front of the vector. -/
lemma reported_of_parse (h : (ofPacket mem v).parseFromInternalData = some r) :
    r.reported = v.take (5 + (v.getD 4 0).toNat) :=
  (isFrame_and_isPrefix_iff.mp (exists_parse_iff.mp ⟨r, h, rfl⟩)).2

/-- Parsing does not change the vector. -/
lemma packet_of_parse (h : r.parseFromInternalData = some s) : s.packet = r.packet := by
  obtain ⟨sop1, sop2, mrsp, seq, dlen, d, t, -, -, rfl⟩ := exists_of_parse h
  rfl

/-! ## What two responses have in common -/

/-- Both responses return the same from all accessors, `msgData` up to the data length. -/
structure SameReport (r s : SpheroServerResponse) : Prop where
  /-- `SOP2`. -/
  startOfPacket : s.startOfPacket = r.startOfPacket
  /-- `MRSP`. -/
  messageResponse : s.messageResponse = r.messageResponse
  /-- `SEQ`. -/
  sequenceNum : s.sequenceNum = r.sequenceNum
  /-- `DLEN`. -/
  dataLength : s.dataLength = r.dataLength
  /-- The first `DLEN` bytes of `DATA`. -/
  dataAt : ∀ i < r.dataLength.toNat, s.dataAt i = r.dataAt i

/-- The reported packet has all of this. -/
lemma sameReport_of_reported_eq (h : s.reported = r.reported) : SameReport r s := by
  obtain ⟨hheader, hpayload⟩ := List.append_inj h rfl
  simp only [List.cons.injEq, and_true] at hheader
  obtain ⟨-, hsop2, hmrsp, hseq, hdlen⟩ := hheader
  refine ⟨hsop2, hmrsp, hseq, hdlen, ?_⟩
  intro i hi
  have hbyte := congrArg (fun l => l[i]?) hpayload
  change s.payload[i]? = r.payload[i]? at hbyte
  have hi' : i < s.dlen.toNat := hdlen ▸ hi
  rw [getElem?_payload r hi, getElem?_payload s hi', Option.some.injEq] at hbyte
  exact hbyte

/-- A response that is built from any bytes that begin with what `r` reports is parsed to the same
report, whatever follows these bytes. -/
lemma exists_sameReport (r mem : SpheroServerResponse) (hv : r.reported <+: v) :
    ∃ s, (ofPacket mem v).parseFromInternalData = some s ∧ SameReport r s := by
  obtain ⟨s, hparse, hs⟩ := exists_parse_iff.mpr ⟨r.isFrame_reported, hv⟩
  exact ⟨s, hparse, sameReport_of_reported_eq hs⟩

/-! ## Calls in any order -/

/-- A call of one of the two functions. -/
inductive Call where
  /-- `parseFromInternalData()`. -/
  | parseFromInternalData
  /-- `assemble()`. -/
  | assemble
  deriving DecidableEq

/-- The response after a call, unless it reads outside the vector. -/
def apply (r : SpheroServerResponse) : Call → Option SpheroServerResponse
  | .parseFromInternalData => r.parseFromInternalData
  | .assemble => some r.assemble

/-- The response after a list of calls. -/
def runCalls (r : SpheroServerResponse) (calls : List Call) : Option SpheroServerResponse :=
  calls.foldlM apply r

lemma runCalls_cons {call : Call} (h : r.apply call = some s) (calls : List Call) :
    r.runCalls (call :: calls) = s.runCalls calls := by
  rw [runCalls, List.foldlM_cons, h]
  rfl

/-- The fields are what parsing finds in the vector. -/
def Settled (r : SpheroServerResponse) : Prop := r.parseFromInternalData = some r

/-- A parse stores the same again when it is repeated, also if bytes have been appended. -/
lemma settled_of_parse (h : r.parseFromInternalData = some s) (w : SpheroPacket) :
    Settled { s with packet := s.packet ++ w } := by
  obtain ⟨sop1, sop2, mrsp, seq, dlen, d, t, hv, hd, rfl⟩ := exists_of_parse h
  have hlt := dlen.toNat_lt
  have hagain := parse_ofPacket
    { r with
      sop1 := sop1, sop2 := sop2, mrsp := mrsp, seq := seq, dlen := dlen
      data := FixedBuffer.copyFront r.data d } sop1 sop2 mrsp seq dlen hd (t ++ w)
  have hcells := FixedBuffer.copyFront_copyFront r.data (by omega : d.length ≤ 256)
  simp only [ofPacket, hcells] at hagain
  simp only [Settled, hv, List.cons_append, List.append_assoc]
  exact hagain

namespace Settled

lemma append (h : r.Settled) (w : SpheroPacket) : Settled { r with packet := r.packet ++ w } :=
  settled_of_parse h w

/-- Assembling appends the reported packet and changes nothing else. -/
lemma assemble (h : r.Settled) : r.assemble.Settled := by
  have heq : r.assemble = { r with packet := r.packet ++ r.reported } := by
    rw [← assemble_packet]
    rfl
  rw [heq]
  exact h.append r.reported

/-- **No call changes a field.**  The vector grows by the reported packet with every `assemble`. -/
theorem runCalls (h : r.Settled) (calls : List Call) :
    r.runCalls calls = some { r with
      packet := r.packet ++ (List.replicate (calls.count .assemble) r.reported).flatten } := by
  induction calls generalizing r with
  | nil =>
    simp only [List.count_nil, List.replicate_zero, List.flatten_nil, List.append_nil]
    rfl
  | cons call calls ih =>
    cases call with
    | parseFromInternalData =>
      have hcall : r.apply .parseFromInternalData = some r := h
      rw [runCalls_cons hcall, ih h, List.count_cons_of_ne (by decide)]
    | assemble =>
      rw [runCalls_cons rfl, ih h.assemble, List.count_cons_self, List.replicate_succ,
        List.flatten_cons, ← List.append_assoc, assemble_packet]
      rfl

end Settled

/-! ## Parsing and assembling -/

/-- **Parsing and assembling are inverse to each other.**  Parsing a response that is built from
bytes `v` stays inside them if and only if `v` has five bytes and as many more as the fifth one
says.

If so, then assembling appends these bytes of `v` once more; a response that is built from the
appended bytes alone, or from any bytes that begin in the same way, is parsed to the same report;
and no further calls, in any number and order, change a field, while every `assemble` among them
appends the same bytes again. -/
theorem parse_assemble_roundTrip (mem : SpheroServerResponse) (v : SpheroPacket) :
    ((ofPacket mem v).parseFromInternalData.isSome ↔
      5 ≤ v.length ∧ 5 + (v.getD 4 0).toNat ≤ v.length) ∧
    ∀ r, (ofPacket mem v).parseFromInternalData = some r →
      r.assemble.packet = v ++ v.take (5 + (v.getD 4 0).toNat) ∧
      (∀ mem', ∃ s, (ofPacket mem' (r.assemble.packet.drop v.length)).parseFromInternalData =
        some s ∧ SameReport r s) ∧
      (∀ mem' v', v.take (5 + (v.getD 4 0).toNat) <+: v' →
        ∃ s, (ofPacket mem' v').parseFromInternalData = some s ∧ SameReport r s) ∧
      ∀ calls, r.runCalls calls = some { r with
        packet := v ++ (List.replicate (calls.count .assemble)
          (v.take (5 + (v.getD 4 0).toNat))).flatten } := by
  constructor
  · rw [isSome_parse_iff]
    omega
  · intro r hparse
    have hreport := reported_of_parse hparse
    have hvector : r.packet = v := packet_of_parse hparse
    have hsettled : r.Settled := by simpa using settled_of_parse hparse []
    have happended : r.assemble.packet.drop v.length = r.reported := by
      rw [← hvector, ← frame_eq, frame]
    refine ⟨?_, ?_, ?_, ?_⟩
    · rw [assemble_packet, hvector, hreport]
    · intro mem'
      rw [happended]
      exact r.exists_sameReport mem' List.prefix_rfl
    · intro mem' v' hv'
      exact r.exists_sameReport mem' (hreport ▸ hv')
    · intro calls
      rw [hsettled.runCalls, hvector, hreport]

/-- A packet with a byte behind it, parsed and assembled. -/
example : (ofPacket new [0xFF, 0xFF, 0x00, 0x01, 0x01, 0xFF, 0x2A]).parseFromInternalData.map
    (fun r => r.assemble.packet) = some [0xFF, 0xFF, 0x00, 0x01, 0x01, 0xFF, 0x2A,
      0xFF, 0xFF, 0x00, 0x01, 0x01, 0xFF] := rfl

end SpheroServerResponse

end Btconn
