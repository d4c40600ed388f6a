import SpheroBtconn.Connection.Hang
import SpheroBtconn.Handler.Pipeline
import SpheroBtconn.Packet.Numerical
import SpheroBtconn.Packet.ResponseText

/-!
# From the device to the caller

What the device has put into the data segment of an answer is what the caller gets out of the
response: the packet travels as a chunk, is queued as an entry of 1024 bytes, is parsed, and its data
are decoded, and none of this changes a number or a text that the device has written
(`values_arrive`).
-/

namespace Btconn

namespace SpheroServerResponse

variable {r : SpheroServerResponse} {p : SpheroPacket}

/-- The fields of a response, as bytes of the packet that it reports. -/
lemma fields_of_reported (h : r.reported = p) :
    p[2]? = some r.messageResponse ∧ p[3]? = some r.sequenceNum ∧
      p[4]? = some r.dataLength ∧ p.drop 5 = r.payload := by
  subst h
  exact ⟨rfl, rfl, rfl, rfl⟩

/-- A number is decoded where its bytes are. -/
lemma value_dataToNumerical {T : IntegerType} {i : ℕ} {v : ℤ} (hv : T.Holds v) {rest : List UInt8}
    (h : r.payload.drop i = T.bytes v ++ rest) : T.value (r.dataToNumerical T i) = v := by
  have hlength : (T.bytes v).length = T.size := BigEndian.length_bytes _ _
  have hwindow : r.window T.size i = T.bytes v := by
    rw [window, h, List.take_left' hlength]
  have hin : i + T.size ≤ r.dataLength.toNat := by
    have hpos := T.size_pos
    have hwhole := congrArg List.length h
    rw [List.length_drop, length_payload, List.length_append, hlength] at hwhole
    rw [dataLength]
    omega
  have hbits := r.toNat_dataToNumerical T i
  rw [if_pos hin, hwindow] at hbits
  have hvalue := T.value_modEq (r.dataToNumerical T i)
  rw [hbits] at hvalue
  exact IntegerType.eq_of_modEq (T.holds_value _) hv (hvalue.trans (T.value_bytes_modEq v))

/-- A text at the start of the data is copied. -/
lemma dataToString_of_isPrefix {text : List UInt8} (h : text <+: r.payload) :
    r.dataToString 0 text.length = some text := by
  rw [dataToString_zero, ← List.prefix_iff_eq_take.mp h]

end SpheroServerResponse

namespace Pipeline

variable {s : Pipeline} {es : List PipelineEvent}

/-- The entry at the back of the queue is the one of an answer. -/
lemma PipelineInv.exists_answer_of_concat (h : PipelineInv s) {queue : List RawData}
    {entry : RawData} (hqueue : s.readQueue = queue ++ [entry]) :
    ∃ a ∈ s.answers, entry = entryOf a.2 := by
  obtain ⟨gs, hgs⟩ := h.exists_run
  obtain ⟨out, stack, hstack, -, hentries⟩ := System.exists_stackHistory_of_run hgs
  obtain ⟨below, i, rfl, -, htop⟩ := System.exists_top hstack rfl (hqueue ▸ hentries)
  have hi : i < s.received.length := hstack.isStackOrder.lt_of_mem_stack (by simp)
  obtain ⟨k, p, cmd, hanswer, -, -⟩ := h.exists_command hi
  have hchunk := h.getElem?_received hi
  rw [hanswer] at hchunk
  rw [entriesAt_singleton hchunk] at htop
  exact ⟨(k, p), List.mem_of_getElem? hanswer, (List.singleton_inj.mp htop).symm⟩

/-- **What the device writes is what the caller reads.**  In every run, whenever there is an entry in
the queue, `readResponse` returns a response and removes one entry.  The response is an answer of the
device to a command that has been issued: it has the number of the command modulo 256 as sequence
number, the status and the data of the answer; every number that the device has written into the
data, with the most significant byte first, is found at its place by `dataToNumerical`, whatever its
type and value; and every text at the start of the data is found by `dataToString`. -/
theorem values_arrive (hrun : pipeline.run es = .ok s) (hqueue : s.readQueue ≠ [])
    (mem : SpheroServerResponse) :
    ∃ r k p, s.handler.readResponse mem = (.returned (some r), { s.handler with
        spheroConn := { s.toBtConnection with readQueue := s.readQueue.dropLast } }) ∧
      (k, p) ∈ s.answers ∧ k < s.issued.length ∧
      r.sequenceNum = UInt8.ofNat (k % 256) ∧ p[2]? = some r.messageResponse ∧
      p[4]? = some r.dataLength ∧ r.payload = p.drop 5 ∧
      (∀ (T : IntegerType) (v : ℤ) (i : ℕ) (rest : List UInt8), T.Holds v →
        p.drop (5 + i) = T.bytes v ++ rest → T.value (r.dataToNumerical T i) = v) ∧
      ∀ text, text <+: p.drop 5 → r.dataToString 0 text.length = some text := by
  have hinv := pipelineInv_of_run hrun
  obtain ⟨gs, hgs⟩ := hinv.exists_run
  have hconn : s.connected = true := by
    by_contra hc
    exact hqueue (System.readQueue_of_not_connected hgs (by simpa using hc))
  have hback := (List.dropLast_append_getLast hqueue).symm
  obtain ⟨⟨k, p⟩, hanswer, hentry⟩ := hinv.exists_answer_of_concat hback
  obtain ⟨hp, hk, hseq⟩ := hinv.echoed _ hanswer
  rw [hentry] at hback
  obtain ⟨r, hread, hreported⟩ := SpheroHandler.readResponse_of_concat (h := s.handler) mem hconn
    hback (hp.length_le.trans (by decide)) hp.mem_start
  rw [framedPacket_of_isResponsePacket hp] at hreported
  obtain ⟨hstatus, hnumber, hlength, hdata⟩ := SpheroServerResponse.fields_of_reported hreported
  refine ⟨r, k, p, hread, hanswer, hinv.length_sent ▸ hk, Option.some.inj (hnumber.symm.trans hseq),
    hstatus, hlength, hdata.symm, ?_, ?_⟩
  · intro T v i rest hv hbytes
    have hplace : r.payload.drop i = T.bytes v ++ rest := by
      rw [← hdata, List.drop_drop, hbytes]
    exact SpheroServerResponse.value_dataToNumerical hv hplace
  · intro text htext
    exact SpheroServerResponse.dataToString_of_isPrefix (hdata ▸ htext)

/-- The device writes the number 10000 into the data of its answer. -/
theorem values_arrive_number :
    ∃ s, pipeline.run [.handler (.conn (.connect true)), .handler (.sendCommand ⟨0x00, 0x01⟩),
        .handler (.conn .runPosted), .answer 0 [0xFF, 0xFF, 0x00, 0x00, 0x02, 0x27, 0x10],
        .deliver] = .ok s ∧
      ∃ r t, s.handler.readResponse .new = (.returned (some r), t) ∧ t.spheroConn.readQueue = [] ∧
        IntegerType.uint16.value (r.dataToNumerical .uint16 0) = 10000 := by
  obtain ⟨s, hrun, hone, hanswers⟩ : ∃ s, pipeline.run [.handler (.conn (.connect true)),
      .handler (.sendCommand ⟨0x00, 0x01⟩), .handler (.conn .runPosted),
      .answer 0 [0xFF, 0xFF, 0x00, 0x00, 0x02, 0x27, 0x10], .deliver] = .ok s ∧
      s.readQueue.length = 1 ∧
      s.answers = [(0, [0xFF, 0xFF, 0x00, 0x00, 0x02, 0x27, 0x10])] := by
    set_option maxRecDepth 8000 in exact ⟨_, rfl, rfl, rfl⟩
  have hqueue : s.readQueue ≠ [] := List.ne_nil_of_length_eq_add_one hone
  obtain ⟨r, k, p, hread, hanswer, -, -, -, -, -, hnumbers, -⟩ := values_arrive hrun hqueue .new
  rw [hanswers, List.mem_singleton, Prod.mk.injEq] at hanswer
  obtain ⟨rfl, rfl⟩ := hanswer
  have hempty : s.readQueue.dropLast = [] :=
    List.length_eq_zero_iff.mp (by rw [List.length_dropLast, hone])
  exact ⟨s, hrun, r, _, hread, hempty, hnumbers .uint16 10000 0 [] (by decide) (by decide)⟩

end Pipeline

end Btconn
