import SpheroBtconn.Handler.SpheroHandler

/-!
# Chunks that end too early

`readHandler` puts a chunk into an entry of 1024 bytes and does not keep its length, and the parser
takes the length of the data from the entry.  A chunk that ends before its packet does is therefore
parsed like any other: the bytes that have not arrived are read as zeros, header bytes as well as
data, and `readResponse` returns what they make up (`readResponse_of_chunk`).  The caller is told
nothing; a response is what the device has sent exactly if the chunk has all of its bytes.
-/

namespace Btconn

/-- The bytes of the packet that is reported for a chunk: those of the chunk from its first `0xFF`
on, and zeros behind its end. -/
lemma getElem?_framedPacket {chunk : List UInt8} {j : ℕ} (hj : j < (framedPacket chunk).length) :
    (framedPacket chunk)[j]? = some (chunk.getD (chunk.idxOf 0xFF + j) 0) := by
  unfold framedPacket at hj ⊢
  rw [List.length_take] at hj
  have hbyte := (((FirstOccurrence.fromFirst 0xFF chunk).rightpad 1024 0).getD 4 0).toNat_lt
  rw [List.getElem?_take_of_lt (by omega), PaddedList.getElem?_rightpad 0 (by omega),
    FirstOccurrence.fromFirst_eq_drop, List.getD_eq_getElem?_getD, List.getElem?_drop,
    List.getD_eq_getElem?_getD]

/-- The packet reported for a chunk has arrived exactly if the chunk has all of its bytes. -/
lemma framedPacket_isPrefix_iff {chunk : List UInt8} (hmem : 0xFF ∈ chunk) :
    framedPacket chunk <+: chunk.drop (chunk.idxOf 0xFF) ↔
      chunk.idxOf 0xFF + (framedPacket chunk).length ≤ chunk.length := by
  have hfirst := List.idxOf_lt_length_of_mem hmem
  constructor
  · intro hbegin
    have hle := hbegin.length_le
    rw [List.length_drop] at hle
    omega
  · intro hle
    rw [List.prefix_iff_eq_take]
    apply List.ext_getElem?
    intro j
    by_cases hj : j < (framedPacket chunk).length
    · rw [getElem?_framedPacket hj, List.getElem?_take_of_lt hj, List.getElem?_drop,
        List.getD_eq_getElem?_getD, List.getElem?_eq_getElem (by omega), Option.getD_some]
    · rw [List.getElem?_eq_none (by omega), List.getElem?_eq_none]
      rw [List.length_take, List.length_drop]
      omega

namespace SpheroHandler

/-- The entry of a chunk that has arrived is parsed as the packet at its first `0xFF`. -/
lemma exists_readResponse_of_chunk {es : List (Event SpheroClientCommand)}
    {s : System SpheroClientCommand} (hrun : (system SpheroClientCommand).run es = .ok s)
    (hconn : .connect true ∈ es) (hup : ∀ e ∈ es, e.stops = false) {chunk : List UInt8}
    (hlen : chunk.length ≤ 1024) (hmem : 0xFF ∈ chunk) (seqNum : UInt64)
    (mem : SpheroServerResponse) :
    ∃ s' h' r, (system SpheroClientCommand).run (es ++ [.readDone chunk]) = .ok s' ∧
      readResponse mem ⟨s'.toBtConnection, seqNum⟩ = (.returned (some r), h') ∧
      r.reported = framedPacket chunk := by
  have hc : s.connected = true := (System.connected_iff_of_run hrun).mpr hconn
  have hd : s.shuttingDown = false := System.not_shuttingDown_of_run hrun hup
  have hinv := System.inboundInv_of_run hrun
  obtain ⟨hio, hreads⟩ := hinv.reading hc hd
  have hcan : s.CanDeliver chunk := ⟨hio, by omega, List.length_pos_of_mem hmem, hlen⟩
  have hstep := hinv.step_readDone_of_mem hd hcan hmem
  obtain ⟨r, hread, hr⟩ := readResponse_of_concat
    (h := ⟨{ s.toBtConnection with readQueue := s.readQueue ++ [entryOf chunk] }, seqNum⟩) mem hc
    rfl hlen hmem
  exact ⟨_, _, r, (system SpheroClientCommand).run_concat_ok_iff.mpr ⟨s, hrun, hstep⟩, hread, hr⟩

/-- **A chunk gives a response, whether or not its packet has arrived.**  Take any run in which
`connect()` has succeeded and nothing has set `shutdown_`, and let a chunk with a `0xFF` arrive.
Then `readResponse` on its entry returns a response.  Each byte the response reports is the byte
that the chunk has at its place, counted from the first `0xFF`, or zero if the chunk ends before
it; and the response is a piece of the chunk if and only if the chunk has all of its bytes. -/
theorem readResponse_of_chunk {es : List (Event SpheroClientCommand)}
    {s : System SpheroClientCommand} (hrun : (system SpheroClientCommand).run es = .ok s)
    (hconn : .connect true ∈ es) (hup : ∀ e ∈ es, e.stops = false) {chunk : List UInt8}
    (hlen : chunk.length ≤ 1024) (hmem : 0xFF ∈ chunk) (seqNum : UInt64)
    (mem : SpheroServerResponse) :
    ∃ s' h' r, (system SpheroClientCommand).run (es ++ [.readDone chunk]) = .ok s' ∧
      readResponse mem ⟨s'.toBtConnection, seqNum⟩ = (.returned (some r), h') ∧
      r.reported.length = 5 + r.dataLength.toNat ∧
      (∀ j < 5 + r.dataLength.toNat,
        r.reported[j]? = some (chunk.getD (chunk.idxOf 0xFF + j) 0)) ∧
      (r.reported <+: chunk.drop (chunk.idxOf 0xFF) ↔
        chunk.idxOf 0xFF + 5 + r.dataLength.toNat ≤ chunk.length) := by
  obtain ⟨s', h', r, hrun', hread, hr⟩ :=
    exists_readResponse_of_chunk hrun hconn hup hlen hmem seqNum mem
  have hlength := r.length_reported
  refine ⟨s', h', r, hrun', hread, hlength, ?_, ?_⟩
  · intro j hj
    rw [← hlength, hr] at hj
    rw [hr, getElem?_framedPacket hj]
  · rw [hr, framedPacket_isPrefix_iff hmem, ← hr, hlength, Nat.add_assoc]

/-- A packet that has arrived as a whole, with a byte in front of it and one behind it. -/
theorem readResponse_of_whole_packet :
    ∃ s' h' r, (system SpheroClientCommand).run
        ([.connect true] ++ [.readDone [0x00, 0xFF, 0xFF, 0x00, 0x01, 0x01, 0x2A, 0xFF]]) = .ok s' ∧
      readResponse .new ⟨s'.toBtConnection, 0⟩ = (.returned (some r), h') ∧
      (r.reported <+: [0xFF, 0xFF, 0x00, 0x01, 0x01, 0x2A, 0xFF] ↔
        1 + 5 + r.dataLength.toNat ≤ 8) := by
  obtain ⟨s, hrun⟩ : ∃ s, (system SpheroClientCommand).run [.connect true] = .ok s := ⟨_, rfl⟩
  have hmem : (0xFF : UInt8) ∈ [0x00, 0xFF, 0xFF, 0x00, 0x01, 0x01, 0x2A, 0xFF] := by decide
  obtain ⟨s', h', r, hrun', hread, -, -, hwhole⟩ :=
    readResponse_of_chunk hrun (by decide) (by decide) (by decide) hmem 0 .new
  exact ⟨s', h', r, hrun', hread, hwhole⟩

/-- A chunk of four bytes: the length of the data is read behind its end. -/
theorem truncated_header_gives_response :
    ∃ s' h' r, (system SpheroClientCommand).run
        ([.connect true] ++ [.readDone [0xFF, 0xFF, 0x00, 0x01]]) = .ok s' ∧
      readResponse .new ⟨s'.toBtConnection, 0⟩ = (.returned (some r), h') ∧
      r.reported = [0xFF, 0xFF, 0x00, 0x01, 0x00] ∧
      ¬ 0 + 5 ≤ ([0xFF, 0xFF, 0x00, 0x01] : List UInt8).length := by
  obtain ⟨s, hrun⟩ : ∃ s, (system SpheroClientCommand).run [.connect true] = .ok s := ⟨_, rfl⟩
  have hmem : (0xFF : UInt8) ∈ [0xFF, 0xFF, 0x00, 0x01] := by decide
  obtain ⟨s', h', r, hrun', hread, hr⟩ :=
    exists_readResponse_of_chunk hrun (by decide) (by decide) (by decide) hmem 0 .new
  exact ⟨s', h', r, hrun', hread, hr, by decide⟩

end SpheroHandler

end Btconn
