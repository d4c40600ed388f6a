import SpheroBtconn.Handler.SpheroHandler

/-!
# Chunks and responses

The device sends a stream of response packets, and the socket delivers the stream in chunks.
Nothing on the receive path puts a packet together again that has been cut, or takes a second
packet from a chunk: `readHandler` treats every chunk as the beginning of one response.  So the
responses are determined by the chunks and not by the stream, one response for every chunk
(`responses_of_chunks`); they are the packets that were sent if every packet arrives in a chunk of
its own.
-/

namespace Btconn

namespace SpheroHandler

/-- Chunks with a `0xFF`, delivered to a connection whose read queue is empty: reading until the
queue is empty reports one packet for every chunk, the last one first. -/
lemma exists_responses_of_chunks {es : List (Event SpheroClientCommand)}
    {s : System SpheroClientCommand} (hrun : (system SpheroClientCommand).run es = .ok s)
    (hconn : .connect true ∈ es) (hup : ∀ e ∈ es, e.stops = false) (hempty : s.readQueue = [])
    {cs : List (List UInt8)} (hcs : ∀ c ∈ cs, c.length ≤ 1024 ∧ 0xFF ∈ c)
    (seqNum : UInt64) (mem : ℕ → SpheroServerResponse) {n : ℕ} (hn : cs.length ≤ n) :
    ∃ s', ∃ rs : List SpheroServerResponse,
      (system SpheroClientCommand).run (es ++ cs.map .readDone) = .ok s' ∧
      readResponses mem n ⟨s'.toBtConnection, seqNum⟩ = rs.map some ∧
      rs.map SpheroServerResponse.reported = cs.reverse.map framedPacket := by
  have hc : s.connected = true := (System.connected_iff_of_run hrun).mpr hconn
  have hd : s.shuttingDown = false := System.not_shuttingDown_of_run hrun hup
  have hdeliver := (System.inboundInv_of_run hrun).runFrom_chunks hc hd hcs
  rw [hempty, List.nil_append] at hdeliver
  obtain ⟨rs, hread, hrs⟩ := readResponses_eq
    (h := ⟨{ s.toBtConnection with readQueue := cs.map entryOf }, seqNum⟩) mem hc rfl hcs hn
  exact ⟨_, rs, ((system SpheroClientCommand).run_append_of_ok hrun _).trans hdeliver, hread, hrs⟩

/-- **One response for every chunk.**  Let chunks with a `0xFF` be delivered to a connection whose
read queue is empty, and then call `readResponse` until the queue is empty.  The responses are, in
some order, the packets that begin at the first `0xFF` of each chunk, continued with zeros behind
the end of the chunk.  If every chunk is one response packet, they are exactly these packets: none
is lost, duplicated, truncated or invented. -/
theorem responses_of_chunks {es : List (Event SpheroClientCommand)}
    {s : System SpheroClientCommand} (hrun : (system SpheroClientCommand).run es = .ok s)
    (hconn : .connect true ∈ es) (hup : ∀ e ∈ es, e.stops = false) (hempty : s.readQueue = [])
    {cs : List (List UInt8)} (hcs : ∀ c ∈ cs, c.length ≤ 1024 ∧ 0xFF ∈ c)
    (seqNum : UInt64) (mem : ℕ → SpheroServerResponse) {n : ℕ} (hn : cs.length ≤ n) :
    ∃ s', ∃ rs : List SpheroServerResponse,
      (system SpheroClientCommand).run (es ++ cs.map .readDone) = .ok s' ∧
      readResponses mem n ⟨s'.toBtConnection, seqNum⟩ = rs.map some ∧
      (rs.map SpheroServerResponse.reported).Perm (cs.map framedPacket) ∧
      ((∀ c ∈ cs, IsResponsePacket c) → (rs.map SpheroServerResponse.reported).Perm cs) := by
  obtain ⟨s', rs, hrun', hread, hrs⟩ :=
    exists_responses_of_chunks hrun hconn hup hempty hcs seqNum mem hn
  have hperm : (rs.map SpheroServerResponse.reported).Perm (cs.map framedPacket) := by
    rw [hrs]
    exact (List.reverse_perm cs).map framedPacket
  refine ⟨s', rs, hrun', hread, hperm, ?_⟩
  intro hps
  have hsame : cs.map framedPacket = cs := by
    conv_rhs => rw [← List.map_id cs]
    exact List.map_congr_left fun c hc => framedPacket_of_isResponsePacket (hps c hc)
  rwa [hsame] at hperm

/-- Two packets in two chunks. -/
theorem responses_of_two_chunks :
    ∃ s', ∃ rs : List SpheroServerResponse, (system SpheroClientCommand).run ([.connect true] ++
        [[0xFF, 0xFF, 0x00, 0x01, 0x00], [0xFF, 0xFF, 0x00, 0x02, 0x01, 0xFF]].map .readDone) =
          .ok s' ∧
      readResponses (fun _ => .new) 2 ⟨s'.toBtConnection, 0⟩ = rs.map some ∧
      (rs.map SpheroServerResponse.reported).Perm
        [[0xFF, 0xFF, 0x00, 0x01, 0x00], [0xFF, 0xFF, 0x00, 0x02, 0x01, 0xFF]] := by
  obtain ⟨s, hrun, hempty⟩ : ∃ s, (system SpheroClientCommand).run [.connect true] = .ok s ∧
      s.readQueue = [] := ⟨_, rfl, rfl⟩
  have hcs : ∀ c ∈ ([[0xFF, 0xFF, 0x00, 0x01, 0x00], [0xFF, 0xFF, 0x00, 0x02, 0x01, 0xFF]] :
      List (List UInt8)), c.length ≤ 1024 ∧ 0xFF ∈ c := by decide
  obtain ⟨s', rs, hrun', hread, -, hperm⟩ := responses_of_chunks hrun (by decide) (by decide)
    hempty hcs 0 (fun _ => .new) (le_refl 2)
  exact ⟨s', rs, hrun', hread, hperm (by decide)⟩

/-- A packet cut in front of its data: the first response has lost the data byte `0xFF`, and the
data byte begins a response that nobody has sent. -/
theorem cut_packet_gives_two_responses :
    IsResponsePacket [0xFF, 0xFF, 0x00, 0x01, 0x01, 0xFF] ∧
      [[0xFF, 0xFF, 0x00, 0x01, 0x01], [0xFF]].flatten =
        [([0xFF, 0xFF, 0x00, 0x01, 0x01, 0xFF] : List UInt8)].flatten ∧
      ∃ s', ∃ rs : List SpheroServerResponse, (system SpheroClientCommand).run ([.connect true] ++
          [[0xFF, 0xFF, 0x00, 0x01, 0x01], [0xFF]].map .readDone) = .ok s' ∧
        readResponses (fun _ => .new) 2 ⟨s'.toBtConnection, 0⟩ = rs.map some ∧
        rs.map SpheroServerResponse.reported =
          [[0xFF, 0x00, 0x00, 0x00, 0x00], [0xFF, 0xFF, 0x00, 0x01, 0x01, 0x00]] ∧
        ¬ (rs.map SpheroServerResponse.reported).Perm [[0xFF, 0xFF, 0x00, 0x01, 0x01, 0xFF]] := by
  obtain ⟨s, hrun, hempty⟩ : ∃ s, (system SpheroClientCommand).run [.connect true] = .ok s ∧
      s.readQueue = [] := ⟨_, rfl, rfl⟩
  have hcs : ∀ c ∈ ([[0xFF, 0xFF, 0x00, 0x01, 0x01], [0xFF]] : List (List UInt8)),
      c.length ≤ 1024 ∧ 0xFF ∈ c := by decide
  obtain ⟨s', rs, hrun', hread, hrs⟩ := exists_responses_of_chunks hrun (by decide) (by decide)
    hempty hcs 0 (fun _ => .new) (le_refl 2)
  have hreported : rs.map SpheroServerResponse.reported =
      [[0xFF, 0x00, 0x00, 0x00, 0x00], [0xFF, 0xFF, 0x00, 0x01, 0x01, 0x00]] := by
    rw [hrs]
    rfl
  refine ⟨by decide, rfl, s', rs, hrun', hread, hreported, fun hperm => ?_⟩
  rw [hreported] at hperm
  exact absurd hperm.length_eq (by decide)

end SpheroHandler

end Btconn
