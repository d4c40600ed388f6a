import SpheroBtconn.Connection.Receive
import SpheroBtconn.Packet.ClientCommand

/-!
# The handler of one Sphero

`SpheroHandler` of `SpheroHandler.h`, as far as responses go: `readResponse` takes an entry from
the connection and parses it.  An entry always has 1024 bytes, so the parse never leaves it; what
it reports is `framedPacket`, the packet that begins at the first `0xFF` of the chunk, where bytes
that the chunk does not have any more are read as zero.
-/

namespace Btconn

/-- A handler: its connection and the next sequence number. -/
structure SpheroHandler where
  /-- `spheroConn_`. -/
  spheroConn : BtConnection SpheroClientCommand
  /-- `seqNum`, a `size_t`. -/
  seqNum : UInt64
  deriving DecidableEq

namespace SpheroHandler

/-- `readResponse`.  The inner result is `none` if the parse accesses a byte outside the entry;
`mem` is what the memory of the new response holds. -/
def readResponse (mem : SpheroServerResponse) (h : SpheroHandler) :
    Outcome (Option SpheroServerResponse) × SpheroHandler :=
  if !h.spheroConn.isConnected then
    (.threw ⟨"Unable to talk to Sphero - Not Connected"⟩, h)
  else
    match h.spheroConn.read (SpheroServerResponse.ofArray mem) with
    | (.threw exception, c) => (.threw exception, { h with spheroConn := c })
    | (.waiting, c) => (.waiting, { h with spheroConn := c })
    | (.returned resPtr, c) =>
      (.returned resPtr.parseFromInternalData, { h with spheroConn := c })

/-- Call `readResponse` until a call does not return because the queue is empty, but at most `n`
times. -/
def readResponses (mem : ℕ → SpheroServerResponse) :
    ℕ → SpheroHandler → List (Option SpheroServerResponse)
  | 0, _ => []
  | n + 1, h =>
    match h.readResponse (mem n) with
    | (.returned r, h') => r :: readResponses mem n h'
    | _ => []

end SpheroHandler

/-! ## The packet in an entry -/

/-- What is reported for a chunk: the packet that begins at its first `0xFF`, continued with
zeros if the chunk ends before the packet does. -/
def framedPacket (chunk : List UInt8) : SpheroPacket :=
  let entry := (FirstOccurrence.fromFirst 0xFF chunk).rightpad 1024 0
  entry.take (5 + (entry.getD 4 0).toNat)

/-- An entry begins with the packet that is reported for its chunk. -/
lemma framedPacket_isPrefix {chunk : List UInt8} (hlen : chunk.length ≤ 1024) :
    framedPacket chunk <+: (entryOf chunk).toList := by
  rw [toList_entryOf hlen]
  exact List.take_prefix _ _

/-- Whatever follows a `0xFF` in a buffer of 1024 bytes, a response packet begins there. -/
lemma isResponsePacket_framedPacket {chunk : List UInt8} (hlen : chunk.length ≤ 1024)
    (hmem : 0xFF ∈ chunk) : IsResponsePacket (framedPacket chunk) := by
  obtain ⟨t, ht⟩ := FirstOccurrence.exists_fromFirst_eq_cons hmem
  have hfirst := FirstOccurrence.length_fromFirst_le 0xFF chunk
  have hpad : ((FirstOccurrence.fromFirst 0xFF chunk).rightpad 1024 0).length = 1024 :=
    PaddedList.length_rightpad_of_le (hfirst.trans hlen)
  have hbyte := (((FirstOccurrence.fromFirst 0xFF chunk).rightpad 1024 0).getD 4 0).toNat_lt
  -- a header announces at most 255 bytes, so the buffer has all of them
  have hframe : responseFormat.IsFrame (framedPacket chunk) :=
    (isFrame_and_isPrefix_iff.mpr ⟨by omega, rfl⟩).1
  refine .of_isFrame hframe ?_
  rw [framedPacket, ht, List.rightpad, List.cons_append, Nat.add_comm, List.take_succ_cons]
  rfl

/-- For a chunk that is one packet, this packet is reported. -/
lemma framedPacket_of_isResponsePacket {p : SpheroPacket} (hp : IsResponsePacket p) :
    framedPacket p = p := by
  have hlen : p.length ≤ 1024 := hp.length_le.trans (by decide)
  have hbegin : p <+: (entryOf p).toList := by
    simpa using isPrefix_entryOf (g := []) (t := []) (by simp) hp (by simpa using hlen)
  exact (isResponsePacket_framedPacket hlen hp.mem_start).isFrame.eq_of_isPrefix_of_isPrefix
    hp.isFrame (framedPacket_isPrefix hlen) hbegin

namespace SpheroHandler

variable {h : SpheroHandler}

/-! ## Reading -/

/-- A call with an entry at the back of the queue reports the packet in this entry. -/
lemma readResponse_of_concat (mem : SpheroServerResponse) (hconn : h.spheroConn.connected = true)
    {queue : List RawData} {chunk : List UInt8}
    (hqueue : h.spheroConn.readQueue = queue ++ [entryOf chunk])
    (hlen : chunk.length ≤ 1024) (hmem : 0xFF ∈ chunk) :
    ∃ r, h.readResponse mem = (.returned (some r),
        { h with spheroConn := { h.spheroConn with readQueue := queue } }) ∧
      r.reported = framedPacket chunk := by
  obtain ⟨r, hparse, hr⟩ := SpheroServerResponse.exists_parse_of_isPrefix mem
    (isResponsePacket_framedPacket hlen hmem) (framedPacket_isPrefix hlen)
  refine ⟨r, ?_, hr⟩
  simp [readResponse, BtConnection.isConnected, BtConnection.read, hconn, hqueue,
    SpheroServerResponse.ofArray, hparse]

/-- A call with an empty queue does not return. -/
lemma readResponse_of_nil (mem : SpheroServerResponse) (hconn : h.spheroConn.connected = true)
    (hqueue : h.spheroConn.readQueue = []) : h.readResponse mem = (.waiting, h) := by
  simp [readResponse, BtConnection.isConnected, BtConnection.read, hconn, hqueue]

/-- Reading until the queue is empty reports one packet for every chunk, the last one first. -/
lemma readResponses_eq (mem : ℕ → SpheroServerResponse) {cs : List (List UInt8)}
    (hconn : h.spheroConn.connected = true) (hqueue : h.spheroConn.readQueue = cs.map entryOf)
    (hcs : ∀ c ∈ cs, c.length ≤ 1024 ∧ 0xFF ∈ c) {n : ℕ} (hn : cs.length ≤ n) :
    ∃ rs : List SpheroServerResponse, h.readResponses mem n = rs.map some ∧
      rs.map SpheroServerResponse.reported = cs.reverse.map framedPacket := by
  induction cs using List.reverseRecOn generalizing h n with
  | nil =>
    refine ⟨[], ?_, rfl⟩
    cases n with
    | zero => rfl
    | succ n => rw [readResponses, readResponse_of_nil _ hconn hqueue]; rfl
  | append_singleton cs c ih =>
    obtain ⟨hlen, hmem⟩ := hcs c (by simp)
    have hqueue' : h.spheroConn.readQueue = cs.map entryOf ++ [entryOf c] := by
      rw [hqueue, List.map_append, List.map_singleton]
    rw [List.length_append, List.length_singleton] at hn
    obtain ⟨n, rfl⟩ : ∃ k, n = k + 1 := ⟨n - 1, by omega⟩
    obtain ⟨r, hread, hr⟩ := readResponse_of_concat (mem n) hconn hqueue' hlen hmem
    obtain ⟨rs, hrest, hrs⟩ := ih
      (h := { h with spheroConn := { h.spheroConn with readQueue := cs.map entryOf } })
      hconn rfl (fun c hc => hcs c (List.mem_append_left _ hc)) (Nat.le_of_succ_le_succ hn)
    refine ⟨r :: rs, ?_, by simp [hr, hrs]⟩
    rw [readResponses, hread]
    simp [hrest]

end SpheroHandler

end Btconn
