import SpheroBtconn.Connection.Flags
import SpheroBtconn.Packet.ServerResponse

/-!
# The receive path

`readHandler` reads `recv_buffer_`, into which the socket has put a chunk, and its scan is bounded
by the buffer and not by the chunk.  What it does with a chunk therefore depends on what the rest
of the buffer holds.  The invariant `InboundInv` says that the rest is always zero while the
connection is not shutting down, and that exactly one read is outstanding once it is connected.

With it, the handler is a function of the chunk alone (`readHandler_of_mem`,
`readHandler_of_notMem`): a chunk that contains `0xFF` is queued from its first `0xFF` on, padded
with zeros; any other chunk makes the scan run into the end of the buffer.
-/

namespace Btconn

variable {M : Type*}

/-- The queue entry for a chunk: what it holds from its first `0xFF` on, padded with zeros. -/
def entryOf (chunk : List UInt8) : RawData :=
  FixedBuffer.copyFront RawData.zero (FirstOccurrence.fromFirst 0xFF chunk)

lemma toList_entryOf {chunk : List UInt8} (h : chunk.length ≤ 1024) :
    (entryOf chunk).toList = (FirstOccurrence.fromFirst 0xFF chunk).rightpad 1024 0 :=
  FixedBuffer.toList_copyFront_replicate 0
    ((FirstOccurrence.length_fromFirst_le 0xFF chunk).trans h)

/-- An entry begins with the packet that begins at the first `0xFF` of its chunk. -/
lemma isPrefix_entryOf {g p t : List UInt8} (hg : 0xFF ∉ g) (hp : IsResponsePacket p)
    (hlen : (g ++ p ++ t).length ≤ 1024) : p <+: (entryOf (g ++ p ++ t)).toList := by
  have hfirst : FirstOccurrence.fromFirst 0xFF (g ++ p ++ t) = p ++ t := by
    obtain ⟨sop2, mrsp, seq, dlen, d, rfl, -⟩ := hp.exists_eq
    rw [List.append_assoc, FirstOccurrence.fromFirst_append_of_notMem hg, List.cons_append,
      FirstOccurrence.fromFirst_cons_self]
  rw [toList_entryOf hlen, hfirst]
  exact (List.prefix_append p t).trans (PaddedList.isPrefix_rightpad 1024 0 (p ++ t))

namespace BtConnection

variable {s t : BtConnection M}

/-! ## The framing scan -/

/-- The scan stops at the first `0xFF`. -/
lemma scan_of_start {g : List UInt8} (hg : 0xFF ∉ g) (rest : List UInt8) (offset : ℕ) :
    scan (g ++ 0xFF :: rest) offset = .ok (0xFF :: rest, offset + g.length) := by
  induction g generalizing offset with
  | nil => rfl
  | cons b g ih =>
    have hb : b ≠ 0xFF := fun h => hg (h ▸ List.mem_cons_self)
    rw [List.cons_append, scan, if_pos hb, ih fun h => hg (List.mem_cons_of_mem b h),
      List.length_cons]
    congr 2
    omega

/-- Without `0xFF` the scan looks at the end of the buffer. -/
lemma scan_of_notMem {l : List UInt8} (hl : 0xFF ∉ l) (offset : ℕ) :
    scan l offset = .error .derefEnd := by
  induction l generalizing offset with
  | nil => rfl
  | cons b l ih =>
    have hb : b ≠ 0xFF := fun h => hl (h ▸ List.mem_cons_self)
    rw [scan, if_pos hb, ih fun h => hl (List.mem_cons_of_mem b h)]

/-- A chunk in a buffer of zeros. -/
lemma toList_recvBuffer {chunk : List UInt8}
    (hbuf : s.recvBuffer = FixedBuffer.copyFront RawData.zero chunk) (hlen : chunk.length ≤ 1024) :
    s.recvBuffer.toList = chunk ++ List.replicate (1024 - chunk.length) 0 := by
  rw [hbuf, RawData.zero, FixedBuffer.toList_copyFront_replicate 0 hlen]
  rfl

/-- A chunk with `0xFF` in a buffer of zeros is queued from its first `0xFF` on. -/
lemma readHandler_of_mem {chunk : List UInt8}
    (hbuf : s.recvBuffer = FixedBuffer.copyFront RawData.zero chunk) (hlen : chunk.length ≤ 1024)
    (hmem : 0xFF ∈ chunk) :
    s.readHandler chunk.length = .ok { s with
      readQueue := s.readQueue ++ [entryOf chunk]
      recvBuffer := RawData.zero
      reads := if s.shuttingDown then s.reads else s.reads + 1 } := by
  obtain ⟨g, rest, rfl, hg⟩ := List.eq_append_cons_of_mem hmem
  have hentry : entryOf (g ++ 0xFF :: rest) =
      FixedBuffer.copyFront RawData.zero (0xFF :: rest) := by
    rw [entryOf, FirstOccurrence.fromFirst_append_of_notMem hg,
      FirstOccurrence.fromFirst_cons_self]
  have hoffset : (g ++ 0xFF :: rest).length - (0 + g.length) = (0xFF :: rest).length := by
    rw [List.length_append]
    omega
  have hscan := scan_of_start hg
    (rest ++ List.replicate (1024 - (g ++ 0xFF :: rest).length) 0) 0
  rw [← List.cons_append, ← List.append_assoc, ← toList_recvBuffer hbuf hlen] at hscan
  rw [List.length_append] at hlen
  rw [readHandler, hscan]
  simp only [hoffset, List.take_left, hentry]
  rw [if_neg (by rw [List.length_append]; omega), if_neg (by rw [List.length_append]; omega),
    if_neg (by omega)]
  have hnext := (ite_readAsync { s with
    readQueue := s.readQueue ++ [FixedBuffer.copyFront RawData.zero (0xFF :: rest)]
    recvBuffer := RawData.zero }).trans (readAsync_eq _)
  exact congrArg Except.ok hnext

/-- Without `0xFF` in the chunk, the handler dereferences the end of the buffer. -/
lemma readHandler_of_notMem {chunk : List UInt8}
    (hbuf : s.recvBuffer = FixedBuffer.copyFront RawData.zero chunk) (hlen : chunk.length ≤ 1024)
    (hmem : 0xFF ∉ chunk) : s.readHandler chunk.length = .error .derefEnd := by
  have hbuffer : (0xFF : UInt8) ∉ s.recvBuffer.toList := by
    rw [toList_recvBuffer hbuf hlen, List.mem_append, List.mem_replicate]
    rintro (h | ⟨-, h⟩)
    · exact hmem h
    · exact absurd h (by decide)
  rw [readHandler, scan_of_notMem hbuffer]

end BtConnection

namespace System

variable {s t : System M}

/-! ## The invariant -/

/-- The invariant of the receiving side. -/
structure InboundInv (s : System M) : Prop where
  /-- Between two completions the buffer holds zeros. -/
  clean : s.shuttingDown = false → s.recvBuffer = RawData.zero
  /-- Before `connect()` there is no thread and no read. -/
  idle : s.connected = false → s.ioThread = .notStarted ∧ s.reads = 0
  /-- Afterwards the thread runs and one read is outstanding. -/
  reading : s.connected = true → s.shuttingDown = false → s.ioThread = .running ∧ s.reads = 1

lemma inboundInv_new : InboundInv (System.new : System M) :=
  ⟨fun _ => rfl, fun _ => ⟨rfl, rfl⟩, fun h => by cases h⟩

namespace InboundInv

/-- The invariant only looks at the receiving side. -/
lemma of_sameInbound (h : InboundInv s) (hsame : SameInbound s t) : InboundInv t := by
  refine ⟨?_, ?_, ?_⟩
  · intro hd
    rw [hsame.recvBuffer]
    exact h.clean (hsame.up hd)
  · intro hc
    rw [hsame.ioThread, hsame.reads]
    exact h.idle (hsame.connected ▸ hc)
  · intro hc hd
    rw [hsame.ioThread, hsame.reads]
    exact h.reading (hsame.connected ▸ hc) (hsame.up hd)

/-- A thread that runs has been started by `connect()`. -/
lemma connected_of_running (h : InboundInv s) (hio : s.ioThread = .running) :
    s.connected = true := by
  by_contra hc
  have hidle := (h.idle (by simpa using hc)).1
  rw [hio] at hidle
  cases hidle

/-- `connect()` starts the thread and the first read. -/
lemma connect (h : InboundInv s) {accepted : Bool}
    (hstep : s.step (.connect accepted) = .ok t) : InboundInv t := by
  rcases step_connect_cases hstep with ⟨-, rfl⟩ | ⟨-, hio, rfl⟩
  · exact ⟨h.clean, h.idle, h.reading⟩
  · refine ⟨h.clean, ?_, ?_⟩
    · intro hconn
      cases hconn
    · intro _ hd
      -- a connection that was connected already would have a thread
      have hconn : s.connected = false := by
        by_contra hconn
        have hrunning := (h.reading (by simpa using hconn) hd).1
        rw [hio] at hrunning
        cases hrunning
      have hup : s.shuttingDown = false := hd
      simp [hup, (h.idle hconn).2]

/-- A read that has completed clears the buffer and starts the next read. -/
lemma readDone (h : InboundInv s) {chunk : List UInt8}
    (hstep : s.step (.readDone chunk) = .ok t) : InboundInv t := by
  obtain ⟨hcan, ⟨hd, rfl⟩ | ⟨hd, entry, rfl⟩⟩ := step_readDone_cases hstep
  · have hconn := h.connected_of_running hcan.1
    refine ⟨?_, ?_, ?_⟩
    · intro hup
      exact absurd (hd.symm.trans hup) (by decide)
    · intro hc
      exact absurd (hconn.symm.trans hc) (by decide)
    · intro _ hup
      exact absurd (hd.symm.trans hup) (by decide)
  · have hconn := h.connected_of_running hcan.1
    have hreads := (h.reading hconn hd).2
    refine ⟨?_, ?_, ?_⟩
    · intro _
      rfl
    · intro hc
      exact absurd (hconn.symm.trans hc) (by decide)
    · intro _ _
      exact ⟨hcan.1, by simp [hreads]⟩

/-- The handler of a read that fails starts the next read. -/
lemma readFailed (h : InboundInv s) {err : ReadError}
    (hstep : s.step (.readFailed err) = .ok t) : InboundInv t := by
  obtain ⟨hio, -, rfl⟩ := step_readFailed_cases hstep
  have hconn := h.connected_of_running hio
  refine ⟨h.clean, ?_, ?_⟩
  · intro hc
    exact absurd (hconn.symm.trans hc) (by decide)
  · intro _ hd
    have hup : s.shuttingDown = false := hd
    simp [hup, hio, (h.reading hconn hup).2]

/-- While the thread has a read to wait for, it does not end. -/
lemma ioReturn (h : InboundInv s) (hio : s.ioThread = .running) (hreads : s.reads = 0) :
    InboundInv { s with ioThread := .returned } := by
  have hconn := h.connected_of_running hio
  refine ⟨h.clean, ?_, ?_⟩
  · intro hc
    exact absurd (hconn.symm.trans hc) (by decide)
  · intro _ hd
    have hone := (h.reading hconn hd).2
    omega

/-- **Every event keeps the invariant of the receiving side.** -/
theorem step (h : InboundInv s) {e : Event M} (hstep : s.step e = .ok t) : InboundInv t := by
  cases e with
  | connect accepted =>
    exact h.connect hstep
  | readDone chunk => exact h.readDone hstep
  | readFailed err =>
    exact h.readFailed hstep
  | ioReturn =>
    obtain ⟨⟨hio, -, -, hreads⟩, rfl⟩ := step_ioReturn_ok_iff.mp hstep
    exact h.ioReturn hio hreads
  | readEnter reader =>
    obtain ⟨-, rfl⟩ := step_readEnter_ok_iff.mp hstep
    exact ⟨h.clean, h.idle, h.reading⟩
  | readTake reader =>
    obtain ⟨entry, -, -, rfl⟩ := step_readTake_ok_iff.mp hstep
    exact ⟨h.clean, h.idle, h.reading⟩
  | _ => exact h.of_sameInbound (sameInbound_step hstep rfl)

end InboundInv

lemma inboundInv_of_run {es : List (Event M)} (h : (system M).run es = .ok s) : InboundInv s :=
  (system M).run_invariant inboundInv_new (fun _ _ _ hs hstep => hs.step hstep) h

/-! ## One completed read -/

namespace InboundInv

variable {chunk : List UInt8}

/-- The buffer when the handler of a read starts. -/
lemma recvBuffer_deliver (h : InboundInv s) (hd : s.shuttingDown = false) :
    (s.deliver chunk).recvBuffer = FixedBuffer.copyFront RawData.zero chunk := by
  rw [deliver, h.clean hd]

/-- A chunk that contains `0xFF` adds its entry to the queue and changes nothing else. -/
lemma step_readDone_of_mem (h : InboundInv s) (hd : s.shuttingDown = false)
    (hcan : s.CanDeliver chunk) (hmem : 0xFF ∈ chunk) :
    s.step (.readDone chunk) = .ok { s with
      readQueue := s.readQueue ++ [entryOf chunk]
      received := s.received ++ [chunk] } := by
  have hreads : s.reads = 1 := (h.reading (h.connected_of_running hcan.1) hd).2
  have hhandler := BtConnection.readHandler_of_mem (h.recvBuffer_deliver hd) hcan.2.2.2 hmem
  rw [← BtConnection.readCompletion_of_not_shuttingDown (s := s.deliver chunk) hd] at hhandler
  rw [step_readDone_ok_iff]
  refine ⟨hcan, _, hhandler, ?_⟩
  simp [deliver, hd, hreads, h.clean hd]

/-- A chunk without `0xFF` makes the handler dereference the end of the buffer. -/
lemma step_readDone_of_notMem (h : InboundInv s) (hd : s.shuttingDown = false)
    (hcan : s.CanDeliver chunk) (hmem : 0xFF ∉ chunk) :
    s.step (.readDone chunk) = .error (.fault .derefEnd) := by
  have hhandler := BtConnection.readHandler_of_notMem (h.recvBuffer_deliver hd) hcan.2.2.2 hmem
  rw [← BtConnection.readCompletion_of_not_shuttingDown (s := s.deliver chunk) hd] at hhandler
  simp [System.step, hcan, hhandler]

/-- A read error changes nothing: the failed read is replaced by the next one. -/
lemma step_readFailed (h : InboundInv s) (hconn : s.connected = true)
    (hd : s.shuttingDown = false) (err : ReadError) : s.step (.readFailed err) = .ok s := by
  obtain ⟨hio, hreads⟩ := h.reading hconn hd
  rw [step_readFailed_ok_iff]
  have hnext : (if s.shuttingDown then s.reads - 1 else s.reads - 1 + 1) = s.reads := by
    rw [hd, hreads]
    rfl
  refine ⟨hio, by omega, ?_⟩
  simp only [BtConnection.readAsync_eq, hnext]

end InboundInv

/-! ## The read queue -/

/-- Taking an entry takes the one at the back. -/
lemma exists_entry_of_readTake {reader : ℕ} (hstep : s.step (.readTake reader) = .ok t) :
    ∃ entry, s.readQueue = t.readQueue ++ [entry] ∧ t.received = s.received ∧
      t.taken = s.taken ++ [entry] := by
  obtain ⟨entry, -, hlast, rfl⟩ := step_readTake_ok_iff.mp hstep
  have hqueue : s.readQueue = s.readQueue.dropLast ++ [entry] :=
    (List.dropLast_append_getLast? entry (by simp [hlast])).symm
  exact ⟨entry, hqueue, rfl, rfl⟩

/-- A thread that is not inside `read` reads the entry at the back. -/
lemma runFrom_read (hconn : s.connected = true) {q : List RawData} {entry : RawData}
    (hqueue : s.readQueue = q ++ [entry]) {reader : ℕ} (hreader : reader ∉ s.readers) :
    (system M).runFrom s [.readEnter reader, .readTake reader] =
      .ok { s with readQueue := q, taken := s.taken ++ [entry] } := by
  have henter : (system M).step s (.readEnter reader) =
      .ok { s with readers := reader :: s.readers } :=
    step_readEnter_ok_iff.mpr ⟨⟨hconn, by simp [hqueue], hreader⟩, rfl⟩
  have htake : (system M).step { s with readers := reader :: s.readers } (.readTake reader) =
      .ok { s with readQueue := q, taken := s.taken ++ [entry] } :=
    step_readTake_ok_iff.mpr ⟨entry, by simp, by simp [hqueue], by simp [hqueue]⟩
  rw [(system M).runFrom_cons_ok henter, (system M).runFrom_cons_ok htake,
    EventSystem.runFrom_nil]

/-- **A call of `read` that is left to itself is its two steps.**  It returns exactly if a thread that
calls it can leave the loop and take an entry; the value is made of this entry, and the connection is
the same afterwards.  It waits exactly if the connection is connected and this thread cannot leave
the loop. -/
theorem read_eq_iff {T : Type*} (construct : RawData → T) {reader : ℕ}
    (hreader : reader ∉ s.readers) {c : BtConnection M} :
    (∀ value, s.read construct = (.returned value, c) ↔ ∃ entry, value = construct entry ∧
      (system M).runFrom s [.readEnter reader, .readTake reader] =
        .ok { s with toBtConnection := c, taken := s.taken ++ [entry] }) ∧
    (s.read construct = (.waiting, c) ↔
      s.connected = true ∧ s.step (.readEnter reader) = .error .disabled ∧
        c = s.toBtConnection) := by
  cases hconn : s.connected with
  | false =>
    have hnever : (system M).step s (.readEnter reader) = .error .disabled := by
      simp [system, step, hconn]
    simp [BtConnection.read, hconn, EventSystem.runFrom_cons, hnever, Except.bind]
  | true =>
    cases hlast : s.readQueue.getLast? with
    | none =>
      have hempty := List.getLast?_eq_none_iff.mp hlast
      have hnever : (system M).step s (.readEnter reader) = .error .disabled := by
        simp [system, step, hempty]
      have hnever' : s.step (.readEnter reader) = .error .disabled := hnever
      simp [BtConnection.read, hconn, hlast, EventSystem.runFrom_cons, hnever, hnever', Except.bind,
        eq_comm]
    | some entry =>
      have hqueue : s.readQueue = s.readQueue.dropLast ++ [entry] :=
        (List.dropLast_append_getLast? entry (by simp [hlast])).symm
      have hrun := runFrom_read hconn hqueue hreader
      have henter : s.step (.readEnter reader) = .ok { s with readers := reader :: s.readers } :=
        step_readEnter_ok_iff.mpr ⟨⟨hconn, by rw [hqueue]; simp, hreader⟩, rfl⟩
      have hread : s.read construct =
          (.returned (construct entry), { s.toBtConnection with
            readQueue := s.readQueue.dropLast }) := by
        simp [BtConnection.read, hconn, hlast]
      constructor
      · intro value
        rw [hread, hrun]
        constructor
        · intro heq
          obtain ⟨hvalue, rfl⟩ := Prod.mk.inj heq
          exact ⟨entry, (Outcome.returned.inj hvalue).symm, rfl⟩
        · rintro ⟨entry', rfl, heq⟩
          have hend := Except.ok.inj heq
          have hentry : entry = entry' := by simpa using congrArg System.taken hend
          have hc : { s.toBtConnection with readQueue := s.readQueue.dropLast } = c :=
            congrArg System.toBtConnection hend
          rw [← hentry, ← hc]
      · simp [hread, henter]

/-- Two entries: a call returns the newer one and leaves the older one. -/
theorem read_eq_iff_newer :
    ∃ s, (system ℕ).run [.connect true, .readDone [0xFF, 1], .readDone [0xFF, 2]] = .ok s ∧
      ∃ c, s.read id = (.returned (entryOf [0xFF, 2]), c) ∧ c.readQueue = [entryOf [0xFF, 1]] ∧
        (system ℕ).runFrom s [.readEnter 0, .readTake 0] =
          .ok { s with toBtConnection := c, taken := s.taken ++ [entryOf [0xFF, 2]] } := by
  obtain ⟨s, hrun, hconn, hreaders, hqueue⟩ : ∃ s, (system ℕ).run [.connect true,
      .readDone [0xFF, 1], .readDone [0xFF, 2]] = .ok s ∧ s.connected = true ∧ s.readers = [] ∧
        s.readQueue = [entryOf [0xFF, 1], entryOf [0xFF, 2]] := by
    set_option maxRecDepth 8000 in exact ⟨_, rfl, rfl, rfl, rfl⟩
  have hread : s.read id = (.returned (entryOf [0xFF, 2]), { s.toBtConnection with
      readQueue := [entryOf [0xFF, 1]] }) := by
    simp [BtConnection.read, hconn, hqueue]
  have hreader : 0 ∉ s.readers := by simp [hreaders]
  obtain ⟨entry, hvalue, htwo⟩ := ((read_eq_iff id hreader).1 _).mp hread
  rw [← id_eq entry, ← hvalue] at htwo
  exact ⟨s, hrun, _, hread, rfl, htwo⟩

/-- Either a read has brought a chunk, or the event is another one. -/
lemma eq_readDone_or (e : Event M) :
    (∃ chunk, e = .readDone chunk) ∨ ∀ chunk, e ≠ .readDone chunk := by
  cases e <;> simp

/-- An event other than the end of a read that has brought a chunk takes the entry at the back of the
read queue, or it does nothing to the queue and to the histories beside it. -/
lemma readQueue_step {e : Event M} (he : ∀ chunk, e ≠ .readDone chunk)
    (hstep : s.step e = .ok t) :
    (t.readQueue = s.readQueue ∧ t.received = s.received ∧ t.taken = s.taken) ∨
      ∃ reader entry, e = .readTake reader ∧ s.readQueue = t.readQueue ++ [entry] ∧
        t.received = s.received ∧ t.taken = s.taken ++ [entry] := by
  cases e with
  | connect accepted =>
    rcases step_connect_cases hstep with ⟨-, rfl⟩ | ⟨-, -, rfl⟩
    · exact Or.inl ⟨rfl, rfl, rfl⟩
    · exact Or.inl ⟨rfl, rfl, rfl⟩
  | readDone chunk => exact absurd rfl (he chunk)
  | readFailed err =>
    obtain ⟨-, -, rfl⟩ := step_readFailed_cases hstep
    exact Or.inl ⟨rfl, rfl, rfl⟩
  | ioReturn =>
    obtain ⟨-, rfl⟩ := step_ioReturn_ok_iff.mp hstep
    exact Or.inl ⟨rfl, rfl, rfl⟩
  | readEnter reader =>
    obtain ⟨-, rfl⟩ := step_readEnter_ok_iff.mp hstep
    exact Or.inl ⟨rfl, rfl, rfl⟩
  | readTake reader =>
    obtain ⟨entry, hqueue⟩ := exists_entry_of_readTake hstep
    exact Or.inr ⟨reader, entry, rfl, hqueue⟩
  | _ =>
    have hsame := sameInbound_step hstep rfl
    exact Or.inl ⟨hsame.readQueue, hsame.received, hsame.taken⟩

/-- What an event does to the read queue and to the histories beside it: nothing, or it adds the
entry of a chunk at the back, or it takes the entry at the back. -/
lemma InboundInv.readQueue_step (h : InboundInv s) {e : Event M} (hstep : s.step e = .ok t) :
    (t.readQueue = s.readQueue ∧ t.received = s.received ∧ t.taken = s.taken) ∨
      (∃ chunk, e = .readDone chunk ∧ t.readQueue = s.readQueue ++ [entryOf chunk] ∧
        t.received = s.received ++ [chunk] ∧ t.taken = s.taken) ∨
      ∃ reader entry, e = .readTake reader ∧ s.readQueue = t.readQueue ++ [entry] ∧
        t.received = s.received ∧ t.taken = s.taken ++ [entry] := by
  rcases eq_readDone_or e with ⟨chunk, rfl⟩ | he
  · obtain ⟨hcan, ⟨-, rfl⟩ | ⟨hd, -⟩⟩ := step_readDone_cases hstep
    · exact Or.inl ⟨rfl, rfl, rfl⟩
    · by_cases hmem : 0xFF ∈ chunk
      · rw [h.step_readDone_of_mem hd hcan hmem, Except.ok.injEq] at hstep
        exact Or.inr (Or.inl ⟨chunk, rfl, hstep ▸ ⟨rfl, rfl, rfl⟩⟩)
      · rw [h.step_readDone_of_notMem hd hcan hmem] at hstep
        cases hstep
  · rcases System.readQueue_step he hstep with hsame | htake
    · exact Or.inl hsame
    · exact Or.inr (Or.inr htake)

/-- Nothing that has been received is forgotten. -/
lemma InboundInv.received_isPrefix_of_step (h : InboundInv s) {e : Event M}
    (hstep : s.step e = .ok t) : s.received <+: t.received := by
  rcases h.readQueue_step hstep with
    ⟨-, hr, -⟩ | ⟨chunk, -, -, hr, -⟩ | ⟨reader, entry, -, -, hr, -⟩
  · exact hr ▸ List.prefix_rfl
  · rw [hr]
    exact List.prefix_append _ _
  · exact hr ▸ List.prefix_rfl

/-- What has been received has been delivered. -/
lemma readDone_mem_of_received {es : List (Event M)} (hrun : (system M).run es = .ok s)
    {chunk : List UInt8} (hmem : chunk ∈ s.received) : .readDone chunk ∈ es := by
  revert hmem
  refine (system M).run_induction
    (P := fun es s => chunk ∈ s.received → .readDone chunk ∈ es) (fun h => ?_)
    (fun es s e t hes ih hstep hmem => ?_) hrun
  · cases h
  · rcases (inboundInv_of_run hes).readQueue_step hstep with
      ⟨-, hr, -⟩ | ⟨c, rfl, -, hr, -⟩ | ⟨reader, entry, -, -, hr, -⟩
    · exact List.mem_append_left _ (ih (hr ▸ hmem))
    · rw [hr, List.mem_append, List.mem_singleton] at hmem
      rcases hmem with hmem | rfl
      · exact List.mem_append_left _ (ih hmem)
      · exact List.mem_concat_self
    · exact List.mem_append_left _ (ih (hr ▸ hmem))

end System

end Btconn
