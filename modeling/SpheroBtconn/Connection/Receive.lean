import SpheroBtconn.Connection.Inbound

/-!
# What is received

The results about `readHandler` in reachable states.  For a chunk without `0xFF` the scan runs
into the end of the buffer, for every other chunk all accesses are in bounds
(`readHandler_inBounds_iff`).  If all chunks contain `0xFF`, every one of them adds one entry to
`readQueue_`, which depends on nothing but the chunk; and if the first `0xFF` of a chunk begins a
response packet, then that packet is what `read` and the parser make of the entry
(`receive_exact`).
-/

namespace Btconn

variable {M : Type*}

/-- The chunk that an event delivers. -/
def Event.chunk? : Event M → Option (List UInt8)
  | .readDone chunk => some chunk
  | _ => none

/-- The event is a read error, or a read of at most 1024 bytes with a `0xFF` among them. -/
def Event.IsArrival : Event M → Prop
  | .readDone chunk => chunk.length ≤ 1024 ∧ 0xFF ∈ chunk
  | .readFailed _ => True
  | _ => False

/-- The faults of `readHandler`: an access outside the buffer or outside the queue entry. -/
def Fault.OutOfBounds (f : Fault) : Prop :=
  f = .derefEnd ∨ f = .lengthUnderflow ∨ f = .copySource ∨ f = .copyTarget

instance (f : Fault) : Decidable f.OutOfBounds :=
  inferInstanceAs (Decidable (_ ∨ _))

namespace System

variable {s : System M}

/-! ## Bounds -/

/-- Only a chunk without `0xFF` makes `readHandler` leave its bounds. -/
lemma InboundInv.notMem_of_fault (h : InboundInv s) {e : Event M} {f : Fault}
    (hf : f.OutOfBounds) (hstep : s.step e = .error (.fault f)) :
    ∃ chunk, e = .readDone chunk ∧ 0xFF ∉ chunk := by
  rcases step_fault_cases hstep with ⟨-, rfl⟩ | ⟨reader, -, rfl⟩ | ⟨chunk, rfl, hcan, hc⟩
  · exact absurd hf (by decide)
  · exact absurd hf (by decide)
  · refine ⟨chunk, rfl, fun hmem => ?_⟩
    cases hd : s.shuttingDown with
    | true =>
      rw [BtConnection.readCompletion_of_shuttingDown (s := s.deliver chunk) hd] at hc
      cases hc
    | false =>
      rw [h.step_readDone_of_mem hd hcan hmem] at hstep
      cases hstep

/-- **Exactly the chunks with a `0xFF` are scanned in bounds.**  A run in which every delivered
chunk contains `0xFF` has no access outside the buffer or outside the queue entry; and in every
state that a run reaches, the next chunk is processed without such an access if and only if it
contains `0xFF`. -/
theorem readHandler_inBounds_iff :
    (∀ es : List (Event M), (∀ chunk, .readDone chunk ∈ es → 0xFF ∈ chunk) →
      ∀ f : Fault, f.OutOfBounds → (system M).run es ≠ .error (.fault f)) ∧
    (∀ (es : List (Event M)) (s : System M) (chunk : List UInt8), (system M).run es = .ok s →
      s.shuttingDown = false → s.CanDeliver chunk →
      ((∀ f : Fault, f.OutOfBounds →
        (system M).run (es ++ [.readDone chunk]) ≠ .error (.fault f)) ↔ 0xFF ∈ chunk)) := by
  constructor
  · intro es hes f hf hrun
    obtain ⟨fs, e, gs, s, rfl, hfs, hstep⟩ := (system M).run_eq_error_iff.mp hrun
    obtain ⟨chunk, rfl, hmem⟩ := (inboundInv_of_run hfs).notMem_of_fault hf hstep
    exact hmem (hes chunk (by simp))
  · intro es s chunk hrun hd hcan
    have hinv := inboundInv_of_run hrun
    constructor
    · intro hsafe
      by_contra hmem
      have hstep := hinv.step_readDone_of_notMem hd hcan hmem
      exact hsafe .derefEnd (by decide)
        ((system M).run_eq_error_iff.mpr ⟨es, _, [], s, rfl, hrun, hstep⟩)
    · intro hmem f _ hfault
      have hstep := hinv.step_readDone_of_mem hd hcan hmem
      rw [((system M).run_concat_ok_iff (e := .readDone chunk)).mpr ⟨s, hrun, hstep⟩] at hfault
      cases hfault

/-- Noise in front of a packet is in bounds, noise alone is not. -/
theorem readHandler_inBounds_noise :
    (system ℕ).run [.connect true, .readDone [0x00, 0xFF, 0xFF, 0x00, 0x01, 0x00]] ≠
        .error (.fault .derefEnd) ∧
      ((∀ f : Fault, f.OutOfBounds →
        (system ℕ).run ([.connect true] ++ [.readDone [0x00]]) ≠ .error (.fault f)) ↔
          (0xFF : UInt8) ∈ ([0x00] : List UInt8)) := by
  obtain ⟨s, hrun, hd, hcan⟩ : ∃ s, (system ℕ).run [.connect true] = .ok s ∧
      s.shuttingDown = false ∧ s.CanDeliver [0x00] :=
    ⟨_, rfl, rfl, rfl, by decide, by decide, by decide⟩
  exact ⟨readHandler_inBounds_iff.1 _ (by simp) _ (by decide),
    readHandler_inBounds_iff.2 _ s _ hrun hd hcan⟩

/-- A chunk that is nothing but noise: the scan dereferences the end of the buffer. -/
theorem noise_chunk_derefEnd :
    (system ℕ).run [.connect true, .readDone [0x00]] = .error (.fault .derefEnd) := by
  obtain ⟨s, hrun, hd, hcan⟩ : ∃ s, (system ℕ).run [.connect true] = .ok s ∧
      s.shuttingDown = false ∧ s.CanDeliver [0x00] :=
    ⟨_, rfl, rfl, rfl, by decide, by decide, by decide⟩
  have hstep := (inboundInv_of_run hrun).step_readDone_of_notMem hd hcan (by decide)
  exact (system ℕ).run_eq_error_iff.mpr
    ⟨[.connect true], .readDone [0x00], [], s, rfl, hrun, hstep⟩

/-! ## Chunks with a `0xFF` -/

/-- Chunks with a `0xFF` and read errors, one after the other: every chunk adds its entry to the
queue, and nothing else changes. -/
lemma InboundInv.runFrom_arrivals (h : InboundInv s) (hconn : s.connected = true)
    (hd : s.shuttingDown = false) {rs : List (Event M)} (hrs : ∀ e ∈ rs, e.IsArrival) :
    (system M).runFrom s rs = .ok { s with
      readQueue := s.readQueue ++ (rs.filterMap Event.chunk?).map entryOf
      received := s.received ++ rs.filterMap Event.chunk? } := by
  induction rs generalizing s with
  | nil => simp
  | cons e rs ih =>
    have htail : ∀ e ∈ rs, e.IsArrival := fun e he => hrs e (List.mem_cons_of_mem _ he)
    cases e with
    | readDone chunk =>
      obtain ⟨hlen, hmem⟩ : chunk.length ≤ 1024 ∧ 0xFF ∈ chunk := hrs _ List.mem_cons_self
      obtain ⟨hio, hreads⟩ := h.reading hconn hd
      have hcan : s.CanDeliver chunk :=
        ⟨hio, by omega, List.length_pos_of_mem hmem, hlen⟩
      have hdone := h.step_readDone_of_mem hd hcan hmem
      have hstep : (system M).step s (.readDone chunk) = .ok _ := hdone
      rw [(system M).runFrom_cons_ok hstep, ih (h.step hdone) hconn hd htail]
      simp [Event.chunk?]
    | readFailed err =>
      have hstep : (system M).step s (.readFailed err) = .ok s := h.step_readFailed hconn hd err
      rw [(system M).runFrom_cons_ok hstep, ih h hconn hd htail]
      simp [List.filterMap_cons, Event.chunk?]
    | _ => exact absurd (hrs _ List.mem_cons_self) id

/-- Chunks with a `0xFF`, one after the other. -/
lemma InboundInv.runFrom_chunks (h : InboundInv s) (hconn : s.connected = true)
    (hd : s.shuttingDown = false) {cs : List (List UInt8)}
    (hcs : ∀ c ∈ cs, c.length ≤ 1024 ∧ 0xFF ∈ c) :
    (system M).runFrom s (cs.map .readDone) = .ok { s with
      readQueue := s.readQueue ++ cs.map entryOf
      received := s.received ++ cs } := by
  have hrs : ∀ e ∈ cs.map (Event.readDone (M := M)), e.IsArrival := by
    intro e he
    obtain ⟨c, hc, rfl⟩ := List.mem_map.mp he
    exact hcs c hc
  have hchunks : (cs.map (Event.readDone (M := M))).filterMap Event.chunk? = cs := by
    simp [List.filterMap_map, Function.comp_def, Event.chunk?]
  rw [h.runFrom_arrivals hconn hd hrs, hchunks]

/-- **The receive pipeline is exact and memoryless.**  Take any run in which `connect()` has
succeeded and nothing has set `shutdown_`, and let chunks with a `0xFF` and read errors follow in
any order.  Every chunk adds one entry behind the queue: the chunk from its first `0xFF` on,
padded with zeros.  If that `0xFF` begins a response packet, then `read` and the parser report
the bytes of the packet, whatever stands before and behind it, and whatever has happened before;
and the parser stays inside its vector. -/
theorem receive_exact {es rs : List (Event M)} {s : System M}
    (hrun : (system M).run es = .ok s) (hconn : .connect true ∈ es)
    (hup : ∀ e ∈ es, e.stops = false) (hrs : ∀ e ∈ rs, e.IsArrival) :
    (∃ s', (system M).run (es ++ rs) = .ok s' ∧
      s'.readQueue = s.readQueue ++ (rs.filterMap Event.chunk?).map entryOf) ∧
    ∀ chunk, .readDone chunk ∈ rs →
      (entryOf chunk).toList = (FirstOccurrence.fromFirst 0xFF chunk).rightpad 1024 0 ∧
      ∀ g p t : List UInt8, chunk = g ++ p ++ t → 0xFF ∉ g → IsResponsePacket p →
        ∀ (mem : SpheroServerResponse) (c : BtConnection M), c.connected = true →
          c.readQueue.getLast? = some (entryOf chunk) →
          ∃ r₀ r, (c.read (SpheroServerResponse.ofArray mem)).1 = .returned r₀ ∧
            r₀.parseFromInternalData = some r ∧
            p[1]? = some r.startOfPacket ∧ p[2]? = some r.messageResponse ∧
            p[3]? = some r.sequenceNum ∧ p[4]? = some r.dataLength ∧
            p.drop 5 = r.msgData.toList.take r.dataLength.toNat := by
  have hc : s.connected = true := (connected_iff_of_run hrun).mpr hconn
  have hd : s.shuttingDown = false := not_shuttingDown_of_run hrun hup
  constructor
  · have harrivals := (inboundInv_of_run hrun).runFrom_arrivals hc hd hrs
    exact ⟨_, ((system M).run_append_of_ok hrun rs).trans harrivals, rfl⟩
  · intro chunk hchunk
    have hlen : chunk.length ≤ 1024 := (hrs _ hchunk).1
    refine ⟨toList_entryOf hlen, ?_⟩
    rintro g p t rfl hg hp mem c hcc hlast
    obtain ⟨r, hparse, rfl⟩ :=
      SpheroServerResponse.exists_parse_of_isPrefix mem hp (isPrefix_entryOf hg hp hlen)
    refine ⟨_, r, ?_, hparse, r.getElem?_reported⟩
    simp [BtConnection.read, hcc, hlast, SpheroServerResponse.ofArray]

/-- A response between noise and the beginning of the next one, and a shorter one after it. -/
theorem receive_exact_shorter_chunk :
    ∃ s, (system ℕ).run ([.connect true] ++
        [.readDone [0x00, 0xFF, 0xFE, 0x00, 0x07, 0x01, 0x2A, 0xFF], .readFailed .other,
          .readDone [0xFF, 0xFE, 0x00, 0x08, 0x00]]) = .ok s ∧
      s.readQueue = [entryOf [0x00, 0xFF, 0xFE, 0x00, 0x07, 0x01, 0x2A, 0xFF],
        entryOf [0xFF, 0xFE, 0x00, 0x08, 0x00]] ∧
      (entryOf [0xFF, 0xFE, 0x00, 0x08, 0x00]).toList =
        ([0xFF, 0xFE, 0x00, 0x08, 0x00] : List UInt8).rightpad 1024 0 ∧
      ∃ r₀ r, (s.read (SpheroServerResponse.ofArray .new)).1 = .returned r₀ ∧
        r₀.parseFromInternalData = some r ∧ some 0x08 = some r.sequenceNum := by
  obtain ⟨s, hrun, hqueue⟩ : ∃ s, (system ℕ).run [.connect true] = .ok s ∧ s.readQueue = [] :=
    ⟨_, rfl, rfl⟩
  have harrivals : ∀ e ∈ ([.readDone [0x00, 0xFF, 0xFE, 0x00, 0x07, 0x01, 0x2A, 0xFF],
      .readFailed .other, .readDone [0xFF, 0xFE, 0x00, 0x08, 0x00]] : List (Event ℕ)),
      e.IsArrival := by
    simp [Event.IsArrival]
  obtain ⟨⟨s', hrun', hqueue'⟩, hread⟩ :=
    receive_exact hrun (by decide) (by decide) harrivals
  have hqueue'' : s'.readQueue = [entryOf [0x00, 0xFF, 0xFE, 0x00, 0x07, 0x01, 0x2A, 0xFF],
      entryOf [0xFF, 0xFE, 0x00, 0x08, 0x00]] := by
    rw [hqueue', hqueue]
    rfl
  have hconn : s'.connected = true := (connected_iff_of_run hrun').mpr (by decide)
  obtain ⟨hentry, hpacket⟩ := hread [0xFF, 0xFE, 0x00, 0x08, 0x00] (by simp)
  obtain ⟨r₀, r, hr₀, hr, -, -, hseq, -⟩ := hpacket [] [0xFF, 0xFE, 0x00, 0x08, 0x00] [] rfl
    (by decide) (by decide) .new s'.toBtConnection hconn (by rw [hqueue'']; rfl)
  exact ⟨s', hrun', hqueue'', hentry, r₀, r, hr₀, hr, hseq⟩

end System

end Btconn
