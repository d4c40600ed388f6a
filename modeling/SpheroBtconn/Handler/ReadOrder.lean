import SpheroBtconn.Handler.SpheroHandler

/-!
# The order of responses

`readHandler` adds entries at the back of `readQueue_`, and `read` takes them from the back as
well, whereas `messageQueue_` is emptied from the front.  As long as every entry is taken before
the next one arrives, nobody can see the difference (`LockStep`); a reader that falls behind gets
the newest response first.

The proof follows the equation `taken ++ readQueue = received`, up to the passage from packets to
entries: it is what a queue would keep, and taking from the back keeps it exactly if the entry
taken is the only one.
-/

namespace Btconn

variable {M : Type*}

/-- The packet that the parser reports for an entry. -/
def reportOf (mem : SpheroServerResponse) (entry : RawData) : Option SpheroPacket :=
  (SpheroServerResponse.ofArray mem entry).parseFromInternalData.map
    SpheroServerResponse.reported

/-- For a chunk that is one packet, this packet is reported. -/
lemma reportOf_entryOf (mem : SpheroServerResponse) {p : SpheroPacket}
    (hp : IsResponsePacket p) : reportOf mem (entryOf p) = some p := by
  have hlen : p.length ≤ 1024 := hp.length_le.trans (by decide)
  have hbegin := framedPacket_isPrefix hlen
  rw [framedPacket_of_isResponsePacket hp] at hbegin
  obtain ⟨r, hparse, hr⟩ := SpheroServerResponse.exists_parse_of_isPrefix mem hp hbegin
  simp [reportOf, SpheroServerResponse.ofArray, hparse, hr]

lemma map_reportOf_entryOf (mem : SpheroServerResponse) {ps : List SpheroPacket}
    (hps : ∀ p ∈ ps, IsResponsePacket p) : (ps.map entryOf).map (reportOf mem) = ps.map some := by
  rw [List.map_map]
  exact List.map_congr_left fun p hp => reportOf_entryOf mem (hps p hp)

/-- Every entry is taken while it is the only one in the queue. -/
def LockStep (es : List (Event M)) : Prop :=
  ∀ fs reader s, fs ++ [.readTake reader] <+: es → (system M).run fs = .ok s →
    s.readQueue.length = 1

/-- At every moment the responses read are a prefix of the packets received. -/
def InOrder (mem : SpheroServerResponse) (es : List (Event M)) : Prop :=
  ∀ fs s, fs <+: es → (system M).run fs = .ok s →
    s.taken.map (reportOf mem) <+: s.received.map some

lemma LockStep.of_isPrefix {fs es : List (Event M)} (h : LockStep es) (hfs : fs <+: es) :
    LockStep fs :=
  fun gs reader s hgs => h gs reader s (hgs.trans hfs)

lemma InOrder.of_isPrefix {mem : SpheroServerResponse} {fs es : List (Event M)}
    (h : InOrder mem es) (hfs : fs <+: es) : InOrder mem fs :=
  fun gs s hgs => h gs s (hgs.trans hfs)

/-- A run stays in lock step with an event that does not take an entry, or takes the only one. -/
lemma LockStep.concat {es : List (Event M)} {e : Event M} (h : LockStep es)
    (he : ∀ reader s, e = .readTake reader → (system M).run es = .ok s →
      s.readQueue.length = 1) : LockStep (es ++ [e]) := by
  intro fs reader s hfs hrun
  rcases List.prefix_concat_iff.mp hfs with heq | hfs
  · obtain ⟨rfl, hlast⟩ := List.append_inj' heq rfl
    exact he reader s (List.singleton_inj.mp hlast).symm hrun
  · exact h fs reader s hfs hrun

namespace System

variable {s : System M} {es : List (Event M)}

/-! ## Lock step keeps the order -/

/-- In lock step the queue behaves like a queue: what has been taken and what is still queued are
the entries of what has been received, in order. -/
lemma taken_append_readQueue_of_lockStep (hrun : (system M).run es = .ok s)
    (hlock : LockStep es) : s.taken ++ s.readQueue = s.received.map entryOf := by
  revert hlock
  refine (system M).run_induction
    (P := fun es s => LockStep es → s.taken ++ s.readQueue = s.received.map entryOf)
    (fun _ => rfl) ?_ hrun
  intro es s e t hes ih hstep hlock
  have hprev := ih (hlock.of_isPrefix (List.prefix_append es [e]))
  rcases (inboundInv_of_run hes).readQueue_step hstep with
    ⟨hq, hr, ht⟩ | ⟨chunk, -, hq, hr, ht⟩ | ⟨reader, entry, rfl, hq, hr, ht⟩
  · rw [hq, hr, ht]
    exact hprev
  · rw [hq, hr, ht, ← List.append_assoc, hprev, List.map_append]
    rfl
  · -- the entry at the back is the only one, hence also the one at the front
    have hone : s.readQueue.length = 1 := hlock es reader s (List.prefix_refl _) hes
    have hnil : t.readQueue = [] := by
      rw [hq, List.length_append, List.length_singleton] at hone
      exact List.eq_nil_of_length_eq_zero (by omega)
    rw [hq, hnil, List.nil_append] at hprev
    rw [hnil, hr, ht, List.append_nil]
    exact hprev

/-- All packets received are response packets if all chunks delivered are. -/
lemma isResponsePacket_of_received (hrun : (system M).run es = .ok s)
    (hchunks : ∀ chunk, .readDone chunk ∈ es → IsResponsePacket chunk) :
    ∀ p ∈ s.received, IsResponsePacket p :=
  fun p hp => hchunks p (readDone_mem_of_received hrun hp)

lemma inOrder_of_lockStep (hchunks : ∀ chunk, .readDone chunk ∈ es → IsResponsePacket chunk)
    (mem : SpheroServerResponse) (hlock : LockStep es) : InOrder mem es := by
  intro fs s hfs hrun
  have hps := isResponsePacket_of_received hrun fun chunk hc => hchunks chunk (hfs.subset hc)
  have hkept := taken_append_readQueue_of_lockStep hrun (hlock.of_isPrefix hfs)
  rw [← map_reportOf_entryOf mem hps, ← hkept, List.map_append]
  exact List.prefix_append _ _

/-! ## Out of step, the order is lost -/

/-- Taking the last of several different values is not taking the next one. -/
lemma eq_nil_of_isPrefix_of_nodup {α : Type*} {l q : List α} {a : α}
    (hnodup : (l ++ (q ++ [a])).Nodup) (hbegin : l ++ [a] <+: l ++ (q ++ [a])) : q = [] := by
  cases q with
  | nil => rfl
  | cons b q =>
    rw [List.prefix_append_right_inj, List.cons_append, List.cons_prefix_cons] at hbegin
    obtain ⟨rfl, -⟩ := hbegin
    have hrest := (List.nodup_append.mp hnodup).2.1
    rw [List.cons_append, List.nodup_cons] at hrest
    exact absurd List.mem_concat_self hrest.1

/-- If a run has been in order and taking the next entry keeps it so, then this entry is the only
one in the queue. -/
lemma length_readQueue_of_take {t : System M} {reader : ℕ} (hrun : (system M).run es = .ok s)
    (hps : ∀ p ∈ s.received, IsResponsePacket p) (hlock : LockStep es)
    (hstep : s.step (.readTake reader) = .ok t) (mem : SpheroServerResponse)
    (hnodup : t.received.Nodup)
    (hnow : t.taken.map (reportOf mem) <+: t.received.map some) : s.readQueue.length = 1 := by
  obtain ⟨entry, hq, hr, ht⟩ := exists_entry_of_readTake hstep
  have hkept : s.received.map some =
      s.taken.map (reportOf mem) ++ (t.readQueue.map (reportOf mem) ++ [reportOf mem entry]) := by
    rw [← map_reportOf_entryOf mem hps, ← taken_append_readQueue_of_lockStep hrun hlock, hq]
    simp
  have hdistinct : (s.received.map some).Nodup :=
    List.Nodup.map (Option.some_injective _) (hr ▸ hnodup)
  rw [hr, ht, List.map_append, List.map_singleton, hkept] at hnow
  rw [hkept] at hdistinct
  have hnil := List.map_eq_nil_iff.mp (eq_nil_of_isPrefix_of_nodup hdistinct hnow)
  rw [hq, hnil]
  rfl

lemma lockStep_of_inOrder (hrun : (system M).run es = .ok s)
    (hchunks : ∀ chunk, .readDone chunk ∈ es → IsResponsePacket chunk)
    (mem : SpheroServerResponse) (hnodup : s.received.Nodup) (horder : InOrder mem es) :
    LockStep es := by
  revert hchunks hnodup horder
  refine (system M).run_induction
    (P := fun es s => (∀ chunk, .readDone chunk ∈ es → IsResponsePacket chunk) →
      s.received.Nodup → InOrder mem es → LockStep es)
    ?_ ?_ hrun
  · intro _ _ _ fs reader s hfs
    exact absurd (List.prefix_nil.mp hfs) (by simp)
  · intro es s e t hes ih hstep hchunks hnodup horder
    have hsub := ((inboundInv_of_run hes).received_isPrefix_of_step hstep).sublist
    have hpacket : ∀ chunk, .readDone chunk ∈ es → IsResponsePacket chunk :=
      fun chunk hc => hchunks chunk (List.mem_append_left _ hc)
    have hlock : LockStep es := ih hpacket (hnodup.sublist hsub)
      (horder.of_isPrefix (List.prefix_append es [e]))
    intro fs reader u hfs hu
    rcases List.prefix_concat_iff.mp hfs with heq | hfs
    · -- the entry is taken by the last event, to which the order at the end applies
      obtain ⟨rfl, he⟩ := List.append_inj' heq rfl
      obtain rfl : u = s := Except.ok.inj (hu.symm.trans hes)
      obtain rfl : .readTake reader = e := List.singleton_inj.mp he
      have hnow := horder _ t (List.prefix_refl _)
        (((system M).run_concat_ok_iff (e := .readTake reader)).mpr ⟨u, hu, hstep⟩)
      exact length_readQueue_of_take hu (isResponsePacket_of_received hu hpacket) hlock hstep mem
        hnodup hnow
    · exact hlock fs reader u hfs hu

/-! ## Packets and reads -/

/-- A connection to which packets are delivered one by one, before anybody reads. -/
lemma exists_run_of_packets (M : Type*) {ps : List SpheroPacket}
    (hps : ∀ p ∈ ps, IsResponsePacket p) :
    ∃ s, (system M).run ([.connect true] ++ ps.map .readDone) = .ok s ∧ s.connected = true ∧
      s.readers = [] ∧ s.readQueue = ps.map entryOf ∧ s.received = ps ∧ s.taken = [] := by
  obtain ⟨s, hrun, hconn, hup, hqueue, hreceived, htaken, hreaders⟩ :
      ∃ s, (system M).run [.connect true] = .ok s ∧ s.connected = true ∧
        s.shuttingDown = false ∧ s.readQueue = [] ∧ s.received = [] ∧ s.taken = [] ∧
        s.readers = [] := ⟨_, rfl, rfl, rfl, rfl, rfl, rfl, rfl⟩
  have hdeliver := (inboundInv_of_run hrun).runFrom_chunks hconn hup
    fun p hp => ⟨(hps p hp).length_le.trans (by decide), (hps p hp).mem_start⟩
  rw [hqueue, hreceived] at hdeliver
  exact ⟨_, ((system M).run_append_of_ok hrun _).trans hdeliver, hconn, hreaders, rfl, rfl, htaken⟩

/-- **Responses come in order in lock step, and in general only then.**  Let every chunk of a run
be one response packet.  If every entry is taken while it is the only one in the queue, then the
responses read are at every moment a prefix of the packets received; and if no packet is received
twice, the converse holds as well. -/
theorem inOrder_iff_lockStep (hrun : (system M).run es = .ok s)
    (hchunks : ∀ chunk, .readDone chunk ∈ es → IsResponsePacket chunk)
    (mem : SpheroServerResponse) :
    (LockStep es → InOrder mem es) ∧ (s.received.Nodup → (InOrder mem es ↔ LockStep es)) :=
  ⟨inOrder_of_lockStep hchunks mem, fun hnodup =>
    ⟨lockStep_of_inOrder hrun hchunks mem hnodup, inOrder_of_lockStep hchunks mem⟩⟩

/-- A packet that arrives and is read before the next one. -/
lemma lockStep_round (hlock : LockStep es) (hrun : (system M).run es = .ok s)
    (hconn : s.connected = true) (hup : s.shuttingDown = false) (hreaders : s.readers = [])
    (hqueue : s.readQueue = []) {p : SpheroPacket} (hp : IsResponsePacket p) :
    LockStep (es ++ [.readDone p, .readEnter 0, .readTake 0]) ∧
      (system M).run (es ++ [.readDone p, .readEnter 0, .readTake 0]) =
        .ok { s with received := s.received ++ [p], taken := s.taken ++ [entryOf p] } := by
  have hchunk : ∀ c ∈ [p], c.length ≤ 1024 ∧ 0xFF ∈ c := by
    intro c hc
    rw [List.mem_singleton.mp hc]
    exact ⟨hp.length_le.trans (by decide), hp.mem_start⟩
  have harrive := (inboundInv_of_run hrun).runFrom_chunks hconn hup hchunk
  rw [← (system M).run_append_of_ok hrun] at harrive
  have hreader : 0 ∉ s.readers := by simp [hreaders]
  have hread := runFrom_read (s := { s with
    readQueue := s.readQueue ++ [p].map entryOf, received := s.received ++ [p] }) hconn rfl hreader
  rw [← (system M).run_append_of_ok harrive] at hread
  constructor
  · have hlock' : LockStep (((es ++ [.readDone p]) ++ [.readEnter 0]) ++ [.readTake 0]) := by
      refine ((hlock.concat ?_).concat ?_).concat ?_
      · rintro reader u ⟨⟩
      · rintro reader u ⟨⟩
      · intro reader u _ hu
        obtain ⟨v, hv, henter⟩ := (system M).run_concat_ok_iff.mp hu
        obtain rfl := Except.ok.inj (harrive.symm.trans hv)
        obtain ⟨-, rfl⟩ := step_readEnter_ok_iff.mp henter
        simp [hqueue]
    simpa using hlock'
  · have hend : (system M).run (es ++ [.readDone p, .readEnter 0, .readTake 0]) = .ok { s with
        readQueue := []
        received := s.received ++ [p]
        taken := s.taken ++ [entryOf p] } := by simpa [hqueue] using hread
    rw [hend, ← hqueue]

/-- Two packets, each read before the next one arrives. -/
theorem inOrder_two_packets :
    ∃ s, (system ℕ).run ([.connect true] ++
        [.readDone [0xFF, 0xFF, 0x00, 0x01, 0x00], .readEnter 0, .readTake 0] ++
        [.readDone [0xFF, 0xFF, 0x00, 0x02, 0x00], .readEnter 0, .readTake 0]) = .ok s ∧
      s.taken = [entryOf [0xFF, 0xFF, 0x00, 0x01, 0x00], entryOf [0xFF, 0xFF, 0x00, 0x02, 0x00]] ∧
      InOrder .new ([.connect true] ++
        [.readDone [0xFF, 0xFF, 0x00, 0x01, 0x00], .readEnter 0, .readTake 0] ++
        [.readDone [0xFF, 0xFF, 0x00, 0x02, 0x00], .readEnter 0, .readTake 0] :
          List (Event ℕ)) := by
  obtain ⟨s, hrun, hconn, hup, hreaders, hqueue, htaken⟩ :
      ∃ s, (system ℕ).run [.connect true] = .ok s ∧ s.connected = true ∧ s.shuttingDown = false ∧
        s.readers = [] ∧ s.readQueue = [] ∧ s.taken = [] := ⟨_, rfl, rfl, rfl, rfl, rfl, rfl⟩
  have hstart : LockStep ([.connect true] : List (Event ℕ)) := by
    intro fs reader u hfs
    have hmem := hfs.subset List.mem_concat_self
    simp at hmem
  obtain ⟨hlock, hrun⟩ := lockStep_round hstart hrun hconn hup hreaders hqueue
    (p := [0xFF, 0xFF, 0x00, 0x01, 0x00]) (by decide)
  obtain ⟨hlock, hrun⟩ := lockStep_round hlock hrun hconn hup hreaders hqueue
    (p := [0xFF, 0xFF, 0x00, 0x02, 0x00]) (by decide)
  refine ⟨_, hrun, ?_, (inOrder_iff_lockStep hrun (by simp; decide) .new).1 hlock⟩
  simp [htaken]

/-- A reader that comes after two packets gets the second one. -/
theorem late_reader_gets_newest :
    ∃ s, (system ℕ).run (([.connect true] ++ [[0xFF, 0xFF, 0x00, 0x01, 0x00],
        [0xFF, 0xFF, 0x00, 0x02, 0x00]].map .readDone) ++ [.readEnter 0, .readTake 0]) = .ok s ∧
      s.received = [[0xFF, 0xFF, 0x00, 0x01, 0x00], [0xFF, 0xFF, 0x00, 0x02, 0x00]] ∧
      s.taken.map (reportOf .new) = [some [0xFF, 0xFF, 0x00, 0x02, 0x00]] ∧
      ¬ s.taken.map (reportOf .new) <+: s.received.map some := by
  have hps : ∀ p ∈ ([[0xFF, 0xFF, 0x00, 0x01, 0x00], [0xFF, 0xFF, 0x00, 0x02, 0x00]] :
      List SpheroPacket), IsResponsePacket p := by decide
  obtain ⟨s, hrun, hconn, hreaders, hqueue, hreceived, htaken⟩ := exists_run_of_packets ℕ hps
  have hreader : 0 ∉ s.readers := by simp [hreaders]
  have hread := runFrom_read hconn (q := [entryOf [0xFF, 0xFF, 0x00, 0x01, 0x00]]) hqueue hreader
  rw [← (system ℕ).run_append_of_ok hrun] at hread
  have htake : reportOf .new (entryOf [0xFF, 0xFF, 0x00, 0x02, 0x00]) =
      some [0xFF, 0xFF, 0x00, 0x02, 0x00] := reportOf_entryOf .new (by decide)
  refine ⟨_, hread, hreceived, ?_, ?_⟩
  · simp [htaken, htake]
  · simp [htaken, htake, hreceived]

end System

end Btconn
