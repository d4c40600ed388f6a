import SpheroBtconn.Connection.Receive
import SpheroBtconn.Foundation.StackOrder
import Mathlib.Data.Set.Finite.Basic

/-!
# The order of the entries

`readHandler` puts entries at the back of `readQueue_`, and `read` takes them from the back.  The
queue is a stack, whatever else happens to the connection and however many threads read.  So the
orders in which entries are handed out are those of a stack, and no others: the chunks received,
the entries taken and those queued can be the ones of a state that some run reaches if and only if
a stack could have worked in this way (`reachable_reads_iff`).
-/

namespace Btconn

variable {M : Type*}

/-- The entries of the chunks with the given numbers. -/
def entriesAt (chunks : List (List UInt8)) (is : List ℕ) : List RawData :=
  is.filterMap fun i => chunks[i]?.map entryOf

section entriesAt

variable {chunks more : List (List UInt8)} {is js : List ℕ}

@[simp] lemma entriesAt_nil : entriesAt chunks [] = [] := rfl

lemma entriesAt_append : entriesAt chunks (is ++ js) = entriesAt chunks is ++ entriesAt chunks js :=
  List.filterMap_append

lemma entriesAt_singleton {c : List UInt8} {i : ℕ} (h : chunks[i]? = some c) :
    entriesAt chunks [i] = [entryOf c] := by
  simp [entriesAt, h]

/-- Chunks that come later do not change the entries of the earlier ones. -/
lemma entriesAt_append_chunks (h : ∀ i ∈ is, i < chunks.length) :
    entriesAt (chunks ++ more) is = entriesAt chunks is := by
  refine List.filterMap_congr fun i hi => ?_
  rw [List.getElem?_append_left (h i hi)]

end entriesAt

namespace System

variable {s t : System M} {es : List (Event M)}

/-! ## Every run is the history of a stack -/

/-- Only chunks that contain `0xFF` are processed. -/
lemma chunk_of_mem_received (hrun : (system M).run es = .ok s) :
    ∀ c ∈ s.received, c.length ≤ 1024 ∧ 0xFF ∈ c := by
  refine (system M).run_induction
    (P := fun _ s => ∀ c ∈ s.received, c.length ≤ 1024 ∧ 0xFF ∈ c) nofun ?_ hrun
  intro es s e t hes ih hstep
  have hinv := inboundInv_of_run hes
  rcases hinv.readQueue_step hstep with
    ⟨-, hr, -⟩ | ⟨chunk, rfl, hq, hr, -⟩ | ⟨reader, entry, -, -, hr, -⟩
  · exact hr ▸ ih
  · obtain ⟨hcan, ⟨-, rfl⟩ | ⟨hd, -⟩⟩ := step_readDone_cases hstep
    · have hlength := congrArg List.length hr
      simp at hlength
    · have hmem : 0xFF ∈ chunk := by
        by_contra hmem
        have hfault := hstep.symm.trans (hinv.step_readDone_of_notMem hd hcan hmem)
        cases hfault
      intro c hc
      rw [hr, List.mem_append, List.mem_singleton] at hc
      rcases hc with hc | rfl
      · exact ih c hc
      · exact ⟨hcan.2.2.2, hmem⟩
  · exact hr ▸ ih

/-- An entry that is taken is the one of the number on top. -/
lemma exists_top {n : ℕ} {out stack : List ℕ} {chunks : List (List UInt8)} {q : List RawData}
    {entry : RawData} (h : StackHistory n out stack) (hn : n = chunks.length)
    (hstack : q ++ [entry] = entriesAt chunks stack) :
    ∃ below a, stack = below ++ [a] ∧ q = entriesAt chunks below ∧
      entriesAt chunks [a] = [entry] := by
  have hne : stack ≠ [] := by
    rintro rfl
    simp at hstack
  obtain ⟨below, a, rfl⟩ : ∃ below a, stack = below ++ [a] :=
    ⟨_, _, (List.dropLast_append_getLast hne).symm⟩
  have ha : a < chunks.length := hn ▸ h.isStackOrder.lt_of_mem_stack (by simp)
  have htop := entriesAt_singleton (List.getElem?_eq_getElem ha)
  rw [entriesAt_append, htop] at hstack
  obtain ⟨hbelow, hentry⟩ := List.append_inj' hstack rfl
  exact ⟨below, a, rfl, hbelow, htop.trans hentry.symm⟩

/-- What has been received, taken and queued, with the numbers of the chunks. -/
lemma exists_stackHistory_of_run (hrun : (system M).run es = .ok s) :
    ∃ out stack, StackHistory s.received.length out stack ∧
      s.taken = entriesAt s.received out ∧ s.readQueue = entriesAt s.received stack := by
  refine (system M).run_induction
    (P := fun _ s => ∃ out stack, StackHistory s.received.length out stack ∧
      s.taken = entriesAt s.received out ∧ s.readQueue = entriesAt s.received stack)
    ⟨[], [], .nil, rfl, rfl⟩ ?_ hrun
  rintro es s e t hes ⟨out, stack, hstack, htaken, hqueue⟩ hstep
  rcases (inboundInv_of_run hes).readQueue_step hstep with
    ⟨hq, hr, ht⟩ | ⟨chunk, -, hq, hr, ht⟩ | ⟨reader, entry, -, hq, hr, ht⟩
  · exact ⟨out, stack, hr ▸ hstack, by rw [ht, hr, htaken], by rw [hq, hr, hqueue]⟩
  · have hout : ∀ i ∈ out, i < s.received.length :=
      fun i => hstack.isStackOrder.lt_of_mem_out
    have hin : ∀ i ∈ stack, i < s.received.length :=
      fun i => hstack.isStackOrder.lt_of_mem_stack
    have hnew : entriesAt (s.received ++ [chunk]) [s.received.length] = [entryOf chunk] :=
      entriesAt_singleton (by simp)
    refine ⟨out, stack ++ [s.received.length], ?_, ?_, ?_⟩
    · rw [hr, List.length_append]
      exact hstack.push
    · rw [ht, hr, htaken, entriesAt_append_chunks hout]
    · rw [hq, hr, hqueue, entriesAt_append, entriesAt_append_chunks hin, hnew]
  · rw [hq] at hqueue
    obtain ⟨below, a, rfl, hbelow, htop⟩ := exists_top hstack rfl hqueue
    exact ⟨out ++ [a], below, hr ▸ hstack.pop,
      by rw [ht, hr, htaken, entriesAt_append, htop], by rw [hr, hbelow]⟩

/-! ## Every history of a stack is a run -/

/-- The state after a `connect()` that succeeds at once. -/
def established : System M :=
  { System.new with connected := true, ioThread := .running, reads := 1 }

/-- Threads that leave the waiting loop one after the other. -/
lemma runFrom_readEnter (hconn : s.connected = true) (hqueue : s.readQueue ≠ []) {rs : List ℕ}
    (hrs : (rs ++ s.readers).Nodup) :
    (system M).runFrom s (rs.reverse.map .readEnter) = .ok { s with readers := rs ++ s.readers } := by
  induction rs with
  | nil => rfl
  | cons r rs ih =>
    rw [List.cons_append, List.nodup_cons] at hrs
    rw [List.reverse_cons, List.map_append, (system M).runFrom_append_ok_iff]
    refine ⟨_, ih hrs.2, ?_⟩
    rw [List.map_singleton, EventSystem.runFrom_singleton]
    exact step_readEnter_ok_iff.mpr ⟨⟨hconn, hqueue, hrs.1⟩, rfl⟩

/-- The state of a connection that has received the first `n` of some chunks and handed out those
with the numbers of `out`, while the threads of `rs` have left the waiting loop. -/
def reading (chunks : List (List UInt8)) (n : ℕ) (out stack rs : List ℕ) : System M :=
  { established with
    received := chunks.take n
    taken := entriesAt chunks out
    readQueue := entriesAt chunks stack
    readers := rs }

lemma run_connect (chunks : List (List UInt8)) :
    (system M).run [.connect true] = .ok (reading chunks 0 [] [] []) := rfl

/-- The next chunk arrives. -/
lemma step_reading_push {chunks : List (List UInt8)} {n : ℕ} {out stack rs : List ℕ}
    {es : List (Event M)} (hrun : (system M).run es = .ok (reading chunks n out stack rs))
    (hchunks : ∀ c ∈ chunks, c.length ≤ 1024 ∧ 0xFF ∈ c) (hn : n < chunks.length) :
    (system M).run (es ++ [.readDone chunks[n]]) =
      .ok (reading chunks (n + 1) out (stack ++ [n]) rs) := by
  obtain ⟨hlen, hmem⟩ := hchunks _ (List.getElem_mem hn)
  have hcan : (reading chunks n out stack rs : System M).CanDeliver chunks[n] :=
    ⟨rfl, Nat.one_pos, List.length_pos_of_mem hmem, hlen⟩
  have hstep := (inboundInv_of_run hrun).step_readDone_of_mem rfl hcan hmem
  have hget := List.getElem?_eq_getElem hn
  refine ((system M).run_concat_ok_iff (e := .readDone chunks[n])).mpr ⟨_, hrun, hstep.trans ?_⟩
  simp only [reading, entriesAt_append, entriesAt_singleton hget, List.take_add_one, hget,
    Option.toList_some]

/-- Every history of a stack happens on a connection that is up, with any threads inside `read` as
soon as there has been an entry to wait for. -/
lemma exists_run_of_stackHistory {chunks : List (List UInt8)}
    (hchunks : ∀ c ∈ chunks, c.length ≤ 1024 ∧ 0xFF ∈ c) {rs : List ℕ} (hrs : rs.Nodup) {n : ℕ}
    {out stack : List ℕ} (h : StackHistory n out stack) (hn : n ≤ chunks.length)
    (hzero : n = 0 → rs = []) :
    ∃ es, .connect true ∈ es ∧ (∀ e ∈ es, e.stops = false) ∧
      (system M).run es = .ok (reading chunks n out stack rs) := by
  induction h with
  | nil =>
    rw [hzero rfl]
    exact ⟨[.connect true], by simp, by simp [Event.stops], run_connect chunks⟩
  | @push n out stack h ih =>
    by_cases hfirst : n = 0
    · -- the threads come as soon as the first entry is there
      subst hfirst
      obtain ⟨rfl, rfl⟩ : out = [] ∧ stack = [] := by simpa using h.isStackOrder.perm
      have hpush := step_reading_push (run_connect (M := M) chunks) hchunks hn
      have hwait : (reading chunks 1 [] [0] [] : System M).readQueue ≠ [] := by
        have hget := List.getElem?_eq_getElem hn
        simp [reading, entriesAt_singleton hget]
      have henter : (system M).runFrom (reading chunks 1 [] [0] []) (rs.reverse.map .readEnter) =
          .ok (reading chunks 1 [] [0] rs) := by
        rw [← List.append_nil rs] at hrs
        rw [runFrom_readEnter rfl hwait hrs]
        simp [reading]
      refine ⟨[.connect true] ++ [.readDone chunks[0]] ++ rs.reverse.map .readEnter, by simp, ?_, ?_⟩
      · simp [Event.stops]
      · exact ((system M).run_append_of_ok hpush _).trans henter
    · obtain ⟨es, hconn, hup, hrun⟩ := ih (by omega) fun hzero => absurd hzero hfirst
      refine ⟨es ++ [.readDone chunks[n]], by simp [hconn], ?_, step_reading_push hrun hchunks hn⟩
      intro e he
      rcases List.mem_append.mp he with he | he
      · exact hup e he
      · rw [List.mem_singleton.mp he]
        rfl
  | @pop n a out stack h ih =>
    obtain ⟨es, hconn, hup, hrun⟩ := ih hn hzero
    have ha : a < chunks.length := (h.isStackOrder.lt_of_mem_stack (by simp)).trans_le hn
    have htop := entriesAt_singleton (List.getElem?_eq_getElem ha)
    obtain ⟨reader, hreader⟩ := Infinite.exists_notMem_finset rs.toFinset
    have hread := runFrom_read (s := reading chunks n out (stack ++ [a]) rs) (M := M) rfl
      (entriesAt_append.trans (congrArg _ htop)) (by simpa [reading] using hreader)
    refine ⟨es ++ [.readEnter reader, .readTake reader], by simp [hconn], ?_, ?_⟩
    · intro e he
      rcases List.mem_append.mp he with he | he
      · exact hup e he
      · rcases List.mem_pair.mp he with rfl | rfl <;> rfl
    · rw [(system M).run_append_of_ok hrun, hread]
      simp only [reading, entriesAt_append, htop]

/-! ## Exactly the orders of a stack -/

/-- **The read queue is a stack, and nothing more is fixed.**  Some run reaches a state in which
exactly `chunks` have been received, `taken` has been handed out by `read` and `queue` is left in
`readQueue_` if and only if all chunks have at most 1024 bytes with a `0xFF` among them, and the
entries are those of the chunks, each in one of the two places, in an order that a stack could
have produced: the entries in the order in which they have been and will be taken are never such
that one of a later chunk comes before two of earlier ones in the order of their arrival. -/
theorem reachable_reads_iff {chunks : List (List UInt8)} {taken queue : List RawData} :
    (∃ (es : List (Event M)) (s : System M), (system M).run es = .ok s ∧ s.received = chunks ∧
        s.taken = taken ∧ s.readQueue = queue) ↔
      (∀ c ∈ chunks, c.length ≤ 1024 ∧ 0xFF ∈ c) ∧
        ∃ out stack, IsStackOrder chunks.length out stack ∧
          taken = entriesAt chunks out ∧ queue = entriesAt chunks stack := by
  constructor
  · rintro ⟨es, s, hrun, rfl, rfl, rfl⟩
    obtain ⟨out, stack, hstack, htaken, hqueue⟩ := exists_stackHistory_of_run hrun
    exact ⟨chunk_of_mem_received hrun, out, stack, hstack.isStackOrder, htaken, hqueue⟩
  · rintro ⟨hchunks, out, stack, hstack, rfl, rfl⟩
    obtain ⟨es, -, -, hrun⟩ := exists_run_of_stackHistory (M := M) hchunks List.nodup_nil
      (stackHistory_iff.mpr hstack) le_rfl fun _ => rfl
    exact ⟨es, _, hrun, by simp [reading], rfl, rfl⟩

end System

end Btconn
