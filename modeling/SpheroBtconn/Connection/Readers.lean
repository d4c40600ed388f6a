import SpheroBtconn.Connection.Inbound

/-!
# Several readers

`read` waits until `readQueue_` is not empty and only then locks the mutex and takes an entry.
Between the two steps other threads can take entries, so that `back()` and `pop_back()` may meet an
empty queue.  What decides about this is how many threads are past the loop: they all find an entry
exactly if there are no more of them than entries (`takesSafely_iff`).

A thread keeps this so if it leaves the loop while the queue has more entries than there are
threads past the loop already (`EntersWithEntry`); a single reader always does.  Whether or not
this happens, no entry is ever lost or returned twice (`taken_append_readQueue_perm`).
-/

namespace Btconn

variable {M : Type*}

namespace System

variable {s t : System M} {e : Event M} {es : List (Event M)}

/-! ## Entries -/

/-- What has been taken and what is still queued are the entries of what has been received. -/
lemma taken_append_readQueue_perm (hrun : (system M).run es = .ok s) :
    (s.taken ++ s.readQueue).Perm (s.received.map entryOf) := by
  refine (system M).run_induction
    (P := fun _ s => (s.taken ++ s.readQueue).Perm (s.received.map entryOf))
    (List.Perm.refl _) ?_ hrun
  intro es s e t hes ih hstep
  rcases (inboundInv_of_run hes).readQueue_step hstep with
    ⟨hq, hr, ht⟩ | ⟨chunk, -, hq, hr, ht⟩ | ⟨reader, entry, -, hq, hr, ht⟩
  · rw [hq, hr, ht]
    exact ih
  · rw [hq, hr, ht, ← List.append_assoc, List.map_append]
    exact ih.append_right [entryOf chunk]
  · -- the entry at the back of the queue moves to the back of what has been taken
    rw [hq] at ih
    rw [hr, ht, List.append_assoc]
    exact (List.perm_append_comm.append_left s.taken).trans ih

/-! ## Threads past the loop -/

/-- What an event does to the threads past the loop and to the queue. -/
lemma readers_step (hstep : s.step e = .ok t) :
    (∃ reader, e = .readEnter reader ∧ t.readers = reader :: s.readers ∧
        t.readQueue = s.readQueue) ∨
      (∃ reader entry, e = .readTake reader ∧ reader ∈ s.readers ∧
        t.readers = s.readers.erase reader ∧ s.readQueue = t.readQueue ++ [entry]) ∨
      (t.readers = s.readers ∧ s.readQueue.length ≤ t.readQueue.length) := by
  cases e with
  | connect accepted =>
    rcases step_connect_cases hstep with ⟨-, rfl⟩ | ⟨-, -, rfl⟩
    · exact Or.inr (Or.inr ⟨rfl, le_rfl⟩)
    · exact Or.inr (Or.inr ⟨rfl, le_rfl⟩)
  | readDone chunk =>
    obtain ⟨-, ⟨-, rfl⟩ | ⟨-, entry, rfl⟩⟩ := step_readDone_cases hstep
    · exact Or.inr (Or.inr ⟨rfl, le_rfl⟩)
    · exact Or.inr (Or.inr ⟨rfl, by simp⟩)
  | readFailed err =>
    obtain ⟨-, -, rfl⟩ := step_readFailed_cases hstep
    exact Or.inr (Or.inr ⟨rfl, le_rfl⟩)
  | ioReturn =>
    obtain ⟨-, rfl⟩ := step_ioReturn_ok_iff.mp hstep
    exact Or.inr (Or.inr ⟨rfl, le_rfl⟩)
  | readEnter reader =>
    obtain ⟨-, rfl⟩ := step_readEnter_ok_iff.mp hstep
    exact Or.inl ⟨reader, rfl, rfl, rfl⟩
  | readTake reader =>
    obtain ⟨entry, hmem, hlast, rfl⟩ := step_readTake_ok_iff.mp hstep
    have hqueue : s.readQueue = s.readQueue.dropLast ++ [entry] :=
      (List.dropLast_append_getLast? entry (by simp [hlast])).symm
    exact Or.inr (Or.inl ⟨reader, entry, rfl, hmem, rfl, hqueue⟩)
  | _ =>
    have hsame := sameInbound_step hstep rfl
    exact Or.inr (Or.inr ⟨hsame.readers, hsame.readQueue ▸ le_rfl⟩)

/-- If the event lets a thread leave the loop, then the queue has more entries than there are
threads past the loop. -/
def EntersWithEntry (s : System M) (e : Event M) : Prop :=
  ∀ reader, e = .readEnter reader → s.readers.length < s.readQueue.length

/-- A thread that takes an entry takes its own share along. -/
lemma length_readers_of_take {reader : ℕ} {entry : RawData} (hmem : reader ∈ s.readers)
    (hreaders : t.readers = s.readers.erase reader)
    (hqueue : s.readQueue = t.readQueue ++ [entry])
    (h : s.readers.length ≤ s.readQueue.length) : t.readers.length ≤ t.readQueue.length := by
  have hlength := List.length_erase_of_mem hmem
  rw [hqueue, List.length_append, List.length_singleton] at h
  rw [hreaders, hlength]
  omega

/-- Every event that does not let one thread too many leave the loop keeps the balance. -/
lemma length_readers_step (h : s.readers.length ≤ s.readQueue.length) (he : EntersWithEntry s e)
    (hstep : s.step e = .ok t) : t.readers.length ≤ t.readQueue.length := by
  rcases readers_step hstep with
    ⟨reader, rfl, hreaders, hqueue⟩ | ⟨reader, entry, -, hmem, hreaders, hqueue⟩ |
      ⟨hreaders, hqueue⟩
  · have hroom := he reader rfl
    rw [hreaders, hqueue, List.length_cons]
    omega
  · exact length_readers_of_take hmem hreaders hqueue h
  · rw [hreaders]
    omega

/-! ## Taking entries -/

/-- In whatever order threads that are past the loop go on to take an entry, none of them finds
the queue empty. -/
def TakesSafely (s : System M) : Prop :=
  ∀ readers : List ℕ,
    (system M).runFrom s (readers.map .readTake) ≠ .error (.fault .emptyQueue)

/-- A take step meets an empty queue or takes the entry at the back. -/
lemma step_readTake_of_mem {reader : ℕ} (hmem : reader ∈ s.readers) :
    (s.readQueue = [] ∧ s.step (.readTake reader) = .error (.fault .emptyQueue)) ∨
      ∃ t entry, s.step (.readTake reader) = .ok t ∧ s.readQueue = t.readQueue ++ [entry] ∧
        t.readers = s.readers.erase reader := by
  cases hlast : s.readQueue.getLast? with
  | none => exact Or.inl ⟨List.getLast?_eq_none_iff.mp hlast, by simp [step, hmem, hlast]⟩
  | some entry =>
    have hqueue : s.readQueue = s.readQueue.dropLast ++ [entry] :=
      (List.dropLast_append_getLast? entry (by simp [hlast])).symm
    exact Or.inr ⟨_, entry, step_readTake_ok_iff.mpr ⟨entry, hmem, hlast, rfl⟩, hqueue, rfl⟩

lemma takesSafely_of_le (h : s.readers.length ≤ s.readQueue.length) : TakesSafely s := by
  intro readers
  induction readers generalizing s with
  | nil => simp
  | cons reader readers ih =>
    rw [List.map_cons, EventSystem.runFrom_cons]
    by_cases hmem : reader ∈ s.readers
    · rcases step_readTake_of_mem hmem with ⟨hnil, -⟩ | ⟨t, entry, hstep, hqueue, hreaders⟩
      · have hpos := List.length_pos_of_mem hmem
        rw [hnil, List.length_nil] at h
        omega
      · have hstep' : (system M).step s (.readTake reader) = .ok t := hstep
        rw [hstep']
        exact ih (length_readers_of_take hmem hreaders hqueue h)
    · have hstep' : (system M).step s (.readTake reader) = .error .disabled := by
        simp [system, step, hmem]
      rw [hstep']
      simp [Except.bind]

/-- If there are more threads than entries, one of them finds the queue empty when they take their
entries one after the other. -/
lemma exists_fault_of_lt (h : s.readQueue.length < s.readers.length) :
    ∃ readers : List ℕ,
      (system M).runFrom s (readers.map .readTake) = .error (.fault .emptyQueue) := by
  generalize hn : s.readQueue.length = n
  induction n generalizing s with
  | zero =>
    have hpos : 0 < s.readers.length := by omega
    obtain ⟨reader, hmem⟩ := List.exists_mem_of_length_pos hpos
    refine ⟨[reader], ?_⟩
    rcases step_readTake_of_mem hmem with ⟨-, hstep⟩ | ⟨t, entry, -, hqueue, -⟩
    · have hstep' : (system M).step s (.readTake reader) = .error (.fault .emptyQueue) := hstep
      rw [List.map_singleton, EventSystem.runFrom_cons, hstep']
      rfl
    · rw [hqueue, List.length_append, List.length_singleton] at hn
      omega
  | succ n ih =>
    have hpos : 0 < s.readers.length := by omega
    obtain ⟨reader, hmem⟩ := List.exists_mem_of_length_pos hpos
    rcases step_readTake_of_mem hmem with ⟨hnil, -⟩ | ⟨t, entry, hstep, hqueue, hrest⟩
    · rw [hnil, List.length_nil] at hn
      omega
    · rw [hqueue, List.length_append, List.length_singleton] at hn h
      have hlength := List.length_erase_of_mem hmem
      obtain ⟨readers, hfault⟩ := ih (s := t) (by rw [hrest]; omega) (by omega)
      have hstep' : (system M).step s (.readTake reader) = .ok t := hstep
      refine ⟨reader :: readers, ?_⟩
      rw [List.map_cons, (system M).runFrom_cons_ok hstep', hfault]

/-- The threads past the loop all find an entry exactly if there are no more of them than
entries. -/
lemma takesSafely_iff : TakesSafely s ↔ s.readers.length ≤ s.readQueue.length := by
  refine ⟨?_, takesSafely_of_le⟩
  intro hsafe
  by_contra hlt
  have hmore : s.readQueue.length < s.readers.length := by omega
  obtain ⟨readers, hfault⟩ := exists_fault_of_lt hmore
  exact hsafe readers hfault

/-! ## Whole runs -/

/-- In a run in which threads only leave the loop with an entry to spare, there are never more
threads past the loop than entries. -/
lemma length_readers_of_run
    (hes : (system M).EveryStep (fun u e _ => EntersWithEntry u e) (system M).init es)
    (hrun : (system M).run es = .ok s) : s.readers.length ≤ s.readQueue.length := by
  revert hes
  refine (system M).run_induction
    (P := fun es s => (system M).EveryStep (fun u e _ => EntersWithEntry u e) (system M).init es →
      s.readers.length ≤ s.readQueue.length) (fun _ => le_rfl) ?_ hrun
  intro es s e t hrun ih hstep hes
  have hprev := ih (hes.of_isPrefix (List.prefix_append es [e]))
  exact length_readers_step hprev (hes es e s t (List.prefix_refl _) hrun hstep) hstep

/-- Only a take step can meet an empty queue. -/
lemma readTake_of_emptyQueue (h : InboundInv s)
    (hstep : s.step e = .error (.fault .emptyQueue)) : ∃ reader, e = .readTake reader := by
  rcases step_fault_cases hstep with ⟨-, hf⟩ | ⟨reader, rfl, -⟩ | ⟨chunk, rfl, hcan, hc⟩
  · cases hf
  · exact ⟨reader, rfl⟩
  · exfalso
    cases hd : s.shuttingDown with
    | true =>
      rw [BtConnection.readCompletion_of_shuttingDown (s := s.deliver chunk) hd] at hc
      cases hc
    | false =>
      by_cases hmem : 0xFF ∈ chunk
      · rw [h.step_readDone_of_mem hd hcan hmem] at hstep
        cases hstep
      · rw [h.step_readDone_of_notMem hd hcan hmem] at hstep
        cases hstep

/-- A thread past the loop has left it. -/
lemma readEnter_mem_of_readers (hrun : (system M).run es = .ok s) {reader : ℕ}
    (hmem : reader ∈ s.readers) : .readEnter reader ∈ es := by
  revert hmem
  refine (system M).run_induction
    (P := fun es s => reader ∈ s.readers → .readEnter reader ∈ es) (fun h => ?_)
    (fun es s e t _ ih hstep hmem => ?_) hrun
  · cases h
  · rcases readers_step hstep with
      ⟨other, rfl, hreaders, -⟩ | ⟨other, entry, -, -, hreaders, -⟩ | ⟨hreaders, -⟩
    · rw [hreaders, List.mem_cons] at hmem
      rcases hmem with rfl | hmem
      · exact List.mem_concat_self
      · exact List.mem_append_left _ (ih hmem)
    · rw [hreaders] at hmem
      exact List.mem_append_left _ (ih (List.mem_of_mem_erase hmem))
    · exact List.mem_append_left _ (ih (hreaders ▸ hmem))

/-- A single reader leaves the loop only when nobody is past it. -/
lemma everyStep_of_single_reader {reader : ℕ}
    (hes : ∀ other, .readEnter other ∈ es → other = reader) :
    (system M).EveryStep (fun u e _ => EntersWithEntry u e) (system M).init es := by
  rintro fs e u v hfs hu hstep other rfl
  obtain ⟨⟨-, hqueue, hnew⟩, -⟩ := step_readEnter_ok_iff.mp hstep
  have hsub : fs <+: es := (List.prefix_append fs _).trans hfs
  have hother := hes other (hfs.subset List.mem_concat_self)
  have hnone : u.readers = [] := by
    rw [List.eq_nil_iff_forall_not_mem]
    intro third hthird
    have hsame := hes third (hsub.subset (readEnter_mem_of_readers hu hthird))
    rw [hsame, ← hother] at hthird
    exact hnew hthird
  rw [hnone, List.length_nil]
  exact List.length_pos_of_ne_nil hqueue

/-- **Readers find an entry if they enter with one to spare, and in general only then.**  Consider
any run with any number of readers.  If a thread only leaves the loop while the queue has more
entries than there are threads past the loop, then no take step of the run meets an empty queue.
This is so for all threads past the loop, at every moment of the run and in whatever order they go
on, if and only if threads leave the loop like this; a single thread always does.  In all runs alike,
what has been taken and what is still queued are the entries that have been pushed, each of them
once. -/
theorem takes_never_empty_iff (es : List (Event M)) :
    ((system M).EveryStep (fun u e _ => EntersWithEntry u e) (system M).init es →
      (system M).run es ≠ .error (.fault .emptyQueue)) ∧
    ((∀ fs u, fs <+: es → (system M).run fs = .ok u → TakesSafely u) ↔
      (system M).EveryStep (fun u e _ => EntersWithEntry u e) (system M).init es) ∧
    (∀ reader, (∀ other, .readEnter other ∈ es → other = reader) →
      (system M).EveryStep (fun u e _ => EntersWithEntry u e) (system M).init es) ∧
    ∀ s, (system M).run es = .ok s → (s.taken ++ s.readQueue).Perm (s.received.map entryOf) := by
  have hsafe : (system M).EveryStep (fun u e _ => EntersWithEntry u e) (system M).init es →
      ∀ fs u, fs <+: es → (system M).run fs = .ok u → TakesSafely u :=
    fun hes fs u hfs hu => takesSafely_iff.mpr (length_readers_of_run (hes.of_isPrefix hfs) hu)
  refine ⟨?_, ⟨?_, hsafe⟩, fun reader => everyStep_of_single_reader,
    fun s hrun => taken_append_readQueue_perm hrun⟩
  · intro hes hfault
    obtain ⟨fs, e, gs, s, rfl, hfs, hstep⟩ := (system M).run_eq_error_iff.mp hfault
    obtain ⟨reader, rfl⟩ := readTake_of_emptyQueue (inboundInv_of_run hfs) hstep
    refine hsafe hes fs s (List.prefix_append _ _) hfs [reader] ?_
    rw [List.map_singleton, EventSystem.runFrom_cons, hstep]
    rfl
  · rintro hall fs e u v hfs hu hstep reader rfl
    -- the thread that enters is one of those that have to find an entry afterwards
    have hentered := hall _ v hfs
      (((system M).run_concat_ok_iff (e := .readEnter reader)).mpr ⟨u, hu, hstep⟩)
    obtain ⟨-, rfl⟩ := step_readEnter_ok_iff.mp hstep
    have hbalance := takesSafely_iff.mp hentered
    simpa [Nat.succ_le_iff] using hbalance

/-- One entry and two threads that both see it before either takes it. -/
lemma runFrom_two_readers (hconn : s.connected = true) (hreaders : s.readers = [])
    (hone : s.readQueue.length = 1) {first second : ℕ} (hne : second ≠ first) :
    (system M).runFrom s [.readEnter first, .readEnter second, .readTake first,
      .readTake second] = .error (.fault .emptyQueue) := by
  obtain ⟨entry, hqueue⟩ := List.length_eq_one_iff.mp hone
  have hfirst : (system M).step s (.readEnter first) = .ok { s with readers := [first] } := by
    refine step_readEnter_ok_iff.mpr ⟨?_, by rw [hreaders]⟩
    simp [hconn, hqueue, hreaders]
  have hsecond : (system M).step { s with readers := [first] } (.readEnter second) =
      .ok { s with readers := [second, first] } := by
    refine step_readEnter_ok_iff.mpr ⟨?_, rfl⟩
    simp [hconn, hqueue, hne]
  have htake : (system M).step { s with readers := [second, first] } (.readTake first) =
      .ok { s with readers := [second], readQueue := [], taken := s.taken ++ [entry] } := by
    refine step_readTake_ok_iff.mpr ⟨entry, by simp, by simp [hqueue], ?_⟩
    simp [hqueue, hne]
  have hempty : (system M).step
      { s with readers := [second], readQueue := [], taken := s.taken ++ [entry] }
      (.readTake second) = .error (.fault .emptyQueue) := by
    simp [system, step]
  rw [(system M).runFrom_cons_ok hfirst, (system M).runFrom_cons_ok hsecond,
    (system M).runFrom_cons_ok htake, EventSystem.runFrom_cons, hempty]
  rfl

/-- Two threads and one response: the second one takes from an empty queue. -/
theorem two_readers_one_entry :
    (system ℕ).run ([.connect true] ++ [.readDone [0xFF, 0xFF, 0x00, 0x01, 0x00]] ++
      [.readEnter 0, .readEnter 1, .readTake 0, .readTake 1]) = .error (.fault .emptyQueue) := by
  obtain ⟨s, hrun, hup, hcan, hconn, hreaders, hqueue⟩ :
      ∃ s, (system ℕ).run [.connect true] = .ok s ∧ s.shuttingDown = false ∧
        s.CanDeliver [0xFF, 0xFF, 0x00, 0x01, 0x00] ∧ s.connected = true ∧ s.readers = [] ∧
        s.readQueue = [] := ⟨_, rfl, rfl, by decide, rfl, rfl, rfl⟩
  have hdeliver : (system ℕ).step s (.readDone [0xFF, 0xFF, 0x00, 0x01, 0x00]) = .ok _ :=
    (inboundInv_of_run hrun).step_readDone_of_mem hup hcan (by decide)
  have hboth := ((system ℕ).run_concat_ok_iff
    (e := .readDone [0xFF, 0xFF, 0x00, 0x01, 0x00])).mpr ⟨s, hrun, hdeliver⟩
  rw [(system ℕ).run_append_of_ok hboth]
  apply runFrom_two_readers
  · exact hconn
  · exact hreaders
  · rw [List.length_append, hqueue]
    rfl
  · decide

end System

end Btconn
