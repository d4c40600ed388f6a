import SpheroBtconn.Connection.Drain
import SpheroBtconn.Connection.Reduction
import Mathlib.Data.Set.Finite.Basic

/-!
# Waiting and spinning

The end of the stream is an error like any other for `readAsync`, which starts the next read at
once.  On a connection that is up the I/O thread can therefore be busy for ever without anything
happening (`handlers_forever_iff`), and it never leaves `io_.run()`.

Once `shutdown_` is set, the handlers of reads put nothing into `readQueue_` any more, except for one
that has tested `shutdown_` before and not locked the mutex yet.  Its entry and what is left in the
queue can still be read, the newest entry first (`reads_after_shutdown`); a thread that waits for more
than that waits for ever, because the waiting loop of `read` looks at nothing but the queue
(`read_waits_forever_iff`).
-/

namespace Btconn

variable {M : Type*}

namespace System

variable {s t : System M} {e : Event M} {es fs : List (Event M)}

/-! ## The I/O thread -/

/-- Handlers only run while the thread is inside `io_.run()`. -/
lemma running_of_handler (he : e.isHandler = true) (hstep : s.step e = .ok t) :
    s.ioThread = .running := by
  cases e with
  | runPosted => exact (step_runPosted_cases hstep).1
  | writeDone i ec => exact (step_writeDone_cases hstep).1
  | readDone chunk => exact (step_readDone_cases hstep).1.1
  | readFailed err => exact (step_readFailed_cases hstep).1
  | _ => cases he

/-- The end of the stream, any number of times in a row. -/
lemma runFrom_eof (hin : InboundInv s) (hconn : s.connected = true) (hd : s.shuttingDown = false)
    (n : ℕ) : (system M).runFrom s (List.replicate n (.readFailed .eof)) = .ok s := by
  induction n with
  | zero => rfl
  | succ n ih =>
    have hstep : (system M).step s (.readFailed .eof) = .ok s := hin.step_readFailed hconn hd .eof
    rw [List.replicate_succ, (system M).runFrom_cons_ok hstep, ih]

/-- Handlers alone cannot run for ever on a connection that is shutting down. -/
lemma length_le_of_handlers (hd : s.shuttingDown = true) (hrest : (system M).runFrom s fs = .ok t)
    (hfs : ∀ e ∈ fs, e.isHandler = true) : fs.length ≤ s.workload := by
  have hother : ∀ e ∈ fs, e.submits = false ∧ e.isClose = false := by
    intro e he
    have hhandler := hfs e he
    cases e with
    | connect accepted => cases hhandler
    | send msg => cases hhandler
    | close => cases hhandler
    | _ => exact ⟨rfl, rfl⟩
  have hcount := (system M).runFrom_countP_le (I := fun u => u.shuttingDown = true)
    (f := fun u => u.workload) (p := Event.isHandler) (q := Event.isClose) (c := 1)
    (fun u e v hu he hstep => ⟨by rw [shuttingDown_step hstep, hu, Bool.true_or],
      workload_step hu (hother e he).1 hstep⟩) hrest hd
  have hall : fs.countP Event.isHandler = fs.length := List.countP_eq_length.mpr hfs
  have hnone : fs.countP Event.isClose = 0 := List.countP_eq_zero.mpr fun e he => by
    rw [(hother e he).2]
    decide
  omega

/-- **When the I/O thread can be busy for ever.**  From a state that some run reaches, any number of
handlers can run without a call of any member function in between if and only if the connection is
up.  Each of them can be a read that ends with the end of the stream and leaves everything as it
is; and as long as the connection is up, `io_.run()` does not return. -/
theorem handlers_forever_iff (hrun : (system M).run es = .ok s) :
    ((∀ n, ∃ fs t, fs.length = n ∧ (∀ e ∈ fs, e.isHandler = true) ∧
        (system M).runFrom s fs = .ok t) ↔ s.connected = true ∧ s.shuttingDown = false) ∧
      (s.connected = true → s.shuttingDown = false →
        (∀ n, (system M).runFrom s (List.replicate n (.readFailed .eof)) = .ok s) ∧
          s.step .ioReturn = .error .disabled) := by
  have hin := inboundInv_of_run hrun
  refine ⟨⟨?_, ?_⟩, ?_⟩
  · intro hforever
    constructor
    · obtain ⟨fs, t, hlength, hfs, hrest⟩ := hforever 1
      obtain ⟨e, rfl⟩ := List.length_eq_one_iff.mp hlength
      rw [EventSystem.runFrom_singleton] at hrest
      exact hin.connected_of_running (running_of_handler (hfs e (by simp)) hrest)
    · by_contra hd
      rw [Bool.not_eq_false] at hd
      obtain ⟨fs, t, hlength, hfs, hrest⟩ := hforever (s.workload + 1)
      have hbound := length_le_of_handlers hd hrest hfs
      omega
  · rintro ⟨hconn, hd⟩ n
    refine ⟨List.replicate n (.readFailed .eof), s, List.length_replicate, ?_,
      runFrom_eof hin hconn hd n⟩
    intro e he
    rw [List.eq_of_mem_replicate he]
    rfl
  · intro hconn hd
    refine ⟨runFrom_eof hin hconn hd, ?_⟩
    have hreads := (hin.reading hconn hd).2
    simp [System.step, hreads]

/-- After `connect()`, and after `connect()` and `shutdown()`. -/
theorem handlers_forever_connected :
    (∃ s, (system ℕ).run [.connect true] = .ok s ∧ s.step .ioReturn = .error .disabled ∧
      (system ℕ).runFrom s (List.replicate 1000 (.readFailed .eof)) = .ok s) ∧
    ∃ s, (system ℕ).run [.connect true, .shutdown] = .ok s ∧
      ¬ ∀ n, ∃ fs t, fs.length = n ∧ (∀ e ∈ fs, e.isHandler = true) ∧
        (system ℕ).runFrom s fs = .ok t := by
  constructor
  · obtain ⟨s, hrun, hconn, hd⟩ : ∃ s, (system ℕ).run [.connect true] = .ok s ∧
        s.connected = true ∧ s.shuttingDown = false := ⟨_, rfl, rfl, rfl⟩
    obtain ⟨hspin, hreturn⟩ := (handlers_forever_iff hrun).2 hconn hd
    exact ⟨s, hrun, hreturn, hspin 1000⟩
  · obtain ⟨s, hrun, hd⟩ : ∃ s, (system ℕ).run [.connect true, .shutdown] = .ok s ∧
        s.shuttingDown = true := ⟨_, rfl, rfl⟩
    refine ⟨s, hrun, ?_⟩
    intro hforever
    have hup := ((handlers_forever_iff hrun).1.mp hforever).2
    rw [hd] at hup
    cases hup

/-! ## Before `connect()` -/

/-- Before `connect()` there are no entries. -/
lemma readQueue_of_not_connected (hrun : (system M).run es = .ok s) :
    s.connected = false → s.readQueue = [] := by
  refine (system M).run_induction (P := fun _ s => s.connected = false → s.readQueue = [])
    (fun _ => rfl) ?_ hrun
  intro es s e t hes ih hstep hconn
  have hbefore : s.connected = false := by
    have hc := connected_step hstep
    rw [hconn, eq_comm, Bool.or_eq_false_iff] at hc
    exact hc.1
  have hin := inboundInv_of_run hes
  rcases hin.readQueue_step hstep with ⟨hq, -⟩ | ⟨chunk, rfl, -⟩ | ⟨reader, entry, rfl, hq, -⟩
  · exact hq.trans (ih hbefore)
  · have hio := running_of_handler (e := .readDone chunk) rfl hstep
    rw [hin.connected_of_running hio] at hbefore
    cases hbefore
  · rw [ih hbefore] at hq
    simp at hq

end System

/-! ## The read queue after `shutdown_` has been set -/

namespace FineSystem

variable {s t : FineSystem M} {e : FineEvent M} {es fs : List (FineEvent M)}

/-- In the middle of a handler the connection is connected, and so it is with an entry in the
queue. -/
lemma Reduced.connected (h : Reduced s) (hbusy : s.handling ≠ none ∨ s.readQueue ≠ []) :
    s.connected = true := by
  cases hs : s.handling with
  | none =>
    obtain ⟨es, hes⟩ := h.idle hs
    by_contra hconn
    rcases hbusy with hbusy | hqueue
    · exact hbusy hs
    · exact hqueue (System.readQueue_of_not_connected hes (by simpa using hconn))
  | some chunk =>
    obtain ⟨w, hw, hsame⟩ := h.busy chunk hs
    rw [hsame]
    exact hw.facts.2.1

/-- What has happened to the queue since `s`: of the handler that was under way, `late` has been
queued; `before` has been taken before that, down to `rest`, and `after` since then. -/
def ReadSince (s t : FineSystem M) : Prop :=
  ∃ late before after rest, s.handling.toList = late ++ t.handling.toList ∧
    t.taken = s.taken ++ before ++ after ∧ s.readQueue = rest ++ before.reverse ∧
    rest ++ late.map entryOf = t.readQueue ++ after.reverse

lemma readSince_refl (s : FineSystem M) : ReadSince s s :=
  ⟨[], [], [], s.readQueue, by simp⟩

variable [MsgType M]

/-- What an event does to the read queue and to the handler of a read: it leaves the queue alone, and
the handler as well unless it is a read that completes, or it takes the entry at the back, or the
handler adds its entry. -/
lemma Reduced.queue_step (h : Reduced s) (hstep : s.step e = .ok t) :
    (t.readQueue = s.readQueue ∧ t.taken = s.taken ∧
        (t.handling = s.handling ∨ s.handling = none ∧ s.shuttingDown = false)) ∨
      (∃ entry, s.readQueue = t.readQueue ++ [entry] ∧ t.taken = s.taken ++ [entry] ∧
        t.handling = s.handling) ∨
      ∃ chunk, 0xFF ∈ chunk ∧ s.handling = some chunk ∧ t.handling = none ∧
        t.readQueue = s.readQueue ++ [entryOf chunk] ∧ t.taken = s.taken := by
  rcases h.step_cases hstep with ⟨chunk, hnone, rfl⟩ | ⟨e, u, -, he, hu, rfl⟩ |
    ⟨chunk, hs, hmem, rfl⟩
  · refine Or.inl ⟨rfl, rfl, ?_⟩
    cases hd : s.shuttingDown with
    | true => exact Or.inl (by simp [hnone])
    | false => exact Or.inr ⟨hnone, rfl⟩
  · rcases System.readQueue_step he hu with
      ⟨hqueue, -, htaken⟩ | ⟨reader, entry, -, hqueue, -, htaken⟩
    · exact Or.inl ⟨hqueue, htaken, Or.inl rfl⟩
    · exact Or.inr (Or.inl ⟨entry, hqueue, htaken, rfl⟩)
  · exact Or.inr (Or.inr ⟨chunk, hmem, hs, rfl, rfl, rfl⟩)

/-- No event clears `shutdown_`. -/
lemma Reduced.shuttingDown_step (h : Reduced s) (hd : s.shuttingDown = true)
    (hstep : s.step e = .ok t) : t.shuttingDown = true := by
  rcases h.step_cases hstep with ⟨chunk, -, rfl⟩ | ⟨e, u, -, -, hu, rfl⟩ | ⟨chunk, -, -, rfl⟩
  · exact hd
  · exact System.shuttingDown_of_step hd hu
  · exact hd

/-- One more event on a connection that is shutting down. -/
lemma ReadSince.step {u : FineSystem M} (hsince : ReadSince s t) (h : Reduced t)
    (hd : t.shuttingDown = true) (hstep : t.step e = .ok u) : ReadSince s u := by
  obtain ⟨late, before, after, rest, hhandling, htaken, hbefore, hafter⟩ := hsince
  rcases h.queue_step hstep with ⟨hq, ht, hsame | ⟨-, hup⟩⟩ | ⟨entry, hq, ht, hsame⟩ |
    ⟨chunk, -, hc, hnone, hq, ht⟩
  · exact ⟨late, before, after, rest, hsame ▸ hhandling, ht ▸ htaken, hbefore, hq ▸ hafter⟩
  · rw [hd] at hup
    cases hup
  · refine ⟨late, before, after ++ [entry], rest, hsame ▸ hhandling, ?_, hbefore, ?_⟩
    · rw [ht, htaken, List.append_assoc _ after]
    · rw [hafter, hq, List.reverse_append, List.append_assoc]
      rfl
  · -- the handler queues its entry: it was the only one under way
    have hlate : late = [] := by
      rw [hc] at hhandling
      have hlength := congrArg List.length hhandling
      have hone : s.handling.toList.length ≤ 1 := by cases s.handling <;> simp
      rw [List.length_append, Option.toList_some, List.length_singleton] at hlength
      exact List.eq_nil_of_length_eq_zero (by omega)
    subst hlate
    refine ⟨[chunk], before ++ after, [], t.readQueue, ?_, ?_, ?_, ?_⟩
    · rw [hhandling, hc, hnone]
      rfl
    · rw [ht, htaken, List.append_nil, List.append_assoc]
    · rw [List.map_nil, List.append_nil] at hafter
      rw [hbefore, hafter, List.reverse_append, List.append_assoc]
    · rw [hq, List.reverse_nil, List.append_nil]
      rfl

/-- **Reading after `shutdown_` has been set.**  What is taken after an event that sets `shutdown_`
is what was in `readQueue_` at that moment, from its back on, and the entry of the one handler that
may have been under way, once it is queued.  No chunk that arrives later is ever handed out, and no
more calls of `read` return than there were entries, that one included. -/
theorem reads_after_shutdown {e : Event M} (hrun : (fineSystem M).run (es ++ [.event e]) = .ok s)
    (he : e.stops = true) (hrest : (fineSystem M).runFrom s fs = .ok t) :
    ReadSince s t ∧ t.taken.length + t.readQueue.length + t.handling.toList.length =
      s.taken.length + s.readQueue.length + s.handling.toList.length := by
  have hd : s.shuttingDown = true := by
    obtain ⟨u, hu, hstep⟩ := (fineSystem M).run_concat_ok_iff.mp hrun
    have hother : ∀ chunk, e ≠ .readDone chunk := by
      rintro chunk rfl
      cases he
    obtain ⟨-, v, hv, rfl⟩ := (step_event_ok_iff hother).mp hstep
    rw [System.shuttingDown_step ((reduced_of_run hu).step_of_stepChecked hv), he, Bool.or_true]
  have hsince : ReadSince s t := by
    have hend := (fineSystem M).runFrom_invariant
      (I := fun u => Reduced u ∧ u.shuttingDown = true ∧ ReadSince s u)
      (fun u e v hu _ hstep => ⟨hu.1.step hstep, hu.1.shuttingDown_step hu.2.1 hstep,
        hu.2.2.step hu.1 hu.2.1 hstep⟩) hrest ⟨reduced_of_run hrun, hd, readSince_refl s⟩
    exact hend.2.2
  refine ⟨hsince, ?_⟩
  obtain ⟨late, before, after, rest, hhandling, htaken, hbefore, hafter⟩ := hsince
  have hqueue := congrArg List.length hafter
  simp only [List.length_append, List.length_map, List.length_reverse] at hqueue
  rw [htaken, hbefore, hhandling]
  simp only [List.length_append, List.length_reverse]
  omega

/-- An entry in the queue and a handler under way when `shutdown()` is called. -/
theorem reads_after_shutdown_two :
    ∃ s t, (fineSystem SpheroClientCommand).run ([.event (.connect true),
        .event (.readDone [0xFF, 1]), .readHandler, .event (.readDone [0xFF, 2])] ++
          [.event .shutdown]) = .ok s ∧
      s.handling = some [0xFF, 2] ∧
      (fineSystem SpheroClientCommand).runFrom s [.readHandler, .event (.readEnter 0),
        .event (.readTake 0), .event (.readEnter 0), .event (.readTake 0)] = .ok t ∧
      ReadSince s t ∧ t.taken.length = 2 := by
  obtain ⟨s, t, hrun, hs, hrest, hone, htaken, hqueue, ht⟩ :
      ∃ s t, (fineSystem SpheroClientCommand).run ([.event (.connect true),
          .event (.readDone [0xFF, 1]), .readHandler, .event (.readDone [0xFF, 2])] ++
            [.event .shutdown]) = .ok s ∧ s.handling = some [0xFF, 2] ∧
        (fineSystem SpheroClientCommand).runFrom s [.readHandler, .event (.readEnter 0),
          .event (.readTake 0), .event (.readEnter 0), .event (.readTake 0)] = .ok t ∧
        s.readQueue.length = 1 ∧ s.taken = [] ∧ t.readQueue = [] ∧ t.handling = none := by
    set_option maxRecDepth 8000 in exact ⟨_, _, rfl, rfl, rfl, rfl, rfl, rfl, rfl⟩
  obtain ⟨hsince, hcount⟩ := reads_after_shutdown hrun rfl hrest
  refine ⟨s, t, hrun, hs, hrest, hsince, ?_⟩
  simpa [hs, hone, htaken, hqueue, ht] using hcount

/-! ## A reader that waits -/

/-- A thread that is not inside `read` can leave the waiting loop if there is an entry. -/
lemma Reduced.exists_readEnter (h : Reduced s) (hqueue : s.readQueue ≠ []) :
    ∃ fs reader t, (fineSystem M).runFrom s (fs ++ [.event (.readEnter reader)]) = .ok t := by
  obtain ⟨reader, hreader⟩ := Infinite.exists_notMem_finset s.readers.toFinset
  have hplain : s.stepChecked (.readEnter reader) = .ok _ := System.step_readEnter_ok_iff.mpr
    ⟨⟨h.connected (Or.inr hqueue), hqueue, by simpa using hreader⟩, rfl⟩
  have hstep : (fineSystem M).step s (.event (.readEnter reader)) = .ok _ :=
    (step_event_ok_iff (by simp)).mpr ⟨Or.inr rfl, _, hplain, rfl⟩
  exact ⟨[], reader, _, ((fineSystem M).runFrom_singleton s _).trans hstep⟩

/-- The same after one more event. -/
lemma Reduced.exists_readEnter_of_step (h : Reduced s) (hstep : s.step e = .ok t)
    (hexists : Reduced t → ∃ fs reader u,
      (fineSystem M).runFrom t (fs ++ [.event (.readEnter reader)]) = .ok u) :
    ∃ fs reader u, (fineSystem M).runFrom s (fs ++ [.event (.readEnter reader)]) = .ok u := by
  obtain ⟨fs, reader, u, hrest⟩ := hexists (h.step hstep)
  have hstep' : (fineSystem M).step s e = .ok t := hstep
  exact ⟨e :: fs, reader, u, ((fineSystem M).runFrom_cons_ok hstep' _).trans hrest⟩

/-- A handler with a `0xFF` in its chunk is going to queue an entry. -/
lemma Reduced.exists_readEnter_of_handling (h : Reduced s) {chunk : List UInt8}
    (hs : s.handling = some chunk) (hmem : 0xFF ∈ chunk) :
    ∃ fs reader t, (fineSystem M).runFrom s (fs ++ [.event (.readEnter reader)]) = .ok t :=
  h.exists_readEnter_of_step (h.step_readHandler_of_mem hs hmem) fun ht =>
    ht.exists_readEnter (by simp)

/-- On a connection that is up, an entry can always arrive. -/
lemma Reduced.exists_readEnter_of_up (h : Reduced s) (hs : s.handling = none)
    (hconn : s.connected = true) (hd : s.shuttingDown = false) :
    ∃ fs reader t, (fineSystem M).runFrom s (fs ++ [.event (.readEnter reader)]) = .ok t := by
  obtain ⟨es, hes⟩ := h.idle hs
  obtain ⟨hio, hreads⟩ := (System.inboundInv_of_run hes).reading hconn hd
  have hcan : s.CanDeliver [0xFF] := ⟨hio, by omega, by decide, by decide⟩
  refine h.exists_readEnter_of_step (step_readDone_ok_iff.mpr ⟨⟨hs, hcan⟩, rfl⟩) fun ht => ?_
  have hchunk : (if s.shuttingDown then none else some [0xFF]) = some [(0xFF : UInt8)] := by
    rw [hd]
    rfl
  exact ht.exists_readEnter_of_handling hchunk (List.mem_singleton_self _)

/-- So it can on any connection that is not shutting down, after a `connect()` if need be. -/
lemma Reduced.exists_readEnter_of_idle (h : Reduced s) (hs : s.handling = none)
    (hd : s.shuttingDown = false) :
    ∃ fs reader t, (fineSystem M).runFrom s (fs ++ [.event (.readEnter reader)]) = .ok t := by
  cases hconn : s.connected with
  | true => exact h.exists_readEnter_of_up hs hconn hd
  | false =>
    obtain ⟨gs, hgs⟩ := h.idle hs
    have hplain : s.stepChecked (.connect true) = .ok _ :=
      System.step_connect_of_notStarted ((System.inboundInv_of_run hgs).idle hconn).1
    have hconnect := (step_event_ok_iff (by simp)).mpr ⟨Or.inl hs, _, hplain, rfl⟩
    exact h.exists_readEnter_of_step hconnect fun ht => ht.exists_readEnter_of_up hs rfl hd

/-- The read queue is empty, and no handler will put anything into it. -/
structure Dry (s : FineSystem M) : Prop where
  /-- The read queue is empty. -/
  readQueue : s.readQueue = []
  /-- Without a handler under way `shutdown_` is set. -/
  down : s.handling = none → s.shuttingDown = true
  /-- A handler under way runs into the end of its buffer. -/
  notMem : ∀ chunk, s.handling = some chunk → 0xFF ∉ chunk

/-- Nothing is ever queued again. -/
lemma Dry.step (hdry : Dry s) (h : Reduced s) (hstep : s.step e = .ok t) : Dry t := by
  rcases h.queue_step hstep with ⟨hq, -, hsame | ⟨hnone, hup⟩⟩ | ⟨entry, hq, -⟩ |
    ⟨chunk, hmem, hs, -⟩
  · refine ⟨hq.trans hdry.readQueue, fun hnone => ?_, fun chunk hs => hdry.notMem chunk (hsame ▸ hs)⟩
    exact h.shuttingDown_step (hdry.down (hsame ▸ hnone)) hstep
  · rw [hdry.down hnone] at hup
    cases hup
  · rw [hdry.readQueue] at hq
    simp at hq
  · exact absurd hmem (hdry.notMem chunk hs)

/-- No thread leaves the waiting loop. -/
lemma Dry.step_readEnter_ne (hdry : Dry s) (reader : ℕ) :
    s.step (.event (.readEnter reader)) ≠ .ok t := by
  intro hstep
  obtain ⟨-, u, hu, -⟩ := (step_event_ok_iff (by simp)).mp hstep
  exact (System.step_readEnter_ok_iff.mp hu).1.2.1 hdry.readQueue

/-- **When a reader waits for ever.**  In a state that some run reaches, no thread ever leaves the
waiting loop of `read` again, whatever happens next, if and only if `readQueue_` is empty and nothing
will be put into it: `shutdown_` is set and no handler of a read is past its test of `shutdown_`, or
there is such a handler and it is about to run into the end of its buffer. -/
theorem read_waits_forever_iff (hrun : (fineSystem M).run es = .ok s) :
    (∀ fs t, (fineSystem M).runFrom s fs = .ok t → ∀ reader, .event (.readEnter reader) ∉ fs) ↔
      s.readQueue = [] ∧ (s.handling = none → s.shuttingDown = true) ∧
        ∀ chunk, s.handling = some chunk → 0xFF ∉ chunk := by
  have h := reduced_of_run hrun
  constructor
  · intro hnever
    have hnone : ¬ ∃ fs reader t,
        (fineSystem M).runFrom s (fs ++ [.event (.readEnter reader)]) = .ok t := by
      rintro ⟨fs, reader, t, hrest⟩
      exact hnever _ t hrest reader (by simp)
    refine ⟨?_, ?_, ?_⟩
    · by_contra hqueue
      exact hnone (h.exists_readEnter hqueue)
    · intro hs
      by_contra hd
      exact hnone (h.exists_readEnter_of_idle hs (by simpa using hd))
    · intro chunk hs hmem
      exact hnone (h.exists_readEnter_of_handling hs hmem)
  · rintro ⟨hqueue, hdown, hbad⟩ fs t hrest reader hmem
    obtain ⟨before, after, rfl⟩ := List.append_of_mem hmem
    obtain ⟨u, hu, hafter⟩ := (fineSystem M).runFrom_append_ok_iff.mp hrest
    have hend := (fineSystem M).runFrom_invariant (I := fun u => Reduced u ∧ Dry u)
      (fun _ _ _ hv _ hstep => ⟨hv.1.step hstep, hv.2.step hv.1 hstep⟩) hu
      ⟨h, hqueue, hdown, hbad⟩
    rw [EventSystem.runFrom_cons] at hafter
    cases henter : (fineSystem M).step u (.event (.readEnter reader)) with
    | error r => simp [henter, Except.bind] at hafter
    | ok v => exact hend.2.step_readEnter_ne reader henter

/-- `close()` before anything has arrived. -/
theorem read_waits_forever_closed :
    ∃ s, (fineSystem SpheroClientCommand).run [.event (.connect true), .event .close] = .ok s ∧
      ∀ fs t, (fineSystem SpheroClientCommand).runFrom s fs = .ok t →
        ∀ reader, .event (.readEnter reader) ∉ fs := by
  obtain ⟨s, hrun, hq, hd, hs⟩ : ∃ s, (fineSystem SpheroClientCommand).run
      [.event (.connect true), .event .close] = .ok s ∧ s.readQueue = [] ∧
        s.shuttingDown = true ∧ s.handling = none := ⟨_, rfl, rfl, rfl, rfl⟩
  refine ⟨s, hrun, (read_waits_forever_iff hrun).mpr ⟨hq, fun _ => hd, ?_⟩⟩
  intro chunk hc
  rw [hs] at hc
  cases hc

end FineSystem

end Btconn
