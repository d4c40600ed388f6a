import SpheroBtconn.Connection.Once
import SpheroBtconn.Connection.Readers
import SpheroBtconn.Connection.Reduction

/-!
# What can go wrong

Nothing in the class guards against its own undefined behaviour.  In a state that some run in fine
steps reaches there are four ways into it, each of them a single event (`Misstep`): a `connect()`
that succeeds on an object that has been connected before, a `read` whose entry another thread has
taken, a chunk without `0xFF`, and a write of a message whose `length()` is larger than its data.
The bounds that `readHandler` does not check itself always hold, and `front()` and `pop_front()`
always find a message.

Data races are not among the faults: an event is one step, and what two threads do to one member is
done in some order.
-/

namespace Btconn

variable {M : Type*}

namespace FineSystem

variable {s t : FineSystem M}

/-- The thread has been started exactly if `connected_` is set. -/
lemma Reduced.ioThread_eq_notStarted_iff (h : Reduced s) :
    s.ioThread = .notStarted ↔ s.connected = false := by
  cases hs : s.handling with
  | none =>
    obtain ⟨es, hes⟩ := h.idle hs
    exact System.ioThread_eq_notStarted_iff (System.inboundInv_of_run hes)
      (System.threadInv_of_run hes)
  | some chunk =>
    obtain ⟨w, hw, hsame⟩ := h.busy chunk hs
    obtain ⟨hio, hconn, -⟩ := hw.facts
    have hio' : s.ioThread = .running := by rw [hsame]; exact hio
    have hconn' : s.connected = true := by rw [hsame]; exact hconn
    simp [hio', hconn']

/-! ## Single events -/

/-- Without the checks, only `connect` and `read` go wrong on their own. -/
lemma Reduced.step_fault_iff (h : Reduced s) {e : Event M} (he : ∀ chunk, e ≠ .readDone chunk)
    {f : Fault} : s.toSystem.step e = .error (.fault f) ↔
      (e = .connect true ∧ s.connected = true ∧ f = .terminate) ∨
        ∃ reader ∈ s.readers, e = .readTake reader ∧ s.readQueue = [] ∧ f = .emptyQueue := by
  constructor
  · intro hfault
    rcases System.step_fault_cases hfault with ⟨rfl, rfl⟩ | ⟨reader, rfl, rfl⟩ | ⟨chunk, rfl, -⟩
    · have hio := (System.step_connect_true s.toSystem).1.mp hfault
      rw [Ne, h.ioThread_eq_notStarted_iff, Bool.not_eq_false] at hio
      exact Or.inl ⟨rfl, hio, rfl⟩
    · right
      by_cases hreader : reader ∈ s.readers
      · rcases System.step_readTake_of_mem hreader with ⟨hqueue, -⟩ | ⟨u, entry, hok, -⟩
        · exact ⟨reader, hreader, rfl, hqueue, rfl⟩
        · rw [hok] at hfault
          cases hfault
      · simp [System.step, hreader] at hfault
    · exact absurd rfl (he chunk)
  · rintro (⟨rfl, hconn, rfl⟩ | ⟨reader, hreader, rfl, hqueue, rfl⟩)
    · refine (System.step_connect_true s.toSystem).1.mpr ?_
      rw [Ne, h.ioThread_eq_notStarted_iff, hconn]
      decide
    · simp [System.step, hreader, hqueue]

/-- A message is only started by an event on the thread inside `io_.run()`. -/
lemma onIoThread_of_started {e : Event M} {msg : M} (hmsg : s.started e = some msg) :
    e.onIoThread = true := by
  cases e with
  | runPosted => rfl
  | writeDone i ec => rfl
  | _ => cases hmsg

variable [MsgType M]

/-- The event has no defined effect in this state. -/
def Misstep (s : FineSystem M) (e : FineEvent M) (f : Fault) : Prop :=
  (e = .event (.connect true) ∧ s.connected = true ∧ f = .terminate) ∨
    (∃ reader ∈ s.readers, e = .event (.readTake reader) ∧ s.readQueue = [] ∧ f = .emptyQueue) ∨
    (∃ chunk, s.handling = some chunk ∧ e = .readHandler ∧ 0xFF ∉ chunk ∧ f = .derefEnd) ∨
    ∃ e' msg, e = .event e' ∧ s.handling = none ∧ s.started e' = some msg ∧
      MsgType.buffer msg = none ∧ f = .bufferOverrun

/-- An event that is refused by the checks and not without them starts a write that leaves its
message. -/
lemma Reduced.stepChecked_fault_iff (h : Reduced s) {e : Event M} {f : Fault} :
    s.stepChecked e = .error (.fault f) ↔
      (MsgType.overruns (s.started e) = true ∧ f = .bufferOverrun) ∨
        (MsgType.overruns (s.started e) = false ∧ s.toSystem.step e = .error (.fault f)) := by
  rw [System.stepChecked_eq h.outbound]
  cases MsgType.overruns (s.started e) with
  | true => simp [eq_comm]
  | false => simp

/-- The handler of a read goes wrong on a chunk without `0xFF`, and only then. -/
lemma Reduced.readHandler_fault_iff (h : Reduced s) {f : Fault} :
    s.step .readHandler = .error (.fault f) ↔
      ∃ chunk, s.handling = some chunk ∧ 0xFF ∉ chunk ∧ f = .derefEnd := by
  cases hs : s.handling with
  | none => simp [FineSystem.step, hs]
  | some chunk =>
    by_cases hmem : 0xFF ∈ chunk
    · simp [h.step_readHandler_of_mem hs hmem, hmem]
    · simp [h.step_readHandler_of_notMem hs hmem, hmem, eq_comm]

/-- Any other event goes wrong in three ways. -/
lemma Reduced.event_fault_iff (h : Reduced s) {e : Event M} (he : ∀ chunk, e ≠ .readDone chunk)
    {f : Fault} : s.step (.event e) = .error (.fault f) ↔
      (e = .connect true ∧ s.connected = true ∧ f = .terminate) ∨
        (∃ reader ∈ s.readers, e = .readTake reader ∧ s.readQueue = [] ∧ f = .emptyQueue) ∨
        ∃ msg, s.handling = none ∧ s.started e = some msg ∧ MsgType.buffer msg = none ∧
          f = .bufferOverrun := by
  rw [step_event_eq he]
  by_cases hguard : s.handling = none ∨ e.onIoThread = false
  · rw [if_pos hguard, EventSystem.map_eq_error_iff, h.stepChecked_fault_iff, h.step_fault_iff he]
    constructor
    · rintro (⟨hover, rfl⟩ | ⟨-, hconnect | hread⟩)
      · obtain ⟨msg, hmsg, hbuffer⟩ := MsgType.overruns_iff.mp hover
        have hnone : s.handling = none := by
          rcases hguard with hnone | hcall
          · exact hnone
          · rw [onIoThread_of_started hmsg] at hcall
            cases hcall
        exact Or.inr (Or.inr ⟨msg, hnone, hmsg, hbuffer, rfl⟩)
      · exact Or.inl hconnect
      · exact Or.inr (Or.inl hread)
    · rintro (⟨rfl, hconnect⟩ | ⟨reader, hreader, rfl, hqueue⟩ | ⟨msg, -, hmsg, hbuffer, rfl⟩)
      · exact Or.inr ⟨rfl, Or.inl ⟨rfl, hconnect⟩⟩
      · exact Or.inr ⟨rfl, Or.inr ⟨reader, hreader, rfl, hqueue⟩⟩
      · exact Or.inl ⟨MsgType.overruns_iff.mpr ⟨msg, hmsg, hbuffer⟩, rfl⟩
  · -- the thread inside `io_.run()` is busy with the handler of a read
    rw [if_neg hguard]
    refine iff_of_false (by simp) ?_
    rintro (⟨rfl, -⟩ | ⟨reader, -, rfl, -⟩ | ⟨msg, hnone, -⟩)
    · exact hguard (Or.inr rfl)
    · exact hguard (Or.inr rfl)
    · exact hguard (Or.inl hnone)

/-- In a state that a run reaches, the missteps are all that can go wrong. -/
lemma Reduced.fault_iff (h : Reduced s) {e : FineEvent M} {f : Fault} :
    s.step e = .error (.fault f) ↔ Misstep s e f := by
  cases e with
  | readHandler =>
    rw [h.readHandler_fault_iff]
    simp [Misstep]
  | event e =>
    rcases System.eq_readDone_or e with ⟨chunk, rfl⟩ | he
    · have hnever : s.step (.event (.readDone chunk)) ≠ .error (.fault f) := by
        simp only [FineSystem.step]
        split_ifs <;> simp
      simp [hnever, Misstep, System.started]
    · rw [h.event_fault_iff he]
      simp [Misstep]

/-! ## Whole runs -/

/-- **Everything that can go wrong.**  A run ends in undefined behaviour or in the forced end of the
program exactly if its first events lead to a state in which the next one is a second successful
`connect()`, a `read` whose entry is gone, the handler of a read at work on a chunk without `0xFF`,
or the start of a write whose buffer does not lie inside the bytes of its message.  No run gets to
`front()` or `pop_front()` of an empty queue, to an underflow of `len - offset`, or to a copy that
leaves the buffer or the queue entry. -/
theorem run_fault_iff {es : List (FineEvent M)} {f : Fault} :
    (fineSystem M).run es = .error (.fault f) ↔
      ∃ fs e gs s, es = fs ++ e :: gs ∧ (fineSystem M).run fs = .ok s ∧ Misstep s e f := by
  rw [EventSystem.run_eq_error_iff]
  refine exists_congr fun fs => exists_congr fun e => exists_congr fun gs => exists_congr fun s =>
    and_congr_right fun _ => and_congr_right fun hrun => ?_
  exact (reduced_of_run hrun).fault_iff

/-- What has been sent has been passed to `send`. -/
lemma send_mem_of_sent {es : List (FineEvent M)} (hrun : (fineSystem M).run es = .ok s) {msg : M}
    (hmem : msg ∈ s.sent) : .event (.send msg) ∈ es := by
  revert hmem
  refine (fineSystem M).run_induction
    (P := fun es s => msg ∈ s.sent → .event (.send msg) ∈ es) (fun h => ?_)
    (fun es s e t hes ih hstep hmem => ?_) hrun
  · cases h
  · have hbefore : msg ∈ s.sent → .event (.send msg) ∈ es ++ [e] :=
      fun h => List.mem_append_left _ (ih h)
    rcases (reduced_of_run hes).step_cases hstep with ⟨chunk, -, rfl⟩ | ⟨e', u, rfl, -, hu, rfl⟩ |
      ⟨chunk, -, -, rfl⟩
    · exact hbefore hmem
    · cases e' with
      | send msg' =>
        rcases System.step_send_cases hu with ⟨-, rfl⟩ | ⟨-, rfl⟩
        · exact hbefore hmem
        · rcases List.mem_append.mp hmem with hmem | hmem
          · exact hbefore hmem
          · rw [List.mem_singleton.mp hmem]
            exact List.mem_concat_self
      | _ => exact hbefore (System.sent_step rfl hu ▸ hmem)
    · exact hbefore hmem

/-- **Which messages are written past their end.**  Let each message be assembled just before it is
passed to `send`.  A run ends with a write that leaves its message if and only if its first events
lead to a state in which the next one starts to write a response that was empty before; with commands
this never happens. -/
theorem overrun_iff_of_assembled {es : List (FineEvent SpheroMessage)}
    (hsent : ∀ msg, .event (.send msg) ∈ es → ∃ msg' : SpheroMessage, msg = msg'.assemble) :
    (fineSystem SpheroMessage).run es = .error (.fault .bufferOverrun) ↔
      ∃ fs e gs s, ∃ r : SpheroServerResponse, es = fs ++ .event e :: gs ∧
        (fineSystem SpheroMessage).run fs = .ok s ∧ s.handling = none ∧
        s.started e = some (.serverResponse r.assemble) ∧ r.packet = [] := by
  rw [EventSystem.run_eq_error_iff]
  constructor
  · rintro ⟨fs, fe, gs, s, rfl, hrun, hfault⟩
    have hreduced := reduced_of_run hrun
    rcases hreduced.fault_iff.mp hfault with ⟨-, -, hf⟩ | ⟨reader, -, -, -, hf⟩ |
      ⟨chunk, -, -, -, hf⟩ | ⟨e, msg, rfl, hnone, hmsg, hbuffer, -⟩
    · cases hf
    · cases hf
    · cases hf
    · have hmem := send_mem_of_sent hrun (System.sent_of_started hreduced.outbound hmsg).2
      obtain ⟨msg', rfl⟩ := hsent msg (List.mem_append_left _ hmem)
      obtain ⟨r, rfl, hempty⟩ := msg'.buffer_assemble_eq_none_iff.mp hbuffer
      exact ⟨fs, e, gs, s, r, rfl, hrun, hnone, hmsg, hempty⟩
  · rintro ⟨fs, e, gs, s, r, rfl, hrun, hnone, hmsg, hempty⟩
    have hbuffer := (SpheroMessage.serverResponse r).buffer_assemble_eq_none_iff.mpr ⟨r, rfl, hempty⟩
    exact ⟨fs, .event e, gs, s, rfl, hrun, (reduced_of_run hrun).fault_iff.mpr
      (Or.inr (Or.inr (Or.inr ⟨e, _, rfl, hnone, hmsg, hbuffer, rfl⟩)))⟩

/-- A default response after a command. -/
theorem overrun_iff_of_assembled_default :
    (fineSystem SpheroMessage).run [.event (.connect true),
      .event (.send (SpheroMessage.clientCommand .new).assemble), .event .runPosted,
      .event (.send (SpheroMessage.serverResponse .new).assemble), .event .runPosted,
      .event (.writeDone 0 false)] = .error (.fault .bufferOverrun) := by
  have hsent : ∀ msg, FineEvent.event (.send msg) ∈ [FineEvent.event (.connect true),
      .event (.send (SpheroMessage.clientCommand .new).assemble), .event .runPosted,
      .event (.send (SpheroMessage.serverResponse .new).assemble), .event .runPosted,
      .event (.writeDone 0 false)] → ∃ msg' : SpheroMessage, msg = msg'.assemble := by
    intro msg hmsg
    simp only [List.mem_cons, FineEvent.event.injEq, Event.send.injEq, reduceCtorEq, false_or,
      List.not_mem_nil, or_false] at hmsg
    rcases hmsg with rfl | rfl
    · exact ⟨_, rfl⟩
    · exact ⟨_, rfl⟩
  refine (overrun_iff_of_assembled hsent).mpr ⟨[.event (.connect true),
      .event (.send (SpheroMessage.clientCommand .new).assemble), .event .runPosted,
      .event (.send (SpheroMessage.serverResponse .new).assemble), .event .runPosted],
    .writeDone 0 false, [], _, .new, rfl, rfl, rfl, rfl, rfl⟩

end FineSystem

end Btconn
