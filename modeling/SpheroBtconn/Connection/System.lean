import SpheroBtconn.Connection.BtConnection

/-!
# The connection and its surroundings

A connection is used by callers, by reading threads and by its I/O thread, which runs posted
handlers in posting order and the completion handlers of socket operations in any order.  Every
event of this module is one atomic step of one of them, and a run is any interleaving of events
from the construction on.

What is assumed of `boost::asio` is in the guards of `step`: handlers run one at a time, on the
thread that `connect` starts and while `io_.run()` has not returned; every outstanding operation
completes at most once; a successful read puts between 1 and 1024 bytes at the front of the
buffer, a failed one none; `io_.run()` only returns when there is no work left.

A call of `read` is two steps, leaving the loop that waits for an entry and taking one, because
the loop tests the queue without holding the mutex.  The handler of a read is one step here,
although it tests `shutdown_` before it locks the mutex; `Connection/FineSteps.lean` splits it, and
`Connection/Reduction.lean` says which states this adds.

Besides the connection the state has four histories, which no step looks at.
-/

namespace Btconn

variable {M : Type*}

/-- A connection, the threads inside `read`, and what has happened so far. -/
structure System (M : Type*) extends BtConnection M where
  /-- The threads that have left the waiting loop of `read` and have not yet taken an entry. -/
  readers : List ℕ
  /-- The messages accepted by `send`, in posting order. -/
  sent : List M
  /-- The messages whose `async_write` succeeded, in the order of completion. -/
  written : List M
  /-- The chunks that `readHandler` has processed, in order. -/
  received : List (List UInt8)
  /-- The entries that calls of `read` have taken, in order. -/
  taken : List RawData
  deriving DecidableEq

/-- What can happen next. -/
inductive Event (M : Type*) where
  /-- `connect()`; `accepted` says whether `socket_.connect` succeeds or throws. -/
  | connect (accepted : Bool)
  /-- `send(msg)`. -/
  | send (msg : M)
  /-- `shutdown()`. -/
  | shutdown
  /-- `close()`. -/
  | close
  /-- The I/O thread runs the oldest posted handler. -/
  | runPosted
  /-- An outstanding write completes and its handler runs; `ec` says whether it failed. -/
  | writeDone (i : ℕ) (ec : Bool)
  /-- An outstanding read completes with a chunk and its handler runs. -/
  | readDone (chunk : List UInt8)
  /-- An outstanding read completes with an error and its handler runs. -/
  | readFailed (err : ReadError)
  /-- `io_.run()` returns. -/
  | ioReturn
  /-- A thread inside `read` leaves the waiting loop. -/
  | readEnter (reader : ℕ)
  /-- A thread inside `read` takes the back of the queue. -/
  | readTake (reader : ℕ)
  deriving DecidableEq

/-- Why an event is not taken. -/
inductive Stuck where
  /-- The event cannot happen in this state. -/
  | disabled
  /-- The event happens, and its effect is undefined or the end of the program. -/
  | fault (fault : Fault)
  deriving DecidableEq

namespace System

/-- The state after construction. -/
def new : System M where
  toBtConnection := BtConnection.new
  readers := []
  sent := []
  written := []
  received := []
  taken := []

/-- The buffer and the count of outstanding reads when a read completes with a chunk. -/
def deliver (s : System M) (chunk : List UInt8) : BtConnection M :=
  { s.toBtConnection with
    reads := s.reads - 1
    recvBuffer := FixedBuffer.copyFront s.recvBuffer chunk }

/-- A completion handler can run for a read that ends with `chunk`. -/
def CanDeliver (s : System M) (chunk : List UInt8) : Prop :=
  s.ioThread = .running ∧ 0 < s.reads ∧ 0 < chunk.length ∧ chunk.length ≤ 1024

instance (s : System M) (chunk : List UInt8) : Decidable (s.CanDeliver chunk) :=
  inferInstanceAs (Decidable (_ ∧ _))

/-- One event. -/
def step (s : System M) : Event M → Except Stuck (System M)
  | .connect accepted =>
    match s.toBtConnection.connect accepted with
    | .error fault => .error (.fault fault)
    | .ok c => .ok { s with toBtConnection := c }
  | .send msg =>
    match s.toBtConnection.send msg with
    | (.returned _, c) => .ok { s with toBtConnection := c, sent := s.sent ++ [msg] }
    | (_, c) => .ok { s with toBtConnection := c }
  | .shutdown => .ok { s with toBtConnection := s.toBtConnection.shutdown }
  | .close => .ok { s with toBtConnection := s.toBtConnection.close }
  | .runPosted =>
    match s.ioThread, s.posted with
    | .running, h :: rest =>
      let c := { s.toBtConnection with posted := rest }
      .ok { s with toBtConnection := c.runHandler h }
    | _, _ => .error .disabled
  | .writeDone i ec =>
    match s.ioThread, s.writes[i]? with
    | .running, some msg =>
      let c := { s.toBtConnection with writes := s.writes.eraseIdx i }
      .ok { s with
        toBtConnection := c.writeHandler ec
        written := if ec then s.written else s.written ++ [msg] }
    | _, _ => .error .disabled
  | .readDone chunk =>
    if s.CanDeliver chunk then
      match (s.deliver chunk).readCompletion none chunk.length with
      | .error fault => .error (.fault fault)
      | .ok c => .ok { s with
          toBtConnection := c
          received := if s.shuttingDown then s.received else s.received ++ [chunk] }
    else .error .disabled
  | .readFailed err =>
    if s.ioThread = .running ∧ 0 < s.reads then
      let c := { s.toBtConnection with reads := s.reads - 1 }
      match c.readCompletion (some err) 0 with
      | .error fault => .error (.fault fault)
      | .ok c => .ok { s with toBtConnection := c }
    else .error .disabled
  | .ioReturn =>
    if s.ioThread = .running ∧ s.posted = [] ∧ s.writes.length = 0 ∧ s.reads = 0 then
      .ok { s with ioThread := .returned }
    else .error .disabled
  | .readEnter reader =>
    if s.connected = true ∧ s.readQueue ≠ [] ∧ reader ∉ s.readers then
      .ok { s with readers := reader :: s.readers }
    else .error .disabled
  | .readTake reader =>
    if reader ∈ s.readers then
      match s.readQueue.getLast? with
      | none => .error (.fault .emptyQueue)
      | some entry => .ok { s with
          readQueue := s.readQueue.dropLast
          readers := s.readers.erase reader
          taken := s.taken ++ [entry] }
    else .error .disabled

/-! ## What each event does -/

lemma step_connect_ok_iff {s s' : System M} {accepted : Bool} :
    s.step (.connect accepted) = .ok s' ↔
      ∃ c, s.toBtConnection.connect accepted = .ok c ∧ s' = { s with toBtConnection := c } := by
  simp only [step]
  cases s.toBtConnection.connect accepted with
  | error fault => simp
  | ok c => simp [eq_comm]

/-- A `connect()` throws and leaves an open socket, or it starts the thread and a read. -/
lemma step_connect_cases {s s' : System M} {accepted : Bool}
    (h : s.step (.connect accepted) = .ok s') :
    (accepted = false ∧ s' = { s with socketOpen := true }) ∨
      (accepted = true ∧ s.ioThread = .notStarted ∧ s' = { s with
        socketOpen := true
        connected := true
        reads := if s.shuttingDown then s.reads else s.reads + 1
        ioThread := .running }) := by
  obtain ⟨c, hc, rfl⟩ := step_connect_ok_iff.mp h
  rcases BtConnection.connect_ok_iff.mp hc with ⟨rfl, rfl⟩ | ⟨rfl, hio, rfl⟩
  · exact Or.inl ⟨rfl, rfl⟩
  · exact Or.inr ⟨rfl, hio, rfl⟩

/-- On an object without a thread, a `connect()` that succeeds goes through. -/
lemma step_connect_of_notStarted {s : System M} (h : s.ioThread = .notStarted) :
    s.step (.connect true) = .ok { s with
      socketOpen := true
      connected := true
      reads := if s.shuttingDown then s.reads else s.reads + 1
      ioThread := .running } :=
  step_connect_ok_iff.mpr ⟨_, BtConnection.connect_ok_iff.mpr (Or.inr ⟨rfl, h, rfl⟩), rfl⟩

lemma step_send_of_not_connected {s : System M} (h : s.connected = false) (msg : M) :
    s.step (.send msg) = .ok s := by
  simp [step, BtConnection.send, h]

lemma step_send_of_connected {s : System M} (h : s.connected = true) (msg : M) :
    s.step (.send msg) =
      .ok { s with posted := s.posted ++ [.send msg], sent := s.sent ++ [msg] } := by
  simp [step, BtConnection.send, h]

/-- A `send` throws and changes nothing, or it posts its message. -/
lemma step_send_cases {s s' : System M} {msg : M} (h : s.step (.send msg) = .ok s') :
    (s.connected = false ∧ s' = s) ∨
      (s.connected = true ∧ s' = { s with
        posted := s.posted ++ [.send msg]
        sent := s.sent ++ [msg] }) := by
  by_cases hconn : s.connected = true
  · rw [step_send_of_connected hconn, Except.ok.injEq] at h
    exact Or.inr ⟨hconn, h.symm⟩
  · rw [Bool.not_eq_true] at hconn
    rw [step_send_of_not_connected hconn, Except.ok.injEq] at h
    exact Or.inl ⟨hconn, h.symm⟩

/-- A `close()` sets `shutdown_` and posts a handler if the socket is open. -/
lemma step_close_ok_iff {s s' : System M} :
    s.step .close = .ok s' ↔ s' = { s with
      shuttingDown := true
      posted := if s.socketOpen then s.posted ++ [.closeSocket] else s.posted } := by
  unfold step
  rw [BtConnection.close_eq, Except.ok.injEq, eq_comm]

lemma step_runPosted_ok_iff {s s' : System M} :
    s.step .runPosted = .ok s' ↔
      ∃ h rest, s.ioThread = .running ∧ s.posted = h :: rest ∧
        s' = { s with
          toBtConnection := { s.toBtConnection with posted := rest }.runHandler h } := by
  simp only [step]
  split
  · rename_i h rest hio hposted
    simp [hio, hposted, eq_comm]
  · rename_i hnot
    simp only [reduceCtorEq, false_iff]
    rintro ⟨h, rest, hio, hposted, -⟩
    exact hnot h rest hio hposted

lemma step_writeDone_ok_iff {s s' : System M} {i : ℕ} {ec : Bool} :
    s.step (.writeDone i ec) = .ok s' ↔
      ∃ msg, s.ioThread = .running ∧ s.writes[i]? = some msg ∧
        s' = { s with
          toBtConnection := { s.toBtConnection with
            writes := s.writes.eraseIdx i }.writeHandler ec
          written := if ec then s.written else s.written ++ [msg] } := by
  simp only [step]
  split
  · rename_i msg hio hmsg
    simp [hio, hmsg, eq_comm]
  · rename_i hnot
    simp only [reduceCtorEq, false_iff]
    rintro ⟨msg, hio, hmsg, -⟩
    exact hnot msg hio hmsg

/-- A posted handler closes the socket, or it queues its message and starts to write it if the
queue was empty. -/
lemma step_runPosted_cases {s s' : System M} (h : s.step .runPosted = .ok s') :
    s.ioThread = .running ∧ ∃ rest,
      (s.posted = .closeSocket :: rest ∧ s' = { s with posted := rest, socketOpen := false }) ∨
      ∃ msg, s.posted = .send msg :: rest ∧ s' = { s with
        posted := rest
        messageQueue := s.messageQueue ++ [msg]
        writes := if s.messageQueue = [] then s.writes ++ [msg] else s.writes } := by
  obtain ⟨handler, rest, hio, hposted, rfl⟩ := step_runPosted_ok_iff.mp h
  refine ⟨hio, rest, ?_⟩
  cases handler with
  | closeSocket => exact Or.inl ⟨hposted, rfl⟩
  | send msg => exact Or.inr ⟨msg, hposted, by rw [BtConnection.runHandler_send]⟩

/-- A write that has succeeded removes its message from the queue, and the next one is started
unless the connection is shutting down; a write that has failed closes the connection. -/
lemma step_writeDone_cases {s s' : System M} {i : ℕ} {ec : Bool}
    (h : s.step (.writeDone i ec) = .ok s') :
    s.ioThread = .running ∧ ∃ msg, s.writes[i]? = some msg ∧
      ((ec = false ∧ s' = { s with
          messageQueue := s.messageQueue.tail
          writes := s.writes.eraseIdx i ++
            if s.shuttingDown then [] else s.messageQueue.tail.take 1
          written := s.written ++ [msg] }) ∨
        (ec = true ∧ s' = { s with
          writes := s.writes.eraseIdx i
          shuttingDown := true
          posted := if s.socketOpen then s.posted ++ [.closeSocket] else s.posted })) := by
  obtain ⟨msg, hio, hmsg, rfl⟩ := step_writeDone_ok_iff.mp h
  refine ⟨hio, msg, hmsg, ?_⟩
  cases ec with
  | false => exact Or.inl ⟨rfl, by rw [BtConnection.writeHandler_ok]; rfl⟩
  | true =>
    have hclose := BtConnection.close_eq { s.toBtConnection with writes := s.writes.eraseIdx i }
    exact Or.inr ⟨rfl, congrArg (fun c => { s with toBtConnection := c }) hclose⟩

lemma step_readDone_ok_iff {s s' : System M} {chunk : List UInt8} :
    s.step (.readDone chunk) = .ok s' ↔ s.CanDeliver chunk ∧
      ∃ c, (s.deliver chunk).readCompletion none chunk.length = .ok c ∧
        s' = { s with
          toBtConnection := c
          received := if s.shuttingDown then s.received else s.received ++ [chunk] } := by
  simp only [step]
  split
  · rename_i hcan
    cases (s.deliver chunk).readCompletion none chunk.length with
    | error fault => simp
    | ok c =>
      simp only [Except.ok.injEq, exists_eq_left', hcan, true_and]
      exact eq_comm
  · rename_i hcan
    simp only [reduceCtorEq, hcan, false_and]

/-- A read that has completed with a chunk: nothing happens to a connection that is shutting down,
otherwise one entry is queued, the buffer is cleared and the next read is started. -/
lemma step_readDone_cases {s s' : System M} {chunk : List UInt8}
    (h : s.step (.readDone chunk) = .ok s') : s.CanDeliver chunk ∧
      ((s.shuttingDown = true ∧ s' = { s with toBtConnection := s.deliver chunk }) ∨
        (s.shuttingDown = false ∧ ∃ entry, s' = { s with
          readQueue := s.readQueue ++ [entry]
          recvBuffer := RawData.zero
          reads := s.reads - 1 + 1
          received := s.received ++ [chunk] })) := by
  obtain ⟨hcan, c, hc, rfl⟩ := step_readDone_ok_iff.mp h
  refine ⟨hcan, ?_⟩
  cases hd : s.shuttingDown with
  | true =>
    rw [BtConnection.readCompletion_of_shuttingDown (s := s.deliver chunk) hd,
      Except.ok.injEq] at hc
    exact Or.inl ⟨rfl, by simp [hc]⟩
  | false =>
    rw [BtConnection.readCompletion_of_not_shuttingDown (s := s.deliver chunk) hd] at hc
    obtain ⟨entry, rfl⟩ := BtConnection.exists_entry_of_readHandler hc
    exact Or.inr ⟨rfl, entry, by simp [deliver, hd]⟩

lemma step_readFailed_ok_iff {s s' : System M} {err : ReadError} :
    s.step (.readFailed err) = .ok s' ↔ s.ioThread = .running ∧ 0 < s.reads ∧
      s' = { s with
        toBtConnection := { s.toBtConnection with reads := s.reads - 1 }.readAsync } := by
  by_cases hguard : s.ioThread = .running ∧ 0 < s.reads
  · by_cases hdown : s.shuttingDown = true
    · simp [step, hguard, BtConnection.readCompletion, BtConnection.readAsync, hdown, eq_comm]
    · simp [step, hguard, BtConnection.readCompletion, BtConnection.readAsync, hdown, eq_comm]
  · simp only [step, hguard, if_false, reduceCtorEq, false_iff]
    exact fun h => hguard ⟨h.1, h.2.1⟩

/-- A read that fails is replaced by the next one unless the connection is shutting down. -/
lemma step_readFailed_cases {s s' : System M} {err : ReadError}
    (h : s.step (.readFailed err) = .ok s') : s.ioThread = .running ∧ 0 < s.reads ∧
      s' = { s with reads := if s.shuttingDown then s.reads - 1 else s.reads - 1 + 1 } := by
  obtain ⟨hio, hreads, rfl⟩ := step_readFailed_ok_iff.mp h
  exact ⟨hio, hreads, by rw [BtConnection.readAsync_eq]⟩

lemma step_ioReturn_ok_iff {s s' : System M} :
    s.step .ioReturn = .ok s' ↔
      (s.ioThread = .running ∧ s.posted = [] ∧ s.writes.length = 0 ∧ s.reads = 0) ∧
        s' = { s with ioThread := .returned } :=
  EventSystem.ite_eq_ok_iff

lemma step_readEnter_ok_iff {s s' : System M} {reader : ℕ} :
    s.step (.readEnter reader) = .ok s' ↔
      (s.connected = true ∧ s.readQueue ≠ [] ∧ reader ∉ s.readers) ∧
        s' = { s with readers := reader :: s.readers } :=
  EventSystem.ite_eq_ok_iff

lemma step_readTake_ok_iff {s s' : System M} {reader : ℕ} :
    s.step (.readTake reader) = .ok s' ↔
      ∃ entry, reader ∈ s.readers ∧ s.readQueue.getLast? = some entry ∧
        s' = { s with
          readQueue := s.readQueue.dropLast
          readers := s.readers.erase reader
          taken := s.taken ++ [entry] } := by
  simp only [step]
  split
  · rename_i hguard
    cases s.readQueue.getLast? with
    | none => simp
    | some entry => simp [hguard, eq_comm]
  · rename_i hguard
    simp [hguard]

/-- The events that can end in a fault, and their faults. -/
lemma step_fault_cases {s : System M} {e : Event M} {f : Fault}
    (h : s.step e = .error (.fault f)) :
    (e = .connect true ∧ f = .terminate) ∨ (∃ reader, e = .readTake reader ∧ f = .emptyQueue) ∨
      ∃ chunk, e = .readDone chunk ∧ s.CanDeliver chunk ∧
        (s.deliver chunk).readCompletion none chunk.length = .error f := by
  cases e with
  | connect accepted =>
    left
    cases accepted with
    | false => cases h
    | true =>
      by_cases hio : s.ioThread = .notStarted
      · simp [step, BtConnection.connect, BtConnection.readAsync_eq, hio] at h
      · have hf : Fault.terminate = f := by
          simpa [step, BtConnection.connect, BtConnection.readAsync_eq, hio] using h
        exact ⟨rfl, hf.symm⟩
  | readTake reader =>
    right; left
    by_cases hreader : reader ∈ s.readers
    · simp only [step, if_pos hreader] at h
      split at h
      · have hf : Fault.emptyQueue = f := by simpa using h
        exact ⟨reader, rfl, hf.symm⟩
      · cases h
    · simp [step, hreader] at h
  | readDone chunk =>
    right; right
    by_cases hcan : s.CanDeliver chunk
    · refine ⟨chunk, rfl, hcan, ?_⟩
      simp only [step, if_pos hcan] at h
      split at h
      · rename_i f' hc
        have hf : f' = f := by simpa using h
        exact hf ▸ hc
      · cases h
    · simp [step, hcan] at h
  | send msg =>
    cases hconn : s.connected with
    | false =>
      rw [step_send_of_not_connected hconn] at h
      cases h
    | true =>
      rw [step_send_of_connected hconn] at h
      cases h
  | shutdown => cases h
  | close => cases h
  | runPosted =>
    simp only [step] at h
    split at h
    · cases h
    · cases h
  | writeDone i ec =>
    simp only [step] at h
    split at h
    · cases h
    · cases h
  | readFailed err =>
    simp only [step, BtConnection.readCompletion] at h
    split_ifs at h
    cases h
  | ioReturn =>
    simp only [step] at h
    split_ifs at h
    cases h
  | readEnter reader =>
    simp only [step] at h
    split_ifs at h
    cases h

end System

/-- Runs of a connection from its construction on. -/
def system (M : Type*) : EventSystem (System M) (Event M) Stuck where
  init := System.new
  step := System.step

end Btconn
