import SpheroBtconn.Foundation.EventSystem
import SpheroBtconn.Foundation.FixedBuffer
import Mathlib.Data.Vector.Basic

/-!
# The connection object

`BtConnection<MSGTYPE>` of `BtConnection.h`, generic in the type `M` of messages: the members of
the class, what `boost::asio` holds for it (posted handlers, outstanding operations, the thread
that runs `io_.run()`), and one function for each member function and for each handler.

The functions of this module say what one call or one handler does to the object.  Which of them
can happen when is the subject of `Connection/System.lean`.  A handler is atomic here: what other
threads do to the object happens before or after it.  `Connection/FineSteps.lean` takes apart the
one handler of which this is not true, and checks what `doSend` takes for granted.
-/

namespace Btconn

variable {M : Type*}

/-- `RawData`: an array of 1024 bytes. -/
abbrev RawData := List.Vector UInt8 1024

/-- `RawData().fill('\0')`. -/
def RawData.zero : RawData := List.Vector.replicate 1024 0

/-- `NotConnectedException` with its text. -/
structure NotConnectedException where
  /-- The text of the exception. -/
  what : String
  deriving DecidableEq

/-- How a call ends: it throws, it is still waiting, or it returns. -/
inductive Outcome (α : Type*) where
  /-- The call throws. -/
  | threw (exception : NotConnectedException)
  /-- The call does not return before something else happens. -/
  | waiting
  /-- The call returns a value. -/
  | returned (value : α)
  deriving DecidableEq

/-- Undefined behaviour and forced termination. -/
inductive Fault where
  /-- `recv_buffer_.end()` is dereferenced. -/
  | derefEnd
  /-- `len - offset` wraps around. -/
  | lengthUnderflow
  /-- `std::copy` reads behind the end of `recv_buffer_`. -/
  | copySource
  /-- `std::copy` writes behind the end of the queue entry. -/
  | copyTarget
  /-- `back()` or `pop_back()` of an empty queue. -/
  | emptyQueue
  /-- A thread is assigned to `iothread_` while it is joinable: `std::terminate` is called. -/
  | terminate
  /-- `front()` or `pop_front()` of an empty `messageQueue_`. -/
  | emptyMessageQueue
  /-- A write is started with a buffer that does not lie inside the bytes of its message. -/
  | bufferOverrun
  deriving DecidableEq

/-- A handler waiting in the queue of `io_`. -/
inductive Posted (M : Type*) where
  /-- The handler that `send` posts. -/
  | send (msg : M)
  /-- The handler that `close` posts. -/
  | closeSocket
  deriving DecidableEq

/-- The thread `iothread_`. -/
inductive IoThread where
  /-- No thread has been started. -/
  | notStarted
  /-- The thread is inside `io_.run()`. -/
  | running
  /-- `io_.run()` has returned; the thread can still be joined. -/
  | returned
  deriving DecidableEq

/-- Errors with which a read completes. -/
inductive ReadError where
  /-- End of file: the peer has closed the connection. -/
  | eof
  /-- Any other error. -/
  | other
  deriving DecidableEq

/-- A connection: the members of the class and the work that `io_` holds for it. -/
structure BtConnection (M : Type*) where
  /-- `connected_`. -/
  connected : Bool
  /-- `shutdown_`. -/
  shuttingDown : Bool
  /-- `socket_.is_open()`. -/
  socketOpen : Bool
  /-- `messageQueue_`, the front first. -/
  messageQueue : List M
  /-- `readQueue_`, the front first. -/
  readQueue : List RawData
  /-- `recv_buffer_`. -/
  recvBuffer : RawData
  /-- `iothread_`. -/
  ioThread : IoThread
  /-- The handlers posted to `io_` and not yet run, in posting order. -/
  posted : List (Posted M)
  /-- The messages of the outstanding `async_write` operations. -/
  writes : List M
  /-- The number of outstanding `async_read_some` operations. -/
  reads : ℕ
  deriving DecidableEq

namespace BtConnection

/-- The constructor: the socket is open, the receive buffer is filled with zeros. -/
def new : BtConnection M where
  connected := false
  shuttingDown := false
  socketOpen := true
  messageQueue := []
  readQueue := []
  recvBuffer := RawData.zero
  ioThread := .notStarted
  posted := []
  writes := []
  reads := 0

/-- `isConnected`. -/
def isConnected (s : BtConnection M) : Bool := s.connected

/-- `isShuttingDown`. -/
def isShuttingDown (s : BtConnection M) : Bool := s.shuttingDown

/-- `shutdown`. -/
def shutdown (s : BtConnection M) : BtConnection M := { s with shuttingDown := true }

/-- `close`. -/
def close (s : BtConnection M) : BtConnection M :=
  let s := { s with shuttingDown := true }
  if s.socketOpen then { s with posted := s.posted ++ [.closeSocket] } else s

/-! ## Sending -/

/-- `doSend`: start writing the front of the queue.  It is only called with a queue that is not
empty (`System.stepChecked_eq`). -/
def doSend (s : BtConnection M) : BtConnection M :=
  match s.messageQueue with
  | [] => s
  | msg :: _ => { s with writes := s.writes ++ [msg] }

/-- The completion handler of `doSend`; `ec` says whether the write has failed. -/
def writeHandler (s : BtConnection M) (ec : Bool) : BtConnection M :=
  if !ec then
    let s := { s with messageQueue := s.messageQueue.tail }
    if !s.messageQueue.isEmpty && !s.shuttingDown then s.doSend else s
  else s.close

/-- `send`. -/
def send (s : BtConnection M) (msg : M) : Outcome Unit × BtConnection M :=
  if !s.connected then (.threw ⟨"Unable to perform a write - Not connected"⟩, s)
  else (.returned (), { s with posted := s.posted ++ [.send msg] })

/-- The handlers posted by `send` and by `close`. -/
def runHandler (s : BtConnection M) : Posted M → BtConnection M
  | .send msg =>
    let qEmpty := s.messageQueue.isEmpty
    let s := { s with messageQueue := s.messageQueue ++ [msg] }
    if qEmpty then s.doSend else s
  | .closeSocket => { s with socketOpen := false }

/-! ## Receiving -/

/-- `readAsync`. -/
def readAsync (s : BtConnection M) : BtConnection M :=
  if s.shuttingDown then s else { s with reads := s.reads + 1 }

/-- The scanning loop of `readHandler`: the bytes from `beginning` to the end of the buffer, and
`offset`.  The loop looks at the byte before it compares `beginning` with the end. -/
def scan : List UInt8 → ℕ → Except Fault (List UInt8 × ℕ)
  | [], _ => .error .derefEnd
  | b :: rest, offset => if b ≠ 0xFF then scan rest (offset + 1) else .ok (b :: rest, offset)

/-- `readHandler`. -/
def readHandler (s : BtConnection M) (len : ℕ) : Except Fault (BtConnection M) :=
  match scan s.recvBuffer.toList 0 with
  | .error fault => .error fault
  | .ok (beginning, offset) =>
    if len < offset then .error .lengthUnderflow
    else if beginning.length < len - offset then .error .copySource
    else if 1024 < len - offset then .error .copyTarget
    else
      let entry := FixedBuffer.copyFront RawData.zero (beginning.take (len - offset))
      let s := { s with readQueue := s.readQueue ++ [entry], recvBuffer := RawData.zero }
      .ok (if !s.shuttingDown then s.readAsync else s)

/-- The completion handler of `readAsync`, for an error or for a number of bytes read. -/
def readCompletion (s : BtConnection M) (err : Option ReadError) (bytes : ℕ) :
    Except Fault (BtConnection M) :=
  if s.shuttingDown then .ok s
  else match err with
    | none => s.readHandler bytes
    | some _ => .ok s.readAsync

/-- `read`, called and left to itself: it throws, waits in its loop, or constructs its result
from the back of the queue and removes it. -/
def read {T : Type*} (construct : RawData → T) (s : BtConnection M) :
    Outcome T × BtConnection M :=
  if !s.connected then (.threw ⟨"Unable to perform a read - Not connected"⟩, s)
  else match s.readQueue.getLast? with
    | none => (.waiting, s)
    | some entry => (.returned (construct entry), { s with readQueue := s.readQueue.dropLast })

/-! ## Connecting -/

/-- `connect`; `accepted` says whether `socket_.connect` succeeds, otherwise the call throws. -/
def connect (s : BtConnection M) (accepted : Bool) : Except Fault (BtConnection M) :=
  -- a closed socket is opened first, and stays open if connecting it fails
  let s := { s with socketOpen := true }
  if !accepted then .ok s
  else
    let s := { s with connected := true }
    let s := s.readAsync
    -- a thread that has been started is never joined before the destructor
    if s.ioThread = .notStarted then .ok { s with ioThread := .running }
    else .error .terminate

/-! ## What the calls change -/

variable {s t : BtConnection M}

lemma readAsync_eq (s : BtConnection M) :
    s.readAsync = { s with reads := if s.shuttingDown then s.reads else s.reads + 1 } := by
  unfold readAsync
  split_ifs <;> rfl

/-- `readHandler` and `readAsync` make the same test. -/
lemma ite_readAsync (s : BtConnection M) :
    (if !s.shuttingDown then s.readAsync else s) = s.readAsync := by
  unfold readAsync
  cases s.shuttingDown <;> rfl

/-- The handler of `send` queues its message, and starts to write it if the queue was empty. -/
lemma runHandler_send (s : BtConnection M) (msg : M) :
    s.runHandler (.send msg) = { s with
      messageQueue := s.messageQueue ++ [msg]
      writes := if s.messageQueue = [] then s.writes ++ [msg] else s.writes } := by
  unfold runHandler doSend
  cases s.messageQueue with
  | nil => rfl
  | cons front queue => rfl

/-- The handler of a write that has succeeded removes its message, and starts to write the next one
unless the connection is shutting down. -/
lemma writeHandler_ok (s : BtConnection M) :
    s.writeHandler false = { s with
      messageQueue := s.messageQueue.tail
      writes := s.writes ++ if s.shuttingDown then [] else s.messageQueue.tail.take 1 } := by
  unfold writeHandler doSend
  cases s.shuttingDown with
  | true => simp
  | false =>
    cases s.messageQueue.tail with
    | nil => simp
    | cons next queue => rfl

lemma close_eq (s : BtConnection M) :
    s.close = { s with
      shuttingDown := true
      posted := if s.socketOpen then s.posted ++ [.closeSocket] else s.posted } := by
  unfold close
  cases s.socketOpen <;> rfl

/-- `connect` throws and has at most opened the socket, or it starts the thread and a read. -/
lemma connect_ok_iff {accepted : Bool} :
    s.connect accepted = .ok t ↔
      (accepted = false ∧ t = { s with socketOpen := true }) ∨
      (accepted = true ∧ s.ioThread = .notStarted ∧ t = { s with
        socketOpen := true
        connected := true
        reads := if s.shuttingDown then s.reads else s.reads + 1
        ioThread := .running }) := by
  cases accepted with
  | false =>
    change Except.ok _ = Except.ok t ↔ _
    rw [Except.ok.injEq, eq_comm]
    simp
  | true =>
    simp only [connect, readAsync_eq, Bool.not_true, Bool.false_eq_true, if_false]
    rw [EventSystem.ite_eq_ok_iff]
    simp

/-- A `readHandler` that returns has queued one entry, cleared the buffer, and started the next
read unless the connection is shutting down. -/
lemma exists_entry_of_readHandler {len : ℕ} (h : s.readHandler len = .ok t) :
    ∃ entry, t = { s with
      readQueue := s.readQueue ++ [entry]
      recvBuffer := RawData.zero
      reads := if s.shuttingDown then s.reads else s.reads + 1 } := by
  unfold readHandler at h
  split at h
  · cases h
  · split_ifs at h
    change Except.ok _ = Except.ok t at h
    rw [Except.ok.injEq, ite_readAsync, readAsync_eq] at h
    exact ⟨_, h.symm⟩

/-- The completion handler of a read does nothing when the connection is shutting down. -/
lemma readCompletion_of_shuttingDown (h : s.shuttingDown = true) (err : Option ReadError)
    (bytes : ℕ) : s.readCompletion err bytes = .ok s := by
  simp [readCompletion, h]

lemma readCompletion_of_not_shuttingDown (h : s.shuttingDown = false) (bytes : ℕ) :
    s.readCompletion none bytes = s.readHandler bytes := by
  simp [readCompletion, h]

end BtConnection

end Btconn
