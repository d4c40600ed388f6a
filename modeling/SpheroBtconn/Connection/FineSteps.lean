import SpheroBtconn.Connection.SendBuffer

/-!
# Finer steps

The system of `Connection/System.lean` takes two things for granted.  It hands the front of
`messageQueue_` to the socket, and removes it, without asking whether there is one and whether
`length()` stays inside of its bytes.  And it lets the handler of a read be one step, although
neither `shutdown()` nor `close()` takes the mutex: the handler tests `shutdown_` first and locks the
mutex afterwards, in `readHandler`, and in between other threads can set `shutdown_` and take
entries.

In this module both are spelled out.  The functions with `Checked` in their names are those of the
source with the preconditions of what they call, and `FineSystem` is a connection whose I/O thread
may be between the two points.  What comes after the lock is still one step.  The mutex keeps the
takers out of it, and the test of `shutdown_` at its end only decides whether the next read is
started, so that an event which sets `shutdown_` in the middle acts like one just before.
-/

namespace Btconn

variable {M : Type*}

/-! ## What is started -/

/-- The message that a posted handler starts to write. -/
def BtConnection.startedByPosted (s : BtConnection M) : Posted M → Option M
  | .send msg => if s.messageQueue.isEmpty then some msg else none
  | .closeSocket => none

/-- The message that the handler of a write starts to write. -/
def BtConnection.startedByWrite (s : BtConnection M) (ec : Bool) : Option M :=
  if ec || s.shuttingDown then none else s.messageQueue[1]?

/-- The message that an event starts to write. -/
def System.started (s : System M) : Event M → Option M
  | .runPosted =>
    match s.ioThread, s.posted with
    | .running, h :: _ => s.startedByPosted h
    | _, _ => none
  | .writeDone i ec =>
    match s.ioThread, s.writes[i]? with
    | .running, some _ => s.startedByWrite ec
    | _, _ => none
  | _ => none

variable [MsgType M]

/-- There is a message, and its buffer does not lie inside of it. -/
def MsgType.overruns (msg : Option M) : Bool := msg.any fun msg => (buffer msg).isNone

lemma MsgType.overruns_iff {msg : Option M} :
    overruns msg = true ↔ ∃ m, msg = some m ∧ buffer m = none := by
  simp [overruns, Option.any_eq_true]

namespace BtConnection

/-! ## Sending, with its preconditions -/

/-- `doSend`. -/
def doSendChecked (s : BtConnection M) : Except Fault (BtConnection M) :=
  match s.messageQueue with
  | [] => .error .emptyMessageQueue
  | msg :: _ =>
    if (MsgType.buffer msg).isNone then .error .bufferOverrun
    else .ok { s with writes := s.writes ++ [msg] }

/-- The completion handler of `doSend`; `ec` says whether the write has failed. -/
def writeHandlerChecked (s : BtConnection M) (ec : Bool) : Except Fault (BtConnection M) :=
  if !ec then
    match s.messageQueue with
    | [] => .error .emptyMessageQueue
    | _ :: rest =>
      let s := { s with messageQueue := rest }
      if !s.messageQueue.isEmpty && !s.shuttingDown then s.doSendChecked else .ok s
  else .ok s.close

/-- The handlers posted by `send` and by `close`. -/
def runHandlerChecked (s : BtConnection M) : Posted M → Except Fault (BtConnection M)
  | .send msg =>
    let qEmpty := s.messageQueue.isEmpty
    let s := { s with messageQueue := s.messageQueue ++ [msg] }
    if qEmpty then s.doSendChecked else .ok s
  | .closeSocket => .ok { s with socketOpen := false }

variable {s : BtConnection M}

lemma doSendChecked_of_cons {msg : M} {rest : List M} (hq : s.messageQueue = msg :: rest) :
    s.doSendChecked =
      if MsgType.overruns (some msg) then .error .bufferOverrun else .ok s.doSend := by
  simp [doSendChecked, doSend, hq, MsgType.overruns]

/-- A posted handler does what it does without the checks, unless it starts a write that leaves its
message. -/
lemma runHandlerChecked_eq (s : BtConnection M) (h : Posted M) :
    s.runHandlerChecked h =
      if MsgType.overruns (s.startedByPosted h) then .error .bufferOverrun
      else .ok (s.runHandler h) := by
  cases h with
  | closeSocket => rfl
  | send msg =>
    cases hq : s.messageQueue with
    | nil =>
      have hone : { s with messageQueue := s.messageQueue ++ [msg] }.messageQueue = [msg] := by
        simp [hq]
      have hsend := doSendChecked_of_cons hone
      simpa [runHandlerChecked, runHandler, startedByPosted, hq] using hsend
    | cons front queue =>
      simp [runHandlerChecked, runHandler, startedByPosted, hq, MsgType.overruns]

/-- The same for the handler of a write, if there is a message to remove. -/
lemma writeHandlerChecked_eq (hq : s.messageQueue ≠ []) (ec : Bool) :
    s.writeHandlerChecked ec =
      if MsgType.overruns (s.startedByWrite ec) then .error .bufferOverrun
      else .ok (s.writeHandler ec) := by
  obtain ⟨front, queue, hcons⟩ := List.exists_cons_of_ne_nil hq
  cases ec with
  | true => rfl
  | false =>
    cases hd : s.shuttingDown with
    | true =>
      simp [writeHandlerChecked, writeHandler, startedByWrite, hcons, hd, MsgType.overruns]
    | false =>
      cases queue with
      | nil =>
        simp [writeHandlerChecked, writeHandler, startedByWrite, hcons, MsgType.overruns]
      | cons next queue =>
        have hnext : { s with messageQueue := next :: queue }.messageQueue = next :: queue := rfl
        have hsend := doSendChecked_of_cons hnext
        simpa [writeHandlerChecked, writeHandler, startedByWrite, hcons, hd] using hsend

end BtConnection

namespace System

/-- One event, with the preconditions of sending. -/
def stepChecked (s : System M) : Event M → Except Stuck (System M)
  | .runPosted =>
    match s.ioThread, s.posted with
    | .running, h :: rest =>
      match { s.toBtConnection with posted := rest }.runHandlerChecked h with
      | .error fault => .error (.fault fault)
      | .ok c => .ok { s with toBtConnection := c }
    | _, _ => .error .disabled
  | .writeDone i ec =>
    match s.ioThread, s.writes[i]? with
    | .running, some msg =>
      match { s.toBtConnection with writes := s.writes.eraseIdx i }.writeHandlerChecked ec with
      | .error fault => .error (.fault fault)
      | .ok c => .ok { s with
          toBtConnection := c
          written := if ec then s.written else s.written ++ [msg] }
    | _, _ => .error .disabled
  | e => s.step e

variable {s t : System M} {e : Event M}

/-- **What the checks find.**  On a connection whose sending side is as it should be, `front()` and
`pop_front()` always have a message, and an event does what it does without the checks, unless it
starts a write that leaves its message. -/
theorem stepChecked_eq (hout : OutboundInv s) (e : Event M) :
    s.stepChecked e =
      if MsgType.overruns (s.started e) then .error (.fault .bufferOverrun) else s.step e := by
  cases e with
  | runPosted =>
    cases hio : s.ioThread with
    | running =>
      cases hposted : s.posted with
      | nil => simp [stepChecked, started, step, hio, hposted, MsgType.overruns]
      | cons h rest =>
        have hsame : { s.toBtConnection with posted := rest }.startedByPosted h =
            s.startedByPosted h := by cases h <;> rfl
        simp only [stepChecked, started, step, hio, hposted, BtConnection.runHandlerChecked_eq]
        rw [← hio, hsame]
        split_ifs <;> rfl
    | _ => simp [stepChecked, started, step, hio, MsgType.overruns]
  | writeDone i ec =>
    cases hio : s.ioThread with
    | running =>
      cases hmsg : s.writes[i]? with
      | none => simp [stepChecked, started, step, hio, hmsg, MsgType.overruns]
      | some msg =>
        obtain ⟨queue, hq, -⟩ := hout.front_of_write hmsg
        have hne : { s.toBtConnection with writes := s.writes.eraseIdx i }.messageQueue ≠ [] := by
          simp [hq]
        have hchecked := BtConnection.writeHandlerChecked_eq hne ec
        have hsame : { s.toBtConnection with
            writes := s.writes.eraseIdx i }.startedByWrite ec = s.startedByWrite ec := rfl
        simp only [stepChecked, started, step, hio, hmsg]
        rw [← hio, hchecked, hsame]
        split_ifs <;> rfl
    | _ => simp [stepChecked, started, step, hio, MsgType.overruns]
  | _ => rfl

end System

/-! ## The handler of a read in two steps -/

/-- A connection whose I/O thread may be inside the handler of a read. -/
structure FineSystem (M : Type*) extends System M where
  /-- The chunk of the read whose handler has found `shutdown_` cleared and has not locked the mutex
  yet. -/
  handling : Option (List UInt8)
  deriving DecidableEq

/-- What can happen next. -/
inductive FineEvent (M : Type*) where
  /-- An event; of the handler of a read that has completed with a chunk, only the test of
  `shutdown_`. -/
  | event (e : Event M)
  /-- The handler of a read goes on to `readHandler`. -/
  | readHandler
  deriving DecidableEq

/-- The events on the thread inside `io_.run()`, which does one thing at a time. -/
def Event.onIoThread : Event M → Bool
  | .runPosted | .writeDone _ _ | .readDone _ | .readFailed _ | .ioReturn => true
  | _ => false

namespace FineSystem

/-- The state after construction. -/
def new : FineSystem M where
  toSystem := .new
  handling := none

/-- One event. -/
def step (s : FineSystem M) : FineEvent M → Except Stuck (FineSystem M)
  | .event (.readDone chunk) =>
    if s.handling = none ∧ s.CanDeliver chunk then
      .ok { s with
        toBtConnection := s.deliver chunk
        handling := if s.shuttingDown then none else some chunk }
    else .error .disabled
  | .event e =>
    if s.handling = none ∨ e.onIoThread = false then
      (s.stepChecked e).map fun t => { s with toSystem := t }
    else .error .disabled
  | .readHandler =>
    match s.handling with
    | none => .error .disabled
    | some chunk =>
      match s.toBtConnection.readHandler chunk.length with
      | .error fault => .error (.fault fault)
      | .ok c => .ok { s with
          toBtConnection := c
          received := s.received ++ [chunk]
          handling := none }

end FineSystem

/-- Runs of a connection in fine steps. -/
def fineSystem (M : Type*) [MsgType M] : EventSystem (FineSystem M) (FineEvent M) Stuck where
  init := FineSystem.new
  step := FineSystem.step

namespace FineSystem

variable {s t : FineSystem M} {e : Event M}

/-! ## What each event does -/

lemma step_readDone_ok_iff {chunk : List UInt8} :
    s.step (.event (.readDone chunk)) = .ok t ↔ (s.handling = none ∧ s.CanDeliver chunk) ∧
      t = { s with
        toBtConnection := s.deliver chunk
        handling := if s.shuttingDown then none else some chunk } :=
  EventSystem.ite_eq_ok_iff

lemma step_event_eq (he : ∀ chunk, e ≠ .readDone chunk) :
    s.step (.event e) = if s.handling = none ∨ e.onIoThread = false then
      (s.stepChecked e).map fun t => { s with toSystem := t } else .error .disabled := by
  cases e with
  | readDone chunk => exact absurd rfl (he chunk)
  | _ => rfl

lemma step_event_ok_iff (he : ∀ chunk, e ≠ .readDone chunk) :
    s.step (.event e) = .ok t ↔ (s.handling = none ∨ e.onIoThread = false) ∧
      ∃ u, s.stepChecked e = .ok u ∧ t = { s with toSystem := u } := by
  rw [step_event_eq he, EventSystem.guard_eq_ok_iff, EventSystem.map_eq_ok_iff]
  simp only [eq_comm]

lemma step_readHandler_ok_iff :
    s.step .readHandler = .ok t ↔ ∃ chunk c, s.handling = some chunk ∧
      s.toBtConnection.readHandler chunk.length = .ok c ∧
      t = { s with
        toBtConnection := c
        received := s.received ++ [chunk]
        handling := none } := by
  simp only [step]
  cases s.handling with
  | none => simp
  | some chunk =>
    cases hc : s.toBtConnection.readHandler chunk.length with
    | error fault => simp [hc]
    | ok c => simp [hc, eq_comm]

end FineSystem

end Btconn
