import SpheroBtconn.Connection.System

/-!
# The two sides of a connection

Sending and receiving share an object and a thread, but hardly any member.  Every event belongs
to one side (`Event.isOutbound`).  An event of the sending side leaves everything as it is that
receiving works with (`sameInbound_step`), except that it may set `shutdown_`; an event of the
receiving side leaves everything as it is that sending works with (`sameOutbound_step`).

An invariant of one side therefore only has to be looked at for the events of this side.
-/

namespace Btconn

variable {M : Type*}

/-- The events of the sending side. -/
def Event.isOutbound : Event M → Bool
  | .send _ | .shutdown | .close | .runPosted | .writeDone _ _ => true
  | .connect _ | .readDone _ | .readFailed _ | .ioReturn | .readEnter _ | .readTake _ => false

namespace BtConnection

/-- Two states of a connection in which the sending side is the same. -/
structure SameOutbound (s t : BtConnection M) : Prop where
  posted : t.posted = s.posted
  messageQueue : t.messageQueue = s.messageQueue
  writes : t.writes = s.writes
  shuttingDown : t.shuttingDown = s.shuttingDown

/-- Two states of a connection in which the receiving side is the same, except that `t` may be
shutting down. -/
structure SameInbound (s t : BtConnection M) : Prop where
  connected : t.connected = s.connected
  readQueue : t.readQueue = s.readQueue
  recvBuffer : t.recvBuffer = s.recvBuffer
  ioThread : t.ioThread = s.ioThread
  reads : t.reads = s.reads
  up : t.shuttingDown = false → s.shuttingDown = false

end BtConnection

namespace System

/-! ## Events -/

/-- Two states in which the sending side and its histories are the same. -/
structure SameOutbound (s t : System M) : Prop extends
    BtConnection.SameOutbound s.toBtConnection t.toBtConnection where
  sent : t.sent = s.sent
  written : t.written = s.written

/-- Two states in which the receiving side and its histories are the same, except that `t` may be
shutting down. -/
structure SameInbound (s t : System M) : Prop extends
    BtConnection.SameInbound s.toBtConnection t.toBtConnection where
  readers : t.readers = s.readers
  received : t.received = s.received
  taken : t.taken = s.taken

variable {s t : System M} {e : Event M}

/-- An event of the receiving side does not touch the sending side. -/
lemma sameOutbound_step (h : s.step e = .ok t) (he : e.isOutbound = false) :
    SameOutbound s t := by
  cases e with
  | connect accepted =>
    rcases step_connect_cases h with ⟨-, rfl⟩ | ⟨-, -, rfl⟩
    · exact ⟨⟨rfl, rfl, rfl, rfl⟩, rfl, rfl⟩
    · exact ⟨⟨rfl, rfl, rfl, rfl⟩, rfl, rfl⟩
  | readDone chunk =>
    obtain ⟨-, ⟨-, rfl⟩ | ⟨-, entry, rfl⟩⟩ := step_readDone_cases h
    · exact ⟨⟨rfl, rfl, rfl, rfl⟩, rfl, rfl⟩
    · exact ⟨⟨rfl, rfl, rfl, rfl⟩, rfl, rfl⟩
  | readFailed err =>
    obtain ⟨-, -, rfl⟩ := step_readFailed_cases h
    exact ⟨⟨rfl, rfl, rfl, rfl⟩, rfl, rfl⟩
  | ioReturn =>
    obtain ⟨-, rfl⟩ := step_ioReturn_ok_iff.mp h
    exact ⟨⟨rfl, rfl, rfl, rfl⟩, rfl, rfl⟩
  | readEnter reader =>
    obtain ⟨-, rfl⟩ := step_readEnter_ok_iff.mp h
    exact ⟨⟨rfl, rfl, rfl, rfl⟩, rfl, rfl⟩
  | readTake reader =>
    obtain ⟨entry, -, -, rfl⟩ := step_readTake_ok_iff.mp h
    exact ⟨⟨rfl, rfl, rfl, rfl⟩, rfl, rfl⟩
  | _ => cases he

/-- An event of the sending side does not touch the receiving side, except for `shutdown_`. -/
lemma sameInbound_step (h : s.step e = .ok t) (he : e.isOutbound = true) :
    SameInbound s t := by
  cases e with
  | send msg =>
    rcases step_send_cases h with ⟨-, rfl⟩ | ⟨-, rfl⟩
    · exact ⟨⟨rfl, rfl, rfl, rfl, rfl, id⟩, rfl, rfl, rfl⟩
    · exact ⟨⟨rfl, rfl, rfl, rfl, rfl, id⟩, rfl, rfl, rfl⟩
  | shutdown =>
    cases h
    exact ⟨⟨rfl, rfl, rfl, rfl, rfl, fun hd => by cases hd⟩, rfl, rfl, rfl⟩
  | close =>
    rw [step_close_ok_iff.mp h]
    exact ⟨⟨rfl, rfl, rfl, rfl, rfl, fun hd => by cases hd⟩, rfl, rfl, rfl⟩
  | runPosted =>
    obtain ⟨-, rest, ⟨-, rfl⟩ | ⟨msg, -, rfl⟩⟩ := step_runPosted_cases h
    · exact ⟨⟨rfl, rfl, rfl, rfl, rfl, id⟩, rfl, rfl, rfl⟩
    · exact ⟨⟨rfl, rfl, rfl, rfl, rfl, id⟩, rfl, rfl, rfl⟩
  | writeDone i ec =>
    obtain ⟨-, msg, -, ⟨-, rfl⟩ | ⟨-, rfl⟩⟩ := step_writeDone_cases h
    · exact ⟨⟨rfl, rfl, rfl, rfl, rfl, id⟩, rfl, rfl, rfl⟩
    · exact ⟨⟨rfl, rfl, rfl, rfl, rfl, fun hd => by cases hd⟩, rfl, rfl, rfl⟩
  | _ => cases he

end System

end Btconn
