import SpheroBtconn.Connection.Sides

/-!
# The two flags

No member function ever clears `connected_` or `shutdown_`.  Over a whole run the flags therefore
say exactly which calls have been made: `connected_` is set if and only if some `connect()` has
succeeded, and `shutdown_` if and only if `shutdown()` or `close()` has been called or a write has
failed (`flags_run`).  Neither depends on what the socket does.
-/

namespace Btconn

variable {M : Type*}

/-- The events that set `connected_`. -/
def Event.connects : Event M → Bool
  | .connect accepted => accepted
  | _ => false

/-- The events that set `shutdown_`. -/
def Event.stops : Event M → Bool
  | .shutdown => true
  | .close => true
  | .writeDone _ ec => ec
  | _ => false

namespace System

variable {s s' : System M}

/-! ## One event and whole runs -/

/-- Only a `connect()` that succeeds changes `connected_`. -/
lemma connected_step {e : Event M} (h : s.step e = .ok s') :
    s'.connected = (s.connected || e.connects) := by
  cases e with
  | connect accepted =>
    rcases step_connect_cases h with ⟨rfl, rfl⟩ | ⟨rfl, -, rfl⟩
    · exact (Bool.or_false _).symm
    · exact (Bool.or_true _).symm
  | readDone chunk =>
    obtain ⟨-, ⟨-, rfl⟩ | ⟨-, entry, rfl⟩⟩ := step_readDone_cases h
    · exact (Bool.or_false _).symm
    · exact (Bool.or_false _).symm
  | readFailed err =>
    obtain ⟨-, -, rfl⟩ := step_readFailed_cases h
    exact (Bool.or_false _).symm
  | ioReturn =>
    obtain ⟨-, rfl⟩ := step_ioReturn_ok_iff.mp h
    exact (Bool.or_false _).symm
  | readEnter reader =>
    obtain ⟨-, rfl⟩ := step_readEnter_ok_iff.mp h
    exact (Bool.or_false _).symm
  | readTake reader =>
    obtain ⟨entry, -, -, rfl⟩ := step_readTake_ok_iff.mp h
    exact (Bool.or_false _).symm
  | _ => exact (sameInbound_step h rfl).connected.trans (Bool.or_false _).symm

/-- The events that set `shutdown_` set it, and the others do not change it. -/
lemma shuttingDown_step {e : Event M} (h : s.step e = .ok s') :
    s'.shuttingDown = (s.shuttingDown || e.stops) := by
  cases e with
  | send msg =>
    rcases step_send_cases h with ⟨-, rfl⟩ | ⟨-, rfl⟩
    · exact (Bool.or_false _).symm
    · exact (Bool.or_false _).symm
  | shutdown =>
    cases h
    exact (Bool.or_true _).symm
  | close =>
    rw [step_close_ok_iff.mp h]
    exact (Bool.or_true _).symm
  | runPosted =>
    obtain ⟨-, rest, ⟨-, rfl⟩ | ⟨msg, -, rfl⟩⟩ := step_runPosted_cases h
    · exact (Bool.or_false _).symm
    · exact (Bool.or_false _).symm
  | writeDone i ec =>
    obtain ⟨-, msg, -, ⟨rfl, rfl⟩ | ⟨rfl, rfl⟩⟩ := step_writeDone_cases h
    · exact (Bool.or_false _).symm
    · exact (Bool.or_true _).symm
  | _ => exact (sameOutbound_step h rfl).shuttingDown.trans (Bool.or_false _).symm

/-- Over a run, the flags say which events have happened. -/
lemma flags_run {es : List (Event M)} (h : (system M).run es = .ok s) :
    s.connected = es.any Event.connects ∧ s.shuttingDown = es.any Event.stops := by
  refine (system M).run_induction
    (P := fun es s => s.connected = es.any Event.connects ∧ s.shuttingDown = es.any Event.stops)
    ⟨rfl, rfl⟩ (fun es s e s' _ ih hstep => ?_) h
  have hconn := connected_step hstep
  have hdown := shuttingDown_step hstep
  rw [ih.1] at hconn
  rw [ih.2] at hdown
  simp [hconn, hdown]

/-- `connected_` is set exactly if some `connect()` has succeeded. -/
lemma connected_iff_of_run {es : List (Event M)} (h : (system M).run es = .ok s) :
    s.connected = true ↔ .connect true ∈ es := by
  rw [(flags_run h).1, List.any_eq_true]
  constructor
  · rintro ⟨e, he, hconn⟩
    cases e with
    | connect accepted => exact (show accepted = true from hconn) ▸ he
    | _ => cases hconn
  · intro he
    exact ⟨_, he, rfl⟩

/-- A run without an event that sets `shutdown_` leaves it cleared. -/
lemma not_shuttingDown_of_run {es : List (Event M)} (h : (system M).run es = .ok s)
    (hes : ∀ e ∈ es, e.stops = false) : s.shuttingDown = false := by
  rw [(flags_run h).2, List.any_eq_false]
  intro e he
  simp [hes e he]

end System

end Btconn
