import SpheroBtconn.Connection.Flags

/-!
# After `shutdown_` has been set

Four places can start a socket operation: `readAsync`, the completion handler of a read, the
completion handler of a write, and the handler that `send` posts.  The first three look at
`shutdown_`, the last one does not.  It starts a write if it finds `messageQueue_` empty, so this
is the one way in which a connection that is shutting down can still start something
(`startsNothing_step_iff`).
-/

namespace Btconn

variable {M : Type*}

namespace System

variable {s t : System M} {e : Event M}

/-! ## Steps that start nothing -/

/-- The outstanding writes without the one that the event completes. -/
def remainingWrites (s : System M) : Event M → List M
  | .writeDone i _ => s.writes.eraseIdx i
  | _ => s.writes

/-- The number of outstanding reads without the one that the event completes. -/
def remainingReads (s : System M) : Event M → ℕ
  | .readDone _ => s.reads - 1
  | .readFailed _ => s.reads - 1
  | _ => s.reads

/-- After the step, only those operations are outstanding that were so before. -/
def StartsNothing (s : System M) (e : Event M) (t : System M) : Prop :=
  t.writes = s.remainingWrites e ∧ t.reads = s.remainingReads e

/-- The event runs a handler posted by `send`, and `messageQueue_` is empty. -/
def SendsToEmptyQueue (s : System M) (e : Event M) : Prop :=
  e = .runPosted ∧ s.messageQueue = [] ∧ ∃ msg rest, s.posted = .send msg :: rest

/-- The handlers posted by `send` and by `close`. -/
lemma startsNothing_runPosted_iff (h : s.step .runPosted = .ok t) :
    StartsNothing s .runPosted t ↔ ¬ SendsToEmptyQueue s .runPosted := by
  obtain ⟨-, rest, ⟨hposted, rfl⟩ | ⟨msg, hposted, rfl⟩⟩ := step_runPosted_cases h
  · have hnot : ¬ SendsToEmptyQueue s .runPosted := by
      rintro ⟨-, -, msg, rest', hsend⟩
      rw [hposted] at hsend
      cases hsend
    exact iff_of_true ⟨rfl, rfl⟩ hnot
  · by_cases hq : s.messageQueue = []
    · have hsends : SendsToEmptyQueue s .runPosted := ⟨rfl, hq, msg, rest, hposted⟩
      refine iff_of_false ?_ (not_not_intro hsends)
      rintro ⟨hwrites, -⟩
      simp [remainingWrites, hq] at hwrites
    · have hstays : StartsNothing s .runPosted { s with
          posted := rest
          messageQueue := s.messageQueue ++ [msg]
          writes := if s.messageQueue = [] then s.writes ++ [msg] else s.writes } :=
        ⟨if_neg hq, rfl⟩
      exact iff_of_true hstays fun hsends => hq hsends.2.1

/-- On a connection that is shutting down, a step starts a socket operation exactly if it runs a
handler of `send` on an empty queue. -/
lemma startsNothing_step_iff (hd : s.shuttingDown = true) (h : s.step e = .ok t) :
    StartsNothing s e t ↔ ¬ SendsToEmptyQueue s e := by
  have hother : e ≠ .runPosted → ¬ SendsToEmptyQueue s e := fun hne hsends => hne hsends.1
  cases e with
  | runPosted => exact startsNothing_runPosted_iff h
  | connect accepted =>
    refine iff_of_true ?_ (hother (by simp))
    rcases step_connect_cases h with ⟨-, rfl⟩ | ⟨-, -, rfl⟩
    · exact ⟨rfl, rfl⟩
    · exact ⟨rfl, if_pos hd⟩
  | send msg =>
    refine iff_of_true ?_ (hother (by simp))
    rcases step_send_cases h with ⟨-, rfl⟩ | ⟨-, rfl⟩
    · exact ⟨rfl, rfl⟩
    · exact ⟨rfl, rfl⟩
  | shutdown =>
    cases h
    exact iff_of_true ⟨rfl, rfl⟩ (hother (by simp))
  | close =>
    rw [step_close_ok_iff.mp h]
    exact iff_of_true ⟨rfl, rfl⟩ (hother (by simp))
  | writeDone i ec =>
    refine iff_of_true ?_ (hother (by simp))
    obtain ⟨-, msg, -, ⟨-, rfl⟩ | ⟨-, rfl⟩⟩ := step_writeDone_cases h
    · exact ⟨by simp [remainingWrites, hd], rfl⟩
    · exact ⟨rfl, rfl⟩
  | readDone chunk =>
    obtain ⟨-, ⟨-, rfl⟩ | ⟨hup, -⟩⟩ := step_readDone_cases h
    · exact iff_of_true ⟨rfl, rfl⟩ (hother (by simp))
    · exact absurd (hd.symm.trans hup) (by decide)
  | readFailed err =>
    obtain ⟨-, -, rfl⟩ := step_readFailed_cases h
    exact iff_of_true ⟨rfl, if_pos hd⟩ (hother (by simp))
  | ioReturn =>
    obtain ⟨-, rfl⟩ := step_ioReturn_ok_iff.mp h
    exact iff_of_true ⟨rfl, rfl⟩ (hother (by simp))
  | readEnter reader =>
    obtain ⟨-, rfl⟩ := step_readEnter_ok_iff.mp h
    exact iff_of_true ⟨rfl, rfl⟩ (hother (by simp))
  | readTake reader =>
    obtain ⟨entry, -, -, rfl⟩ := step_readTake_ok_iff.mp h
    exact iff_of_true ⟨rfl, rfl⟩ (hother (by simp))

/-! ## Runs of a connection that is shutting down -/

/-- `shutdown_` stays set. -/
lemma shuttingDown_of_step (hd : s.shuttingDown = true) (h : s.step e = .ok t) :
    t.shuttingDown = true := by
  rw [shuttingDown_step h, hd, Bool.true_or]

/-- **What can still be started after `shutdown_` has been set.**  Take any run that ends with an
event which sets `shutdown_`, and let any events follow.  None of them starts a read or a write if
and only if none of them runs a handler posted by `send` while `messageQueue_` is empty. -/
theorem startsNothing_iff_of_run {es fs : List (Event M)}
    (hrun : (system M).run (es ++ [e]) = .ok s) (he : e.stops = true) :
    (system M).EveryStep StartsNothing s fs ↔
      (system M).EveryStep (fun u e _ => ¬ SendsToEmptyQueue u e) s fs := by
  have hd : s.shuttingDown = true := by
    obtain ⟨u, -, hstep⟩ := (system M).run_concat_ok_iff.mp hrun
    rw [shuttingDown_step hstep, he, Bool.or_true]
  exact (system M).everyStep_congr (I := fun u => u.shuttingDown = true) hd
    (fun u e v hu hstep => shuttingDown_of_step hu hstep)
    (fun u e v hu hstep => startsNothing_step_iff hu hstep)

/-- After `shutdown()`, a message is queued behind one that is being written, and a read that fails is
not replaced. -/
theorem startsNothing_behind_write :
    ∃ s t, (system ℕ).run ([.connect true, .send 7, .send 8, .runPosted] ++ [.shutdown]) = .ok s ∧
      (system ℕ).runFrom s [.runPosted, .readFailed .other] = .ok t ∧ t.messageQueue = [7, 8] ∧
      (system ℕ).EveryStep StartsNothing s [.runPosted, .readFailed .other] := by
  obtain ⟨s, t, hrun, hrest, ht, hqueue⟩ : ∃ s t, (system ℕ).run
      ([.connect true, .send 7, .send 8, .runPosted] ++ [.shutdown]) = .ok s ∧
        (system ℕ).runFrom s [.runPosted, .readFailed .other] = .ok t ∧ t.messageQueue = [7, 8] ∧
        s.messageQueue = [7] := ⟨_, _, rfl, rfl, rfl, rfl⟩
  refine ⟨s, t, hrun, hrest, ht, (startsNothing_iff_of_run hrun rfl).mpr ?_⟩
  rintro fs e u v hfs hu - ⟨rfl, hempty, -⟩
  cases fs with
  | nil =>
    obtain rfl : s = u := by simpa using hu
    rw [hqueue] at hempty
    cases hempty
  | cons e fs =>
    have hmem := (List.cons_prefix_cons.mp hfs).2.subset List.mem_concat_self
    simp at hmem

/-- A message sent after `shutdown()` is written. -/
theorem shutdown_then_send_starts_write :
    ∃ s t u, (system ℕ).run ([.connect true] ++ [.shutdown]) = .ok s ∧ s.writes = [] ∧
      (system ℕ).runFrom s [.send 7] = .ok t ∧ (system ℕ).step t .runPosted = .ok u ∧
      u.writes = [7] ∧ ¬ StartsNothing t .runPosted u ∧
      ¬ (system ℕ).EveryStep StartsNothing s [.send 7, .runPosted] := by
  obtain ⟨s, t, u, hrun, hs, ht, hstep, hu, htw⟩ :
      ∃ s t u, (system ℕ).run ([.connect true] ++ [.shutdown]) = .ok s ∧ s.writes = [] ∧
        (system ℕ).runFrom s [.send 7] = .ok t ∧ (system ℕ).step t .runPosted = .ok u ∧
        u.writes = [7] ∧ t.writes = [] := ⟨_, _, _, rfl, rfl, rfl, rfl, rfl, rfl⟩
  have hstarts : ¬ StartsNothing t .runPosted u := by
    rintro ⟨hwrites, -⟩
    simp [remainingWrites, hu, htw] at hwrites
  refine ⟨s, t, u, hrun, hs, ht, hstep, hu, hstarts, ?_⟩
  intro hevery
  exact hstarts (hevery [.send 7] .runPosted t u (List.prefix_refl _) ht hstep)

end System

end Btconn
