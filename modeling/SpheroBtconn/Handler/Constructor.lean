import SpheroBtconn.Connection.Inquiry
import SpheroBtconn.Handler.Session
import Mathlib.Data.Nat.Find

/-!
# Constructing a handler

The constructor of `SpheroHandler` dials a device: it sets the endpoint of its connection and calls
`connect()`, at most `CONNECTION_RETRY + 1` times, and sleeps after an attempt that has failed.
The last failure is passed on as a `NotConnectedException`.  Without an address it returns at once.

How the attempts end is a parameter.  The constructor tells two kinds of failures apart, but does the
same about them.  To the connection they are different: a `system_error` comes from
`socket_.connect`, before anything is changed, and another exception from `std::thread`, when
`connected_` has been set and a read has been started, and nothing takes these back
(`failedConnection`).  What the constructor does to the outside, the attempts and the sleeps between
them, is recorded.  Its output to the log, and failures to allocate memory, are left out.
-/

namespace Btconn

/-- `CONNECTION_RETRY`. -/
def connectionRetry : ℕ := 5

/-- `CONNECTION_SLEEP`, in seconds. -/
def connectionSleep : ℕ := 5

/-- `connect` of `BtConnection`, if the device accepts the connection and no thread can be started:
the constructor of `std::thread` throws, and `iothread_` is not assigned to. -/
def BtConnection.connectWithoutThread {M : Type*} (s : BtConnection M) : BtConnection M :=
  let s := { s with socketOpen := true }
  let s := { s with connected := true }
  s.readAsync

/-- How an attempt to connect ends. -/
inductive Attempt where
  /-- The device accepts the connection, and the thread is started. -/
  | accepted
  /-- `socket_.connect` throws a `boost::system::system_error`. -/
  | systemError (what : String)
  /-- The device accepts the connection, but `std::thread` throws another `std::exception`. -/
  | otherException (what : String)
  deriving DecidableEq

namespace Attempt

/-- What `connect` does to the connection in an attempt. -/
def connect (a : Attempt) (s : BtConnection SpheroClientCommand) :
    Except Fault (BtConnection SpheroClientCommand) :=
  match a with
  | .accepted => s.connect true
  | .systemError _ => s.connect false
  | .otherException _ => .ok s.connectWithoutThread

/-- The text of the exception that an attempt throws. -/
def what? : Attempt → Option String
  | .accepted => none
  | .systemError what => some what
  | .otherException what => some what

/-- The device accepts the connection, but no thread is started. -/
def lacksThread : Attempt → Bool
  | .otherException _ => true
  | _ => false

/-- An attempt that does not succeed throws. -/
lemma exists_what {a : Attempt} (h : a ≠ .accepted) : ∃ what, a.what? = some what := by
  cases a with
  | accepted => exact absurd rfl h
  | systemError what => exact ⟨what, rfl⟩
  | otherException what => exact ⟨what, rfl⟩

/-- What it leaves of the connection, if `shutdown_` is not set. -/
lemma connect_of_what {a : Attempt} {what : String} (h : a.what? = some what)
    {s : BtConnection SpheroClientCommand} (hd : s.shuttingDown = false) :
    a.connect s = .ok { s with
      socketOpen := true
      connected := s.connected || a.lacksThread
      reads := s.reads + a.lacksThread.toNat } := by
  cases a with
  | accepted => cases h
  | systemError what => simp [connect, BtConnection.connect, lacksThread]
  | otherException what =>
    simp [connect, BtConnection.connectWithoutThread, BtConnection.readAsync_eq, hd, lacksThread]

end Attempt

/-- What the constructor does to the outside. -/
inductive Action where
  /-- It calls `connect()`, which dials `endpoint_`. -/
  | connect (endpoint : Option SockaddrBth)
  /-- It calls `Sleep`, with a time in milliseconds. -/
  | sleep (milliseconds : ℕ)
  deriving DecidableEq

/-- A handler under construction. -/
structure Construction extends SpheroHandler where
  /-- `endpoint_` of the connection; at first it holds no address. -/
  endpoint : Option SockaddrBth
  /-- What has been done so far. -/
  actions : List Action
  deriving DecidableEq

namespace Construction

open EarlyExit (Pass loop loop_cons_of_next loop_of_exit)

/-- The members are initialised. -/
def new : Construction where
  spheroConn := BtConnection.new
  seqNum := 0
  endpoint := none
  actions := []

/-- `setEndpoint`. -/
def setEndpoint (c : Construction) (socketAddress : SockaddrBth) : Construction :=
  { c with endpoint := some socketAddress }

/-- `connect`, and the attempt that it makes. -/
def connect (c : Construction) (attempt : Attempt) : Except Fault Construction :=
  (attempt.connect c.spheroConn).map fun conn =>
    { c with spheroConn := conn, actions := c.actions ++ [.connect c.endpoint] }

/-- `Sleep`. -/
def sleep (c : Construction) (milliseconds : ℕ) : Construction :=
  { c with actions := c.actions ++ [.sleep milliseconds] }

/-- One pass through the loop of the constructor. -/
def connectPass (attempt : ℕ → Attempt) (bluetoothAddress : SockaddrBth) (i : ℕ)
    (c : Construction) : Except Fault (Pass Construction (Outcome Unit)) :=
  let c := c.setEndpoint bluetoothAddress
  (c.connect (attempt i)).map fun c =>
    match attempt i with
    | .accepted => .exit (.returned ()) c
    | .systemError what =>
      if i = connectionRetry then .exit (.threw ⟨what⟩) c
      else .next (c.sleep (connectionSleep * 1000))
    | .otherException what =>
      if i = connectionRetry then .exit (.threw ⟨what⟩) c
      else .next (c.sleep (connectionSleep * 1000))

/-- The constructor of `SpheroHandler`; `attempt i` says how the attempt in the pass `i` ends. -/
def construct (attempt : ℕ → Attempt) (bluetoothAddress : Option SockaddrBth) :
    Except Fault (Outcome Unit × Construction) :=
  match bluetoothAddress with
  | none => .ok (.returned (), .new)
  | some address =>
    (loop (connectPass attempt address) (List.range (connectionRetry + 1)) .new).map
      fun (outcome, c) => (outcome.getD (.returned ()), c)

variable {attempt : ℕ → Attempt} {address : SockaddrBth} {c : Construction} {n : ℕ}

/-! ## What failures leave behind -/

/-- How many of the first attempts fail to start their thread. -/
def threadFailures (attempt : ℕ → Attempt) (n : ℕ) : ℕ :=
  (List.range n).countP fun i => (attempt i).lacksThread

lemma threadFailures_succ (attempt : ℕ → Attempt) (n : ℕ) :
    threadFailures attempt (n + 1) =
      threadFailures attempt n + (attempt n).lacksThread.toNat := by
  rw [threadFailures, List.range_succ, List.countP_append, List.countP_singleton]
  cases (attempt n).lacksThread <;> rfl

/-- The connection after some attempts that have all failed. -/
def failedConnection (attempt : ℕ → Attempt) (n : ℕ) : BtConnection SpheroClientCommand :=
  { BtConnection.new with
    connected := decide (0 < threadFailures attempt n)
    reads := threadFailures attempt n }

/-- A handler whose thread has been started, after attempts that have left some reads. -/
def constructedHandler (reads : ℕ) : SpheroHandler where
  spheroConn := { HandlerSystem.constructed.toBtConnection with reads := reads + 1 }
  seqNum := 0

/-- One more attempt fails. -/
lemma connect_failedConnection {what : String} (hwhat : (attempt n).what? = some what) :
    (attempt n).connect (failedConnection attempt n) = .ok (failedConnection attempt (n + 1)) := by
  have hup : (failedConnection attempt n).shuttingDown = false := rfl
  rw [Attempt.connect_of_what hwhat hup, failedConnection, failedConnection, threadFailures_succ]
  cases (attempt n).lacksThread with
  | false => simp [BtConnection.new]
  | true => simp [BtConnection.new]

/-- Some attempts that have failed, each followed by a sleep. -/
def failures (address : SockaddrBth) (n : ℕ) : List Action :=
  (List.replicate n [.connect (some address), .sleep (connectionSleep * 1000)]).flatten

lemma failures_succ (address : SockaddrBth) (n : ℕ) :
    failures address (n + 1) = failures address n ++
      [.connect (some address), .sleep (connectionSleep * 1000)] := by
  simp [failures, List.replicate_succ']

/-! ## One pass -/

/-- The constructor has come to the pass `n`, and all attempts have failed. -/
structure Tried (attempt : ℕ → Attempt) (address : SockaddrBth) (n : ℕ) (c : Construction) :
    Prop where
  /-- What the attempts have left of the connection. -/
  conn : c.spheroConn = failedConnection attempt n
  /-- The counter has not been used. -/
  seqNum : c.seqNum = 0
  /-- The attempts, and the sleeps after them. -/
  actions : c.actions = failures address n

lemma tried_new (attempt : ℕ → Attempt) (address : SockaddrBth) :
    new.Tried attempt address 0 := ⟨rfl, rfl, rfl⟩

/-- One more attempt has failed. -/
def dialled (attempt : ℕ → Attempt) (address : SockaddrBth) (n : ℕ) (c : Construction) :
    Construction :=
  { c with
    spheroConn := failedConnection attempt (n + 1)
    endpoint := some address
    actions := c.actions ++ [.connect (some address)] }

/-- After a sleep comes the next pass. -/
lemma Tried.sleep_dialled (h : c.Tried attempt address n) :
    ((c.dialled attempt address n).sleep (connectionSleep * 1000)).Tried attempt address
      (n + 1) := by
  refine ⟨rfl, h.seqNum, ?_⟩
  rw [failures_succ, ← h.actions]
  simp [sleep, dialled]

/-- Whatever an attempt throws, the pass is the same but for the text of the exception. -/
lemma Tried.connectPass_of_what (h : c.Tried attempt address n) {what : String}
    (hwhat : (attempt n).what? = some what) :
    connectPass attempt address n c = .ok (
      if n = connectionRetry then .exit (.threw ⟨what⟩) (c.dialled attempt address n)
      else .next ((c.dialled attempt address n).sleep (connectionSleep * 1000))) := by
  have hconnect : (c.setEndpoint address).connect (attempt n) =
      .ok (c.dialled attempt address n) := by
    change ((attempt n).connect c.spheroConn).map _ = _
    rw [h.conn, connect_failedConnection hwhat]
    rfl
  simp only [connectPass, hconnect]
  cases hattempt : attempt n with
  | accepted => simp [hattempt, Attempt.what?] at hwhat
  | systemError text =>
    obtain rfl : text = what := by simpa [hattempt, Attempt.what?] using hwhat
    rfl
  | otherException text =>
    obtain rfl : text = what := by simpa [hattempt, Attempt.what?] using hwhat
    rfl

/-- An attempt that succeeds ends the loop. -/
lemma Tried.connectPass_of_accepted (h : c.Tried attempt address n)
    (hattempt : attempt n = .accepted) :
    connectPass attempt address n c = .ok (.exit (.returned ()) {
      toSpheroHandler := constructedHandler (threadFailures attempt n)
      endpoint := some address
      actions := failures address n ++ [.connect (some address)] }) := by
  obtain ⟨⟨conn, seqNum⟩, endpoint, actions⟩ := c
  obtain ⟨rfl, rfl, rfl⟩ := h
  unfold connectPass
  rw [hattempt]
  rfl

/-! ## The whole loop -/

/-- If the attempts before the pass `n` fail, the loop comes to this pass. -/
lemma exists_loop_of_failed (attempt : ℕ → Attempt) (address : SockaddrBth) {n : ℕ}
    (hn : n ≤ connectionRetry) (hfailed : ∀ i < n, attempt i ≠ .accepted) :
    ∃ d, d.Tried attempt address n ∧
      loop (connectPass attempt address) (List.range (connectionRetry + 1)) new =
        loop (connectPass attempt address)
          (n :: (List.range (connectionRetry + 1)).drop (n + 1)) d := by
  induction n with
  | zero => exact ⟨new, tried_new attempt address, rfl⟩
  | succ n ih =>
    obtain ⟨d, hd, hloop⟩ := ih (Nat.le_of_succ_le hn) fun i hi => hfailed i (hi.trans n.lt_succ_self)
    obtain ⟨what, hwhat⟩ := Attempt.exists_what (hfailed n n.lt_succ_self)
    have hpass := hd.connectPass_of_what hwhat
    rw [if_neg (Nat.ne_of_lt hn)] at hpass
    have hrest : (List.range (connectionRetry + 1)).drop (n + 1) =
        (n + 1) :: (List.range (connectionRetry + 1)).drop (n + 2) := by
      rw [List.drop_eq_getElem_cons (by rw [List.length_range]; omega), List.getElem_range]
    exact ⟨_, hd.sleep_dialled, by rw [hloop, loop_cons_of_next hpass, hrest]⟩

/-- The constructor returns after the first attempt that succeeds. -/
lemma construct_of_accepted {attempt : ℕ → Attempt} (address : SockaddrBth) {k : ℕ}
    (hk : k ≤ connectionRetry) (haccepted : attempt k = .accepted)
    (hfailed : ∀ i < k, attempt i ≠ .accepted) :
    construct attempt (some address) = .ok (.returned (), {
      toSpheroHandler := constructedHandler (threadFailures attempt k)
      endpoint := some address
      actions := failures address k ++ [.connect (some address)] }) := by
  obtain ⟨d, hd, hloop⟩ := exists_loop_of_failed attempt address hk hfailed
  rw [construct, hloop, loop_of_exit (hd.connectPass_of_accepted haccepted)]
  rfl

/-- If no attempt succeeds, it throws what the last one has thrown. -/
lemma construct_of_failed {attempt : ℕ → Attempt} (address : SockaddrBth)
    (hfailed : ∀ i ≤ connectionRetry, attempt i ≠ .accepted) {what : String}
    (hwhat : (attempt connectionRetry).what? = some what) :
    construct attempt (some address) = .ok (.threw ⟨what⟩, {
      spheroConn := failedConnection attempt (connectionRetry + 1)
      seqNum := 0
      endpoint := some address
      actions := failures address connectionRetry ++ [.connect (some address)] }) := by
  obtain ⟨d, hd, hloop⟩ := exists_loop_of_failed attempt address le_rfl
    fun i hi => hfailed i hi.le
  have hlast := hd.connectPass_of_what hwhat
  rw [if_pos rfl] at hlast
  rw [construct, hloop, loop_of_exit hlast, dialled, hd.actions, hd.seqNum]
  rfl

/-- A handler that has come from a run has at most one read outstanding, so only the attempts that
have left none can have been calls of `connect()` of its system. -/
lemma exists_run_constructedHandler_iff (reads : ℕ) :
    (∃ es s, handlerSystem.run es = .ok s ∧ s.handler = constructedHandler reads) ↔ reads = 0 := by
  constructor
  · rintro ⟨es, s, hrun, hs⟩
    have hconn : s.toBtConnection = (constructedHandler reads).spheroConn :=
      congrArg SpheroHandler.spheroConn hs
    obtain ⟨fs, hfs⟩ := HandlerSystem.exists_run_of_handlerSystem hrun
    have hreading := (System.inboundInv_of_run hfs).reading (by rw [hconn]; rfl) (by rw [hconn]; rfl)
    rw [hconn] at hreading
    exact Nat.succ.inj hreading.2
  · rintro rfl
    exact ⟨_, _, Session.run_connects 0, rfl⟩

/-- **The constructor dials until an attempt succeeds.**  Let the attempts end in any way.

If one of the first `CONNECTION_RETRY + 1` succeeds, the constructor returns after the first one that
does.  The handler is then ready for its first round, and each attempt before it that has failed to
start its thread has left a read outstanding; the system of the handler reaches this state exactly if
there is no such attempt, and then as many calls of `connect()` that fail and one that succeeds lead
to it.

If none of them succeeds, the constructor throws what the last one has thrown.  The connection is as
new if no attempt has failed to start its thread, and otherwise `connected_` is set and the reads of
these attempts are outstanding, with no thread to complete them.

All attempts go to the address that has been passed, and after each one that has failed but the last
there is one sleep. -/
theorem construct_outcome (attempt : ℕ → Attempt) (address : SockaddrBth) :
    (∀ k ≤ connectionRetry, attempt k = .accepted → (∀ i < k, attempt i ≠ .accepted) →
      construct attempt (some address) = .ok (.returned (), {
        toSpheroHandler := constructedHandler (threadFailures attempt k)
        endpoint := some address
        actions := failures address k ++ [.connect (some address)] }) ∧
      ((∃ es s, handlerSystem.run es = .ok s ∧
        s.handler = constructedHandler (threadFailures attempt k)) ↔
          threadFailures attempt k = 0) ∧
      (threadFailures attempt k = 0 → ∃ s,
        handlerSystem.run (List.replicate k (.conn (.connect false)) ++ [.conn (.connect true)]) =
          .ok s ∧ s.handler = constructedHandler (threadFailures attempt k))) ∧
    ((∀ i ≤ connectionRetry, attempt i ≠ .accepted) →
      ∃ what, (attempt connectionRetry).what? = some what ∧
        construct attempt (some address) = .ok (.threw ⟨what⟩, {
          spheroConn := failedConnection attempt (connectionRetry + 1)
          seqNum := 0
          endpoint := some address
          actions := failures address connectionRetry ++ [.connect (some address)] })) := by
  constructor
  · intro k hk haccepted hfailed
    refine ⟨construct_of_accepted address hk haccepted hfailed,
      exists_run_constructedHandler_iff _, fun hnone => ?_⟩
    rw [hnone]
    exact ⟨_, Session.run_connects k, rfl⟩
  · intro hfailed
    obtain ⟨what, hwhat⟩ := Attempt.exists_what (hfailed connectionRetry le_rfl)
    exact ⟨what, hwhat, construct_of_failed address hfailed hwhat⟩

/-- However the attempts end, the constructor ends, and it has dialled the address. -/
lemma exists_construct (attempt : ℕ → Attempt) (address : SockaddrBth) :
    ∃ outcome c n, construct attempt (some address) = .ok (outcome, c) ∧ n ≤ connectionRetry ∧
      c.actions = failures address n ++ [.connect (some address)] := by
  by_cases hsome : ∃ k, k ≤ connectionRetry ∧ attempt k = .accepted
  · obtain ⟨hk, haccepted⟩ := Nat.find_spec hsome
    have hfailed : ∀ i < Nat.find hsome, attempt i ≠ .accepted := fun i hi h =>
      Nat.find_min hsome hi ⟨(hi.trans_le hk).le, h⟩
    exact ⟨_, _, _, construct_of_accepted address hk haccepted hfailed, hk, rfl⟩
  · have hfailed : ∀ i ≤ connectionRetry, attempt i ≠ .accepted := fun i hi h =>
      hsome ⟨i, hi, h⟩
    obtain ⟨what, hwhat⟩ := Attempt.exists_what (hfailed connectionRetry le_rfl)
    exact ⟨_, _, _, construct_of_failed address hfailed hwhat, le_rfl, rfl⟩

/-- **Devices that an inquiry finds are dialled as they have been found.**  Let an inquiry return,
and let a handler be constructed for one of the items that it has returned.  Some reply of the
lookup service has the name of this item and an address; and however the attempts to connect end,
the constructor ends, after between one and `CONNECTION_RETRY + 1` attempts, all of which go to the
device address of this reply with the family, the port and the service of RFCOMM, whatever family,
port and service the reply has given. -/
theorem inquired_device_is_dialled {service : LookupService} {vOut : List BluetoothInqItem}
    {q : Inquiry} (hinquire : Inquiry.bluetoothInquire service vOut = .ok (.returned (), q))
    {item : BluetoothInqItem} (hitem : item ∈ q.vOut) (attempt : ℕ → Attempt) :
    ∃ reply ∈ service.replies, ∃ sockAddr, reply.result = noError ∧
      reply.querySet.lpszServiceInstanceName = some item.name ∧
      reply.querySet.lpcsaBuffer = some (some sockAddr) ∧
      ∃ outcome c n target, construct attempt (some item.address) = .ok (outcome, c) ∧
        n ≤ connectionRetry ∧ c.actions = failures target n ++ [.connect (some target)] ∧
        target = { sockAddr with
          addressFamily := afBth, port := 0, serviceClassId := rfcommProtocolUuid } := by
  obtain ⟨reply, hreply, hgoesOn, hsome⟩ := Inquiry.exists_reply_of_mem hinquire hitem
  obtain ⟨sockAddr, hname, hbuffer, haddress⟩ := LookupReply.item?_eq_some_iff.mp hsome
  obtain ⟨outcome, c, n, hconstruct, hn, hactions⟩ := exists_construct attempt item.address
  exact ⟨reply, hreply, sockAddr, hgoesOn.1, hname, hbuffer, outcome, c, n, item.address,
    hconstruct, hn, hactions, haddress⟩

/-- Two replies, the first one without a name, and an attempt that fails. -/
theorem inquired_device_is_dialled_second :
    ∃ (service : LookupService) (q : Inquiry) (item : BluetoothInqItem),
      Inquiry.bluetoothInquire service [] = .ok (.returned (), q) ∧ item ∈ q.vOut ∧
      ∃ reply ∈ service.replies, ∃ sockAddr, reply.result = noError ∧
        reply.querySet.lpszServiceInstanceName = some item.name ∧
        reply.querySet.lpcsaBuffer = some (some sockAddr) ∧
        ∃ outcome c n target,
          construct (fun i => if i = 0 then .systemError "timed out" else .accepted)
            (some item.address) = .ok (outcome, c) ∧
          n ≤ connectionRetry ∧ c.actions = failures target n ++ [.connect (some target)] ∧
          target = { sockAddr with
            addressFamily := afBth, port := 0, serviceClassId := rfcommProtocolUuid } := by
  let found : SockaddrBth := ⟨32, 0x6886E7001122, rfcommProtocolUuid, 7⟩
  let service : LookupService := ⟨0, 1, [⟨0, ⟨none, none⟩⟩,
    ⟨0, ⟨some [0x53, 0x70, 0x68], some (some found)⟩⟩, ⟨-1, ⟨none, none⟩⟩]⟩
  let item : BluetoothInqItem := .new [0x53, 0x70, 0x68] found
  have hinquire : Inquiry.bluetoothInquire service [] =
      .ok (.returned (), ⟨[item], [.begin, .next, .next, .next, .release]⟩) := by decide
  exact ⟨service, _, item, hinquire, List.mem_singleton_self item,
    inquired_device_is_dialled hinquire (List.mem_singleton_self item) _⟩

end Construction

end Btconn
