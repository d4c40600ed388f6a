import SpheroBtconn.Connection.BtConnection
import SpheroBtconn.Foundation.EarlyExit

/-!
# Looking for devices

`bluetoothInquire` of `BluetoothProto.h` asks the lookup service of the system for devices, one
reply after the other, and makes a list of items from the replies.  The first reply with a result
other than `NO_ERROR` ends the loop: its `continue` goes to the condition of the loop.

The lookup service is a parameter: what it answers to `WSALookupServiceBeginA`, and its replies to
the calls of `WSALookupServiceNextA`.  A reply that has not come yet keeps the call waiting.  The
calls of the service that have returned are recorded; that the handle of a lookup is always
released is part of what is proved about them (`bluetoothInquire_outcome`).
-/

namespace Btconn

/-- `GUID`. -/
structure Guid where
  /-- `Data1`. -/
  data1 : UInt32
  /-- `Data2`. -/
  data2 : UInt16
  /-- `Data3`. -/
  data3 : UInt16
  /-- `Data4`. -/
  data4 : List.Vector UInt8 8
  deriving DecidableEq

/-- `AF_BTH`. -/
def afBth : UInt16 := 32

/-- `RFCOMM_PROTOCOL_UUID`. -/
def rfcommProtocolUuid : Guid :=
  ⟨0x00000003, 0x0000, 0x1000, ⟨[0x80, 0x00, 0x00, 0x80, 0x5F, 0x9B, 0x34, 0xFB], rfl⟩⟩

/-- `SOCKADDR_BTH`. -/
structure SockaddrBth where
  /-- `addressFamily`. -/
  addressFamily : UInt16
  /-- `btAddr`. -/
  btAddr : UInt64
  /-- `serviceClassId`. -/
  serviceClassId : Guid
  /-- `port`. -/
  port : UInt32
  deriving DecidableEq

/-- `BluetoothInqItem`: the name and the address of a device. -/
structure BluetoothInqItem where
  /-- `name`. -/
  name : List UInt8
  /-- `address`. -/
  address : SockaddrBth
  deriving DecidableEq

/-- The constructor of `BluetoothInqItem`. -/
def BluetoothInqItem.new (n : List UInt8) (addr : SockaddrBth) : BluetoothInqItem where
  name := n
  address := { addr with addressFamily := afBth, port := 0, serviceClassId := rfcommProtocolUuid }

/-! ## The lookup service -/

/-- `NO_ERROR`. -/
def noError : ℤ := 0

/-- What the inquiry looks at in a `WSAQUERYSETA`; a null pointer is `none`. -/
structure QuerySet where
  /-- `lpszServiceInstanceName`. -/
  lpszServiceInstanceName : Option (List UInt8)
  /-- `lpcsaBuffer`, and in it `RemoteAddr.lpSockaddr`. -/
  lpcsaBuffer : Option (Option SockaddrBth)
  deriving DecidableEq

/-- A reply to `WSALookupServiceNextA`. -/
structure LookupReply where
  /-- What the call returns. -/
  result : ℤ
  /-- What it leaves in `querySet`. -/
  querySet : QuerySet
  deriving DecidableEq

/-- The lookup service of the system. -/
structure LookupService where
  /-- What `WSALookupServiceBeginA` returns. -/
  result : ℤ
  /-- The handle that it provides. -/
  inqHandle : UInt64
  /-- The replies to the calls of `WSALookupServiceNextA`. -/
  replies : List LookupReply
  deriving DecidableEq

/-- The calls of the lookup service. -/
inductive LookupCall where
  /-- `WSALookupServiceBeginA`. -/
  | begin
  /-- `WSALookupServiceNextA`. -/
  | next
  /-- `WSALookupServiceEnd`. -/
  | release
  deriving DecidableEq

/-- A null pointer is dereferenced. -/
inductive NullDereference where
  /-- `querySet->lpcsaBuffer` is null. -/
  | lpcsaBuffer
  deriving DecidableEq

/-- The items found so far and the calls that have returned. -/
structure Inquiry where
  /-- `vOut`. -/
  vOut : List BluetoothInqItem
  /-- The calls of the lookup service that have returned. -/
  calls : List LookupCall
  deriving DecidableEq

namespace Inquiry

/-- A call of the lookup service has returned. -/
def called (q : Inquiry) (call : LookupCall) : Inquiry := { q with calls := q.calls ++ [call] }

/-- `vOut.push_back(BluetoothInqItem(name, sockAddr))`. -/
def pushBack (q : Inquiry) (name : List UInt8) (sockAddr : SockaddrBth) : Inquiry :=
  { q with vOut := q.vOut ++ [.new name sockAddr] }

open EarlyExit (Pass loop)

/-- One pass through the loop of `bluetoothInquire`. -/
def inquirePass (reply : LookupReply) (q : Inquiry) :
    Except NullDereference (Pass Inquiry Unit) :=
  let q := q.called .next
  -- `continue` goes to the condition of the loop, which asks for the same result
  if reply.result ≠ noError then .ok (.exit () q)
  else match reply.querySet.lpszServiceInstanceName with
    | none => .ok (.next q)
    | some name =>
      match reply.querySet.lpcsaBuffer with
      | none => .error .lpcsaBuffer
      | some none => .ok (.next q)
      | some (some sockAddr) => .ok (.next (q.pushBack name sockAddr))

/-- `bluetoothInquire`, for a `vOut` with any contents. -/
def bluetoothInquire (service : LookupService) (vOut : List BluetoothInqItem) :
    Except NullDereference (Outcome Unit × Inquiry) :=
  let q : Inquiry := { vOut := vOut, calls := [] }
  let q := { q with vOut := [] }
  let q := q.called .begin
  if service.result = noError ∧ service.inqHandle ≠ 0 then
    match loop inquirePass service.replies q with
    | .error e => .error e
    | .ok (none, q) => .ok (.waiting, q)
    | .ok (some (), q) => .ok (.returned (), q.called .release)
  else .ok (.returned (), q)

end Inquiry

/-! ## What an inquiry finds -/

/-- The service has begun a lookup. -/
def LookupService.Started (service : LookupService) : Prop :=
  service.result = noError ∧ service.inqHandle ≠ 0

namespace LookupReply

/-- The item that a reply stands for, if it has a name and an address. -/
def item? (reply : LookupReply) : Option BluetoothInqItem :=
  match reply.querySet.lpszServiceInstanceName, reply.querySet.lpcsaBuffer with
  | some name, some (some sockAddr) => some (.new name sockAddr)
  | _, _ => none

/-- A reply with a name and without a buffer, on which the inquiry fails. -/
def LacksBuffer (reply : LookupReply) : Prop :=
  reply.querySet.lpszServiceInstanceName ≠ none ∧ reply.querySet.lpcsaBuffer = none

instance (reply : LookupReply) : Decidable reply.LacksBuffer := inferInstanceAs (Decidable (_ ∧ _))

/-- The loop goes on after this reply. -/
def GoesOn (reply : LookupReply) : Prop := reply.result = noError ∧ ¬ reply.LacksBuffer

instance (reply : LookupReply) : Decidable reply.GoesOn := inferInstanceAs (Decidable (_ ∧ _))

/-- The loop goes on after the replies `found`, and comes to `last`. -/
def Reaches (replies found : List LookupReply) (last : LookupReply) : Prop :=
  found ++ [last] <+: replies ∧ ∀ r ∈ found, r.GoesOn

/-- The loop goes on after all replies, or it comes to one that is an error, or it comes to one
that has a name and lacks its buffer. -/
lemma reaches_cases (replies : List LookupReply) :
    (∀ r ∈ replies, r.GoesOn) ∨
      (∃ found last, Reaches replies found last ∧ last.result ≠ noError) ∨
      ∃ found last, Reaches replies found last ∧ last.result = noError ∧ last.LacksBuffer := by
  cases hfirst : replies.find? fun r => decide (¬ r.GoesOn) with
  | none => exact Or.inl (by simpa using hfirst)
  | some last =>
    obtain ⟨hlast, found, rest, rfl, hfound⟩ := List.find?_eq_some_iff_append.mp hfirst
    have hreach : Reaches (found ++ last :: rest) found last :=
      ⟨⟨rest, by simp⟩, by simpa using hfound⟩
    by_cases hresult : last.result = noError
    · have hbuffer : last.LacksBuffer := by
        by_contra hbuffer
        exact (of_decide_eq_true hlast) ⟨hresult, hbuffer⟩
      exact Or.inr (Or.inr ⟨found, last, hreach, hresult, hbuffer⟩)
    · exact Or.inr (Or.inl ⟨found, last, hreach, hresult⟩)

/-- An item carries the name and the device address of its reply. -/
lemma item?_eq_some_iff {reply : LookupReply} {item : BluetoothInqItem} :
    reply.item? = some item ↔ ∃ sockAddr, reply.querySet.lpszServiceInstanceName = some item.name ∧
      reply.querySet.lpcsaBuffer = some (some sockAddr) ∧ item.address = { sockAddr with
        addressFamily := afBth, port := 0, serviceClassId := rfcommProtocolUuid } := by
  unfold item?
  constructor
  · intro h
    split at h
    · next name sockAddr hname hbuffer =>
      obtain rfl := Option.some.inj h
      exact ⟨sockAddr, hname, hbuffer, rfl⟩
    · cases h
  · rintro ⟨sockAddr, hname, hbuffer, haddress⟩
    rw [hname, hbuffer]
    exact congrArg some (congrArg (BluetoothInqItem.mk item.name) haddress.symm)

end LookupReply

namespace Inquiry

variable {service : LookupService} {vOut : List BluetoothInqItem} {q : Inquiry}
  {reply : LookupReply}

open EarlyExit (Pass loop loop_append_of_next loop_of_next loop_of_exit loop_of_error)

/-- What a pass does when the loop goes on. -/
def record (q : Inquiry) (reply : LookupReply) : Inquiry where
  vOut := q.vOut ++ reply.item?.toList
  calls := q.calls ++ [.next]

lemma inquirePass_of_goesOn (h : reply.GoesOn) (q : Inquiry) :
    inquirePass reply q = .ok (.next (q.record reply)) := by
  obtain ⟨hresult, hbuffer⟩ := h
  unfold inquirePass record LookupReply.item?
  rw [if_neg (not_not_intro hresult)]
  cases hname : reply.querySet.lpszServiceInstanceName with
  | none => simp [called]
  | some name =>
    cases hcsa : reply.querySet.lpcsaBuffer with
    | none => exact absurd ⟨by simp [hname], hcsa⟩ hbuffer
    | some sockAddr =>
      cases sockAddr with
      | none => simp [called]
      | some sockAddr => simp [called, pushBack]

lemma inquirePass_of_error (h : reply.result ≠ noError) (q : Inquiry) :
    inquirePass reply q = .ok (.exit () (q.called .next)) := by
  rw [inquirePass, if_pos h]

lemma inquirePass_of_lacksBuffer (hresult : reply.result = noError) (h : reply.LacksBuffer)
    (q : Inquiry) : inquirePass reply q = .error .lpcsaBuffer := by
  obtain ⟨name, hname⟩ := Option.ne_none_iff_exists'.mp h.1
  rw [inquirePass, if_neg (not_not_intro hresult), hname, h.2]

/-- After replies on which the loop goes on, `vOut` has the items of these replies. -/
lemma foldl_record (q : Inquiry) (replies : List LookupReply) :
    replies.foldl record q =
      ⟨q.vOut ++ replies.filterMap LookupReply.item?,
        q.calls ++ List.replicate replies.length .next⟩ := by
  induction replies generalizing q with
  | nil => simp
  | cons reply replies ih =>
    rw [List.foldl_cons, ih]
    cases hitem : reply.item? with
    | none => simp [record, hitem, List.replicate_succ]
    | some item => simp [record, hitem, List.replicate_succ]

/-- If the loop comes to a reply, this reply decides how it ends. -/
lemma loop_of_reaches {replies found : List LookupReply} {last : LookupReply}
    (h : LookupReply.Reaches replies found last) (q : Inquiry) :
    ∃ rest, loop inquirePass replies q =
      loop inquirePass (last :: rest) ⟨q.vOut ++ found.filterMap LookupReply.item?,
        q.calls ++ List.replicate found.length .next⟩ := by
  obtain ⟨⟨rest, rfl⟩, hfound⟩ := h
  refine ⟨rest, ?_⟩
  rw [List.append_assoc, List.singleton_append, ← foldl_record]
  exact loop_append_of_next (I := fun _ => True)
    (fun r hr q _ => ⟨inquirePass_of_goesOn (hfound r hr) q, trivial⟩) trivial _

/-- Without a lookup the inquiry is over after its first call. -/
lemma bluetoothInquire_of_not_started (h : ¬ service.Started) (vOut : List BluetoothInqItem) :
    bluetoothInquire service vOut = .ok (.returned (), ⟨[], [.begin]⟩) :=
  if_neg h

/-- With a lookup it is the loop, and the release of the lookup. -/
lemma bluetoothInquire_of_started (h : service.Started) (vOut : List BluetoothInqItem) :
    bluetoothInquire service vOut =
      match loop inquirePass service.replies ⟨[], [.begin]⟩ with
      | .error e => .error e
      | .ok (none, q) => .ok (.waiting, q)
      | .ok (some (), q) => .ok (.returned (), q.called .release) :=
  if_pos h

/-- What is found before an error, and the calls until then, with the release of the lookup. -/
def finished (found : List LookupReply) : Inquiry where
  vOut := found.filterMap LookupReply.item?
  calls := [.begin] ++ List.replicate (found.length + 1) .next ++ [.release]

/-- If the loop comes to an error, the inquiry returns. -/
lemma bluetoothInquire_of_error (h : service.Started) {found : List LookupReply}
    {last : LookupReply} (hreach : LookupReply.Reaches service.replies found last)
    (hlast : last.result ≠ noError) (vOut : List BluetoothInqItem) :
    bluetoothInquire service vOut = .ok (.returned (), finished found) := by
  obtain ⟨rest, hloop⟩ := loop_of_reaches hreach ⟨[], [.begin]⟩
  rw [bluetoothInquire_of_started h, hloop, loop_of_exit (inquirePass_of_error hlast _)]
  simp [called, finished, List.replicate_succ']

/-- If the loop comes to a reply that has a name and lacks its buffer, the inquiry fails. -/
lemma bluetoothInquire_of_lacksBuffer (h : service.Started) {found : List LookupReply}
    {last : LookupReply} (hreach : LookupReply.Reaches service.replies found last)
    (hresult : last.result = noError) (hlast : last.LacksBuffer) (vOut : List BluetoothInqItem) :
    bluetoothInquire service vOut = .error .lpcsaBuffer := by
  obtain ⟨rest, hloop⟩ := loop_of_reaches hreach ⟨[], [.begin]⟩
  rw [bluetoothInquire_of_started h, hloop,
    loop_of_error (inquirePass_of_lacksBuffer hresult hlast _)]

/-- If the loop goes on after all replies, the inquiry waits for the next one. -/
lemma bluetoothInquire_of_goesOn (h : service.Started) (hall : ∀ r ∈ service.replies, r.GoesOn)
    (vOut : List BluetoothInqItem) :
    bluetoothInquire service vOut = .ok (.waiting, ⟨service.replies.filterMap LookupReply.item?,
      [.begin] ++ List.replicate service.replies.length .next⟩) := by
  rw [bluetoothInquire_of_started h, loop_of_next (I := fun _ => True)
    (fun r hr q _ => ⟨inquirePass_of_goesOn (hall r hr) q, trivial⟩) trivial, foldl_record,
    List.nil_append]

/-- An inquiry that returns has begun no lookup, or it has come to an error. -/
lemma exists_finished_of_returned (h : bluetoothInquire service vOut = .ok (.returned (), q)) :
    (¬ service.Started ∧ q = ⟨[], [.begin]⟩) ∨
      (service.Started ∧ ∃ found last, LookupReply.Reaches service.replies found last ∧
        last.result ≠ noError ∧ q = finished found) := by
  by_cases hstart : service.Started
  · rcases LookupReply.reaches_cases service.replies with
      hall | ⟨found, last, hreach, hlast⟩ | ⟨found, last, hreach, hresult, hlast⟩
    · rw [bluetoothInquire_of_goesOn hstart hall] at h
      cases h
    · rw [bluetoothInquire_of_error hstart hreach hlast] at h
      exact Or.inr ⟨hstart, found, last, hreach, hlast, (Prod.mk.inj (Except.ok.inj h)).2.symm⟩
    · rw [bluetoothInquire_of_lacksBuffer hstart hreach hresult hlast] at h
      cases h
  · rw [bluetoothInquire_of_not_started hstart] at h
    exact Or.inl ⟨hstart, (Prod.mk.inj (Except.ok.inj h)).2.symm⟩

/-- Every item that an inquiry returns stands for a reply. -/
lemma exists_reply_of_mem (h : bluetoothInquire service vOut = .ok (.returned (), q))
    {item : BluetoothInqItem} (hitem : item ∈ q.vOut) :
    ∃ reply ∈ service.replies, reply.GoesOn ∧ reply.item? = some item := by
  rcases exists_finished_of_returned h with ⟨-, rfl⟩ | ⟨-, found, last, hreach, -, rfl⟩
  · cases hitem
  · obtain ⟨reply, hreply, hsome⟩ := List.mem_filterMap.mp hitem
    have hmem : reply ∈ service.replies := hreach.1.subset (List.mem_append_left _ hreply)
    exact ⟨reply, hmem, hreach.2 reply hreply, hsome⟩

/-- **What an inquiry returns.**  For every lookup service and whatever `vOut` has held before, the
call returns if and only if no lookup has begun, or the loop comes to a reply that is an error.
Then `vOut` has one item for each reply before this one that has a name and an address, in order;
and the lookup, if it has begun, is released, as the last of all calls and only once.  The call
fails if and only if a lookup has begun and the loop comes to a reply that has a name and lacks its
buffer. -/
theorem bluetoothInquire_outcome (service : LookupService) (vOut : List BluetoothInqItem) :
    (∀ q, bluetoothInquire service vOut = .ok (.returned (), q) ↔
      (¬ service.Started ∧ q = ⟨[], [.begin]⟩) ∨
      (service.Started ∧ ∃ found last, LookupReply.Reaches service.replies found last ∧
        last.result ≠ noError ∧ q = finished found)) ∧
    (bluetoothInquire service vOut = .error .lpcsaBuffer ↔
      service.Started ∧ ∃ found last, LookupReply.Reaches service.replies found last ∧
        last.result = noError ∧ last.LacksBuffer) := by
  constructor
  · intro q
    constructor
    · exact exists_finished_of_returned
    · rintro (⟨hstart, rfl⟩ | ⟨hstart, found, last, hreach, hlast, rfl⟩)
      · exact bluetoothInquire_of_not_started hstart vOut
      · exact bluetoothInquire_of_error hstart hreach hlast vOut
  · constructor
    · intro h
      by_cases hstart : service.Started
      · rcases LookupReply.reaches_cases service.replies with
          hall | ⟨found, last, hreach, hlast⟩ | hfails
        · rw [bluetoothInquire_of_goesOn hstart hall] at h
          cases h
        · rw [bluetoothInquire_of_error hstart hreach hlast] at h
          cases h
        · exact ⟨hstart, hfails⟩
      · rw [bluetoothInquire_of_not_started hstart] at h
        cases h
    · rintro ⟨hstart, found, last, hreach, hresult, hlast⟩
      exact bluetoothInquire_of_lacksBuffer hstart hreach hresult hlast vOut

end Inquiry

end Btconn
