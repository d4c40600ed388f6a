import SpheroBtconn.Packet.ClientCommand

/-!
# The command stream

What a receiver can make of the frames of commands written back to back.

* The checksum law: the bytes of a frame from the device id on add up to `0xFF` modulo 256, and
  no change of a single one of them goes unnoticed (`frame_checksumLaw`).
* The length byte counts the bytes that follow it, payload and checksum, except that it is
  reduced modulo 256: it says 0 for a payload of 255 bytes.  A receiver that trusts it finds the
  frames again exactly if no payload has that length (`receiver_finds_frames_iff`).
* Nevertheless no information is lost: no frame announces zero bytes for any other reason, so
  reading 0 as 256 makes all frames prefix-free and the stream determines the commands
  (`sent_flatMap_injective`).
-/

namespace Btconn

namespace SpheroClientCommand

/-! ## The checksum -/

/-- The bytes from the device id to the checksum add up to 255 modulo 256. -/
def ChecksumLaw (f : SpheroPacket) : Prop := ((f.drop 2).map UInt8.toNat).sum % 256 = 255

lemma checksumLaw_iff (f : SpheroPacket) :
    ChecksumLaw f ↔ ComplementSum.ComplementLaw UInt8.toNat 256 (f.drop 2) := Iff.rfl

/-- The bytes that the checksum covers. -/
def checked (c : SpheroClientCommand) : SpheroPacket :=
  [c.did, c.cid, c.seq, c.dlen + 1] ++ c.payload

lemma drop_two_frame (c : SpheroClientCommand) :
    c.frame.drop 2 = c.checked ++ [c.calculateChecksum.1] := by
  rw [frame_eq, fieldBytes, checked]
  rfl

lemma getD_five_frame (c : SpheroClientCommand) : c.frame.getD 5 0 = c.dlen + 1 := by
  rw [frame_eq]
  rfl

/-- The last byte of a frame is the complement of the sum of the bytes it covers. -/
lemma calculateChecksum_eq_not (c : SpheroClientCommand) :
    c.calculateChecksum.1 = ~~~ UInt8.ofNat (c.checked.map UInt8.toNat).sum := by
  apply UInt8.toNat_inj.mp
  rw [checksum_toNat, UInt8.toNat_not, UInt8.toNat_ofNat']
  rfl

lemma checksumLaw_frame (c : SpheroClientCommand) : ChecksumLaw c.frame := by
  rw [checksumLaw_iff, drop_two_frame,
    ComplementSum.complementLaw_concat_iff fun b => b.toNat_lt]
  exact checksum_toNat c

/-- A lawful frame with one of its checked bytes changed is not lawful. -/
lemma not_checksumLaw_set {f : SpheroPacket} (hf : ChecksumLaw f) {i : ℕ} (hi : i < f.length)
    (h2 : 2 ≤ i) {b : UInt8} (hb : b ≠ f[i]) : ¬ ChecksumLaw (f.set i b) := by
  obtain ⟨j, rfl⟩ := Nat.exists_eq_add_of_le h2
  have hj : j < (f.drop 2).length := by
    rw [List.length_drop]
    omega
  have hset : (f.set (2 + j) b).drop 2 = (f.drop 2).set j b := by
    rw [List.drop_set, if_neg (by omega), Nat.add_sub_cancel_left]
  rw [checksumLaw_iff, hset]
  refine ComplementSum.not_complementLaw_set (fun b => b.toNat_lt)
    (fun a b h => UInt8.toNat_inj.mp h) hf hj ?_
  rwa [List.getElem_drop]

/-- **The checksum law.**  In every frame that `assemble` appends the bytes from the device id to
the checksum, with the length byte as it is on the wire, add up to 255 modulo 256; the last byte
is the bitwise complement of the sum of the others; and changing any one of these bytes breaks
the law. -/
theorem frame_checksumLaw (c : SpheroClientCommand) :
    ChecksumLaw c.frame ∧
      c.frame.getLast? = some (~~~ UInt8.ofNat
        (([c.did, c.cid, c.seq, c.frame.getD 5 0] ++ c.payload).map UInt8.toNat).sum) ∧
      ∀ (i : ℕ) (hi : i < c.frame.length) (b : UInt8), 2 ≤ i → b ≠ c.frame[i] →
        ¬ ChecksumLaw (c.frame.set i b) := by
  refine ⟨checksumLaw_frame c, ?_, fun i hi b h2 hb => ?_⟩
  · rw [getD_five_frame, frame_eq, fieldBytes, List.getLast?_append, calculateChecksum_eq_not]
    rfl
  · exact not_checksumLaw_set (checksumLaw_frame c) hi h2 hb

/-! ## The length byte -/

/-- How the protocol describes a command frame: six header bytes, the last of which announces the
payload and the checksum. -/
def commandFormat : FrameFormat UInt8 where
  header := 6
  body := fun h => (h.getD 5 0).toNat
  header_pos := by decide

lemma length_drop_six_frame (c : SpheroClientCommand) :
    (c.frame.drop 6).length = c.dlen.toNat + 1 := by
  rw [List.length_drop, length_frame, length]
  omega

/-- The length byte says how many bytes follow it unless the payload has 255 bytes. -/
lemma lengthByte_eq_iff (c : SpheroClientCommand) :
    (c.frame.getD 5 0).toNat = (c.frame.drop 6).length ↔ c.dataLength ≠ 255 := by
  have hne : c.dataLength ≠ 255 ↔ c.dlen.toNat ≠ 255 := by
    rw [dataLength, ne_eq, ← UInt8.toNat_inj]
    rfl
  have hlt := c.dlen.toNat_lt
  rw [getD_five_frame, length_drop_six_frame, hne, UInt8.toNat_add, UInt8.toNat_one]
  omega

/-- A frame is one of the protocol's exactly if its length byte is right. -/
lemma isFrame_commandFormat_iff (c : SpheroClientCommand) :
    commandFormat.IsFrame c.frame ↔ c.dataLength ≠ 255 := by
  have hbody : commandFormat.body (c.frame.take commandFormat.header) =
      (c.frame.getD 5 0).toNat := by
    rw [frame_eq]
    rfl
  rw [← lengthByte_eq_iff, FrameFormat.IsFrame, hbody, length_drop_six_frame, length_frame,
    length]
  change 7 + c.dlen.toNat = 6 + (c.frame.getD 5 0).toNat ↔ _
  omega

/-- **The length byte describes the frame except for payloads of 255 bytes.**  For all commands
written back to back: every length byte is the number of bytes that follow it in its frame, and
the receiver that relies on them finds exactly these frames, if and only if no payload has 255
bytes. -/
theorem receiver_finds_frames_iff (cs : List SpheroClientCommand) :
    ((∀ c ∈ cs, (c.frame.getD 5 0).toNat = (c.frame.drop 6).length) ∧
        commandFormat.deframe (cs.flatMap frame) = some (cs.map frame)) ↔
      ∀ c ∈ cs, c.dataLength ≠ 255 := by
  rw [List.flatMap_def, FrameFormat.deframe_flatten_eq_some_iff, List.forall_mem_map]
  simp only [lengthByte_eq_iff, isFrame_commandFormat_iff, and_self]

/-- A payload of 255 bytes is accepted, its frame has 256 bytes after the length byte, and the
length byte is 0. -/
theorem max_payload_has_lengthByte_zero :
    ∃ c, (ofFlags true true).setData (List.replicate 255 0) = .ok c ∧
      (c.frame.drop 6).length = 256 ∧ (c.frame.getD 5 0).toNat = 0 ∧
      commandFormat.deframe c.frame ≠ some [c.frame] := by
  obtain ⟨c, hc⟩ : ∃ c, (ofFlags true true).setData (List.replicate 255 0) = .ok c :=
    ⟨_, setData_of_le _ (List.length_replicate ..).le⟩
  have hdlen : c.dlen.toNat = 255 := by
    rw [(payload_of_setData hc).1, List.length_replicate]
  have hbyte : c.dataLength = 255 := UInt8.toNat_inj.mp hdlen
  refine ⟨c, hc, ?_, ?_, ?_⟩
  · rw [length_drop_six_frame, hdlen]
  · rw [getD_five_frame, UInt8.toNat_add, hdlen]
    rfl
  · intro h
    have hflat : commandFormat.deframe [c.frame].flatten = some [c.frame] := by simpa using h
    have hframe : commandFormat.IsFrame c.frame :=
      FrameFormat.deframe_flatten_eq_some_iff.mp hflat c.frame List.mem_cons_self
    exact (isFrame_commandFormat_iff c).mp hframe hbyte

/-! ## Unique decoding -/

/-- The format of all frames that are ever sent: as `commandFormat`, but a length byte of 0
stands for 256. -/
def wrappedFormat : FrameFormat UInt8 where
  header := 6
  body := fun h => if h.getD 5 0 = 0 then 256 else (h.getD 5 0).toNat
  header_pos := by decide

/-- Every frame is one of the wrapped format, also the one that announces zero bytes. -/
lemma isFrame_wrappedFormat (c : SpheroClientCommand) : wrappedFormat.IsFrame c.frame := by
  have hbody : wrappedFormat.body (c.frame.take wrappedFormat.header) =
      if c.dlen + 1 = 0 then 256 else (c.dlen + 1).toNat := by
    rw [frame_eq]
    rfl
  have hzero : c.dlen + 1 = 0 ↔ (c.dlen + 1).toNat = 0 := UInt8.toNat_inj.symm
  have hlt := c.dlen.toNat_lt
  rw [FrameFormat.IsFrame, hbody, length_frame, length]
  change 7 + c.dlen.toNat = 6 + _
  split_ifs with h
  · rw [hzero, UInt8.toNat_add, UInt8.toNat_one] at h
    omega
  · rw [hzero, UInt8.toNat_add, UInt8.toNat_one] at h
    rw [UInt8.toNat_add, UInt8.toNat_one]
    omega

end SpheroClientCommand

/-- What a caller says about a command: the flags, the ids, the sequence number, and a payload
that `setData` accepts. -/
@[ext]
structure CommandInput where
  /-- Reset the inactivity timeout. -/
  resetTimeout : Bool
  /-- Ask for an answer. -/
  answer : Bool
  /-- Device id. -/
  did : UInt8
  /-- Command id. -/
  cid : UInt8
  /-- Sequence number. -/
  seq : UInt8
  /-- Payload. -/
  payload : List UInt8
  /-- `setData` does not throw. -/
  accepted : payload.length ≤ 255
  deriving DecidableEq

namespace CommandInput

open SpheroClientCommand

/-- The object before the payload is set. -/
def header (x : CommandInput) : SpheroClientCommand :=
  (((ofFlags x.resetTimeout x.answer).setDeviceId x.did).setCommandId x.cid).setSeqNum x.seq

/-- The object with the payload. -/
def command (x : CommandInput) : SpheroClientCommand :=
  match h : x.header.setData x.payload with
  | .ok c => c
  | .error _ => absurd h (by simp [setData_of_le _ x.accepted])

/-- What `doSend` passes on for the command, assembled once. -/
def sent (x : CommandInput) : SpheroPacket := x.command.assemble.sendBuffer

lemma setData_header (x : CommandInput) : x.header.setData x.payload = .ok x.command := by
  unfold command
  split
  · assumption
  · rename_i h
    exact absurd h (by simp [setData_of_le _ x.accepted])

/-- Setting the payload keeps everything but the data segment and its length. -/
lemma command_eq (x : CommandInput) :
    x.command = { x.header with
      data := FixedBuffer.copyFront x.header.data x.payload
      dlen := UInt8.ofNat x.payload.length } := by
  have h := x.setData_header
  rw [setData_of_le _ x.accepted, Except.ok.injEq] at h
  exact h.symm

lemma payload_command (x : CommandInput) : x.command.payload = x.payload :=
  (payload_of_setData x.setData_header).2

/-- The bytes sent are the frame of the command. -/
lemma sent_eq_frame (x : CommandInput) : x.sent = x.command.frame := by
  have hnil : x.command.packet = [] := by rw [command_eq]; rfl
  rw [sent, sendBuffer, assemble_length, assemble_packet, hnil, List.nil_append, ← frame_eq,
    ← length_frame, List.take_length]

/-- The flags can be read off the second start byte. -/
lemma sop2_ofFlags_inj : ∀ r a r' a' : Bool, (ofFlags r a).sop2 = (ofFlags r' a').sop2 →
    r = r' ∧ a = a' := by
  decide

/-- The header fields of the command are those that were asked for. -/
lemma command_fields (x : CommandInput) :
    x.command.sop2 = (ofFlags x.resetTimeout x.answer).sop2 ∧ x.command.did = x.did ∧
      x.command.cid = x.cid ∧ x.command.seq = x.seq := by
  rw [command_eq]
  exact ⟨rfl, rfl, rfl, rfl⟩

/-- The frame determines the command. -/
lemma eq_of_frame_eq {x y : CommandInput} (h : x.command.frame = y.command.frame) : x = y := by
  have hlen : x.command.payload.length = y.command.payload.length := by
    have hl := congrArg List.length h
    simp only [length_frame, SpheroClientCommand.length, ← length_payload] at hl
    omega
  rw [frame_eq, frame_eq, fieldBytes, fieldBytes] at h
  obtain ⟨hfront, -⟩ := List.append_inj h (by simp [hlen])
  obtain ⟨hhead, hpayload⟩ := List.append_inj hfront rfl
  simp only [List.cons.injEq, and_true] at hhead
  obtain ⟨-, hsop2, hdid, hcid, hseq, -⟩ := hhead
  obtain ⟨hx2, hxd, hxc, hxs⟩ := x.command_fields
  obtain ⟨hy2, hyd, hyc, hys⟩ := y.command_fields
  obtain ⟨hreset, hanswer⟩ := sop2_ofFlags_inj _ _ _ _ (hx2.symm.trans (hsop2.trans hy2))
  rw [payload_command, payload_command] at hpayload
  exact CommandInput.ext hreset hanswer (hxd.symm.trans (hdid.trans hyd))
    (hxc.symm.trans (hcid.trans hyc)) (hxs.symm.trans (hseq.trans hys)) hpayload

/-- Frames of the wrapped format with the same bytes come from the same commands. -/
lemma eq_of_map_sent_eq {xs ys : List CommandInput} (h : xs.map sent = ys.map sent) : xs = ys := by
  refine List.map_injective_iff.mpr (fun x y hxy => ?_) h
  rw [sent_eq_frame, sent_eq_frame] at hxy
  exact eq_of_frame_eq hxy

/-- Everything that is sent is a frame of the wrapped format. -/
lemma isFrame_sent (x : CommandInput) : wrappedFormat.IsFrame x.sent := by
  rw [sent_eq_frame]
  exact isFrame_wrappedFormat x.command

/-- **The command stream is uniquely decodable.**  Two lists of commands whose frames written
back to back give the same bytes are the same list, flags, ids, sequence numbers and payloads
included; and a frame that is a prefix of another one is the frame of the same command. -/
theorem sent_flatMap_injective :
    (Function.Injective fun xs : List CommandInput => xs.flatMap sent) ∧
      ∀ x y : CommandInput, x.sent <+: y.sent ↔ x = y := by
  refine ⟨fun xs ys h => ?_, fun x y => ⟨fun h => ?_, fun h => h ▸ List.prefix_rfl⟩⟩
  · have hframes : ∀ zs : List CommandInput, ∀ f ∈ zs.map sent, wrappedFormat.IsFrame f := by
      intro zs
      simp only [List.forall_mem_map]
      exact fun z _ => z.isFrame_sent
    have hflat : (xs.map sent).flatten = (ys.map sent).flatten := by
      simpa only [List.flatMap_def] using h
    exact eq_of_map_sent_eq (wrappedFormat.uniquelyDecodable _ _ (hframes xs) (hframes ys) hflat)
  · have hsent : x.sent = y.sent := x.isFrame_sent.eq_of_isPrefix y.isFrame_sent h
    rw [sent_eq_frame, sent_eq_frame] at hsent
    exact eq_of_frame_eq hsent

end CommandInput

end Btconn
