import SpheroBtconn.Packet.ServerResponse
import Mathlib.Data.List.Induction

/-!
# Texts of a response

The two functions of `SpheroServerResponse` that return a string.

`dataToString` cuts a piece out of the data segment.  It uses one index for the data and for the
string it fills, although the string has only as many characters as the piece, and so it writes
behind the end of the string whenever the piece does not begin at the start of the data
(`dataToString_eq_slice_iff`).

`messageResponseToString` describes the status byte.  Its result is a variable that lives as long
as the program and that all responses share; a status without a text leaves it as it is
(`described_eq_iff`).
-/

namespace Btconn

/-! ## Status codes -/

/-- `MessageResponseCodes`, without the common beginning `ORBOTIX_RSP_CODE_` of the names. -/
inductive MessageResponseCode where
  | ok | egen | echksum | efrag | ebadCmd | eunsupp | ebadMsg | eparam | eexec | ebadDid | memBusy
  | badPassword | powerNogood | pageIllegal | flashFail | maCorrupt | msgTimeout
  deriving DecidableEq

namespace MessageResponseCode

/-- The codes in the order of the enumeration. -/
def all : List MessageResponseCode :=
  [ok, egen, echksum, efrag, ebadCmd, eunsupp, ebadMsg, eparam, eexec, ebadDid, memBusy,
    badPassword, powerNogood, pageIllegal, flashFail, maCorrupt, msgTimeout]

/-- The value of a code. -/
def value : MessageResponseCode → UInt8
  | ok => 0x00
  | egen => 0x01
  | echksum => 0x02
  | efrag => 0x03
  | ebadCmd => 0x04
  | eunsupp => 0x05
  | ebadMsg => 0x06
  | eparam => 0x07
  | eexec => 0x08
  | ebadDid => 0x09
  | memBusy => 0x0A
  | badPassword => 0x0B
  | powerNogood => 0x31
  | pageIllegal => 0x32
  | flashFail => 0x33
  | maCorrupt => 0x34
  | msgTimeout => 0x35

/-- The text that the switch assigns for a code. -/
def text : MessageResponseCode → String
  | ok => "Command Succeeded"
  | egen => "Non-Specific/Unknown Error"
  | echksum => "Received Checksum Failed"
  | efrag => "Received Command Fragment"
  | ebadCmd => "Unknown Command ID"
  | eunsupp => "Command is currently Unsupported"
  | ebadMsg => "Bad Message Format"
  | eparam => "Parameter Value is invalid"
  | eexec => "Failed to Execute Command"
  | ebadDid => "Unknown Device ID"
  | memBusy => "RAM Access Failed -- Ram Busy"
  | badPassword => "Password is Incorrect"
  | powerNogood => "Voltage Too Low for Re-Flash Operation."
  | pageIllegal => "Illegal Page Number"
  | flashFail => "Page did not Reprogram Correctly"
  | maCorrupt => "Main Application is Corrupt"
  | msgTimeout => "Messaging State Machine Timed Out"

/-- The code with a given value: the case of the switch that is taken. -/
def ofValue? (b : UInt8) : Option MessageResponseCode := all.find? fun code => code.value = b

lemma ofValue?_value (code : MessageResponseCode) : ofValue? code.value = some code := by
  cases code <;> decide

lemma value_of_ofValue? {b : UInt8} {code : MessageResponseCode} (h : ofValue? b = some code) :
    code.value = b := by
  unfold ofValue? at h
  simpa using List.find?_some h

/-- No case of the switch is taken exactly if the byte is not the value of a code. -/
lemma ofValue?_eq_none_iff {b : UInt8} : ofValue? b = none ↔ ∀ code, value code ≠ b := by
  constructor
  · rintro hnone code rfl
    rw [ofValue?_value] at hnone
    cases hnone
  · intro hother
    by_contra hsome
    obtain ⟨code, hcode⟩ := Option.ne_none_iff_exists'.mp hsome
    exact hother code (value_of_ofValue? hcode)

/-- No code has an empty text. -/
lemma text_ne_empty (code : MessageResponseCode) : code.text ≠ "" := by
  cases code <;> decide

end MessageResponseCode

namespace SpheroServerResponse

/-! ## `dataToString` -/

/-- The length of the string: `len`, but at most `DLEN`. -/
def stringLength (r : SpheroServerResponse) (len : ℕ) : ℕ :=
  if len > r.dlen.toNat then r.dlen.toNat else len

/-- The values that `i` takes in the loop of `dataToString`; a start behind the data returns
before it. -/
def stringIndices (r : SpheroServerResponse) (startIndex len : ℕ) : List ℕ :=
  if startIndex > r.dlen.toNat then [] else List.range' startIndex (r.stringLength len)

/-- `ret[i] = (char) msgData()[i]`; there is no result if `i` is outside the string or outside
the array. -/
def setChar (r : SpheroServerResponse) (ret : List UInt8) (i : ℕ) : Option (List UInt8) :=
  if i < ret.length ∧ i < 256 then some (ret.set i (r.dataAt i)) else none

/-- `dataToString`; there is no result if a character outside the string or the array is
accessed. -/
def dataToString (r : SpheroServerResponse) (startIndex len : ℕ) : Option (List UInt8) :=
  if startIndex > r.dlen.toNat then some []
  else (r.stringIndices startIndex len).foldlM r.setChar (List.replicate (r.stringLength len) 0)

variable {r : SpheroServerResponse} {i len : ℕ}

lemma stringLength_eq (r : SpheroServerResponse) (len : ℕ) :
    r.stringLength len = min len r.dlen.toNat := by
  unfold stringLength
  split_ifs
  · omega
  · omega

/-- The loop only ends if all its indices are inside the string. -/
lemma lt_of_foldlM_setChar {indices : List ℕ} {ret ret' : List UInt8}
    (h : indices.foldlM r.setChar ret = some ret') : ∀ j ∈ indices, j < ret.length := by
  induction indices generalizing ret with
  | nil =>
    intro j hj
    cases hj
  | cons k indices ih =>
    rw [List.foldlM_cons] at h
    by_cases hk : k < ret.length ∧ k < 256
    · have hset : r.setChar ret k = some (ret.set k (r.dataAt k)) := if_pos hk
      rw [hset] at h
      have hrest := ih h
      intro j hj
      rw [List.mem_cons] at hj
      rcases hj with rfl | hj
      · exact hk.1
      · have hlt := hrest j hj
        rwa [List.length_set] at hlt
    · have hnone : r.setChar ret k = none := if_neg hk
      rw [hnone] at h
      cases h

/-- A piece that begins at the start of the data is copied character by character. -/
lemma foldlM_setChar_range' {n k : ℕ} (hn : n ≤ r.dlen.toNat) (hk : k ≤ n) :
    (List.range' 0 k).foldlM r.setChar (List.replicate n 0) =
      some (r.payload.take k ++ List.replicate (n - k) 0) := by
  induction k with
  | zero => simp
  | succ k ih =>
    have hlt := r.dlen.toNat_lt
    have hbyte := r.getElem?_payload (i := k) (by omega)
    have htake : r.payload.take (k + 1) = r.payload.take k ++ [r.dataAt k] := by
      rw [List.take_add_one, hbyte]
      rfl
    have hlength : (r.payload.take k).length = k := by
      rw [List.length_take, length_payload]
      omega
    have hcells : List.replicate (n - k) (0 : UInt8) = 0 :: List.replicate (n - (k + 1)) 0 := by
      rw [← List.replicate_succ]
      congr 1
      omega
    have hin : k < (r.payload.take k ++ List.replicate (n - k) 0).length ∧ k < 256 := by
      rw [List.length_append, hlength, List.length_replicate]
      omega
    have hset : r.setChar (r.payload.take k ++ List.replicate (n - k) 0) k =
        some ((r.payload.take k ++ List.replicate (n - k) 0).set k (r.dataAt k)) := if_pos hin
    rw [List.range'_1_concat, List.foldlM_append, ih (Nat.le_of_succ_le hk), Nat.zero_add]
    change (List.foldlM r.setChar _ [k] : Option _) = _
    rw [List.foldlM_cons, hset, htake, List.append_assoc, hcells,
      List.set_append_right _ _ (by omega), hlength, Nat.sub_self, List.set_cons_zero]
    rfl

/-- A piece that begins at the start of the data. -/
lemma dataToString_zero (r : SpheroServerResponse) (len : ℕ) :
    r.dataToString 0 len = some (r.payload.take len) := by
  have hn : r.stringLength len ≤ r.dlen.toNat := by
    rw [stringLength_eq]
    omega
  have hcopied := foldlM_setChar_range' hn le_rfl
  have htake : r.payload.take (r.stringLength len) = r.payload.take len := by
    rw [stringLength_eq, ← length_payload, Nat.min_comm, ← List.take_take]
    exact List.take_of_length_le (List.length_take_le' _ _)
  unfold dataToString stringIndices
  rw [if_neg (by omega), if_neg (by omega), hcopied, Nat.sub_self, htake]
  simp

/-- In a piece that begins inside the data, but not at its start, the last index is outside the
string. -/
lemma exists_stringIndices_of_pos (hi : 0 < i) (hlen : 0 < len) (hin : i ≤ r.dlen.toNat) :
    ∃ j ∈ r.stringIndices i len, r.stringLength len ≤ j := by
  have hn := r.stringLength_eq len
  refine ⟨i + (r.stringLength len - 1), ?_, by omega⟩
  unfold stringIndices
  rw [if_neg (by omega), List.mem_range'_1]
  omega

/-- **`dataToString` returns the piece exactly if it begins at the start of the data, has no
characters, or begins behind the data.**  Then the result is the piece asked for, and all accesses
are inside the string and the data.  In all other cases a character outside the string is
written. -/
theorem dataToString_eq_slice_iff (r : SpheroServerResponse) (i len : ℕ) :
    ((r.dataToString i len = some ((r.payload.drop i).take len) ∧
        ∀ j ∈ r.stringIndices i len, j < r.stringLength len ∧ j < r.dataLength.toNat) ↔
      i = 0 ∨ len = 0 ∨ r.dataLength.toNat < i) ∧
    (¬ (i = 0 ∨ len = 0 ∨ r.dataLength.toNat < i) → r.dataToString i len = none) := by
  have hdlen : r.dataLength = r.dlen := rfl
  have hn := r.stringLength_eq len
  rw [hdlen]
  constructor
  · constructor
    · rintro ⟨-, hbounds⟩
      by_contra hnot
      push Not at hnot
      obtain ⟨hi, hlen, hin⟩ := hnot
      obtain ⟨j, hj, hout⟩ := exists_stringIndices_of_pos (Nat.pos_of_ne_zero hi)
        (Nat.pos_of_ne_zero hlen) hin
      exact absurd (hbounds j hj).1 (by omega)
    · intro hcases
      have hin : ∀ j ∈ r.stringIndices i len, j < r.stringLength len := by
        intro j hj
        unfold stringIndices at hj
        split_ifs at hj with hbehind
        · cases hj
        · rw [List.mem_range'_1] at hj
          omega
      refine ⟨?_, fun j hj => ⟨hin j hj, by have := hin j hj; omega⟩⟩
      rcases hcases with rfl | rfl | hbehind
      · exact dataToString_zero r len
      · have hempty : r.stringLength 0 = 0 := by omega
        unfold dataToString stringIndices
        rw [hempty]
        simp
      · have hpiece : r.payload.drop i = [] := List.drop_eq_nil_of_le (by simp; omega)
        unfold dataToString
        rw [if_pos hbehind, hpiece, List.take_nil]
  · intro hnot
    push Not at hnot
    obtain ⟨hi, hlen, hin⟩ := hnot
    obtain ⟨j, hj, hout⟩ := exists_stringIndices_of_pos (Nat.pos_of_ne_zero hi)
      (Nat.pos_of_ne_zero hlen) hin
    unfold dataToString
    rw [if_neg (by omega)]
    by_contra hsome
    obtain ⟨ret, hret⟩ := Option.ne_none_iff_exists'.mp hsome
    have hlt := lt_of_foldlM_setChar hret j hj
    rw [List.length_replicate] at hlt
    omega

/-- One byte from index 1 on: the string has one character, and the character at index 1 is
written. -/
theorem dataToString_second_byte :
    ∃ r, (ofPacket new [0xFF, 0xFF, 0x00, 0x01, 0x02, 0x41, 0x42]).parseFromInternalData = some r ∧
      r.dataToString 1 1 = none ∧ (r.payload.drop 1).take 1 = [0x42] ∧
      1 ∈ r.stringIndices 1 1 ∧ ¬ 1 < r.stringLength 1 :=
  ⟨_, rfl, rfl, rfl, by decide, by decide⟩

/-! ## `messageResponseToString` -/

/-- `messageResponseToString`, with the static variable `resp` as it is before the call: the
string returned, and the variable after the call.  The switch has no default case. -/
def messageResponseToString (r : SpheroServerResponse) (resp : String) : String × String :=
  let resp := match MessageResponseCode.ofValue? r.mrsp with
    | some code => code.text
    | none => resp
  (resp, resp)

/-- The static variable after a sequence of calls; it is empty when the program starts. -/
def respAfter (calls : List SpheroServerResponse) : String :=
  calls.foldl (fun resp r => (r.messageResponseToString resp).2) ""

/-- The string that a call returns after a sequence of earlier calls. -/
def described (calls : List SpheroServerResponse) (r : SpheroServerResponse) : String :=
  (r.messageResponseToString (respAfter calls)).1

/-- The codes of the responses in a sequence of calls, as far as they have one. -/
def codes (calls : List SpheroServerResponse) : List MessageResponseCode :=
  calls.filterMap fun r => MessageResponseCode.ofValue? r.mrsp

/-- A response with a code is described by the text of the code. -/
lemma described_of_code {code : MessageResponseCode} (h : code.value = r.mrsp)
    (calls : List SpheroServerResponse) : described calls r = code.text := by
  unfold described messageResponseToString
  rw [← h, MessageResponseCode.ofValue?_value]

/-- A response without a code is described by what the variable happens to hold. -/
lemma described_of_no_code (h : ∀ code, MessageResponseCode.value code ≠ r.mrsp)
    (calls : List SpheroServerResponse) : described calls r = respAfter calls := by
  unfold described messageResponseToString
  rw [MessageResponseCode.ofValue?_eq_none_iff.mpr h]

/-- The variable holds the text of the last response that has a code. -/
lemma respAfter_eq (calls : List SpheroServerResponse) :
    respAfter calls = ((codes calls).getLast?.map MessageResponseCode.text).getD "" := by
  induction calls using List.reverseRecOn with
  | nil => rfl
  | append_singleton calls r ih =>
    unfold respAfter codes at ih ⊢
    rw [List.foldl_append, List.filterMap_append, ih]
    cases hcode : MessageResponseCode.ofValue? r.mrsp with
    | none => simp [messageResponseToString, hcode]
    | some code => simp [messageResponseToString, hcode]

/-- **The text depends only on the status exactly for the statuses of the switch.**  The strings
returned for responses with status `b` are the same after all sequences of earlier calls if and
only if `b` is one of the codes.  A response with any other status is described by the text of the
last response before it that has a code, and by the empty string if there is none. -/
theorem described_eq_iff (b : UInt8) :
    ((∀ calls calls' r r', mrsp r = b → mrsp r' = b → described calls r = described calls' r') ↔
      ∃ code, MessageResponseCode.value code = b) ∧
    ∀ calls r, (∀ code, MessageResponseCode.value code ≠ mrsp r) →
      described calls r = ((codes calls).getLast?.map MessageResponseCode.text).getD "" := by
  refine ⟨⟨?_, ?_⟩, ?_⟩
  · intro hsame
    by_contra hnot
    push Not at hnot
    -- after a response with a code the text is not the one at the start of the program
    have hfirst := described_of_no_code (r := { new with mrsp := b }) hnot []
    have hsecond := described_of_no_code (r := { new with mrsp := b }) hnot [new]
    have hequal := hsame [] [new] { new with mrsp := b } { new with mrsp := b } rfl rfl
    rw [hfirst, hsecond, respAfter_eq, respAfter_eq] at hequal
    exact MessageResponseCode.text_ne_empty .ok hequal.symm
  · rintro ⟨code, rfl⟩ calls calls' r r' hr hr'
    rw [described_of_code hr.symm, described_of_code hr'.symm]
  · intro calls r hnot
    rw [described_of_no_code hnot, respAfter_eq]

/-- A response with status `0x10`, described first after nothing and then after an error. -/
theorem unknown_status_described_by_another :
    ∃ r r', (ofPacket new [0xFF, 0xFF, 0x10, 0x02, 0x00]).parseFromInternalData = some r ∧
      (ofPacket new [0xFF, 0xFF, 0x09, 0x01, 0x01, 0xFF]).parseFromInternalData = some r' ∧
      described [] r = "" ∧ described [r'] r = "Unknown Device ID" :=
  ⟨_, _, rfl, rfl, rfl, rfl⟩

end SpheroServerResponse

end Btconn
