import SpheroBtconn.Foundation.BigEndian
import SpheroBtconn.Packet.ServerResponse
import Mathlib.Data.Int.ModEq

/-!
# Numbers in the data of a response

`dataToNumerical<T>` of `SpheroServerResponse` puts together the bytes of the data segment from an
index on, as many as `T` has.  Its loop treats all bytes but the last: it puts a byte into the
result and shifts the result by one byte to make room for the next one.  The last byte is put in
without a shift, and the loop ends early when the data ends.

If the data has all the bytes, the result is the big-endian number
(`dataToNumerical_bigEndian`).  If it does not, then the result has been shifted once for every
byte there is and not for those that are missing, so that the last byte present always ends up one
place above the lowest (`toNat_dataToNumerical`).
-/

namespace Btconn

/-! ## Integer types -/

/-- A fixed-width integer type of the source. -/
structure IntegerType where
  /-- `sizeof(T)`. -/
  size : ℕ
  /-- Whether the type is signed. -/
  signed : Bool
  /-- An object has at least one byte. -/
  size_pos : 0 < size

namespace IntegerType

/-- `unsigned short`. -/
def uint16 : IntegerType := ⟨2, false, by decide⟩

/-- A `T` of four bytes without a sign. -/
def uint32 : IntegerType := ⟨4, false, by decide⟩

/-- The values of the type. -/
def Holds (T : IntegerType) (v : ℤ) : Prop :=
  if T.signed then -2 ^ (8 * T.size - 1) ≤ v ∧ v < 2 ^ (8 * T.size - 1)
  else 0 ≤ v ∧ v < 2 ^ (8 * T.size)

instance (T : IntegerType) (v : ℤ) : Decidable (T.Holds v) :=
  inferInstanceAs (Decidable (if T.signed then _ else _))

/-- The value that an object of the type has when it holds the bits `x`. -/
def value (T : IntegerType) (x : BitVec (8 * T.size)) : ℤ :=
  if T.signed then x.toInt else x.toNat

/-- The bytes that represent a value, the most significant one first. -/
def bytes (T : IntegerType) (v : ℤ) : List UInt8 :=
  BigEndian.bytes T.size (v % 2 ^ (8 * T.size)).toNat

variable {T : IntegerType}

lemma two_pow_eq (T : IntegerType) : 2 ^ (8 * T.size) = 256 ^ T.size := by
  rw [Nat.pow_mul]

/-- Every object holds a value of its type. -/
lemma holds_value (T : IntegerType) (x : BitVec (8 * T.size)) : T.Holds (T.value x) := by
  unfold Holds value
  split_ifs
  · exact ⟨BitVec.le_toInt x, BitVec.toInt_lt⟩
  · have hlt : x.toNat < 2 ^ (8 * T.size) := x.isLt
    exact ⟨Int.natCast_nonneg _, by exact_mod_cast hlt⟩

/-- The value is the number that the bits stand for, up to a multiple of `2 ^ (8 * size)`. -/
lemma value_modEq (T : IntegerType) (x : BitVec (8 * T.size)) :
    T.value x ≡ x.toNat [ZMOD 2 ^ (8 * T.size)] := by
  unfold value
  split_ifs
  · rw [BitVec.toInt_eq_toNat_cond]
    split_ifs
    · exact Int.ModEq.refl _
    · have hcast : ((2 ^ (8 * T.size) : ℕ) : ℤ) = 2 ^ (8 * T.size) := by push_cast; rfl
      rw [hcast]
      exact (Int.modEq_sub_modulus_iff.mpr (Int.ModEq.refl _)).symm
  · exact Int.ModEq.refl _

/-- A type has only one value in each class. -/
lemma eq_of_modEq {u v : ℤ} (hu : T.Holds u) (hv : T.Holds v)
    (h : u ≡ v [ZMOD 2 ^ (8 * T.size)]) : u = v := by
  have hpos := T.size_pos
  have hhalf : (2 : ℤ) ^ (8 * T.size) = 2 * 2 ^ (8 * T.size - 1) := by
    rw [← pow_succ']
    congr 1
    omega
  obtain ⟨k, hk⟩ := (Int.modEq_iff_dvd.mp h)
  have hbound : -2 ^ (8 * T.size) < v - u ∧ v - u < 2 ^ (8 * T.size) := by
    unfold Holds at hu hv
    split_ifs at hu hv
    · omega
    · omega
  have hk0 : k = 0 := by
    have hmod : (0 : ℤ) < 2 ^ (8 * T.size) := by positivity
    rw [hk] at hbound
    have hupper : k < 1 := by nlinarith
    have hlower : -1 < k := by nlinarith
    omega
  rw [hk0, mul_zero] at hk
  omega

/-- The bytes that represent a value stand for it, up to a multiple of `2 ^ (8 * size)`. -/
lemma value_bytes_modEq (T : IntegerType) (v : ℤ) :
    (BigEndian.value (T.bytes v) : ℤ) ≡ v [ZMOD 2 ^ (8 * T.size)] := by
  have hmod : (0 : ℤ) < 2 ^ (8 * T.size) := by positivity
  have hnonneg : 0 ≤ v % 2 ^ (8 * T.size) := Int.emod_nonneg v hmod.ne'
  unfold bytes
  rw [BigEndian.value_bytes, ← two_pow_eq]
  push_cast
  rw [Int.toNat_of_nonneg hnonneg]
  exact (Int.mod_modEq _ _).trans (Int.mod_modEq _ _)

end IntegerType

namespace SpheroServerResponse

/-! ## The loop -/

/-- The loop of `dataToNumerical`, with `sizeof(T) - 1 - limiter` steps left to go: the index it
stops at and the result so far. -/
def numericalLoop (r : SpheroServerResponse) {n : ℕ} : ℕ → ℕ → BitVec n → ℕ × BitVec n
  | 0, startIndex, ret => (startIndex, ret)
  | count + 1, startIndex, ret =>
    if startIndex < r.dataLength.toNat then
      let ret := ret ||| (r.dataAt startIndex).toBitVec.setWidth n
      r.numericalLoop count (startIndex + 1) (ret <<< 8)
    else (startIndex, ret)

/-- `dataToNumerical<T>`, as the bits of its result. -/
def dataToNumerical (r : SpheroServerResponse) (T : IntegerType) (startIndex : ℕ) :
    BitVec (8 * T.size) :=
  let (startIndex, ret) := r.numericalLoop (T.size - 1) startIndex 0
  if startIndex < r.dataLength.toNat then
    ret ||| (r.dataAt startIndex).toBitVec.setWidth (8 * T.size)
  else ret

/-- The bytes that are there from an index on, but at most `w`. -/
def window (r : SpheroServerResponse) (w startIndex : ℕ) : List UInt8 :=
  (r.payload.drop startIndex).take w

variable {r : SpheroServerResponse} {w i : ℕ}

lemma length_window (r : SpheroServerResponse) (w i : ℕ) :
    (r.window w i).length = min w (r.dataLength.toNat - i) := by
  unfold window dataLength
  rw [List.length_take, List.length_drop, length_payload]

/-- The byte of a window at an index. -/
lemma getElem?_window {j : ℕ} (hj : j < w) (hin : i + j < r.dataLength.toNat) :
    (r.window w i)[j]? = some (r.dataAt (i + j)) := by
  unfold window
  rw [List.getElem?_take_of_lt hj, List.getElem?_drop, getElem?_payload r hin]

/-- Nothing is there from the end of the data on. -/
lemma window_of_le (h : r.dataLength.toNat ≤ i) : r.window w i = [] := by
  apply List.eq_nil_of_length_eq_zero
  rw [length_window]
  omega

/-- A window begins with the byte at its index. -/
lemma window_succ (h : i < r.dataLength.toNat) :
    r.window (w + 1) i = r.dataAt i :: r.window w (i + 1) := by
  unfold window
  have hlt : i < r.payload.length := by rwa [length_payload]
  have hbyte : r.payload[i] = r.dataAt i := by
    have hsome := getElem?_payload r h
    rwa [List.getElem?_eq_getElem hlt, Option.some.injEq] at hsome
  rw [List.drop_eq_getElem_cons hlt, List.take_succ_cons, hbyte]

/-- A window that is not cut off ends with the byte at its last index. -/
lemma window_concat (h : i + w < r.dataLength.toNat) :
    r.window (w + 1) i = r.window w i ++ [r.dataAt (i + w)] := by
  have hbyte := getElem?_payload r h
  unfold window
  rw [List.take_add_one, List.getElem?_drop, hbyte]
  rfl

/-- What the loop does to a result that holds the number `k`, shifted by one byte: it appends the
bytes it visits, and leaves room for one more.  Nothing is lost, because the bytes so far and the
steps to go are fewer than the bytes of the word. -/
lemma numericalLoop_eq {size : ℕ} {ret : BitVec (8 * size)} {k count used : ℕ}
    (hret : ret.toNat = k * 256) (hk : k < 256 ^ used) (hroom : used + count + 1 ≤ size) :
    ∃ bits : BitVec (8 * size),
      r.numericalLoop count i ret =
        (i + (r.window count i).length, bits) ∧
      bits.toNat = (k * 256 ^ (r.window count i).length +
        BigEndian.value (r.window count i)) * 256 := by
  induction count generalizing i ret k used with
  | zero => exact ⟨ret, by simp [numericalLoop, window], by simp [hret, window]⟩
  | succ count ih =>
    unfold numericalLoop
    by_cases hin : i < r.dataLength.toNat
    · have hor := BigEndian.toNat_or_byte (by omega) hret (r.dataAt i)
      have hbyte := (r.dataAt i).toNat_lt
      have hnext : k * 256 + (r.dataAt i).toNat < 256 ^ (used + 1) := by
        rw [pow_succ]
        omega
      have hfits : (ret ||| (r.dataAt i).toBitVec.setWidth (8 * size)).toNat * 256 <
          2 ^ (8 * size) := by
        calc (ret ||| (r.dataAt i).toBitVec.setWidth (8 * size)).toNat * 256
            = (k * 256 + (r.dataAt i).toNat) * 256 := by rw [hor]
          _ < 256 ^ (used + 1) * 256 := Nat.mul_lt_mul_of_pos_right hnext (by decide)
          _ = 256 ^ (used + 2) := (pow_succ _ _).symm
          _ ≤ 256 ^ size := Nat.pow_le_pow_right (by decide) (by omega)
          _ = 2 ^ (8 * size) := by rw [Nat.pow_mul]
      have hshift := BigEndian.toNat_shiftLeft_byte hfits
      rw [hor] at hshift
      obtain ⟨bits, hloop, hbits⟩ := ih (i := i + 1) hshift hnext (by omega)
      have hcons := window_succ (w := count) hin
      have hvalue := BigEndian.value_append [r.dataAt i] (r.window count (i + 1))
      refine ⟨bits, ?_, ?_⟩
      · rw [if_pos hin, hloop, hcons, List.length_cons]
        congr 1
        omega
      · rw [hbits, hcons, List.length_cons, ← List.singleton_append, hvalue, pow_succ,
          BigEndian.value_singleton]
        ring
    · have hnil := window_of_le (w := count + 1) (Nat.le_of_not_lt hin)
      refine ⟨ret, ?_, ?_⟩
      · rw [if_neg hin, hnil]
        rfl
      · simp [hret, hnil]

/-! ## The result -/

/-- The loop as `dataToNumerical` calls it. -/
lemma numericalLoop_zero (r : SpheroServerResponse) (T : IntegerType) (i : ℕ) :
    ∃ bits : BitVec (8 * T.size),
      r.numericalLoop (T.size - 1) i 0 = (i + (r.window (T.size - 1) i).length, bits) ∧
      bits.toNat = BigEndian.value (r.window (T.size - 1) i) * 256 := by
  have hpos := T.size_pos
  have hzero : (0 : BitVec (8 * T.size)).toNat = 0 * 256 := by simp
  have hone : 0 < 256 ^ 0 := by decide
  obtain ⟨bits, hloop, hbits⟩ :=
    r.numericalLoop_eq (i := i) hzero hone (by omega : 0 + (T.size - 1) + 1 ≤ T.size)
  refine ⟨bits, hloop, ?_⟩
  rw [hbits, Nat.zero_mul, Nat.zero_add]

/-- What `dataToNumerical` computes: the number in the window if all its bytes are there, and this
number moved up by one place otherwise. -/
lemma toNat_dataToNumerical (r : SpheroServerResponse) (T : IntegerType) (i : ℕ) :
    (r.dataToNumerical T i).toNat =
      if i + T.size ≤ r.dataLength.toNat then BigEndian.value (r.window T.size i)
      else BigEndian.value (r.window T.size i) * 256 := by
  have hpos := T.size_pos
  have hsize : T.size - 1 + 1 = T.size := by omega
  obtain ⟨bits, hloop, hbits⟩ := r.numericalLoop_zero T i
  have hlength := r.length_window (T.size - 1) i
  unfold dataToNumerical
  rw [hloop]
  by_cases hall : i + T.size ≤ r.dataLength.toNat
  · have hfull : (r.window (T.size - 1) i).length = T.size - 1 := by omega
    have hlast : i + (T.size - 1) < r.dataLength.toNat := by omega
    have hwindow := window_concat hlast
    rw [hsize] at hwindow
    simp only [hfull]
    rw [if_pos hlast, if_pos hall, BigEndian.toNat_or_byte (by omega) hbits, hwindow,
      BigEndian.value_concat]
  · have hend : ¬ i + (r.window (T.size - 1) i).length < r.dataLength.toNat := by omega
    have hwindow : r.window T.size i = r.window (T.size - 1) i := by
      unfold window dataLength at *
      rw [List.take_of_length_le, List.take_of_length_le]
      · rw [List.length_drop, length_payload]
        omega
      · rw [List.length_drop, length_payload]
        omega
    dsimp only
    rw [if_neg hend, if_neg hall, hwindow, hbits]

/-! ## A full window -/

/-- The number in a window that is not cut off, as a sum over its bytes. -/
lemma value_window_eq_sum (h : i + w ≤ r.dataLength.toNat) :
    BigEndian.value (r.window w i) =
      ∑ j ∈ Finset.range w, (r.dataAt (i + j)).toNat * 256 ^ (w - 1 - j) := by
  have hlength : (r.window w i).length = w := by
    rw [length_window]
    omega
  rw [BigEndian.value_eq_sum, hlength]
  refine Finset.sum_congr rfl fun j hj => ?_
  have hlt := Finset.mem_range.mp hj
  rw [List.getD_eq_getElem?_getD, getElem?_window hlt (by omega), Option.getD_some]

/-- The response with bytes written into its data segment from an index on. -/
def writeData (r : SpheroServerResponse) (i : ℕ) (src : List UInt8) : SpheroServerResponse :=
  { r with data := FixedBuffer.copyAt r.data i src }

@[simp] lemma dataLength_writeData (r : SpheroServerResponse) (i : ℕ) (src : List UInt8) :
    (r.writeData i src).dataLength = r.dataLength := rfl

/-- Bytes written into the data segment are found in the window at their index. -/
lemma window_writeData {src : List UInt8} (h : i + src.length ≤ r.dataLength.toNat) :
    (r.writeData i src).window src.length i = src := by
  have hlt : r.dlen.toNat < 256 := r.dlen.toNat_lt
  have hin : i + src.length ≤ r.dlen.toNat := h
  have hfits : src.length ≤ r.dlen.toNat - i := by omega
  have hwritten := FixedBuffer.take_drop_copyAt r.data (by omega : i + src.length ≤ 256)
  unfold window payload writeData
  rw [List.drop_take, List.take_take, Nat.min_eq_left hfits, hwritten]

/-- **`dataToNumerical` decodes big-endian numbers of every width.**  If the data has all the
bytes of a `T` from an index on, then the result is the one value of `T` that is congruent to the
big-endian number of these bytes; it depends on no other byte; and a value of `T` whose bytes are
written at the index is found there again. -/
theorem dataToNumerical_bigEndian {T : IntegerType} (h : i + T.size ≤ r.dataLength.toNat) :
    (∀ v : ℤ, (T.Holds v ∧ v ≡ ((∑ j ∈ Finset.range T.size,
        (r.dataAt (i + j)).toNat * 256 ^ (T.size - 1 - j) : ℕ) : ℤ) [ZMOD 2 ^ (8 * T.size)]) ↔
      v = T.value (r.dataToNumerical T i)) ∧
    (∀ r' : SpheroServerResponse, i + T.size ≤ r'.dataLength.toNat →
      (∀ j < T.size, r'.dataAt (i + j) = r.dataAt (i + j)) →
      r'.dataToNumerical T i = r.dataToNumerical T i) ∧
    ∀ v : ℤ, T.Holds v → T.value ((r.writeData i (T.bytes v)).dataToNumerical T i) = v := by
  have hsum : ∀ r : SpheroServerResponse, i + T.size ≤ r.dataLength.toNat →
      (r.dataToNumerical T i).toNat =
        ∑ j ∈ Finset.range T.size, (r.dataAt (i + j)).toNat * 256 ^ (T.size - 1 - j) := by
    intro r h
    rw [toNat_dataToNumerical, if_pos h, value_window_eq_sum h]
  refine ⟨?_, ?_, ?_⟩
  · intro v
    rw [← hsum r h]
    have hvalue := T.value_modEq (r.dataToNumerical T i)
    constructor
    · rintro ⟨hv, hmod⟩
      exact IntegerType.eq_of_modEq hv (T.holds_value _) (hmod.trans hvalue.symm)
    · rintro rfl
      exact ⟨T.holds_value _, hvalue⟩
  · intro r' h' hsame
    apply BitVec.eq_of_toNat_eq
    rw [hsum r' h', hsum r h]
    refine Finset.sum_congr rfl fun j hj => ?_
    rw [hsame j (Finset.mem_range.mp hj)]
  · intro v hv
    have hlength : (T.bytes v).length = T.size := BigEndian.length_bytes _ _
    have hwindow := window_writeData (r := r) (i := i) (hlength.symm ▸ h)
    have hbits := (r.writeData i (T.bytes v)).toNat_dataToNumerical T i
    rw [hlength] at hwindow
    rw [dataLength_writeData, if_pos h, hwindow] at hbits
    have hvalue := T.value_modEq ((r.writeData i (T.bytes v)).dataToNumerical T i)
    rw [hbits] at hvalue
    exact IntegerType.eq_of_modEq (T.holds_value _) hv
      (hvalue.trans (T.value_bytes_modEq v))

/-- The unsigned short `10000` in a payload of two bytes. -/
theorem dataToNumerical_ten_thousand :
    ∃ r, (ofPacket new [0xFF, 0xFF, 0x00, 0x01, 0x02, 0x27, 0x10]).parseFromInternalData = some r ∧
      10000 = IntegerType.uint16.value (r.dataToNumerical .uint16 0) := by
  obtain ⟨r, hparse, hlength, hfirst, hsecond⟩ :
      ∃ r, (ofPacket new [0xFF, 0xFF, 0x00, 0x01, 0x02, 0x27, 0x10]).parseFromInternalData =
        some r ∧ r.dataLength = 2 ∧ r.dataAt 0 = 0x27 ∧ r.dataAt 1 = 0x10 :=
    ⟨_, rfl, rfl, rfl, rfl⟩
  have hall : 0 + IntegerType.uint16.size ≤ r.dataLength.toNat := by
    rw [hlength]
    decide
  refine ⟨r, hparse, ((dataToNumerical_bigEndian hall).1 10000).mp ⟨by decide, ?_⟩⟩
  simp [IntegerType.uint16, Finset.sum_range_succ, hfirst, hsecond]

/-! ## A window that is cut off -/

/-- The bytes from an index on, with zeros in place of those that are missing. -/
def zeroExtended (r : SpheroServerResponse) (w i : ℕ) : List UInt8 :=
  (List.range w).map fun j => if i + j < r.dataLength.toNat then r.dataAt (i + j) else 0

lemma zeroExtended_eq (r : SpheroServerResponse) (w i : ℕ) :
    r.zeroExtended w i =
      r.window w i ++ List.replicate (w - (r.window w i).length) 0 := by
  have hlength := r.length_window w i
  apply List.ext_getElem?
  intro j
  unfold zeroExtended
  by_cases hj : j < w
  · rw [List.getElem?_map, List.getElem?_range hj, Option.map_some]
    by_cases hin : i + j < r.dataLength.toNat
    · rw [if_pos hin, List.getElem?_append_left (by omega), getElem?_window hj hin]
    · rw [if_neg hin, List.getElem?_append_right (by omega), List.getElem?_replicate,
        if_pos (by omega)]
  · rw [List.getElem?_eq_none (by simpa using hj), List.getElem?_eq_none]
    rw [List.length_append, List.length_replicate]
    omega

/-- Zeros in place of the missing bytes move the number up by as many places. -/
lemma value_zeroExtended (r : SpheroServerResponse) (w i : ℕ) :
    BigEndian.value (r.zeroExtended w i) =
      BigEndian.value (r.window w i) * 256 ^ (w - (r.window w i).length) := by
  rw [zeroExtended_eq, BigEndian.value_append_replicate]

/-- A window that reaches the end of the data holds zero if all bytes from its index on are
zero. -/
lemma value_window_eq_zero_iff (h : r.dataLength.toNat ≤ i + w) :
    BigEndian.value (r.window w i) = 0 ↔
      ∀ j, i ≤ j → j < r.dataLength.toNat → r.dataAt j = 0 := by
  have hlength := r.length_window w i
  rw [BigEndian.value_eq_zero_iff]
  constructor
  · intro hzero j hij hj
    have hbyte := getElem?_window (r := r) (w := w) (i := i) (j := j - i) (by omega) (by omega)
    rw [Nat.add_sub_cancel' hij] at hbyte
    exact hzero _ (List.mem_of_getElem? hbyte)
  · intro hzero b hb
    obtain ⟨j, hbyte⟩ := List.mem_iff_getElem?.mp hb
    obtain ⟨hj, -⟩ := List.getElem?_eq_some_iff.mp hbyte
    rw [getElem?_window (by omega) (by omega), Option.some.injEq] at hbyte
    rw [← hbyte]
    exact hzero (i + j) (by omega) (by omega)

/-- A window is two windows side by side. -/
lemma window_add (r : SpheroServerResponse) (v w i : ℕ) :
    r.window (v + w) i = r.window v i ++ r.window w (i + v) := by
  unfold window
  rw [List.take_add, List.drop_drop]

/-- If bytes are missing, the result is the number with zeros in their place exactly if one byte
is missing or all that are there are zero. -/
lemma toNat_eq_zeroExtended_iff {T : IntegerType} (h : r.dataLength.toNat < i + T.size) :
    (r.dataToNumerical T i).toNat = BigEndian.value (r.zeroExtended T.size i) ↔
      i + T.size = r.dataLength.toNat + 1 ∨
        ∀ j, i ≤ j → j < r.dataLength.toNat → r.dataAt j = 0 := by
  have hlength := r.length_window T.size i
  have hpos := T.size_pos
  rw [toNat_dataToNumerical, if_neg (by omega), value_zeroExtended,
    ← value_window_eq_zero_iff (by omega : r.dataLength.toNat ≤ i + T.size)]
  constructor
  · intro heq
    by_cases hzero : BigEndian.value (r.window T.size i) = 0
    · exact Or.inr hzero
    · left
      have hpow : 256 ^ 1 = 256 ^ (T.size - (r.window T.size i).length) :=
        Nat.eq_of_mul_eq_mul_left (Nat.pos_of_ne_zero hzero) heq
      have hone := Nat.pow_right_injective (by decide : 2 ≤ 256) hpow
      have hnil : r.dataLength.toNat ≤ i → r.window T.size i = [] := window_of_le
      by_cases hend : r.dataLength.toNat ≤ i
      · rw [hnil hend] at hzero
        exact absurd BigEndian.value_nil hzero
      · omega
  · rintro (hone | hzero)
    · have hmissing : T.size - (r.window T.size i).length = 1 := by omega
      rw [hmissing, pow_one]
    · rw [hzero, Nat.zero_mul, Nat.zero_mul]

/-- Four bytes as one number, and as two numbers of two bytes. -/
lemma toNat_uint32_eq_iff (r : SpheroServerResponse) (i : ℕ) :
    (r.dataToNumerical .uint32 i).toNat = (r.dataToNumerical .uint16 i).toNat * 65536 +
        (r.dataToNumerical .uint16 (i + 2)).toNat ↔
      i + 4 ≤ r.dataLength.toNat + 1 ∨
        ∀ j, i ≤ j → j < r.dataLength.toNat → r.dataAt j = 0 := by
  have hfour : IntegerType.uint32.size = 4 := rfl
  have htwo : IntegerType.uint16.size = 2 := rfl
  have hsplit : BigEndian.value (r.window 4 i) = BigEndian.value (r.window 2 i) *
      256 ^ (r.window 2 (i + 2)).length + BigEndian.value (r.window 2 (i + 2)) := by
    rw [r.window_add 2 2 i, BigEndian.value_append]
  have hlength := r.length_window 2 (i + 2)
  rw [toNat_dataToNumerical, toNat_dataToNumerical, toNat_dataToNumerical, hfour, htwo, hsplit]
  by_cases hall : i + 4 ≤ r.dataLength.toNat
  · have hlow : (r.window 2 (i + 2)).length = 2 := by omega
    rw [if_pos hall, if_pos (by omega), if_pos (by omega), hlow]
    exact iff_of_true rfl (Or.inl (by omega))
  by_cases hthree : i + 3 = r.dataLength.toNat
  · have hlow : (r.window 2 (i + 2)).length = 1 := by omega
    rw [if_neg hall, if_pos (by omega), if_neg (by omega), hlow]
    exact iff_of_true (by omega) (Or.inl (by omega))
  · have hlow : r.window 2 (i + 2) = [] := window_of_le (by omega)
    rw [← value_window_eq_zero_iff (w := 2) (by omega), hlow, if_neg hall]
    simp only [List.length_nil, BigEndian.value_nil]
    constructor
    · intro heq
      right
      split_ifs at heq
      · omega
      · omega
    · rintro (hbad | hzero)
      · omega
      · rw [hzero]
        split_ifs
        · rfl
        · rfl

/-- **Missing bytes are zeros only if one is missing.**  For an unsigned type, if the data ends
inside the window, then the result is the number with zeros in place of the missing bytes if and
only if exactly one byte is missing or all bytes from the index on are zero.  Likewise, decoding
four bytes agrees with combining two decodings of two bytes if and only if at most one byte is
missing or all bytes from the index on are zero. -/
theorem dataToNumerical_zeroExtended_iff (r : SpheroServerResponse) (i : ℕ) :
    (∀ T : IntegerType, T.signed = false → r.dataLength.toNat < i + T.size →
      (T.value (r.dataToNumerical T i) = BigEndian.value (r.zeroExtended T.size i) ↔
        i + T.size = r.dataLength.toNat + 1 ∨
          ∀ j, i ≤ j → j < r.dataLength.toNat → r.dataAt j = 0)) ∧
    (IntegerType.uint32.value (r.dataToNumerical .uint32 i) =
        IntegerType.uint16.value (r.dataToNumerical .uint16 i) * 65536 +
          IntegerType.uint16.value (r.dataToNumerical .uint16 (i + 2)) ↔
      i + 4 ≤ r.dataLength.toNat + 1 ∨
        ∀ j, i ≤ j → j < r.dataLength.toNat → r.dataAt j = 0) := by
  have hunsigned : ∀ T : IntegerType, T.signed = false → ∀ x : BitVec (8 * T.size),
      T.value x = x.toNat := by
    intro T hT x
    unfold IntegerType.value
    rw [hT]
    rfl
  constructor
  · intro T hT h
    rw [hunsigned T hT, Nat.cast_inj]
    exact toNat_eq_zeroExtended_iff h
  · rw [hunsigned .uint32 rfl, hunsigned .uint16 rfl, hunsigned .uint16 rfl]
    rw [← toNat_uint32_eq_iff]
    exact_mod_cast Iff.rfl

/-- One byte `F0` of four: the result is `F000` and not `F0000000`. -/
theorem one_byte_of_four :
    ∃ r, (ofPacket new [0xFF, 0xFF, 0x00, 0x01, 0x01, 0xF0]).parseFromInternalData = some r ∧
      IntegerType.uint32.value (r.dataToNumerical .uint32 0) = 0xF000 ∧
      BigEndian.value (r.zeroExtended 4 0) = 0xF0000000 ∧
      IntegerType.uint16.value (r.dataToNumerical .uint16 0) * 65536 +
        IntegerType.uint16.value (r.dataToNumerical .uint16 2) = 0xF0000000 :=
  ⟨_, rfl, by decide, by decide, by decide⟩

end SpheroServerResponse

end Btconn
