import Mathlib.Data.List.Basic
import Mathlib.InformationTheory.Coding.UniquelyDecodable
import Mathlib.Tactic.Common

/-!
# Frames that announce their own length

A *frame format* fixes a header of a positive length and says, for every header, how many
symbols follow it.  A frame is a word that is exactly as long as its own header announces.
No frame is a proper prefix of another one (`IsFrame.eq_of_isPrefix`), so a word is a
concatenation of frames in at most one way (`uniquelyDecodable`), and the receiver `deframe`
that reads a header and then as many symbols as it announces finds exactly the frames that
were written, for a given list of words if and only if all of them are frames
(`deframe_flatten_eq_some_iff`).

A receiver that has only got the beginning of what was written finds the frames that are
complete, and waits for the rest of the next one (`receive_of_isPrefix`).
-/

variable {β : Type*}

/-- A format for frames: the length of the header, and how much a header announces. -/
structure FrameFormat (β : Type*) where
  /-- The number of symbols in a header. -/
  header : ℕ
  /-- The number of symbols that follow a header. -/
  body : List β → ℕ
  /-- A frame is never empty. -/
  header_pos : 0 < header

namespace FrameFormat

variable (F : FrameFormat β)

/-- A word is a frame if its length is the one that its own header announces. -/
def IsFrame (f : List β) : Prop := f.length = F.header + F.body (f.take F.header)

instance (f : List β) : Decidable (F.IsFrame f) := inferInstanceAs (Decidable (_ = _))

variable {F}

lemma IsFrame.header_le {f : List β} (h : F.IsFrame f) : F.header ≤ f.length := by
  unfold IsFrame at h
  omega

lemma IsFrame.ne_nil {f : List β} (h : F.IsFrame f) : f ≠ [] := by
  have h1 := h.header_le
  have h2 := F.header_pos
  exact List.ne_nil_of_length_pos (by omega)

/-! ## Frames are prefix-free -/

/-- What follows a frame does not change what its header announces. -/
lemma IsFrame.length_eq_of_isPrefix {f w : List β} (h : F.IsFrame f) (hw : f <+: w) :
    f.length = F.header + F.body (w.take F.header) := by
  obtain ⟨t, rfl⟩ := hw
  rw [List.take_append_of_le_length h.header_le]
  exact h

/-- Two frames at the beginning of one word are the same frame. -/
lemma IsFrame.eq_of_isPrefix_of_isPrefix {f g w : List β} (hf : F.IsFrame f) (hg : F.IsFrame g)
    (hfw : f <+: w) (hgw : g <+: w) : f = g := by
  have hlen : f.length = g.length := by
    rw [hf.length_eq_of_isPrefix hfw, hg.length_eq_of_isPrefix hgw]
  exact (List.prefix_of_prefix_length_le hfw hgw hlen.le).eq_of_length hlen

/-- No frame is a proper prefix of another one. -/
theorem IsFrame.eq_of_isPrefix {f g : List β} (hf : F.IsFrame f) (hg : F.IsFrame g)
    (h : f <+: g) : f = g :=
  hf.eq_of_isPrefix_of_isPrefix hg h List.prefix_rfl

/-- A word that begins with a frame can be cut after it in only one way. -/
lemma IsFrame.append_inj {f g t u : List β} (hf : F.IsFrame f) (hg : F.IsFrame g)
    (h : f ++ t = g ++ u) : f = g ∧ t = u := by
  have hfg : f = g :=
    hf.eq_of_isPrefix_of_isPrefix hg (w := g ++ u) ⟨t, h⟩ (List.prefix_append g u)
  subst hfg
  exact ⟨rfl, List.append_cancel_left h⟩

/-- A word that is as long as its header announces begins with a frame. -/
lemma isFrame_take {w : List β} (h : F.header + F.body (w.take F.header) ≤ w.length) :
    F.IsFrame (w.take (F.header + F.body (w.take F.header))) := by
  unfold IsFrame
  rw [List.take_take, min_eq_left (Nat.le_add_right _ _), List.length_take, min_eq_left h]

/-- A word begins with a frame exactly if it is as long as its header announces, and the frame is
as much of it as the header announces. -/
lemma isFrame_and_isPrefix_iff {f w : List β} :
    F.IsFrame f ∧ f <+: w ↔ F.header + F.body (w.take F.header) ≤ w.length ∧
      f = w.take (F.header + F.body (w.take F.header)) := by
  constructor
  · rintro ⟨hf, hw⟩
    have hlen := hf.length_eq_of_isPrefix hw
    rw [← hlen]
    exact ⟨hw.length_le, List.prefix_iff_eq_take.mp hw⟩
  · rintro ⟨hle, rfl⟩
    exact ⟨isFrame_take hle, List.take_prefix _ w⟩

variable (F) in
/-- Frames written back to back can be told apart in only one way. -/
theorem uniquelyDecodable : InformationTheory.UniquelyDecodable {f | F.IsFrame f} := by
  intro fs
  induction fs with
  | nil =>
    intro gs _ hgs h
    cases gs with
    | nil => rfl
    | cons g gs =>
      have hg : F.IsFrame g := hgs g List.mem_cons_self
      have hnil : g ++ gs.flatten = [] := by simpa using h.symm
      exact absurd (List.append_eq_nil_iff.mp hnil).1 hg.ne_nil
  | cons f fs ih =>
    intro gs hfs hgs h
    have hf : F.IsFrame f := hfs f List.mem_cons_self
    cases gs with
    | nil =>
      have hnil : f ++ fs.flatten = [] := by simpa using h
      exact absurd (List.append_eq_nil_iff.mp hnil).1 hf.ne_nil
    | cons g gs =>
      have hg : F.IsFrame g := hgs g List.mem_cons_self
      rw [List.flatten_cons, List.flatten_cons] at h
      obtain ⟨hfg, hrest⟩ := hf.append_inj hg h
      have htail : fs = gs :=
        ih gs (fun w hw => hfs w (List.mem_cons_of_mem f hw))
          (fun w hw => hgs w (List.mem_cons_of_mem g hw)) hrest
      rw [hfg, htail]

/-! ## The receiver -/

variable (F) in
/-- Read one frame: a header, and as many symbols as the header announces.  The result is the
frame and what is left, or nothing if the word ends before the frame does. -/
def readFrame (w : List β) : Option (List β × List β) :=
  let n := F.header + F.body (w.take F.header)
  if n ≤ w.length then some (w.take n, w.drop n) else none

variable (F) in
/-- Read frames from a word of at most `n` symbols until nothing is left. -/
def deframeAux : ℕ → List β → Option (List (List β))
  | _, [] => some []
  | 0, _ :: _ => none
  | n + 1, w@(_ :: _) =>
    (F.readFrame w).bind fun p => (deframeAux n p.2).map (p.1 :: ·)

variable (F) in
/-- Read frames until nothing is left. -/
def deframe (w : List β) : Option (List (List β)) := F.deframeAux w.length w

lemma readFrame_eq_some_iff {w f t : List β} :
    F.readFrame w = some (f, t) ↔ F.IsFrame f ∧ f ++ t = w := by
  unfold readFrame
  constructor
  · intro h
    simp only [Option.ite_none_right_eq_some, Option.some.injEq, Prod.mk.injEq] at h
    obtain ⟨hle, rfl, rfl⟩ := h
    exact ⟨isFrame_take hle, List.take_append_drop _ w⟩
  · rintro ⟨hf, rfl⟩
    have hn := hf.length_eq_of_isPrefix (List.prefix_append f t)
    simp only [← hn]
    rw [if_pos (by simp), List.take_left, List.drop_left]

/-- What the receiver returns are frames, and together they are what it was given. -/
lemma deframeAux_sound {n : ℕ} {w : List β} {fs : List (List β)}
    (h : F.deframeAux n w = some fs) : (∀ f ∈ fs, F.IsFrame f) ∧ fs.flatten = w := by
  induction n generalizing w fs with
  | zero =>
    cases w with
    | nil => simp_all [deframeAux]
    | cons b w => simp [deframeAux] at h
  | succ n ih =>
    cases w with
    | nil => simp_all [deframeAux]
    | cons b w =>
      simp only [deframeAux, Option.bind_eq_some_iff, Option.map_eq_some_iff] at h
      obtain ⟨⟨f, t⟩, hread, gs, hgs, rfl⟩ := h
      obtain ⟨hf, hcut⟩ := readFrame_eq_some_iff.mp hread
      obtain ⟨hframes, hflat⟩ := ih hgs
      refine ⟨?_, ?_⟩
      · intro g hg
        rcases List.mem_cons.mp hg with rfl | hg
        · exact hf
        · exact hframes g hg
      · rw [List.flatten_cons, hflat, hcut]

/-- Frames written back to back are found again, given enough symbols to read. -/
lemma deframeAux_flatten {n : ℕ} {fs : List (List β)} (hfs : ∀ f ∈ fs, F.IsFrame f)
    (hn : fs.flatten.length ≤ n) : F.deframeAux n fs.flatten = some fs := by
  induction fs generalizing n with
  | nil => cases n <;> rfl
  | cons f fs ih =>
    have hf : F.IsFrame f := hfs f List.mem_cons_self
    have hread : F.readFrame (f ++ fs.flatten) = some (f, fs.flatten) :=
      readFrame_eq_some_iff.mpr ⟨hf, rfl⟩
    have hpos : 0 < f.length := List.length_pos_iff.mpr hf.ne_nil
    rw [List.flatten_cons, List.length_append] at hn
    rw [List.flatten_cons]
    obtain ⟨b, w, hw⟩ := List.exists_cons_of_ne_nil (l := f ++ fs.flatten) (by simp [hf.ne_nil])
    cases n with
    | zero => omega
    | succ n =>
      rw [hw] at hread ⊢
      simp only [deframeAux, hread, Option.bind_some]
      rw [ih (fun g hg => hfs g (List.mem_cons_of_mem f hg)) (by omega)]
      rfl

/-- The receiver finds the words that were written back to back exactly when all of them are
frames. -/
theorem deframe_flatten_eq_some_iff {fs : List (List β)} :
    F.deframe fs.flatten = some fs ↔ ∀ f ∈ fs, F.IsFrame f :=
  ⟨fun h => (deframeAux_sound h).1, fun h => deframeAux_flatten h le_rfl⟩

/-! ## A receiver that is not done yet -/

variable (F) in
/-- Read frames from a word of at most `n` symbols as long as they are complete. -/
def receiveAux : ℕ → List β → List (List β) × List β
  | 0, w => ([], w)
  | n + 1, w =>
    match F.readFrame w with
    | none => ([], w)
    | some (f, t) => (f :: (receiveAux n t).1, (receiveAux n t).2)

variable (F) in
/-- Read frames as long as they are complete: the frames, and what is left. -/
def receive (w : List β) : List (List β) × List β := F.receiveAux w.length w

/-- The beginning of a frame is not a frame. -/
lemma readFrame_eq_none_of_isPrefix {f t : List β} (hf : F.IsFrame f) (ht : t <+: f)
    (hne : t ≠ f) : F.readFrame t = none := by
  by_contra hsome
  obtain ⟨⟨g, u⟩, hread⟩ := Option.ne_none_iff_exists'.mp hsome
  obtain ⟨hg, rfl⟩ := readFrame_eq_some_iff.mp hread
  have hgf : g = f := hg.eq_of_isPrefix hf ((List.prefix_append g u).trans ht)
  have hlen := ht.length_le
  rw [hgf, List.length_append] at hlen
  have hu : u = [] := List.eq_nil_of_length_eq_zero (by omega)
  rw [hgf, hu, List.append_nil] at hne
  exact hne rfl

lemma readFrame_nil : F.readFrame [] = none := by
  have hpos := F.header_pos
  have hshort : ¬ F.header + F.body [] ≤ 0 := by omega
  simp [readFrame, hshort]

/-- Frames and something that is not a frame yet. -/
lemma receiveAux_flatten_append {n : ℕ} {fs : List (List β)} {t : List β}
    (hfs : ∀ f ∈ fs, F.IsFrame f) (ht : F.readFrame t = none)
    (hn : (fs.flatten ++ t).length ≤ n) : F.receiveAux n (fs.flatten ++ t) = (fs, t) := by
  induction fs generalizing n with
  | nil =>
    cases n with
    | zero => rfl
    | succ n => simp [receiveAux, ht]
  | cons f fs ih =>
    have hf : F.IsFrame f := hfs f List.mem_cons_self
    have hread : F.readFrame (f ++ (fs.flatten ++ t)) = some (f, fs.flatten ++ t) :=
      readFrame_eq_some_iff.mpr ⟨hf, rfl⟩
    have hpos : 0 < f.length := List.length_pos_iff.mpr hf.ne_nil
    rw [List.flatten_cons, List.append_assoc, List.length_append] at hn
    rw [List.flatten_cons, List.append_assoc]
    cases n with
    | zero => omega
    | succ n =>
      have hrest := ih (n := n) (fun g hg => hfs g (List.mem_cons_of_mem f hg)) (by omega)
      simp only [receiveAux, hread, hrest]

/-- Where a word stops that is the beginning of frames written back to back: within one of them, or
behind the last one. -/
lemma exists_cut_of_isPrefix_flatten {fs : List (List β)} {w : List β} (hw : w <+: fs.flatten) :
    ∃ k t, k ≤ fs.length ∧ w = (fs.take k).flatten ++ t ∧
      (t = [] ∨ ∃ f, fs[k]? = some f ∧ t <+: f ∧ t ≠ f) := by
  induction fs generalizing w with
  | nil =>
    have hnil : w = [] := List.prefix_nil.mp hw
    exact ⟨0, [], le_rfl, hnil, Or.inl rfl⟩
  | cons f fs ih =>
    rw [List.flatten_cons] at hw
    by_cases hshort : w.length < f.length
    · have hf : w <+: f :=
        List.prefix_of_prefix_length_le hw (List.prefix_append f _) hshort.le
      refine ⟨0, w, Nat.zero_le _, by simp, Or.inr ⟨f, rfl, hf, ?_⟩⟩
      rintro rfl
      exact lt_irrefl _ hshort
    · obtain ⟨u, rfl⟩ : f <+: w :=
        List.prefix_of_prefix_length_le (List.prefix_append f _) hw (by omega)
      obtain ⟨k, t, hk, rfl, ht⟩ := ih ((List.prefix_append_right_inj f).mp hw)
      refine ⟨k + 1, t, Nat.succ_le_succ hk, by simp, ?_⟩
      simpa using ht

/-- **A receiver that has got the beginning of what was written** finds the frames that are
complete: at least those of which it is known to have got everything, and never anything that is
not one of the frames. -/
theorem receive_of_isPrefix {fs : List (List β)} (hfs : ∀ f ∈ fs, F.IsFrame f) {w : List β} {m : ℕ}
    (hm : m ≤ fs.length) (hfirst : (fs.take m).flatten <+: w) (hlast : w <+: fs.flatten) :
    ∃ k t, m ≤ k ∧ k ≤ fs.length ∧ F.receive w = (fs.take k, t) := by
  obtain ⟨v, rfl⟩ := hfirst
  rw [← List.take_append_drop m fs, List.flatten_append, List.take_append_drop] at hlast
  obtain ⟨k, t, hk, rfl, ht⟩ :=
    exists_cut_of_isPrefix_flatten ((List.prefix_append_right_inj _).mp hlast)
  have htake : fs.take m ++ (fs.drop m).take k = fs.take (m + k) := List.take_add.symm
  have hnone : F.readFrame t = none := by
    rcases ht with rfl | ⟨f, hf, hprefix, hne⟩
    · exact readFrame_nil
    · exact readFrame_eq_none_of_isPrefix
        (hfs f (List.mem_of_mem_drop (List.mem_of_getElem? hf))) hprefix hne
  rw [List.length_drop] at hk
  refine ⟨m + k, t, by omega, by omega, ?_⟩
  rw [← List.append_assoc, ← List.flatten_append, htake]
  exact receiveAux_flatten_append (fun f hf => hfs f (List.mem_of_mem_take hf)) hnone le_rfl

end FrameFormat
