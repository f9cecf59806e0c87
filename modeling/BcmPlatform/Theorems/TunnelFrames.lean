import BcmPlatform.Audio.TunnelFrames
import BcmPlatform.Lib.Bytes
import BcmPlatform.Lib.Runs

/-! The frame size of a compressed stream is the one coded in its first frame, but for the last four bits of a DTS size. -/

namespace BcmPlatform.Audio
open Lib

/-! ### Sizes as they are coded -/

/-- The 11 bits of the size of an E-AC3 frame. -/
def eAc3Frmsiz (syncFrame : List UInt8) : Nat := beValue ((syncFrame.drop 2).take 2) % 2 ^ 11

/-- The words of an AC3 frame, by its `frmsizcod` and `fscod`. -/
def ac3Words (syncFrame : List UInt8) : Option Nat :=
  let b := (syncFrame.getD 4 0).toNat
  ddFrameSizeTable[b % 64]?.bind (·[b / 64]?)

/-- The 14 bits of the size of a DTS frame. -/
def dtsFsize (syncFrame : List UInt8) : Nat := beValue ((syncFrame.drop 5).take 3) / 16 % 2 ^ 14

/-- The last four bits of the size of a DTS frame. -/
def dtsLowBits (syncFrame : List UInt8) : Nat := dtsFsize syncFrame % 16

def CompressedFormat.syncWord : CompressedFormat → List UInt8
  | .ac3 | .eAc3 => [0x0b, 0x77]
  | .dts | .dtsHd => [0x7f, 0xfe, 0x80, 0x01]

/-- How many bytes of a frame are needed. -/
def CompressedFormat.headerBytes : CompressedFormat → Nat
  | .ac3 | .eAc3 => 5
  | .dts | .dtsHd => 8

/-- Enough bytes of a frame, which begins with the sync word. -/
def CompressedFormat.FrameStart (format : CompressedFormat) (syncFrame : List UInt8) : Prop :=
  format.headerBytes ≤ syncFrame.length ∧ format.syncWord <+: syncFrame

instance (format : CompressedFormat) (syncFrame : List UInt8) : Decidable (format.FrameStart syncFrame) :=
  inferInstanceAs (Decidable (_ ∧ _))

/-- The bytes of a frame by its size fields, if they are valid. -/
def CompressedFormat.codedSize (syncFrame : List UInt8) : CompressedFormat → Option Nat
  | .eAc3 => some (2 * (eAc3Frmsiz syncFrame + 1))
  | .ac3 => (ac3Words syncFrame).map (2 * ·)
  | .dts | .dtsHd => if dtsMinFrameSize ≤ dtsFsize syncFrame then some (dtsFsize syncFrame + 1) else none

/-- The bytes of the frame that starts here, if one does and has valid size fields. -/
def codedFrameSize (format : CompressedFormat) (syncFrame : List UInt8) : Option Nat :=
  if format.FrameStart syncFrame then format.codedSize syncFrame else none

/-- What the write takes for the size of a DTS frame: the last four bits count 16 times. -/
def dtsReadFsize (syncFrame : List UInt8) : Nat := dtsFsize syncFrame + 15 * dtsLowBits syncFrame

/-- A DTS frame whose size is read wrong: the last four bits are not 0, and what is read passes for a size. -/
def Misread (format : CompressedFormat) (syncFrame : List UInt8) : Prop :=
  (format = .dts ∨ format = .dtsHd) ∧ format.FrameStart syncFrame ∧ dtsLowBits syncFrame ≠ 0 ∧
    dtsMinFrameSize ≤ dtsReadFsize syncFrame

/-! ### Sizes as they are read -/

theorem frameByte_of_getElem? {syncFrame : List UInt8} {index : Nat} {b : UInt8} (h : syncFrame[index]? = some b) :
    frameByte syncFrame index = .ok b.toNat := by rw [frameByte, h]

theorem startsWith_eq {syncFrame : List UInt8} (word : List UInt8) {index : Nat}
    (h : index + word.length ≤ syncFrame.length) :
    startsWith syncFrame (word.map (·.toNat)) index = .ok (decide (word <+: syncFrame.drop index)) := by
  induction word generalizing index with
  | nil => simp [startsWith]
  | cons b word ih =>
    rw [List.length_cons] at h
    have hlt : index < syncFrame.length := by omega
    rw [List.map_cons, startsWith, frameByte_of_getElem? (List.getElem?_eq_getElem hlt), List.drop_eq_getElem_cons hlt]
    simp only [bind, Except.bind, pure, Except.pure, List.cons_prefix_cons, UInt8.toNat_inj, Bool.decide_and]
    split_ifs with hb
    · rw [ih (by omega), hb, decide_eq_true rfl, Bool.true_and]
    · rw [decide_eq_false (fun h => hb h.symm), Bool.false_and]

theorem and_03 (n : Nat) : n &&& 0x03 = n % 4 := Nat.and_two_pow_sub_one_eq_mod n 2
theorem and_07 (n : Nat) : n &&& 0x07 = n % 8 := Nat.and_two_pow_sub_one_eq_mod n 3
theorem and_3f (n : Nat) : n &&& 0x3f = n % 64 := Nat.and_two_pow_sub_one_eq_mod n 6

theorem and_f0 {n : Nat} (h : n < 256) : n &&& 0xf0 = n / 16 * 16 := by
  have hall : ∀ i : Fin 256, i.val &&& 0xf0 = i.val / 16 * 16 := by decide +kernel
  exact hall ⟨n, h⟩

theorem ddFrameSizeTable_isSome (frmsizcod fscod : Nat) :
    (ddFrameSizeTable[frmsizcod]?.bind (·[fscod]?)).isSome = true ↔
      fscod < ac3MaxSampleRate ∧ frmsizcod < ac3MaxFrameSize := by
  have hrows : ∀ row ∈ ddFrameSizeTable, row.length = ac3MaxSampleRate := by decide
  have hlength : ddFrameSizeTable.length = ac3MaxFrameSize := by decide
  rw [← hlength, Option.isSome_bind]
  rcases Nat.lt_or_ge frmsizcod ddFrameSizeTable.length with hlt | hge
  · have hrow := hrows _ (List.getElem_mem hlt)
    rw [List.getElem?_eq_getElem hlt, Option.any_some, ← hrow]
    rcases Nat.lt_or_ge fscod ddFrameSizeTable[frmsizcod].length with hcol | hcol
    · rw [List.getElem?_eq_getElem hcol]
      exact ⟨fun _ => ⟨hcol, hlt⟩, fun _ => rfl⟩
    · rw [List.getElem?_eq_none hcol]
      exact ⟨fun h => absurd h Bool.false_ne_true, fun h => absurd h.1 (Nat.not_lt.mpr hcol)⟩
  · rw [List.getElem?_eq_none hge]
    exact ⟨fun h => absurd h Bool.false_ne_true, fun h => absurd h.2 (Nat.not_lt.mpr hge)⟩

theorem startsWith_dolby {syncFrame : List UInt8} (h : 5 ≤ syncFrame.length) :
    startsWith syncFrame [0x0b, 0x77] 0 = .ok (decide ([0x0b, 0x77] <+: syncFrame)) :=
  startsWith_eq [0x0b, 0x77] (Nat.le_trans (by decide) h)

theorem startsWith_dts {syncFrame : List UInt8} (h : 8 ≤ syncFrame.length) :
    startsWith syncFrame [0x7f, 0xfe, 0x80, 0x01] 0 = .ok (decide ([0x7f, 0xfe, 0x80, 0x01] <+: syncFrame)) :=
  startsWith_eq [0x7f, 0xfe, 0x80, 0x01] (Nat.le_trans (by decide) h)

theorem learnFrameSize_of_not {format : CompressedFormat} {syncFrame : List UInt8} (h : ¬ format.FrameStart syncFrame) :
    learnFrameSize format syncFrame = .ok none := by
  rcases Nat.lt_or_ge syncFrame.length format.headerBytes with hlen | hlen
  · cases format <;> exact if_pos hlen
  · have hword : ¬ format.syncWord <+: syncFrame := fun hword => h ⟨hlen, hword⟩
    unfold learnFrameSize
    cases format <;> simp only [CompressedFormat.headerBytes, CompressedFormat.syncWord] at hlen hword
    all_goals
      simp only [Nat.not_lt.mpr hlen, if_false, startsWith_dolby, startsWith_dts, hlen, hword, decide_false, bind, Except.bind]
      rfl

theorem frameByte_of_lt {syncFrame : List UInt8} {index : Nat} (h : index < syncFrame.length) :
    frameByte syncFrame index = .ok (syncFrame.getD index 0).toNat := by
  rw [frameByte_of_getElem? (List.getElem?_eq_getElem h), List.getD_eq_getElem?_getD, List.getElem?_eq_getElem h]
  rfl

theorem codedFrameSize_of_not {format : CompressedFormat} {syncFrame : List UInt8} (h : ¬ format.FrameStart syncFrame) :
    codedFrameSize format syncFrame = none := if_neg h

theorem learnFrameSize_eAc3 {syncFrame : List UInt8} (h : CompressedFormat.eAc3.FrameStart syncFrame) :
    learnFrameSize .eAc3 syncFrame = .ok (some (2 * (eAc3Frmsiz syncFrame + 1))) := by
  obtain ⟨hlen, hword⟩ := h
  simp only [CompressedFormat.headerBytes, CompressedFormat.syncWord] at hlen hword
  have hsize : eAc3Frmsiz syncFrame = (syncFrame.getD 2 0).toNat % 8 * 256 + (syncFrame.getD 3 0).toNat := by
    match syncFrame, hlen with
    | b₀ :: b₁ :: b₂ :: b₃ :: b₄ :: rest, _ =>
      have hb₃ := b₃.toNat_lt
      simp only [eAc3Frmsiz, beValue, List.drop_succ_cons, List.drop_zero, List.take_succ_cons, List.take_zero,
        List.foldl_cons, List.foldl_nil, List.getD_cons_succ, List.getD_cons_zero]
      omega
  unfold learnFrameSize
  simp only [Nat.not_lt.mpr hlen, if_false, startsWith_dolby hlen, hword, decide_true, bind, Except.bind,
    frameByte_of_lt (Nat.lt_of_lt_of_le (by decide : 2 < 5) hlen), frameByte_of_lt (Nat.lt_of_lt_of_le (by decide : 3 < 5) hlen),
    Bool.not_true, Bool.false_eq_true, if_true, pure, Except.pure, and_07, Nat.shiftLeft_eq, hsize]
  rw [Nat.mul_comm 2]

theorem learnFrameSize_ac3 {syncFrame : List UInt8} (h : CompressedFormat.ac3.FrameStart syncFrame) :
    learnFrameSize .ac3 syncFrame = .ok ((ac3Words syncFrame).map (2 * ·)) := by
  obtain ⟨hlen, hword⟩ := h
  simp only [CompressedFormat.headerBytes, CompressedFormat.syncWord] at hlen hword
  unfold learnFrameSize
  simp only [Nat.not_lt.mpr hlen, if_false, startsWith_dolby hlen, hword, decide_true, bind, Except.bind,
    frameByte_of_lt (Nat.lt_of_lt_of_le (by decide : 4 < 5) hlen), reduceCtorEq,
    Bool.not_true, Bool.false_eq_true, pure, Except.pure, and_3f, Nat.shiftRight_eq_div_pow]
  have hcodes := ddFrameSizeTable_isSome ((syncFrame.getD 4 0).toNat % 64) ((syncFrame.getD 4 0).toNat / 64)
  split_ifs with hvalid
  · obtain ⟨words, hwords⟩ := Option.isSome_iff_exists.mp (hcodes.mpr hvalid)
    simp only [frameWords, ac3Words, hwords]
    rw [Option.map_some, Nat.mul_comm]
  · rw [ac3Words, Option.not_isSome_iff_eq_none.mp (mt hcodes.mp hvalid)]
    rfl

theorem dtsFsize_eq {syncFrame : List UInt8} (hlen : 8 ≤ syncFrame.length) :
    dtsFsize syncFrame = (syncFrame.getD 5 0).toNat % 4 * 4096 + (syncFrame.getD 6 0).toNat * 16 +
      (syncFrame.getD 7 0).toNat / 16 := by
  match syncFrame, hlen with
  | b₀ :: b₁ :: b₂ :: b₃ :: b₄ :: b₅ :: b₆ :: b₇ :: rest, _ =>
    have hb₆ := b₆.toNat_lt
    have hb₇ := b₇.toNat_lt
    simp only [dtsFsize, beValue, List.drop_succ_cons, List.drop_zero, List.take_succ_cons, List.take_zero,
      List.foldl_cons, List.foldl_nil, List.getD_cons_succ, List.getD_cons_zero]
    omega

theorem learnFrameSize_dts {format : CompressedFormat} {syncFrame : List UInt8} (hdts : format = .dts ∨ format = .dtsHd)
    (h : format.FrameStart syncFrame) : learnFrameSize format syncFrame =
      .ok (if dtsMinFrameSize ≤ dtsReadFsize syncFrame then some (dtsReadFsize syncFrame + 1) else none) := by
  obtain ⟨hlen, hword⟩ := h
  have hlen' : 8 ≤ syncFrame.length := by rcases hdts with rfl | rfl <;> exact hlen
  have hword' : [0x7f, 0xfe, 0x80, 0x01] <+: syncFrame := by rcases hdts with rfl | rfl <;> exact hword
  have hread : dtsReadFsize syncFrame = (syncFrame.getD 5 0).toNat % 4 * 4096 + (syncFrame.getD 6 0).toNat * 16 +
      (syncFrame.getD 7 0).toNat / 16 * 16 := by
    have hb := (syncFrame.getD 7 0).toNat_lt
    rw [dtsReadFsize, dtsLowBits, dtsFsize_eq hlen']
    omega
  have hbytes : ∀ index < 8, frameByte syncFrame index = .ok (syncFrame.getD index 0).toNat :=
    fun index hindex => frameByte_of_lt (Nat.lt_of_lt_of_le hindex hlen')
  unfold learnFrameSize
  rcases hdts with rfl | rfl
  all_goals
    simp only [Nat.not_lt.mpr hlen', if_false, startsWith_dts hlen', hword', decide_true, bind, Except.bind,
      hbytes 5 (by decide), hbytes 6 (by decide), hbytes 7 (by decide), Bool.not_true, Bool.false_eq_true, pure, Except.pure,
      and_03, and_f0 (UInt8.toNat_lt _), Nat.shiftLeft_eq, hread]

theorem learnFrameSize_eq {format : CompressedFormat} {syncFrame : List UInt8} (h : ¬ Misread format syncFrame) :
    learnFrameSize format syncFrame = .ok (codedFrameSize format syncFrame) := by
  by_cases hstart : format.FrameStart syncFrame
  · rw [codedFrameSize, if_pos hstart]
    have hdts (hformat : format = .dts ∨ format = .dtsHd) : learnFrameSize format syncFrame =
        .ok (if dtsMinFrameSize ≤ dtsFsize syncFrame then some (dtsFsize syncFrame + 1) else none) := by
      rw [learnFrameSize_dts hformat hstart]
      by_cases hlow : dtsLowBits syncFrame = 0
      · rw [dtsReadFsize, hlow, Nat.mul_zero, Nat.add_zero]
      · have hsmall : ¬ dtsMinFrameSize ≤ dtsReadFsize syncFrame := fun hle => h ⟨hformat, hstart, hlow, hle⟩
        rw [if_neg hsmall, if_neg]
        rw [dtsReadFsize] at hsmall
        omega
    cases format with
    | ac3 => exact learnFrameSize_ac3 hstart
    | eAc3 => exact learnFrameSize_eAc3 hstart
    | dts => exact hdts (.inl rfl)
    | dtsHd => exact hdts (.inr rfl)
  · rw [learnFrameSize_of_not hstart, codedFrameSize_of_not hstart]

theorem Misread.learn {format : CompressedFormat} {syncFrame : List UInt8} (h : Misread format syncFrame) :
    ∃ n, learnFrameSize format syncFrame = .ok (some (n + 1)) ∧ codedFrameSize format syncFrame ≠ some (n + 1) := by
  obtain ⟨hdts, hstart, hlow, hmin⟩ := h
  refine ⟨dtsReadFsize syncFrame, by rw [learnFrameSize_dts hdts hstart, if_pos hmin], fun hcoded => ?_⟩
  have hcoded' : (if dtsMinFrameSize ≤ dtsFsize syncFrame then some (dtsFsize syncFrame + 1) else none) =
      some (dtsReadFsize syncFrame + 1) := by
    rw [← hcoded, codedFrameSize, if_pos hstart]
    rcases hdts with rfl | rfl <;> rfl
  split_ifs at hcoded' with hle
  rw [Option.some.injEq, dtsReadFsize] at hcoded'
  omega

theorem codedFrameSize_pos {format : CompressedFormat} {syncFrame : List UInt8} {n : Nat}
    (h : codedFrameSize format syncFrame = some n) : 0 < n := by
  rw [codedFrameSize] at h
  split_ifs at h
  cases format with
  | eAc3 =>
    obtain rfl := Option.some.inj h
    omega
  | ac3 =>
    obtain ⟨words, hwords, rfl⟩ := Option.map_eq_some_iff.mp h
    obtain ⟨row, hrow, hget⟩ := Option.bind_eq_some_iff.mp hwords
    have hall : ∀ row ∈ ddFrameSizeTable, ∀ words ∈ row, 0 < words := by decide
    have hpos := hall row (List.mem_of_getElem? hrow) words (List.mem_of_getElem? hget)
    omega
  | dts | dtsHd =>
    simp only [CompressedFormat.codedSize] at h
    split_ifs at h
    obtain rfl := Option.some.inj h
    omega

/-! ### Runs -/

namespace FrameLearner
variable {m : TunnelFormat} {format : CompressedFormat} {s s' : FrameLearner} {a : LearnAction}

/-- The frame size is that of the first frame that was recognized behind a header, and no access went wrong. -/
structure Correct (format : CompressedFormat) (s : FrameLearner) : Prop where
  frameSize : s.frameSize = (s.syncFrames.findSome? (codedFrameSize format)).getD 0
  faults : s.faults = []

/-- The step reads no size wrong: while there is no frame size, what follows a header is no misread frame. -/
def ReadsRight (format : CompressedFormat) (s : FrameLearner) : LearnAction → Prop
  | .search => ∀ c syncFrame, s.call = some c → c.frame = none → c.syncFrame = some syncFrame → s.frameSize = 0 →
      ¬ Misread format syncFrame
  | _ => True

theorem Correct.none_iff (h : s.Correct format) :
    s.frameSize = 0 ↔ s.syncFrames.findSome? (codedFrameSize format) = none := by
  rw [h.frameSize]
  cases hfind : s.syncFrames.findSome? (codedFrameSize format) with
  | none => exact ⟨fun _ => rfl, fun _ => rfl⟩
  | some n =>
    obtain ⟨syncFrame, -, hn⟩ := List.exists_of_findSome?_eq_some hfind
    have hpos := codedFrameSize_pos hn
    refine ⟨fun h => ?_, fun h => by cases h⟩
    rw [Option.getD_some] at h
    omega

theorem Correct.learn (h : s.Correct format) {syncFrame : List UInt8}
    (hright : s.frameSize = 0 → ¬ Misread format syncFrame) : (s.learn format syncFrame).Correct format := by
  obtain ⟨hsize, hfaults⟩ := h
  unfold FrameLearner.learn
  by_cases hzero : s.frameSize = 0
  · have hnone := (Correct.none_iff ⟨hsize, hfaults⟩).mp hzero
    simp only [hzero, if_true, learnFrameSize_eq (hright hzero)]
    cases hcoded : codedFrameSize format syncFrame with
    | none => exact ⟨by simp [List.findSome?_append, hnone, hcoded], hfaults⟩
    | some n => exact ⟨by simp [List.findSome?_append, hnone, hcoded], hfaults⟩
  · simp only [hzero, if_false]
    obtain ⟨n, hn⟩ := Option.ne_none_iff_exists'.mp (mt (Correct.none_iff ⟨hsize, hfaults⟩).mpr hzero)
    exact ⟨by simp [List.findSome?_append, hn, hsize], hfaults⟩

theorem not_correct_learn (h : s.Correct format) {syncFrame : List UInt8} (hzero : s.frameSize = 0)
    (hmisread : Misread format syncFrame) : ¬ (s.learn format syncFrame).Correct format := by
  intro hafter
  obtain ⟨n, hlearn, hcoded⟩ := hmisread.learn
  have hnone := h.none_iff.mp hzero
  have hsize := hafter.frameSize
  simp only [FrameLearner.learn, hzero, if_true, hlearn] at hsize
  rw [List.findSome?_append, hnone, Option.none_or] at hsize
  cases hcode : codedFrameSize format syncFrame with
  | none => simp [hcode] at hsize
  | some k =>
    rw [hcode] at hcoded
    simp [hcode] at hsize
    exact hcoded (by rw [hsize])

theorem step_search {c : WriteCall} (hcall : s.call = some c) (hframe : c.frame = none) :
    s.step m format .search = some (s.search format c) := by
  simp only [step, hcall, hframe, Option.isSome_none, Bool.false_eq_true, if_false]

theorem step_search_inv (h : s.step m format .search = some s') :
    ∃ c, s.call = some c ∧ c.frame = none ∧ s' = s.search format c := by
  cases hcall : s.call with
  | none => simp [step, hcall] at h
  | some c =>
    cases hframe : c.frame with
    | some f => simp [step, hcall, hframe] at h
    | none =>
      rw [step_search hcall hframe] at h
      exact ⟨c, rfl, hframe, (Option.some.inj h).symm⟩

theorem Correct.step (h : s.Correct format) (hright : s.ReadsRight format a) (hstep : s.step m format a = some s') :
    s'.Correct format := by
  cases a with
  | write buffer =>
    simp only [FrameLearner.step] at hstep
    split at hstep
    · cases hstep
    · cases hstep
      exact ⟨h.frameSize, h.faults⟩
  | search =>
    obtain ⟨c, hcall, hframe, rfl⟩ := step_search_inv hstep
    unfold FrameLearner.search
    cases hsync : c.syncFrame with
    | none => exact ⟨h.frameSize, h.faults⟩
    | some syncFrame =>
      obtain ⟨hsize, hfaults⟩ := h.learn (hright c syncFrame hcall hframe hsync)
      exact ⟨hsize, hfaults⟩
  | pump answer =>
    simp only [FrameLearner.step] at hstep
    split at hstep
    · split at hstep
      · cases hstep
        exact ⟨h.frameSize, h.faults⟩
      · cases hstep
    · cases hstep

theorem not_correct_step (h : s.Correct format) (hwrong : ¬ s.ReadsRight format a)
    (hstep : s.step m format a = some s') : ¬ s'.Correct format := by
  cases a with
  | write buffer => exact absurd trivial hwrong
  | pump answer => exact absurd trivial hwrong
  | search =>
    obtain ⟨c, hcall, hframe, rfl⟩ := step_search_inv hstep
    simp only [ReadsRight, not_forall, not_not] at hwrong
    obtain ⟨c', syncFrame, hcall', -, hsync, hzero, hmisread⟩ := hwrong
    obtain rfl : c = c' := Option.some.inj (hcall.symm.trans hcall')
    intro hafter
    unfold FrameLearner.search at hafter
    rw [hsync] at hafter
    exact not_correct_learn h hzero hmisread ⟨hafter.frameSize, hafter.faults⟩

/-- In every run whose steps read no size wrong, the frame size is the coded one; and the first step that does makes it
    another one. -/
theorem correct_iff_readsRight (m : TunnelFormat) (format : CompressedFormat) :
    (∀ s, Reaches (step m format) (ReadsRight format) {} s → s.Correct format) ∧
    ∀ s a s', Reaches (step m format) (ReadsRight format) {} s → ¬ s.ReadsRight format a → s.step m format a = some s' →
      ¬ s'.Correct format := by
  have hcorrect : ∀ s, Reaches (step m format) (ReadsRight format) {} s → s.Correct format := fun s hs =>
    hs.invariant ⟨rfl, rfl⟩ fun _ _ _ h hright hstep => h.step hright hstep
  exact ⟨hcorrect, fun s a s' hs hwrong hstep => not_correct_step (hcorrect s hs) hwrong hstep⟩

/-- The media library of the runs below. -/
def plainFormat : TunnelFormat :=
  { pcmFormat := false, pesHeaderMaxSize := 14, waveformatexBaseSize := 18, frameBcma := [], waveformatex := [],
    pesHeaderInit := fun _ _ => [] }

/-- An A/V sync header with the first bytes of a frame. -/
def headerWith (syncFrame : List UInt8) : List UInt8 := avSyncMarker ++ [0, 0, 0, 8, 0, 0, 0, 0, 0, 0, 0, 0] ++ syncFrame

/-- A DTS frame of 1024 bytes. -/
def dtsFrame : List UInt8 := [0x7f, 0xfe, 0x80, 0x01, 0, 0, 0x3f, 0xf0]

/-- The output during a write of a buffer. -/
def writing (buffer : List UInt8) : FrameLearner := { call := some { buffer } }

theorem dtsFrame_misread : ¬ (writing (headerWith dtsFrame)).ReadsRight .dts .search := by
  intro hright
  refine hright { buffer := headerWith dtsFrame } dtsFrame rfl rfl (by decide) rfl ⟨.inl rfl, ?_, ?_, ?_⟩ <;> decide

/-- Before the header of a DTS frame of 1024 bytes is read, the frame size is right, and afterwards it is not. -/
theorem correct_iff_readsRight_dts : ∃ s s', Reaches (step plainFormat .dts) (ReadsRight .dts) {} s ∧ s.Correct .dts ∧
    s.step plainFormat .dts .search = some s' ∧ ¬ s'.Correct .dts := by
  have hwrite : (({} : FrameLearner).step plainFormat .dts (.write (headerWith dtsFrame))) =
      some (writing (headerWith dtsFrame)) := rfl
  have hok : ReadsRight .dts {} (.write (headerWith dtsFrame)) := trivial
  have hreach : Reaches (step plainFormat .dts) (ReadsRight .dts) {} (writing (headerWith dtsFrame)) :=
    Reaches.init.step hok hwrite
  obtain ⟨hcorrect, hwrong⟩ := correct_iff_readsRight plainFormat .dts
  exact ⟨_, _, hreach, hcorrect _ hreach, rfl, hwrong _ .search _ hreach dtsFrame_misread rfl⟩

/-- The frame of 1024 bytes is taken for one of 1249. -/
theorem frameSize_dts_misread : ∃ s, Reaches (step plainFormat .dts) (fun _ _ => True) {} s ∧ ¬ s.Correct .dts ∧
    s.frameSize = 1249 ∧ s.syncFrames.map (codedFrameSize .dts) = [some 1024] := by
  have hwrite : (({} : FrameLearner).step plainFormat .dts (.write (headerWith dtsFrame))) =
      some (writing (headerWith dtsFrame)) := rfl
  have hsearch : (writing (headerWith dtsFrame)).step plainFormat .dts .search =
      some ((writing (headerWith dtsFrame)).search .dts { buffer := headerWith dtsFrame }) := rfl
  refine ⟨_, (Reaches.init.step trivial hwrite).step trivial hsearch, fun hcorrect => ?_, by decide, by decide⟩
  exact absurd hcorrect.frameSize (by decide)

end FrameLearner
end BcmPlatform.Audio
