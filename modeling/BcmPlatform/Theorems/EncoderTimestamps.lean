import Mathlib.Algebra.Order.BigOperators.Group.Finset
import BcmPlatform.Bomx.EncoderInput
import BcmPlatform.Bomx.EncoderOutput
import BcmPlatform.Bomx.Port

/-! The time stamps of duplicates: frames that the encoder puts out again with the PTS of the frame before, for which the
    tracker has no entry any more. Each of them comes `ptsTickOffset / (2 * count)` after the one before, so their offsets
    are the partial sums of a harmonic series, cut to integers. -/

namespace BcmPlatform.Bomx.EncoderOutput
open Finset

variable {s s' s₁ : EncoderOutput} {f : EncodedFrame} {b : BufferId} {k : Nat}

/-- `1000000/framerate`, with the frame rate in whole frames. -/
def ptsTickOffset (s : EncoderOutput) : Nat := 1000000 / (s.xFramerate / 65536)

/-- What happens between two output frames: nothing that the next time stamp depends on, but for the tracker. -/
structure Idle (s s' : EncoderOutput) : Prop where
  lastOutputFramePTS : s'.lastOutputFramePTS = s.lastOutputFramePTS
  lastOutputFrameTicks : s'.lastOutputFrameTicks = s.lastOutputFrameTicks
  duplicateFrameCount : s'.duplicateFrameCount = s.duplicateFrameCount
  xFramerate : s'.xFramerate = s.xFramerate
  delivered : s'.delivered = s.delivered
  zeroDivisions : s'.zeroDivisions = s.zeroDivisions

theorem Idle.refl (s : EncoderOutput) : Idle s s := ⟨rfl, rfl, rfl, rfl, rfl, rfl⟩

/-- A frame with the PTS of the frame before it, of which the tracker knows nothing. The codec configuration has no time
    stamp. -/
structure IsDuplicate (f : EncodedFrame) (s : EncoderOutput) : Prop where
  codecConfig : f.clientFlags.codecConfig = false
  pts : f.usTimeStampOriginal = s.lastOutputFramePTS
  untracked : ∀ n ∈ s.bufferTracker, n.pts ≠ f.usTimeStampOriginal % u32

/-- The next `k` output frames are duplicates. -/
inductive Duplicates : Nat → EncoderOutput → EncoderOutput → Prop where
  | none {s : EncoderOutput} : Duplicates 0 s s
  | frame {k : Nat} {s s₁ s' : EncoderOutput} {f : EncodedFrame} {b : BufferId} : Idle s s₁ → IsDuplicate f s₁ →
      Duplicates k (s₁.returnFrame f b) s' → Duplicates (k + 1) s s'

/-! ### One duplicate -/

/-- What returning a duplicate does. -/
structure Stamped (b : BufferId) (s s' : EncoderOutput) : Prop where
  lastOutputFramePTS : s'.lastOutputFramePTS = s.lastOutputFramePTS
  duplicateFrameCount : s'.duplicateFrameCount = s.duplicateFrameCount + 1
  lastOutputFrameTicks : s'.lastOutputFrameTicks =
    s.lastOutputFrameTicks + (s.ptsTickOffset / ((s.duplicateFrameCount + 1) * 2) : Nat)
  xFramerate : s'.xFramerate = s.xFramerate
  bufferTracker : s'.bufferTracker = s.bufferTracker
  delivered : ∃ o : OutputFrame, o.header.nTimeStamp = s'.lastOutputFrameTicks ∧ s'.delivered = s.delivered ++ [o]
  zeroDivisions : s'.zeroDivisions = if s.xFramerate / 65536 = 0 then s.zeroDivisions + 1 else s.zeroDivisions
  outPort : s'.outPort = s.outPort.bufferComplete b
  nAllocLen : ∀ c, (s'.header c).nAllocLen = (s.header c).nAllocLen

theorem stampFrame_of_duplicate (h : IsDuplicate f s) : s.stampFrame f b =
    { s with
      duplicateFrameCount := s.duplicateFrameCount + 1
      zeroDivisions := if s.xFramerate / 65536 = 0 then s.zeroDivisions + 1 else s.zeroDivisions
      header := Function.update s.header b { s.header b with
        nTimeStamp := s.lastOutputFrameTicks + (s.ptsTickOffset / ((s.duplicateFrameCount + 1) * 2) : Nat) } } := by
  have huntracked : s.bufferTracker.any (fun n => decide (n.pts = f.usTimeStampOriginal % u32)) = false := by
    rw [List.any_eq_false]
    intro n hn
    simpa using h.untracked n hn
  simp only [stampFrame, h.codecConfig, Bool.false_eq_true, if_false, huntracked, if_pos h.pts]
  rfl

theorem returnEncodedFrameSynchronized_eq (f : EncodedFrame) (s : EncoderOutput) :
    s.returnEncodedFrameSynchronized f =
      { s with
        emptyFrListLen := (s.returnEncodedFrameSynchronized f).emptyFrListLen
        descs := (s.returnEncodedFrameSynchronized f).descs } := by
  simp only [returnEncodedFrameSynchronized, videoReadComplete]
  split
  · rfl
  · split
    · rfl
    · split <;> rfl

theorem returnFrame_of_duplicate (h : IsDuplicate f s) : Stamped b s (s.returnFrame f b) := by
  have hcopy : IsDuplicate f (s.copyFrame f b) := ⟨h.codecConfig, h.pts, h.untracked⟩
  rw [returnFrame, stampFrame_of_duplicate hcopy]
  cases f.clientFlags.eos
  all_goals
    simp only [Bool.false_eq_true, if_false, if_true]
    rw [returnEncodedFrameSynchronized_eq]
    refine ⟨h.pts, rfl, ?ticks, rfl, rfl, ⟨_, ?header, rfl⟩, rfl, rfl, fun c => ?room⟩
    case ticks =>
      simp only [Function.update_self]
      rfl
    case header => simp only [Function.update_self]
    case room => by_cases hc : c = b <;> simp [hc, copyFrame]

/-! ### The partial sums -/

/-- The time stamps of `k` duplicates after `count` earlier ones, for an offset `n`. -/
def stamps (n : Nat) : Nat → Int → Nat → List Int
  | _, _, 0 => []
  | count, t, k + 1 => (t + (n / ((count + 1) * 2) : Nat)) :: stamps n (count + 1) (t + (n / ((count + 1) * 2) : Nat)) k

/-- How far the last of them is from the frame before the first. -/
def spread (n count k : Nat) : Nat := ∑ i ∈ range k, n / ((count + i + 1) * 2)

theorem spread_succ (n count k : Nat) : spread n count (k + 1) = n / ((count + 1) * 2) + spread n (count + 1) k := by
  rw [spread, sum_range_succ', Nat.add_comm]
  congr 1
  refine sum_congr rfl fun i _ => ?_
  rw [Nat.add_right_comm count 1 i, Nat.add_assoc count i 1]

theorem stamps_le {n count : Nat} {t x : Int} (h : x ∈ stamps n count t k) : x ≤ t + spread n count k := by
  induction k generalizing count t with
  | zero => simp [stamps] at h
  | succ k ih =>
    rw [spread_succ]
    rcases List.mem_cons.mp h with rfl | h
    · omega
    · have := ih h
      omega

theorem last_mem_stamps (n count : Nat) (t : Int) (k : Nat) :
    t + spread n count (k + 1) ∈ stamps n count t (k + 1) := by
  induction k generalizing count t with
  | zero => simp [stamps, spread]
  | succ k ih =>
    have h := ih (count + 1) (t + (n / ((count + 1) * 2) : Nat))
    rw [spread_succ, stamps]
    refine List.mem_cons_of_mem _ ?_
    have hsum : t + ((n / ((count + 1) * 2) + spread n (count + 1) (k + 1) : Nat) : Int) =
        t + (n / ((count + 1) * 2) : Nat) + spread n (count + 1) (k + 1) := by omega
    rwa [hsum]

theorem stamps_lt_iff {n count : Nat} {t bound : Int} :
    (∀ x ∈ stamps n count t k, x < bound) ↔ k = 0 ∨ t + spread n count k < bound := by
  cases k with
  | zero => simp [stamps]
  | succ k =>
    constructor
    · exact fun h => .inr (h _ (last_mem_stamps n count t k))
    · rintro (h | h) x hx
      · cases h
      · exact Int.lt_of_le_of_lt (stamps_le hx) h

theorem pairwise_stamps_iff {n count : Nat} {t : Int} :
    (t :: stamps n count t k).Pairwise (· < ·) ↔ k = 0 ∨ (count + k) * 2 ≤ n := by
  rw [← List.isChain_iff_pairwise]
  induction k generalizing count t with
  | zero => simp [stamps]
  | succ k ih =>
    rw [stamps, List.isChain_cons_cons, ih]
    have hpos : t < t + (n / ((count + 1) * 2) : Nat) ↔ (count + 1) * 2 ≤ n := by
      have hdiv : 0 < n / ((count + 1) * 2) ↔ (count + 1) * 2 ≤ n := by
        rw [Nat.div_pos_iff]
        omega
      rw [← hdiv]
      generalize n / ((count + 1) * 2) = m
      omega
    rw [hpos]
    omega

/-! ### A run of duplicates -/

/-- The time stamps of the frames that were returned between two states. -/
def stampsTo (s s' : EncoderOutput) : List Ticks :=
  (s'.delivered.drop s.delivered.length).map fun o => o.header.nTimeStamp

/-- The time stamps of the duplicates increase strictly, between that of the frame before them and that of the next frame,
    and nothing is divided by 0. -/
structure Spaced (s s' : EncoderOutput) : Prop where
  increasing : (s.lastOutputFrameTicks :: s.stampsTo s').Pairwise (· < ·)
  inside : ∀ t ∈ s.stampsTo s', t < s.lastOutputFrameTicks + s.ptsTickOffset
  noZeroDivision : s'.zeroDivisions = s.zeroDivisions

theorem Duplicates.run (h : Duplicates k s s') :
    (∃ outs, s'.delivered = s.delivered ++ outs ∧ outs.map (fun o => o.header.nTimeStamp) =
      stamps s.ptsTickOffset s.duplicateFrameCount s.lastOutputFrameTicks k) ∧
    s'.zeroDivisions = if s.xFramerate / 65536 = 0 then s.zeroDivisions + k else s.zeroDivisions := by
  induction h with
  | none => exact ⟨⟨[], (List.append_nil _).symm, rfl⟩, (ite_self _).symm⟩
  | @frame k s s₁ s' f b hidle hdup _ ih =>
    have hstamped := returnFrame_of_duplicate (b := b) hdup
    obtain ⟨o, ho, hdelivered⟩ := hstamped.delivered
    obtain ⟨⟨outs, houts, hstamps⟩, hzero⟩ := ih
    have hoffset : (s₁.returnFrame f b).ptsTickOffset = s.ptsTickOffset := by
      rw [ptsTickOffset, hstamped.xFramerate, hidle.xFramerate, ptsTickOffset]
    have hoffset₁ : s₁.ptsTickOffset = s.ptsTickOffset := by rw [ptsTickOffset, hidle.xFramerate, ptsTickOffset]
    have hticks := hstamped.lastOutputFrameTicks
    rw [hidle.lastOutputFrameTicks, hoffset₁, hidle.duplicateFrameCount] at hticks
    refine ⟨⟨o :: outs, ?_, ?_⟩, ?_⟩
    · rw [houts, hdelivered, hidle.delivered, List.append_assoc]
      rfl
    · rw [List.map_cons, ho, hstamps, hoffset, hstamped.duplicateFrameCount, hidle.duplicateFrameCount, hticks, stamps]
    · rw [hzero, hstamped.zeroDivisions, hstamped.xFramerate, hidle.xFramerate, hidle.zeroDivisions]
      split
      · omega
      · rfl

theorem Duplicates.stampsTo_eq (h : Duplicates k s s') :
    s.stampsTo s' = stamps s.ptsTickOffset s.duplicateFrameCount s.lastOutputFrameTicks k := by
  obtain ⟨⟨outs, houts, hstamps⟩, -⟩ := h.run
  rw [stampsTo, houts, List.drop_left, hstamps]

/-- After `count` earlier duplicates, the next `k` are spaced if and only if the last offset is not cut to 0 and their sum
    stays below the frame interval. -/
theorem Duplicates.spaced_iff (h : Duplicates k s s') : Spaced s s' ↔
    k = 0 ∨ (s.duplicateFrameCount + k) * 2 ≤ s.ptsTickOffset ∧
      spread s.ptsTickOffset s.duplicateFrameCount k < s.ptsTickOffset := by
  obtain ⟨-, hzero⟩ := h.run
  constructor
  · intro hspaced
    have hincreasing := hspaced.increasing
    have hinside := hspaced.inside
    rw [h.stampsTo_eq, pairwise_stamps_iff] at hincreasing
    rw [h.stampsTo_eq, stamps_lt_iff] at hinside
    omega
  · intro hk
    refine ⟨?_, ?_, ?_⟩
    · rw [h.stampsTo_eq, pairwise_stamps_iff]
      omega
    · rw [h.stampsTo_eq, stamps_lt_iff]
      omega
    · rw [hzero]
      split
      · next hframerate =>
        -- without a frame rate the offset is 0
        rw [ptsTickOffset, hframerate, Nat.div_zero] at hk
        omega
      · rfl

/-! ### The loop of `OutputBufferProcess` -/

theorem deliverFrames_cons {rest : List EncodedFrame} (hbuffer : s.outPort.getBuffer = some b)
    (hlen : f.combinedSz = f.totalLen) (hroom : f.combinedSz ≤ (s.header b).nAllocLen) :
    s.deliverFrames (f :: rest) = ({ s with encodedFrList := rest }.returnFrame f b).deliverFrames rest := by
  have hguard : (f.combinedSz ≠ f.totalLen || f.combinedSz > (s.header b).nAllocLen) = false := by
    simp [hlen]
    omega
  simp only [deliverFrames, hbuffer, hguard, Bool.false_eq_true, if_false]

theorem duplicates_of_deliverFrames (fs : List EncodedFrame) (s : EncoderOutput)
    (hfs : ∀ f ∈ fs, IsDuplicate f s ∧ f.combinedSz = f.totalLen ∧
      ∀ b ∈ s.outPort.bufferQueue, f.combinedSz ≤ (s.header b).nAllocLen)
    (hqueue : fs.length ≤ s.outPort.bufferQueue.length) : Duplicates fs.length s (s.deliverFrames fs) := by
  induction fs generalizing s with
  | nil => exact .none
  | cons f rest ih =>
    obtain ⟨⟨hdup, hlen, hroom⟩, hrest⟩ := List.forall_mem_cons.mp hfs
    obtain ⟨b, queue, hb⟩ := List.exists_cons_of_length_pos (Nat.lt_of_lt_of_le (Nat.succ_pos _) hqueue)
    have hbuffer : s.outPort.getBuffer = some b := by rw [Port.getBuffer, hb]; rfl
    rw [deliverFrames_cons hbuffer hlen (hroom b (by rw [hb]; exact List.mem_cons_self))]
    have hidle : Idle s { s with encodedFrList := rest } := ⟨rfl, rfl, rfl, rfl, rfl, rfl⟩
    have hdup' : IsDuplicate f { s with encodedFrList := rest } := ⟨hdup.codecConfig, hdup.pts, hdup.untracked⟩
    have hstamped := returnFrame_of_duplicate (b := b) hdup'
    refine .frame hidle hdup' (ih _ (fun g hg => ?_) ?_)
    · obtain ⟨hg, hglen, hgroom⟩ := hrest g hg
      refine ⟨⟨hg.codecConfig, hg.pts.trans hstamped.lastOutputFramePTS.symm, ?_⟩, hglen, fun c hc => ?_⟩
      · rw [hstamped.bufferTracker]
        exact hg.untracked
      · rw [hstamped.nAllocLen]
        rw [hstamped.outPort] at hc
        exact hgroom c (List.mem_of_mem_erase hc)
    · rw [hstamped.outPort, Port.bufferComplete_head hb]
      rw [hb, List.length_cons, List.length_cons] at hqueue
      exact Nat.le_of_succ_le_succ hqueue

/-! ### The frame rates that are accepted -/

theorem framerate_of_accepted {x : Nat} (h : framerateAccepted x = true) (hx : x ≠ 0) :
    10 ≤ x / 65536 ∧ x / 65536 ≤ 30 := by
  simp only [framerateAccepted, q16ScaleFactor, Bool.not_eq_true', Bool.and_eq_false_imp, Bool.or_eq_false_iff,
    decide_eq_true_eq] at h
  obtain ⟨⟨-, hhigh⟩, hlow⟩ := h hx
  have hhigh := of_decide_eq_false hhigh
  have hlow := of_decide_eq_false hlow
  omega

theorem spread_lt_iff {n : Nat} (hn : 72 ≤ n) (hk : 0 < k) : (k * 2 ≤ n ∧ spread n 0 k < n) ↔ k ≤ 3 := by
  constructor
  · rintro ⟨-, h⟩
    by_contra hk3
    obtain ⟨m, rfl⟩ := Nat.exists_eq_add_of_le (show 4 ≤ k by omega)
    have hfour : spread n 0 4 ≤ spread n 0 (4 + m) := by
      rw [spread, spread]
      exact sum_le_sum_of_subset (range_subset_range.mpr (Nat.le_add_right 4 m))
    simp only [spread, sum_range_succ, sum_range_zero] at hfour h
    omega
  · intro hk3
    refine ⟨by omega, ?_⟩
    have hcases : k = 1 ∨ k = 2 ∨ k = 3 := by omega
    rcases hcases with rfl | rfl | rfl <;> simp only [spread, sum_range_succ, sum_range_zero] <;> omega

/-- The duplicates behind a frame have increasing time stamps inside the frame interval if and only if the offset is at
    least twice their number and the partial sums of its cut fractions stay below it; for a frame that was found in the
    tracker and the rates that the port definition accepts, if and only if the rate is not 0 and they are at most three. -/
theorem duplicates_spaced_iff (h : Duplicates k s s') :
    (Spaced s s' ↔ k = 0 ∨ (s.duplicateFrameCount + k) * 2 ≤ s.ptsTickOffset ∧
      ∑ i ∈ range k, s.ptsTickOffset / ((s.duplicateFrameCount + i + 1) * 2) < s.ptsTickOffset) ∧
    (framerateAccepted s.xFramerate = true → s.duplicateFrameCount = 0 →
      (Spaced s s' ↔ k = 0 ∨ s.xFramerate ≠ 0 ∧ k ≤ 3)) := by
  refine ⟨h.spaced_iff, fun haccepted hcount => ?_⟩
  rw [h.spaced_iff, hcount, Nat.zero_add]
  rcases Nat.eq_zero_or_pos k with rfl | hk
  · simp
  · by_cases hx : s.xFramerate = 0
    · have hoffset : s.ptsTickOffset = 0 := by rw [ptsTickOffset, hx]
      rw [hoffset]
      omega
    · obtain ⟨hlow, hhigh⟩ := framerate_of_accepted haccepted hx
      have hoffset : 72 ≤ s.ptsTickOffset := by
        rw [ptsTickOffset, Nat.le_div_iff_mul_le (by omega)]
        omega
      rw [spread_lt_iff hoffset hk]
      omega

/-- The encoder at 1 s, with four empty buffers of the client. -/
def atOneSecond (xFramerate : Nat) : EncoderOutput :=
  { codec := .avc, simpleEncoderStarted := true, codecConfigDone := true, eosReceived := false, eosDelivered := false
    emptyFrListLen := 8, encodedFrList := [], header := fun _ => { eDir := .output, nAllocLen := 16 }, bufferTracker := []
    outPort :=
      { definition := { nPortIndex := 1, nBufferCountActual := 4, nBufferCountMin := 1, nBufferSize := 16 }
        bufferList := [0, 1, 2, 3], bufferQueue := [0, 1, 2, 3], componentAllocated := false
        nodup_list := by decide, nodup_queue := by decide, queued := fun _ h => h }
    xFramerate, lastOutputFramePTS := 45000, lastOutputFrameTicks := 1000000, descs := [] }

/-- A frame of one second, once more. -/
def repeated : EncodedFrame :=
  { frameData := [{ frameStart := true, originalPtsValid := true, originalPts := 45000, data := [0] }]
    combinedSz := 1, usTimeStampOriginal := 45000 }

theorem duplicates_atOneSecond (xFramerate k : Nat) (hk : k ≤ 4) :
    Duplicates k (atOneSecond xFramerate) ((atOneSecond xFramerate).deliverFrames (List.replicate k repeated)) := by
  have h := duplicates_of_deliverFrames (List.replicate k repeated) (atOneSecond xFramerate) (fun f hf => ?_) ?_
  · rwa [List.length_replicate] at h
  · rw [List.eq_of_mem_replicate hf]
    exact ⟨⟨rfl, rfl, by simp [atOneSecond]⟩, rfl, fun _ _ => (by decide : 1 ≤ 16)⟩
  · rw [List.length_replicate]
    exact hk

/-- At 30 frames a second the fourth duplicate comes behind the next frame; the rate 0, which the port definition accepts,
    is a division by 0. -/
theorem four_duplicates_not_spaced :
    framerateAccepted (30 * q16ScaleFactor) = true ∧
    Duplicates 4 (atOneSecond (30 * q16ScaleFactor))
      ((atOneSecond (30 * q16ScaleFactor)).deliverFrames (List.replicate 4 repeated)) ∧
    (atOneSecond (30 * q16ScaleFactor)).stampsTo
      ((atOneSecond (30 * q16ScaleFactor)).deliverFrames (List.replicate 4 repeated)) =
        [1016666, 1024999, 1030554, 1034720] ∧
    ¬ Spaced (atOneSecond (30 * q16ScaleFactor))
      ((atOneSecond (30 * q16ScaleFactor)).deliverFrames (List.replicate 4 repeated)) ∧
    framerateAccepted 0 = true ∧
    ¬ Spaced (atOneSecond 0) ((atOneSecond 0).deliverFrames (List.replicate 1 repeated)) := by
  refine ⟨by decide, duplicates_atOneSecond _ 4 (Nat.le_refl 4), by decide, fun h => ?_, by decide, fun h => ?_⟩
  · exact absurd (h.inside 1034720 (by decide)) (by decide)
  · exact absurd h.noZeroDivision (by decide)

/-- Three duplicates at 30 frames a second are in the interval. -/
theorem three_duplicates_spaced : Spaced (atOneSecond (30 * q16ScaleFactor))
    ((atOneSecond (30 * q16ScaleFactor)).deliverFrames (List.replicate 3 repeated)) :=
  ((duplicates_spaced_iff (duplicates_atOneSecond _ 3 (by decide))).2 (by decide) rfl).mpr (.inr ⟨by decide, by decide⟩)

end BcmPlatform.Bomx.EncoderOutput
