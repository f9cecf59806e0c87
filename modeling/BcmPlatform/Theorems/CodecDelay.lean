import BcmPlatform.Lib.Runs
import BcmPlatform.Lib.Segments
import BcmPlatform.Bomx.CodecDelay
import BcmPlatform.Theorems.AudioCalls

/-! The balance of the codec delay. What the frames of a stream lose is the trim of the delay from their samples, and the
    padding at its end has the same length; whether it fits is left to the buffer that happens to be first in the
    queue. -/

namespace BcmPlatform.Bomx
open Lib

theorem PcmFormat.two_le_sampleBytes (f : PcmFormat) : 2 ≤ f.sampleBytes := by
  have hbytes : 1 ≤ f.bitsPerSample / 8 := (Nat.le_div_iff_mul_le (by decide)).mpr f.hbits
  exact Nat.le_trans f.hchannels (Nat.le_mul_of_pos_left _ hbytes)

namespace ReturnedFrame

/-- The samples of a frame. -/
def samples (e : ReturnedFrame) : Nat := e.filledBytes / e.sampleBytes

/-- The samples that a frame lost. -/
def dropped (e : ReturnedFrame) : Nat := e.nOffset / e.sampleBytes

/-- The frame has whole samples, the first of which were dropped and the others returned. -/
structure Whole (e : ReturnedFrame) : Prop where
  filled : e.samples * e.sampleBytes = e.filledBytes
  offset : e.dropped * e.sampleBytes = e.nOffset
  lengths : e.nOffset + e.nFilledLen = e.filledBytes

end ReturnedFrame

namespace AudioOutput

/-! ### The end of the stream stays delivered -/

theorem addBlocks_eosDelivered (accept : BufferId → Bool) : ∀ (l : List BufferId) (s : AudioOutput),
    (s.addBlocks accept l).d.eosDelivered = s.d.eosDelivered
  | [], s => rfl
  | b :: rest, s => by
    simp only [addBlocks]
    split
    · exact addBlocks_eosDelivered accept rest s
    · split
      · exact addBlocks_eosDelivered accept rest _
      · rfl

theorem clearOwned_eosDelivered : ∀ (l : List QueuedBlock) (s : AudioOutput),
    (l.foldl clearOwned s).d.eosDelivered = s.d.eosDelivered
  | [], s => rfl
  | q :: rest, s => by
    rw [List.foldl_cons, clearOwned_eosDelivered rest]
    unfold clearOwned
    split <;> rfl

theorem removeOutputBuffers_eosDelivered (a : AudioAnswers) (s : AudioOutput) :
    (s.removeOutputBuffers a).d.eosDelivered = s.d.eosDelivered := by
  simp only [removeOutputBuffers]
  split
  · rfl
  · exact clearOwned_eosDelivered _ s

theorem releaseOutput_eosDelivered (a : AudioAnswers) (s : AudioOutput) :
    (s.releaseOutput a).1.d.eosDelivered = s.d.eosDelivered := by
  simp only [releaseOutput]
  split
  · rfl
  · refine (removeOutputBuffers_eosDelivered a _).trans ?_
    split <;> rfl

theorem resumeDecoder_eosDelivered (s : AudioOutput) : s.resumeDecoder.d.eosDelivered = s.d.eosDelivered := by
  simp only [resumeDecoder, AudioDecoder.resumeDecoder]
  split <;> rfl

theorem setOutputPortState_eosDelivered (newState : OmxState) (a : AudioAnswers) (s : AudioOutput) :
    (s.setOutputPortState newState a).1.d.eosDelivered = s.d.eosDelivered := by
  simp only [setOutputPortState]
  split
  · exact releaseOutput_eosDelivered a _
  · exact releaseOutput_eosDelivered a s
  · split
    · rfl
    · exact (addBlocks_eosDelivered a.accept _ _).trans (resumeDecoder_eosDelivered s)
    · rfl

theorem inputStep_eosDelivered {a : AudioAction} {d d' : AudioDecoder} (ha : a.isInput = true)
    (hstep : d.step a = some d') : d'.eosDelivered = d.eosDelivered := by
  cases a with
  | emptyThisBuffer submit b header asc =>
    obtain ⟨-, rfl⟩ := Option.ite_some_none_eq_some.mp hstep
    obtain ⟨_, _, _, heq⟩ := AudioDecoder.emptyThisBuffer_eq (d := d) submit b header asc
    rw [heq]
  | consume n =>
    obtain ⟨-, rfl⟩ := Option.ite_some_none_eq_some.mp hstep
    rfl
  | allocateInputBuffer b nSizeBytes componentAllocated | freeInputBuffer b | playpumpEvent fifoPts
    | inputBufferTimeout fifoPts =>
    cases hstep
    rfl
  | _ => cases ha

theorem step_eosDelivered {a : AudioOutputAction} {s s' : AudioOutput} (ha : a.keepsDecoding = true)
    (hstep : s.step a = some s') : s'.d.eosDelivered = s.d.eosDelivered := by
  cases a with
  | input action =>
    obtain ⟨hinput, hmap⟩ := Option.ite_none_right_eq_some.mp hstep
    obtain ⟨d, hd, rfl⟩ := Option.map_eq_some_iff.mp hmap
    exact inputStep_eosDelivered hinput hd
  | freeOutputBuffer b =>
    cases hstep
    rfl
  | addOutputBuffers accept =>
    cases hstep
    exact addBlocks_eosDelivered accept _ s
  | removeOutputBuffers a =>
    cases hstep
    exact removeOutputBuffers_eosDelivered a s
  | setOutputPortState newState a =>
    cases hstep
    exact setOutputPortState_eosDelivered newState a s
  | flushOutput a a' =>
    obtain ⟨-, rfl⟩ := Option.ite_some_none_eq_some.mp hstep
    simp only [flushOutput]
    split
    · exact (setOutputPortState_eosDelivered _ a' _).trans (setOutputPortState_eosDelivered _ a s)
    · rfl
  | portEnable dir =>
    obtain ⟨-, rfl⟩ := Option.ite_some_none_eq_some.mp hstep
    cases dir <;> simp only [commandPortEnable] <;> split <;> rfl
  | _ => cases ha

end AudioOutput

namespace TrimmedOutput
variable {t t' : TrimmedOutput}

/-- The samples of the frames that were returned. -/
def samples (t : TrimmedOutput) : List Nat := t.frames.map ReturnedFrame.samples

/-- The samples that they lost. -/
def dropped (t : TrimmedOutput) : List Nat := t.frames.map ReturnedFrame.dropped

/-- The samples of the delay that are still to be trimmed. -/
def left (t : TrimmedOutput) : Nat := (t.codecDelay - t.codecDelayAdjusted).toNat

/-! ### The output side -/

/-! ### One frame -/

theorem delaySamples_eq (filledBytes : Nat) (t : TrimmedOutput) :
    t.delaySamples filledBytes = (min t.left (filledBytes / t.pcm.sampleBytes) : Nat) := by
  simp only [delaySamples, left]
  by_cases hfilled : filledBytes = 0
  · simp [hfilled]
  · generalize filledBytes / t.pcm.sampleBytes = frameSamples
    split <;> omega

theorem trimFrame_header {filledBytes : Nat} (b : BufferId) (hsize : filledBytes < u32) :
    let k := min t.left (filledBytes / t.pcm.sampleBytes)
    (t.trimFrame filledBytes b).header b =
      { t.header b with nOffset := k * t.pcm.sampleBytes, nFilledLen := filledBytes - k * t.pcm.sampleBytes } := by
  intro k
  have hk : k * t.pcm.sampleBytes ≤ filledBytes :=
    Nat.le_trans (Nat.mul_le_mul_right _ (Nat.min_le_right _ _)) (Nat.div_mul_le_self _ _)
  have hlength : t.sampleLength (t.delaySamples filledBytes) = k * t.pcm.sampleBytes := by
    rw [sampleLength, delaySamples_eq, Int.toNat_natCast]
    exact Nat.mod_eq_of_lt (Nat.lt_of_le_of_lt hk hsize)
  simp only [trimFrame, Function.update_self, hlength, if_neg (Nat.not_lt.mpr hk), sub32_of_le hk]

/-- What the returned frames lost is the trim of the delay from their samples. -/
structure Trimmed (t : TrimmedOutput) : Prop where
  whole : ∀ e ∈ t.frames, e.Whole
  trims : t.dropped = trims t.codecDelay.toNat t.samples
  adjusted : t.codecDelayAdjusted = (t.dropped.sum : Nat)
  bytes : (t.frames.map ReturnedFrame.nOffset).sum = t.dropped.sum * t.pcm.sampleBytes

theorem Trimmed.left_eq (h : t.Trimmed) : t.left = t.codecDelay.toNat - t.samples.sum := by
  have hsum := sum_trims t.codecDelay.toNat t.samples
  rw [← h.trims] at hsum
  rw [left, h.adjusted, hsum]
  omega

theorem Trimmed.returnFrame (h : t.Trimmed) {f : AudioFrame} (hwhole : f.filledBytes % t.pcm.sampleBytes = 0)
    (hsize : f.filledBytes < u32) (out : AudioOutput) (q : QueuedBlock) (b : BufferId) (ticks : Ticks) :
    let t' := TrimmedOutput.returnFrame q f b ticks { t.trimFrame f.filledBytes b with out }
    t'.Trimmed ∧ t'.left = t.left - f.filledBytes / t.pcm.sampleBytes := by
  intro t'
  have hpos : 0 < t.pcm.sampleBytes := Nat.lt_of_lt_of_le (by decide) t.pcm.two_le_sampleBytes
  have hheader := trimFrame_header (t := t) b hsize
  set k := min t.left (f.filledBytes / t.pcm.sampleBytes) with hk
  let e : ReturnedFrame :=
    { filledBytes := f.filledBytes, sampleBytes := t.pcm.sampleBytes, nOffset := k * t.pcm.sampleBytes
      nFilledLen := f.filledBytes - k * t.pcm.sampleBytes }
  have hframes : t'.frames = t.frames ++ [e] := by
    change t.frames ++ [_] = _
    rw [hheader]
    rfl
  have hdropped : e.dropped = k := Nat.mul_div_cancel _ hpos
  have hlist : t'.dropped = t.dropped ++ [k] := by
    rw [dropped, hframes, List.map_append, List.map_singleton, hdropped, dropped]
  have hsamples : t'.samples = t.samples ++ [f.filledBytes / t.pcm.sampleBytes] := by
    rw [samples, hframes, List.map_append, List.map_singleton, samples]
    rfl
  have hfilled : f.filledBytes / t.pcm.sampleBytes * t.pcm.sampleBytes = f.filledBytes :=
    Nat.div_mul_cancel (Nat.dvd_of_mod_eq_zero hwhole)
  have hle : k * t.pcm.sampleBytes ≤ f.filledBytes := by
    rw [← hfilled]
    exact Nat.mul_le_mul_right _ (Nat.min_le_right _ _)
  have he : e.Whole := ⟨hfilled, by rw [hdropped], Nat.add_sub_cancel' hle⟩
  have htrimmed : t'.Trimmed := by
    refine ⟨?_, ?_, ?_, ?_⟩
    · intro e' he'
      rw [hframes, List.mem_append, List.mem_singleton] at he'
      rcases he' with he' | rfl
      · exact h.whole e' he'
      · exact he
    · change t'.dropped = Lib.trims t.codecDelay.toNat t'.samples
      rw [hlist, hsamples, trims_append, ← h.trims, ← h.left_eq]
      rfl
    · change t.codecDelayAdjusted + t.delaySamples f.filledBytes = _
      rw [delaySamples_eq, h.adjusted, hlist, List.sum_append, List.sum_singleton, Int.natCast_add]
    · change (t'.frames.map ReturnedFrame.nOffset).sum = t'.dropped.sum * t.pcm.sampleBytes
      rw [hframes, List.map_append, List.sum_append, h.bytes, hlist, List.sum_append, List.map_singleton,
        List.sum_singleton, List.sum_singleton, Nat.add_mul]
  refine ⟨htrimmed, ?_⟩
  rw [htrimmed.left_eq, h.left_eq, hsamples, List.sum_append, List.sum_singleton, ← Nat.sub_sub]
  rfl

/-! ### A poll -/

/-- Every frame that is trimmed is returned: of those that the loop looks up with `left` samples still to be trimmed, one
    with the end of the stream comes while the end is pending and was not seen before, or loses nothing. -/
def eosExpected (sampleBytes : Nat) : Nat → List (QueuedBlock × AudioFrame) → AudioDecoder → Bool
  | _, [], _ => true
  | left, (_, f) :: rest, d =>
    if f.sampleRate ≠ d.sampleRate ∧ 0 < f.filledBytes then true
    else
      match f.buffer with
      | none => eosExpected sampleBytes left rest d
      | some b =>
        let p := d.takeTracked f.pts
        let left' := left - f.filledBytes / sampleBytes
        if p.2.2 then
          if p.1.inp.eosPending && !p.1.eosReady then
            eosExpected sampleBytes left' rest ({ p.1 with eosReady := true }.deliverFrame f b p.2.1)
          else min left (f.filledBytes / sampleBytes) = 0
        else eosExpected sampleBytes left' rest (p.1.deliverFrame f b p.2.1)

/-- What frames leave alone. -/
structure SameStream (t t' : TrimmedOutput) : Prop where
  codecDelay : t'.codecDelay = t.codecDelay
  pcm : t'.pcm = t.pcm
  eosHeader : t'.eosHeader = t.eosHeader

theorem SameStream.trans {t'' : TrimmedOutput} (h : SameStream t t') (h' : SameStream t' t'') : SameStream t t'' :=
  ⟨h'.codecDelay.trans h.codecDelay, h'.pcm.trans h.pcm, h'.eosHeader.trans h.eosHeader⟩

theorem Trimmed.congr (h : t.Trimmed) (hframes : t'.frames = t.frames) (hdelay : t'.codecDelay = t.codecDelay)
    (hadjusted : t'.codecDelayAdjusted = t.codecDelayAdjusted)
    (hpcm : t.dropped.sum = 0 ∨ t'.pcm.sampleBytes = t.pcm.sampleBytes) : t'.Trimmed := by
  have hdropped : t'.dropped = t.dropped := congrArg (List.map ReturnedFrame.dropped) hframes
  refine ⟨hframes ▸ h.whole, ?_, by rw [hadjusted, h.adjusted, hdropped], ?_⟩
  · rw [hdropped, h.trims, hdelay, samples, samples, hframes]
  · rw [hframes, h.bytes, hdropped]
    rcases hpcm with hzero | hsame
    · rw [hzero, Nat.zero_mul, Nat.zero_mul]
    · rw [hsame]

theorem deliver_trimmed : ∀ (l : List (QueuedBlock × AudioFrame)) (t : TrimmedOutput), t.Trimmed →
    (∀ p ∈ l, p.2.filledBytes % t.pcm.sampleBytes = 0 ∧ p.2.filledBytes < u32) →
    eosExpected t.pcm.sampleBytes t.left l t.out.d = true → (t.deliver l).1.Trimmed ∧ SameStream t (t.deliver l).1
  | [], t, h, _, _ => ⟨h, rfl, rfl, rfl⟩
  | (q, f) :: rest, t, h, hwhole, heos => by
    obtain ⟨hf, hsize⟩ := hwhole _ List.mem_cons_self
    have hrest : ∀ p ∈ rest, p.2.filledBytes % t.pcm.sampleBytes = 0 ∧ p.2.filledBytes < u32 :=
      fun p hp => hwhole p (List.mem_cons_of_mem _ hp)
    simp only [deliver, eosExpected] at heos ⊢
    split
    · exact ⟨h.congr rfl rfl rfl (.inr rfl), rfl, rfl, rfl⟩
    next hrate =>
    rw [if_neg hrate] at heos
    cases hbuffer : f.buffer with
    | none =>
      simp only [hbuffer] at heos
      exact deliver_trimmed rest t h hrest heos
    | some b =>
      simp only [hbuffer] at heos
      dsimp only
      -- a frame that is returned, in either of the two branches
      have hreturn : ∀ out : AudioOutput,
          eosExpected t.pcm.sampleBytes (t.left - f.filledBytes / t.pcm.sampleBytes) rest
            (out.returnFrame q f b (t.out.d.takeTracked f.pts).2.1).d = true →
          let t₁ := returnFrame q f b (t.out.d.takeTracked f.pts).2.1 { t.trimFrame f.filledBytes b with out }
          (t₁.deliver rest).1.Trimmed ∧ SameStream t (t₁.deliver rest).1 := by
        intro out hout t₁
        obtain ⟨htrimmed, hleft⟩ := h.returnFrame hf hsize out q b (t.out.d.takeTracked f.pts).2.1
        obtain ⟨hdone, hsame⟩ := deliver_trimmed rest t₁ htrimmed hrest (by rw [hleft]; exact hout)
        have hfirst : SameStream t t₁ := ⟨rfl, rfl, rfl⟩
        exact ⟨hdone, hfirst.trans hsame⟩
      split
      · next hflag =>
        rw [if_pos hflag] at heos
        split
        · next hpending =>
          rw [if_pos hpending] at heos
          exact hreturn _ heos
        · next hfatal =>
          -- the frame stays with Nexus, which does not matter if it lost nothing
          rw [if_neg hfatal, decide_eq_true_iff] at heos
          refine ⟨h.congr rfl rfl ?_ (.inr rfl), rfl, rfl, rfl⟩
          change t.codecDelayAdjusted + t.delaySamples f.filledBytes = _
          rw [delaySamples_eq, heos, Int.natCast_zero, Int.add_zero]
      · next hflag =>
        rw [if_neg hflag] at heos
        exact hreturn _ heos

/-- The end of the stream is padded with what the frames lost, in 32 bits. -/
structure Padded (t : TrimmedOutput) : Prop where
  ended : t.eosHeader.isSome → t.out.d.eosDelivered = true
  length : ∀ h, t.eosHeader = some h → h.nFilledLen = t.dropped.sum * t.pcm.sampleBytes % u32

/-- What holds between two steps. -/
structure Stream (t : TrimmedOutput) : Prop extends Trimmed t, Padded t

theorem Padded.of_none (h : t.eosHeader = none) : t.Padded where
  ended hsome := by
    rw [h] at hsome
    cases hsome
  length _ hsome := by
    rw [h] at hsome
    cases hsome

theorem deliverEos_stream (h : t.Trimmed) (r : AudioReport) (b : BufferId) : (t.deliverEos r b).Stream where
  toTrimmed := h.congr rfl rfl rfl (.inr rfl)
  ended _ := rfl
  length := by
    rintro header hheader
    obtain rfl := Option.some.inj hheader
    have hlength : (if t.codecDelayAdjusted > 0 then t.sampleLength t.codecDelayAdjusted else 0) =
        t.dropped.sum * t.pcm.sampleBytes % u32 := by
      have hadjusted := h.adjusted
      split
      · rw [sampleLength, hadjusted, Int.toNat_natCast]
      · have hzero : t.dropped.sum = 0 := by omega
        rw [hzero, Nat.zero_mul, Nat.zero_mod]
    exact hlength

theorem mem_reported {frames : List AudioFrame} {out : AudioOutput} {p : QueuedBlock × AudioFrame}
    (h : p ∈ out.reported frames) : ∃ f ∈ frames, p.2.filledBytes = f.filledBytes := by
  obtain ⟨⟨q, f⟩, hmem, rfl⟩ := List.mem_map.mp h
  exact ⟨f, (List.of_mem_zip hmem).2, rfl⟩

theorem pollDecodedFrames_stream (h : t.Stream) {r : AudioReport} (hwhole : t.wholeFrames r = true)
    (heos : ∀ frames ∈ r.frames, eosExpected t.pcm.sampleBytes t.left (t.out.reported frames) t.out.d = true) :
    (t.pollDecodedFrames r).Stream := by
  simp only [pollDecodedFrames]
  split
  · exact h
  next hquiet =>
  have hnone : t.eosHeader = none := by
    cases hheader : t.eosHeader with
    | none => rfl
    | some header =>
      have := h.ended (by rw [hheader]; rfl)
      simp [this] at hquiet
  split
  case isFalse => exact h
  cases hframes : r.frames with
  | none => exact h
  | some frames =>
    have hall : ∀ p ∈ t.out.reported frames,
        p.2.filledBytes % t.pcm.sampleBytes = 0 ∧ p.2.filledBytes < u32 := by
      intro p hp
      obtain ⟨f, hf, hsame⟩ := mem_reported hp
      have hone := List.all_eq_true.mp hwhole f (by rw [hframes]; exact hf)
      simpa [hsame] using hone
    obtain ⟨hdone, hsame⟩ := deliver_trimmed _ t h.toTrimmed hall (heos frames hframes)
    have hdeliver : (t.deliver (t.out.reported frames)).1.Stream :=
      { toTrimmed := hdone, toPadded := .of_none (hsame.eosHeader.trans hnone) }
    dsimp only
    split
    · exact hdeliver
    split
    · split
      · exact deliverEos_stream hdone r _
      · exact hdeliver
    · exact hdeliver

/-! ### Runs -/

/-- A poll returns every frame that it trims, and the sample size stays as it is once something was trimmed. -/
def regular (t : TrimmedOutput) : TrimmedAction → Bool
  | .outputFrameEvent r =>
    r.frames.all fun frames => eosExpected t.pcm.sampleBytes t.left (t.out.reported frames) t.out.d
  | .setPcm _ pcm => t.codecDelayAdjusted = 0 || pcm.sampleBytes = t.pcm.sampleBytes
  | _ => true

theorem Stream.congr (h : t.Stream) (hframes : t'.frames = t.frames) (hdelay : t'.codecDelay = t.codecDelay)
    (hadjusted : t'.codecDelayAdjusted = t.codecDelayAdjusted) (heos : t'.eosHeader = t.eosHeader)
    (hended : t'.out.d.eosDelivered = t.out.d.eosDelivered)
    (hpcm : t.dropped.sum = 0 ∨ t'.pcm.sampleBytes = t.pcm.sampleBytes) : t'.Stream where
  toTrimmed := h.toTrimmed.congr hframes hdelay hadjusted hpcm
  ended := by
    rw [heos, hended]
    exact h.ended
  length header hheader := by
    have hdropped : t'.dropped = t.dropped := congrArg (List.map ReturnedFrame.dropped) hframes
    rw [h.length header (heos ▸ hheader), hdropped]
    rcases hpcm with hzero | hsame
    · rw [hzero, Nat.zero_mul, Nat.zero_mul]
    · rw [hsame]

theorem step_stream {a : TrimmedAction} (h : t.Stream) (hok : t.regular a = true) (hstep : t.step a = some t') : t'.Stream := by
  cases a with
  | outputFrameEvent r =>
    obtain ⟨hwhole, rfl⟩ := Option.ite_some_none_eq_some.mp hstep
    exact pollDecodedFrames_stream h hwhole (Option.all_eq_true _ _ |>.mp hok)
  | fillThisBuffer accepted b =>
    obtain ⟨-, rfl⟩ := Option.ite_some_none_eq_some.mp hstep
    refine h.congr rfl rfl rfl rfl ?_ (.inr rfl)
    simp only [fillThisBuffer, AudioOutput.fillThisBuffer, AudioDecoder.fillThisBuffer]
    split <;> rfl
  | allocateOutputBuffer b block nSizeBytes =>
    obtain ⟨_, -, rfl⟩ := Option.map_eq_some_iff.mp hstep
    refine h.congr rfl rfl rfl rfl ?_ (.inr rfl)
    simp only [addOutputBuffer, AudioOutput.addOutputBuffer, AudioDecoder.addOutputBuffer]
    split <;> split <;> rfl
  | setPcm sampleRate pcm =>
    cases hstep
    simp only [regular, Bool.or_eq_true, decide_eq_true_eq] at hok
    refine h.congr rfl rfl rfl rfl rfl (hok.imp_left fun hzero => ?_)
    have hadjusted := h.adjusted
    omega
  | output a =>
    obtain ⟨ha, hmap⟩ := Option.ite_none_right_eq_some.mp hstep
    obtain ⟨out, hout, rfl⟩ := Option.map_eq_some_iff.mp hmap
    exact h.congr rfl rfl rfl rfl (AudioOutput.step_eosDelivered ha hout) (.inr rfl)

theorem startDecoder_stream {n : AudioDecoder.StartResult} (h : t.startDecoder n = (t', true)) : t'.Stream := by
  simp only [startDecoder] at h
  split at h
  · next hfailed =>
    have hsnd := (Prod.mk.inj h).2
    simp only [AudioOutput.startDecoder, if_pos hfailed, Bool.false_eq_true] at hsnd
  · obtain ⟨rfl, -⟩ := Prod.mk.inj h
    exact
      { whole := by
          intro e he
          cases he
        trims := rfl
        adjusted := rfl
        bytes := (Nat.zero_mul _).symm
        toPadded := .of_none rfl }

/-! ### The balance -/

/-- The compensation is balanced: as many samples are dropped as the delay has, all from the front of the stream, each
    counted once; and the end of the stream makes up for them within its buffer. -/
structure Balanced (t : TrimmedOutput) : Prop where
  dropped : t.dropped.sum = min t.codecDelay.toNat t.samples.sum
  front : ∀ before e after, t.frames = before ++ e :: after → 0 < e.nOffset →
    ∀ e' ∈ before, e'.nOffset = e'.filledBytes
  counted : t.codecDelayAdjusted = (t.dropped.sum : Nat)
  whole : ∀ e ∈ t.frames, e.Whole
  padding : ∀ h, t.eosHeader = some h → h.nFilledLen = (t.frames.map ReturnedFrame.nOffset).sum ∧
    h.nFilledLen ≤ h.nAllocLen.toNat ∧
    (t.frames.map ReturnedFrame.nFilledLen).sum + h.nFilledLen = (t.frames.map ReturnedFrame.filledBytes).sum

theorem Trimmed.front (h : t.Trimmed) {before after : List ReturnedFrame} {e : ReturnedFrame}
    (hsplit : t.frames = before ++ e :: after) (hpos : 0 < e.nOffset) : ∀ e' ∈ before, e'.nOffset = e'.filledBytes := by
  have htrims := h.trims
  simp only [dropped, samples, hsplit, List.map_append, List.map_cons, trims_append, Lib.trims] at htrims
  obtain ⟨hbefore, hrest⟩ := List.append_inj htrims (by simp)
  have he : e.dropped = min (t.codecDelay.toNat - (before.map ReturnedFrame.samples).sum) e.samples :=
    (List.cons.inj hrest).1
  have hlost : 0 < e.dropped := by
    have hoffset := (h.whole e (by simp [hsplit])).offset
    refine Nat.pos_of_ne_zero fun hzero => ?_
    rw [hzero, Nat.zero_mul] at hoffset
    omega
  rw [trims_eq_self (by omega)] at hbefore
  intro e' he'
  have hwhole := h.whole e' (by simp [hsplit, he'])
  obtain ⟨i, hi, rfl⟩ := List.getElem_of_mem he'
  have hsame := congrArg (fun l : List Nat => l[i]?) hbefore
  simp only [List.getElem?_map, List.getElem?_eq_getElem hi, Option.map_some, Option.some.injEq] at hsame
  rw [← hwhole.offset, hsame, hwhole.filled]

theorem Trimmed.delivered (h : t.Trimmed) : (t.frames.map ReturnedFrame.nFilledLen).sum +
    (t.frames.map ReturnedFrame.nOffset).sum = (t.frames.map ReturnedFrame.filledBytes).sum := by
  have hall : ∀ l : List ReturnedFrame, (∀ e ∈ l, e.Whole) → (l.map ReturnedFrame.nFilledLen).sum +
      (l.map ReturnedFrame.nOffset).sum = (l.map ReturnedFrame.filledBytes).sum := by
    intro l hl
    induction l with
    | nil => rfl
    | cons e rest ih =>
      have he := (hl e List.mem_cons_self).lengths
      have hrest := ih fun e' he' => hl e' (List.mem_cons_of_mem _ he')
      simp only [List.map_cons, List.sum_cons]
      omega
  exact hall t.frames h.whole

/-- Between the start of the decoder and the end of the stream the compensation is balanced exactly as long as the samples
    that were dropped fit the first buffer that is queued at the end. -/
theorem codecDelay_balanced_iff (t₀ t t' : TrimmedOutput) (n : AudioDecoder.StartResult)
    (hstart : t₀.startDecoder n = (t, true)) (hrun : Reaches step (fun t a => t.regular a = true) t t') :
    t'.Balanced ↔ ∀ h, t'.eosHeader = some h →
      min t'.codecDelay.toNat t'.samples.sum * t'.pcm.sampleBytes ≤ h.nAllocLen.toNat := by
  have hstream : t'.Stream :=
    hrun.invariant (P := Stream) (startDecoder_stream hstart) fun _ _ _ h hok hstep => step_stream h hok hstep
  have hsum : t'.dropped.sum = min t'.codecDelay.toNat t'.samples.sum := by rw [hstream.trims, sum_trims]
  constructor
  · intro hbalanced h hheader
    obtain ⟨hlength, hfits, -⟩ := hbalanced.padding h hheader
    rw [← hsum, ← hstream.bytes, ← hlength]
    exact hfits
  · intro hfits
    refine ⟨hsum, fun _ _ _ => hstream.front, hstream.adjusted, hstream.whole, fun h hheader => ?_⟩
    have hfit := hfits h hheader
    have hsmall : t'.dropped.sum * t'.pcm.sampleBytes < u32 := by
      rw [hsum]
      exact Nat.lt_of_le_of_lt hfit h.nAllocLen.toNat_lt
    have hlength : h.nFilledLen = t'.dropped.sum * t'.pcm.sampleBytes := by
      rw [hstream.length h hheader, Nat.mod_eq_of_lt hsmall]
    have hbytes := hstream.bytes
    have hdelivered := hstream.delivered
    rw [hsum] at hlength hbytes
    omega

/-- An MP3 decoder with a codec delay of 3000 samples, before its start. -/
def mp3Stream : TrimmedOutput :=
  let d := AudioDecoder.init .mp3 false
    { nPortIndex := 0, nBufferCountActual := 1, nBufferCountMin := 1, nBufferSize := 8192 }
    { nPortIndex := 1, nBufferCountActual := 1, nBufferCountMin := 1, nBufferSize := 8192 }
  { out :=
      { d := { d with inp := d.inp.openPlaypump }, nexusOwned := fun _ => false, hMemoryBlock := fun _ => 0, nexus := {}
        portCommand := none, returned := [], asserts := [] }
    codecDelay := getCodecDelay 3000 0 .mp3
    pcm := { bitsPerSample := 16, numPcmChannels := 2, hbits := by decide, hchannels := by decide }
    codecDelayAdjusted := 0, header := fun _ => {}, frames := [], eosHeader := none }

/-- Output buffer 20 of `nSizeBytes` bytes is filled with three frames of 1152 samples; the end of the stream comes in
    input buffer 10. -/
def mp3Actions (nSizeBytes : UInt32) : List TrimmedAction :=
  let fill : TrimmedAction := .fillThisBuffer true 20
  let frame : TrimmedAction := .outputFrameEvent { frames := some [{ filledBytes := 4608, sampleRate := 44100 }] }
  [.setPcm 44100 { bitsPerSample := 16, numPcmChannels := 2, hbits := by decide, hchannels := by decide },
   .allocateOutputBuffer 20 7 nSizeBytes, .output (.input (.allocateInputBuffer 10 64 false)),
   fill, frame, fill, frame, fill, frame, fill,
   .output (.input (.emptyThisBuffer {} 10 { nAllocLen := 64, nFlags := { eos := true } } {})),
   .outputFrameEvent { drained := true }]

theorem codecDelay_balanced_fitting : ∃ t', Reaches step (fun t a => t.regular a = true) (mp3Stream.startDecoder {}).1 t' ∧
    t'.eosHeader = some { nAllocLen := 16384, nOffset := 0, nFilledLen := 12000 } ∧ t'.Balanced := by
  obtain ⟨t', hrun, hend⟩ := Reaches.exists_of_run step regular (mp3Stream.startDecoder {}).1 (mp3Actions 16384)
    (fun t => t.eosHeader = some { nAllocLen := 16384, nOffset := 0, nFilledLen := 12000 } &&
      t.samples = [1152, 1152, 1152] && t.codecDelay = 3000 && t.pcm.sampleBytes = 4) (by decide)
  simp only [Bool.and_eq_true, decide_eq_true_eq] at hend
  obtain ⟨⟨⟨hheader, hsamples⟩, hdelay⟩, hpcm⟩ := hend
  refine ⟨t', hrun, hheader, (codecDelay_balanced_iff mp3Stream _ t' {} rfl hrun).mpr ?_⟩
  intro h hh
  rw [hheader] at hh
  obtain rfl := Option.some.inj hh
  rw [hsamples, hdelay, hpcm]
  decide

/-- The 12000 bytes that were trimmed are written into a buffer of 8192 bytes. -/
theorem codecDelay_not_balanced : ∃ t', Reaches step (fun t a => t.regular a = true) (mp3Stream.startDecoder {}).1 t' ∧
    t'.eosHeader = some { nAllocLen := 8192, nOffset := 0, nFilledLen := 12000 } ∧ ¬t'.Balanced := by
  obtain ⟨t', hrun, hend⟩ := Reaches.exists_of_run step regular (mp3Stream.startDecoder {}).1 (mp3Actions 8192)
    (fun t => t.eosHeader = some { nAllocLen := 8192, nOffset := 0, nFilledLen := 12000 }) (by decide)
  have hheader := of_decide_eq_true hend
  refine ⟨t', hrun, hheader, fun hbalanced => ?_⟩
  have hfits := (hbalanced.padding _ hheader).2.1
  revert hfits
  decide

end TrimmedOutput
end BcmPlatform.Bomx
