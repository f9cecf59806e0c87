import BcmPlatform.Bomx.ConfigHistory
import BcmPlatform.Theorems.EmptyAtomic

/-! What the steps of the video decoder do to the cached config and its state. Only `EmptyThisBuffer`, an input flush
    and a change to Idle touch them. -/

namespace BcmPlatform.Bomx
open Lib
namespace InputSide
variable {s s' : InputSide} {b : BufferId} {codec : VideoCodec} {size : Nat}

/-- The cached config and its state. -/
def config (s : InputSide) : List UInt8 × ConfigBufferState := (s.configBuffer, s.configBufferState)

theorem alogAssert_config (cond : Bool) (a : InputAssert) : (s.alogAssert cond a).config = s.config := by
  unfold alogAssert
  split <;> rfl

theorem returnPortBuffers_config : s.returnPortBuffers.config = s.config := by
  have he := returnPortBuffers_emptied s
  rw [config, config, he.rest]

theorem returnInputBuffers_config (ticks : Ticks) (mode : ReturnMode) :
    (s.returnInputBuffers ticks mode).config = s.config := by
  obtain ⟨k, hr, -⟩ := returnInputBuffers_returned ticks mode s
  rw [config, config, hr.rest]

theorem playpumpEvent_config (fifoPts : Option Nat) : (s.playpumpEvent fifoPts).config = s.config := by
  have hm := playpumpEvent_marked fifoPts s
  rw [config, config, hm.rest]

theorem addBuffer_config (nSizeBytes : Nat) (componentAllocated : Bool) :
    (s.addBuffer codec b nSizeBytes componentAllocated).1.config = s.config := by
  simp only [addBuffer, addInputPortBuffer]
  split
  · rfl
  · split <;> rfl

theorem freeBuffer_config : (s.freeBuffer b).1.config = s.config := by
  simp only [freeBuffer]
  split <;> rfl

theorem queueInputBuffer_config : (s.queueInputBuffer b).1.config = s.config := by
  have hnew : s.inputBufferNew.config = s.config := alogAssert_config _ _
  simp only [queueInputBuffer]
  split <;> exact hnew

theorem submit_config {accepted : Bool} {n : Nat} (h : s.submit accepted b n = some s') : s'.config = s.config := by
  have hs := submit_sent h
  rw [config, config, hs.rest]

theorem emptyEos_config (accepted : Bool) : (s.emptyEos accepted b).1.config = s.config := by
  simp only [emptyEos]
  split
  · rfl
  · next s₁ hsub =>
    have hsame : s₁.config = s.config := submit_config hsub
    exact hsame

theorem stop_config : s.stop.config = s.config := by
  simp only [stop]
  change (returnPortBuffers _).config = _
  rw [returnPortBuffers_config]
  rfl

/-! ### Flush -/

theorem commandFlush_config (stopped : Bool) (fifoPts : Option Nat) :
    (s.commandFlush stopped fifoPts).config =
      if s.port.isEnabled && s.port.isPopulated && s.hPlaypump then (s.configBuffer, .flushed) else s.config := by
  simp only [commandFlush]
  split
  · refine Prod.ext ?_ rfl
    have hflush : ({ ({ s with inputFlushing := true } : InputSide).playpumpFlush stopped with
        eosPending := false, ptsReceived := false } : InputSide).config = s.config := by
      simp only [playpumpFlush]
      split <;> rfl
    have hall : ∀ s₁ : InputSide, s₁.config = s.config →
        (((s₁.playpumpEvent fifoPts).alogAssert ((s₁.playpumpEvent fifoPts).submittedDescriptors = 0)
          .noneSubmittedAfterFlush).returnInputBuffers 0 .all).config = s.config := by
      intro s₁ h
      rw [returnInputBuffers_config, alogAssert_config, playpumpEvent_config, h]
    have hsame := congrArg Prod.fst (hall _ hflush)
    exact hsame
  · exact returnPortBuffers_config

/-! ### Config data -/

theorem emptyConfig_overflow (h : size < s.startConfig.configBuffer.length + (s.buffer b).header.nFilledLen) :
    s.emptyConfig size b = (s.startConfig, .overflow) := by
  have hbuffer : s.startConfig.buffer = s.buffer := by
    unfold startConfig
    split <;> rfl
  simp only [emptyConfig]
  rw [← startConfig, configBufferAppend, hbuffer, BufferHeader.length_payload, if_pos h, if_neg OmxError.noConfusion]

theorem queueBuffer_ne_overflow {p : Port} {err : OmxError} (h : p.queueBuffer b = .error err) : err ≠ .overflow := by
  unfold Port.queueBuffer at h
  split at h
  · cases h
    decide
  · split at h
    · cases h
      decide
    · cases h

theorem emptyConfig_appended (h : ¬ size < s.startConfig.configBuffer.length + (s.buffer b).header.nFilledLen) :
    (s.emptyConfig size b).1.config = (s.startConfig.configBuffer ++ (s.buffer b).header.payload, .accumulating) ∧
      (s.emptyConfig size b).2 ≠ .overflow := by
  have hbuffer : s.startConfig.buffer = s.buffer := by
    unfold startConfig
    split <;> rfl
  have hstate : s.startConfig.configBufferState = .accumulating := by
    unfold startConfig
    split
    · rfl
    · next hacc => exact not_not.mp hacc
  simp only [emptyConfig]
  rw [← startConfig, configBufferAppend, hbuffer, BufferHeader.length_payload, if_neg h, if_pos rfl]
  constructor
  · rw [queueInputBuffer_config, config, hstate]
  · simp only [queueInputBuffer]
    split
    · exact OmxError.noConfusion
    · next err hq => exact queueBuffer_ne_overflow hq

/-! ### Frames -/

theorem emptyFrame_config (codec : VideoCodec) (accepted : Bool) :
    (s.emptyFrame codec accepted b).1.config =
      (s.configBuffer, (s.builtFrame codec b).2.1.configBufferState) := by
  obtain ⟨-, hconfig, -⟩ := trackFrame_rest (s := s) (b := b) codec
  simp only [emptyFrame]
  rw [← builtFrame]
  split
  · exact Prod.ext hconfig rfl
  · split
    · exact Prod.ext hconfig rfl
    · next s₂ hsub =>
      rw [queueInputBuffer_config, submit_config hsub]
      exact Prod.ext hconfig rfl

/-! ### The whole call -/

theorem builtFrame_resetBuffer : (s.resetBuffer b).builtFrame codec b = s.builtFrame codec b := by
  have hinfo : ∀ s : InputSide, (s.trackFrame codec b).builder b = s.builder b := fun s =>
    (trackFrame_rest (s := s) (b := b) codec).2.2.2.2.2.2
  have hbuilder : (s.resetBuffer b).builder b = s.builder b := by simp [builder, resetBuffer, setBuffer]
  have hpts : (((s.resetBuffer b).trackFrame codec b).buffer b).pts = ((s.trackFrame codec b).buffer b).pts := by
    simp only [trackFrame, resetBuffer, setBuffer, Function.update_self]
    split <;> simp
  obtain ⟨hrec, -, -, hmax, -⟩ := trackFrame_rest (s := s) (b := b) codec
  obtain ⟨hrec', -, -, hmax', -⟩ := trackFrame_rest (s := s.resetBuffer b) (b := b) codec
  simp only [builtFrame]
  rw [hinfo, hinfo, hbuilder, hpts, hrec, hrec', hmax, hmax']
  simp [resetBuffer, setBuffer]

theorem emptyThisBuffer_codecConfig (codec : VideoCodec) (submit : SubmitResult)
    (haccept : headerAccepted (s.buffer b).header = true) (hflag : (s.buffer b).header.nFlags.codecConfig = true) :
    s.emptyThisBuffer codec submit b = (s.resetBuffer b).emptyConfig codecConfigBufferSize b := by
  simp only [emptyThisBuffer, emptyBuffer, haccept, hflag, Bool.not_true, Bool.false_eq_true, if_false, if_true]
  rfl

/-- What `EmptyThisBuffer` does to the config: nothing if it refuses the header or there is no data, otherwise what
    config data or a frame does. -/
theorem emptyThisBuffer_config (codec : VideoCodec) (submit : SubmitResult) :
    (s.emptyThisBuffer codec submit b).1.config =
      if headerAccepted (s.buffer b).header = false then s.config
      else if (s.buffer b).header.nFlags.codecConfig then ((s.resetBuffer b).emptyConfig codecConfigBufferSize b).1.config
      else if (s.buffer b).header.nFilledLen > 0 then (s.configBuffer, (s.builtFrame codec b).2.1.configBufferState)
      else s.config := by
  have hend : ∀ p : InputSide × OmxError, (if p.2 ≠ .none then p
      else if (s.buffer b).header.nFlags.eos then p.1.emptyEos submit.eos b else p).1.config = p.1.config := by
    intro p
    split
    · rfl
    · split
      · exact emptyEos_config _
      · rfl
  have hheader : ((s.resetBuffer b).buffer b).header = (s.buffer b).header := by simp [resetBuffer, setBuffer]
  simp only [emptyThisBuffer, emptyBuffer]
  rw [← resetBuffer]
  by_cases haccept : headerAccepted (s.buffer b).header = true
  · simp only [haccept, Bool.not_true, Bool.false_eq_true, Bool.true_eq_false, if_false]
    split
    · rfl
    · split
      · rw [hend, emptyFrame_config, builtFrame_resetBuffer]
        rfl
      · rw [hend, queueInputBuffer_config]
        rfl
  · simp [haccept]

end InputSide

namespace VideoDecoder
open InputSide
variable {d : VideoDecoder} {n : StartResult} {r : PollResult}

theorem polled_config {i j : InputSide} (h : Polled i j) : j.config = i.config := by
  refine h.keeps (P := fun j => j.config = i.config) (fun _ _ _ hj => hj) (fun j ticks hj => ?_) rfl
  rw [returnInputBuffers_config, hj]

theorem startDecoder_config : (d.startDecoder n r).1.inp.config = d.inp.config := by
  simp only [startDecoder]
  split
  · rfl
  · split
    · rfl
    · split
      · have hpoll := polled_config (pollDecodedFrames_inp (r := r)
          (rfl : ({ d with inp := d.inp.start, out := d.out.nexusStart } : VideoDecoder).inp = _))
        exact hpoll
      · rfl

theorem setInputPortState_config (newState : OmxState) :
    (d.setInputPortState newState n r).1.inp.config = d.inp.config := by
  simp only [setInputPortState]
  split
  · split <;> rfl
  · split
    · rfl
    · have hacquired : (if d.out.hSimpleVideoDecoder = true then d else d.acquire).inp.config = d.inp.config := by
        split <;> rfl
      generalize (if d.out.hSimpleVideoDecoder = true then d else d.acquire) = d₁ at hacquired ⊢
      split
      · split
        · exact stop_config.trans hacquired
        · exact hacquired
      · split
        · exact hacquired
        · exact startDecoder_config.trans hacquired
      · exact hacquired
      · exact hacquired

theorem setOutputPortState_config (newState : OmxState) :
    (d.setOutputPortState newState r).inp.config = d.inp.config :=
  polled_config (setOutputPortState_inp newState rfl)

theorem endStateChange_config (ok : Bool) : (d.endStateChange ok).inp.config = d.inp.config := by
  unfold endStateChange
  split <;> rfl

theorem disableInput_config : (d.disableInput n r).inp.config = d.inp.config := by
  simp only [disableInput]
  rw [returnPortBuffers_config, setInputPortState_config]
  rfl

theorem disableOutput_config : (d.disableOutput r).inp.config = d.inp.config := by
  have hset := setOutputPortState_config (d := { d with out := { d.out with port := d.out.port.disabled } }) (r := r) .loaded
  exact hset

theorem setRunning_config (newState : OmxState) (r' : PollResult) :
    (d.setRunning newState n r r').inp.config = d.inp.config := by
  have hout : (if d.out.port.isPopulated && d.out.port.isEnabled then d.setOutputPortState newState r else d).inp.config =
      d.inp.config := by
    split
    · exact setOutputPortState_config newState
    · rfl
  simp only [setRunning]
  generalize (if d.out.port.isPopulated && d.out.port.isEnabled then d.setOutputPortState newState r else d) = d₁
    at hout ⊢
  split
  · rw [endStateChange_config, setInputPortState_config, hout]
  · rw [endStateChange_config, hout]

theorem setIdle_config : (d.setIdle n r).inp.config = ([], .accumulating) := by
  have hout : ∀ d₁ : VideoDecoder, (if d₁.out.port.isPopulated then d₁.setOutputPortState .idle r else d₁).inp.config =
      d₁.inp.config := by
    intro d₁
    split
    · exact setOutputPortState_config .idle
    · rfl
  simp only [setIdle]
  rw [endStateChange_config, hout]
  split
  · exact setInputPortState_config .idle
  · rfl

theorem setLoaded_config : (d.setLoaded n r).inp.config = d.inp.config := by
  simp only [setLoaded]
  split
  · exact disableInput_config
  · rfl

theorem commandStateSet_config (newState : OmxState) (r' : PollResult) :
    (d.commandStateSet newState n r r').inp.config =
      if newState = .idle ∧ d.stateChangeAllowed .idle = true then ([], .accumulating) else d.inp.config := by
  simp only [commandStateSet]
  by_cases hallowed : d.stateChangeAllowed newState = true
  · simp only [hallowed, Bool.not_true, Bool.false_eq_true, if_false]
    cases newState with
    | loaded => exact setLoaded_config
    | idle =>
      simp only [true_and, hallowed, if_true]
      split
      · rfl
      · exact setIdle_config
    | executing => exact setRunning_config _ _
    | pause => exact setRunning_config _ _
    | waitForResources => exact endStateChange_config false
    | invalid => exact endStateChange_config false
  · rw [if_pos (by simpa using hallowed), if_neg]
    rintro ⟨rfl, h⟩
    exact hallowed h

theorem setIdleFromLoaded_config : (d.setIdleFromLoaded n r).inp.config = d.inp.config := by
  have hout : (if d.out.port.isPopulated && d.out.port.isEnabled then d.setOutputPortState .idle r else d).inp.config =
      d.inp.config := by
    split
    · exact setOutputPortState_config .idle
    · rfl
  simp only [setIdleFromLoaded]
  generalize (if d.out.port.isPopulated && d.out.port.isEnabled then d.setOutputPortState .idle r else d) = d₁
    at hout ⊢
  have hset := setInputPortState_config (d := d₁) (n := n) (r := r) .idle
  split
  · split
    · rw [endStateChange_config, hset, hout]
    · rw [endStateChange_config]
      exact hset.trans hout
  · rw [endStateChange_config, hout]

theorem resume_config (timeout : Bool) : (d.resume timeout n r).inp.config = d.inp.config := by
  simp only [resume]
  split
  · rfl
  · split
    · exact setIdleFromLoaded_config
    · split
      · exact endStateChange_config false
      · rfl
  · split
    · split
      · exact disableOutput_config (d := d) (r := r)
      · rfl
    · split
      · exact endStateChange_config false
      · rfl
  · split
    · exact endStateChange_config true
    · split
      · exact endStateChange_config false
      · rfl

end VideoDecoder
end BcmPlatform.Bomx
