import BcmPlatform.Bomx.VideoStep
import BcmPlatform.Lib.Runs
import BcmPlatform.Theorems.DecoderFlags
import BcmPlatform.Theorems.EmptyThisBuffer
import BcmPlatform.Theorems.InputAccounting

/-! What the steps of the video decoder do to its input side, as rules: a property of the input side that each of its
    operations keeps is kept by every step of the decoder. Some operations need a condition, which is a condition on the step
    then. A poll for decoded frames can change the tracker and the pending end of stream, and return input buffers by time
    stamp. -/

namespace BcmPlatform.Bomx

/-- The effect of a poll on the input side. -/
inductive Polled : InputSide → InputSide → Prop where
  | refl (i : InputSide) : Polled i i
  | track {i j : InputSide} (tracker : BufferTracker) (eosPending : Bool) :
      Polled i j → Polled i { j with tracker, eosPending }
  | back {i j : InputSide} (ticks : Ticks) : Polled i j → Polled i (j.returnInputBuffers ticks .timestamp)

namespace Polled

theorem trans {i j k : InputSide} (h : Polled i j) (h' : Polled j k) : Polled i k := by
  induction h' with
  | refl => exact h
  | track t e _ ih => exact ih.track t e
  | back ticks _ ih => exact ih.back ticks

theorem keeps {P : InputSide → Prop} (htrack : ∀ i t e, P i → P { i with tracker := t, eosPending := e })
    (hback : ∀ i ticks, P i → P (i.returnInputBuffers ticks .timestamp)) {i j : InputSide} (h : Polled i j)
    (hi : P i) : P j := by
  induction h with
  | refl => exact hi
  | track t e _ ih => exact htrack _ t e ih
  | back ticks _ ih => exact hback _ ticks ih

end Polled

namespace VideoDecoder
variable {d : VideoDecoder} {f : FrameBuffer} {b : BufferId} {r : PollResult} {i : InputSide}

-- the state before is given up to its input side, which is all that counts here

theorem prepareHeader_inp : Polled d.inp (d.prepareHeader f b).inp :=
  (Polled.refl d.inp).track _ d.inp.eosPending

theorem takeEos_inp {d' : VideoDecoder} (h : d.takeEos f b = some d') (hi : d.inp = i) : Polled i d'.inp := by
  subst hi
  simp only [takeEos] at h
  split at h
  · split at h
    · cases h
      exact (Polled.refl d.inp).track d.inp.tracker false
    · cases h
  · cases h
    exact .refl _

theorem deliverFrame_inp (hi : d.inp = i) : Polled i (d.deliverFrame f b).inp := by
  subst hi
  exact (Polled.refl d.inp).back _

theorem resetPort_inp : (d.resetPort f).inp = d.inp := by
  simp only [resetPort]
  split <;> rfl

theorem deliverRound_inp : Polled d.inp (d.deliverRound r f b).1.inp := by
  simp only [deliverRound]
  have hprep : Polled d.inp (d.prepareHeader f b).inp := prepareHeader_inp
  split
  · exact hprep
  · next d' heos =>
    have htake := hprep.trans (takeEos_inp heos rfl)
    split
    · exact htake.trans (deliverFrame_inp rfl)
    · split
      · rw [resetPort_inp]
        exact htake.track _ _
      · refine htake.trans ?_
        split <;> exact deliverFrame_inp rfl

theorem deliver_inp : ∀ (l : List FrameBuffer) (d : VideoDecoder), Polled d.inp (d.deliver r l).inp
  | [], d => .refl _
  | f :: rest, d => by
    simp only [deliver]
    split
    · exact .refl _
    · split
      · exact .refl _
      · next b _ =>
        have hround : Polled d.inp (d.deliverRound r f b).1.inp := deliverRound_inp
        split
        · exact hround.trans (deliver_inp rest _)
        · exact hround

theorem pollDecodedFrames_inp (hi : d.inp = i) : Polled i (d.pollDecodedFrames r).inp := by
  subst hi
  simp only [pollDecodedFrames]
  split
  · exact .refl _
  · split
    · exact deliver_inp _ { d with out := d.out.getDecodedFrames r.numFrames }
    · exact .refl _

theorem returnDecodedFrames_inp (hi : d.inp = i) : Polled i (d.returnDecodedFrames r).inp := by
  subst hi
  simp only [returnDecodedFrames]
  split
  · exact pollDecodedFrames_inp rfl
  · exact .refl _

theorem fillThisBuffer_inp (grallocSource : Bool) (pHandle : Option Nat) :
    Polled d.inp (d.fillThisBuffer r b grallocSource pHandle).1.inp := by
  simp only [fillThisBuffer]
  split
  · exact returnDecodedFrames_inp rfl
  · exact .refl _

theorem freeOutputBuffer_inp : Polled d.inp (d.freeOutputBuffer r b).1.inp := by
  simp only [freeOutputBuffer]
  split
  · exact returnDecodedFrames_inp rfl
  · exact .refl _

theorem displayFrameEvent_inp : Polled d.inp (d.displayFrameEvent r).inp := by
  simp only [displayFrameEvent]
  split
  · exact .refl _
  · split
    · exact returnDecodedFrames_inp rfl
    · exact .refl _

theorem flushOutput_inp : Polled d.inp (d.flushOutput r).inp := by
  simp only [flushOutput]
  split
  · refine Polled.track [] _ ?_
    exact returnDecodedFrames_inp rfl
  · exact .refl _

theorem setOutputPortState_inp (newState : OmxState) (hi : d.inp = i) :
    Polled i (d.setOutputPortState newState r).inp := by
  subst hi
  simp only [setOutputPortState]
  split
  · exact .refl _
  · exact .refl _
  · split
    · exact pollDecodedFrames_inp rfl
    · exact .refl _

end VideoDecoder
end BcmPlatform.Bomx

/-! ### The steps of the decoder -/

namespace BcmPlatform.Bomx

namespace InputSide
variable {s : InputSide} {b : BufferId}

/-! ### Operations that do not open or close the playpump -/

theorem addBuffer_hPlaypump (codec : VideoCodec) (nSizeBytes : Nat) (componentAllocated : Bool) :
    (s.addBuffer codec b nSizeBytes componentAllocated).1.hPlaypump = s.hPlaypump := by
  simp only [addBuffer, addInputPortBuffer]
  split
  · rfl
  · split <;> rfl

theorem freeBuffer_hPlaypump : (s.freeBuffer b).1.hPlaypump = s.hPlaypump := by
  simp only [freeBuffer]
  split <;> rfl

theorem playpumpEvent_hPlaypump (fifoPts : Option Nat) : (s.playpumpEvent fifoPts).hPlaypump = s.hPlaypump :=
  congrArg Prod.fst (playpumpEvent_marked fifoPts s).outline

theorem returnInputBuffers_hPlaypump (ticks : Ticks) (mode : ReturnMode) :
    (s.returnInputBuffers ticks mode).hPlaypump = s.hPlaypump :=
  congrArg Prod.fst (returnInputBuffers_outline ticks mode)

theorem commandFlush_hPlaypump (stopped : Bool) (fifoPts : Option Nat) :
    (s.commandFlush stopped fifoPts).hPlaypump = s.hPlaypump := by
  have hassert : ∀ (s : InputSide) (cond : Bool) (a : InputAssert), (s.alogAssert cond a).hPlaypump = s.hPlaypump := by
    intro s cond a
    unfold alogAssert
    split <;> rfl
  simp only [commandFlush]
  split
  · rw [returnInputBuffers_hPlaypump, hassert, playpumpEvent_hPlaypump]
    simp only [playpumpFlush]
    split <;> rfl
  · rw [(returnPortBuffers_emptied s).rest]

end InputSide

/-- The conditions under which buffers are allocated and emptied, and the input port is flushed and started. -/
structure InputConditions where
  allocate : InputSide → Prop := fun _ => True
  empty : InputSide → BufferId → BufferHeader → Prop := fun _ _ _ => True
  flush : InputSide → Prop := fun _ => True
  start : InputSide → Prop := fun _ => True

/-- The operations of the input side keep `P` under the conditions `C`, for a decoder of this codec. -/
structure InputRules (codec : VideoCodec) (C : InputConditions) (P : InputSide → Prop) : Prop where
  polled : ∀ {i j}, Polled i j → P i → P j
  polled_start : ∀ {i j}, Polled i j → C.start i → C.start j
  allocate : ∀ {i} b nSizeBytes componentAllocated, C.allocate i → P i →
    P (i.addBuffer codec b nSizeBytes componentAllocated).1
  empty : ∀ {i} submit b header, b ∈ i.port.bufferList → C.empty i b header → P i →
    P ((i.setBuffer b { i.buffer b with header }).emptyThisBuffer codec submit b).1
  free : ∀ {i} b, P i → P (i.freeBuffer b).1
  playpumpEvent : ∀ {i} fifoPts, P i → P (i.playpumpEvent fifoPts)
  timeout : ∀ {i}, P i → P i.inputBufferTimeoutCallback
  consume : ∀ {i} n, P i → P (i.consume n)
  flush : ∀ {i} stopped fifoPts, C.flush i → P i → P (i.commandFlush stopped fifoPts)
  config : ∀ {i}, P i → P i.configBufferInit
  acquire : ∀ {i}, i.hPlaypump = false → P i → P i.openPlaypump
  acquire_start : ∀ {i}, C.start i → C.start i.openPlaypump
  start : ∀ {i}, i.hPlaypump = true → C.start i → P i → P i.start
  startFailed : ∀ {i}, C.start i → P i → P { i with submittedDescriptors := 0, eosPending := false, ptsReceived := false }
  stop : ∀ {i}, i.hPlaypump = true → P i → P i.stop
  release : ∀ {i}, i.hPlaypump = true → P i → P i.release.returnPortBuffers
  returnPortBuffers : ∀ {i}, i.hPlaypump = false → P i → P i.returnPortBuffers
  portFlags : ∀ {i} (bEnabled bPopulated : Bool), P i →
    P { i with port := { i.port with definition := { i.port.definition with bEnabled, bPopulated } } }

namespace VideoDecoder

/-- The client submits a buffer that it owns. -/
def clientOwns (d : VideoDecoder) : VideoAction → Bool
  | .emptyThisBuffer _ b _ => b ∉ d.inp.port.bufferQueue
  | _ => true

/-- The conditions on a step. -/
def InputStepOk (C : InputConditions) (d : VideoDecoder) : VideoAction → Prop
  | .allocateInputBuffer .. => C.allocate d.inp
  | .emptyThisBuffer _ b header => C.empty d.inp b header
  | .flushInput .. => C.flush d.inp
  | .stateSet .executing .. => d.out.nexus.started = true ∨ C.start d.inp
  | _ => True

/-- The property of the input side; the playpump is open if and only if the decoder is acquired. -/
structure InputKept (codec : VideoCodec) (P : InputSide → Prop) (d : VideoDecoder) : Prop where
  inp : P d.inp
  codec : d.codec = codec
  coupled : d.inp.hPlaypump = d.out.hSimpleVideoDecoder

section
variable {codec : VideoCodec} {C : InputConditions} {P : InputSide → Prop} {d d' : VideoDecoder} {r : PollResult}

theorem polled_hPlaypump {i j : InputSide} (h : Polled i j) : j.hPlaypump = i.hPlaypump := by
  refine h.keeps (P := fun j => j.hPlaypump = i.hPlaypump) (fun _ _ _ hj => hj) (fun j ticks hj => ?_) rfl
  rw [InputSide.returnInputBuffers_hPlaypump, hj]

theorem InputKept.polled (rules : InputRules codec C P) (h : InputKept codec P d) (hinp : Polled d.inp d'.inp)
    (hflags : d'.flags = d.flags) : InputKept codec P d' := by
  refine ⟨rules.polled hinp h.inp, (codec_of_flags hflags).trans h.codec, ?_⟩
  rw [polled_hPlaypump hinp, h.coupled]
  exact (hSimpleVideoDecoder_of_flags hflags).symm

theorem InputKept.disabled (rules : InputRules codec C P) (h : InputKept codec P d) :
    InputKept codec P { d with inp := { d.inp with port := d.inp.port.disabled } } := by
  obtain ⟨bEnabled, bPopulated, heq⟩ := d.inp.port.disabled_eq
  rw [heq]
  exact ⟨rules.portFlags bEnabled bPopulated h.inp, h.codec, h.coupled⟩

theorem InputKept.reenable (rules : InputRules codec C P) (h : InputKept codec P d) (enabled : Bool) :
    InputKept codec P { d with inp := { d.inp with port := d.inp.port.reenabled enabled } } := by
  obtain ⟨bEnabled, bPopulated, heq⟩ := d.inp.port.reenabled_eq enabled
  rw [heq]
  exact ⟨rules.portFlags bEnabled bPopulated h.inp, h.codec, h.coupled⟩

theorem InputKept.congr (h : InputKept codec P d) (hinp : d'.inp = d.inp) (hcodec : d'.codec = d.codec)
    (hout : d'.out.hSimpleVideoDecoder = d.out.hSimpleVideoDecoder) : InputKept codec P d' :=
  ⟨by rw [hinp]; exact h.inp, hcodec.trans h.codec, by rw [hinp, hout, h.coupled]⟩

theorem InputKept.endStateChange (h : InputKept codec P d) (ok : Bool) : InputKept codec P (d.endStateChange ok) := by
  unfold VideoDecoder.endStateChange
  split
  · exact h.congr rfl rfl rfl
  · exact h.congr rfl rfl rfl

/-! ### State changes -/

theorem InputKept.acquire (rules : InputRules codec C P) (h : InputKept codec P d) :
    InputKept codec P (if d.out.hSimpleVideoDecoder then d else d.acquire) := by
  split
  · exact h
  · next hout =>
    have hclosed : d.inp.hPlaypump = false := by rw [h.coupled]; simpa using hout
    exact ⟨rules.acquire hclosed h.inp, h.codec, rfl⟩

theorem InputKept.startDecoder (rules : InputRules codec C P) (h : InputKept codec P d) (hopen : d.inp.hPlaypump = true)
    (hstart : C.start d.inp) (n : StartResult) : InputKept codec P (d.startDecoder n r).1 := by
  simp only [VideoDecoder.startDecoder]
  split
  · exact h
  · split
    · exact ⟨rules.startFailed hstart h.inp, h.codec, h.coupled⟩
    · have hstarted : InputKept codec P { d with inp := d.inp.start, out := d.out.nexusStart } :=
        ⟨rules.start hopen hstart h.inp, h.codec, h.coupled⟩
      split
      · exact hstarted.polled rules (pollDecodedFrames_inp rfl) (pollDecodedFrames_flags rfl)
      · exact hstarted

theorem InputKept.setInputPortState (rules : InputRules codec C P) (h : InputKept codec P d) (newState : OmxState)
    (hstate : newState ≠ .loaded) (hstart : newState = .executing → d.out.nexus.started = true ∨ C.start d.inp)
    (n : StartResult) : InputKept codec P (d.setInputPortState newState n r).1 := by
  have hacquire := h.acquire rules
  have hcond : newState = .executing → (if d.out.hSimpleVideoDecoder then d else d.acquire).out.nexus.started = true ∨
      C.start (if d.out.hSimpleVideoDecoder then d else d.acquire).inp := by
    intro hexec
    split
    · exact hstart hexec
    · rcases hstart hexec with hs | hs
      · exact .inl hs
      · exact .inr (rules.acquire_start hs)
  have hopen : (if d.out.hSimpleVideoDecoder then d else d.acquire).inp.hPlaypump = true := by
    split
    · next hout => rw [h.coupled, hout]
    · rfl
  simp only [VideoDecoder.setInputPortState, if_neg hstate]
  split
  · exact h
  · generalize (if d.out.hSimpleVideoDecoder then d else d.acquire) = d₁ at hacquire hcond hopen ⊢
    split
    · split
      · exact ⟨rules.stop hopen hacquire.inp, hacquire.codec, InputSide.stop_hPlaypump.trans hacquire.coupled⟩
      · exact hacquire
    · split
      · exact hacquire
      · next hnot =>
        rcases hcond rfl with hs | hs
        · exact absurd hs hnot
        · exact hacquire.startDecoder rules hopen hs n
    · exact hacquire
    · exact hacquire

theorem InputKept.disableInput (rules : InputRules codec C P) (h : InputKept codec P d) (n : StartResult) :
    InputKept codec P (d.disableInput n r) := by
  have hdis := h.disabled rules
  simp only [VideoDecoder.disableInput, VideoDecoder.setInputPortState, if_true]
  by_cases hout : d.out.hSimpleVideoDecoder = true
  · have hopen : d.inp.hPlaypump = true := by rw [h.coupled, hout]
    simp only [hout, if_true]
    refine ⟨rules.release hopen hdis.inp, h.codec, ?_⟩
    rw [(InputSide.returnPortBuffers_emptied _).rest]
    simp [InputSide.release, InputSide.inputBufferCounterReset, OutputSide.release, OutputSide.invalidateDecodedFrames,
      hout]
  · have hclosed : d.inp.hPlaypump = false := by rw [h.coupled]; simpa using hout
    simp only [hout, Bool.false_eq_true, if_false]
    refine ⟨rules.returnPortBuffers hclosed hdis.inp, h.codec, ?_⟩
    rw [(InputSide.returnPortBuffers_emptied _).rest]
    simp [OutputSide.release, OutputSide.invalidateDecodedFrames, hout, hclosed]

theorem InputKept.setOutputPortState (rules : InputRules codec C P) (h : InputKept codec P d) (newState : OmxState) :
    InputKept codec P (d.setOutputPortState newState r) :=
  h.polled rules (setOutputPortState_inp newState rfl) (setOutputPortState_flags newState)

theorem InputKept.disableOutput (rules : InputRules codec C P) (h : InputKept codec P d) : InputKept codec P (d.disableOutput r) := by
  have hdis : InputKept codec P { d with out := { d.out with port := d.out.port.disabled } } := h.congr rfl rfl rfl
  have hset := hdis.setOutputPortState rules (r := r) .loaded
  exact hset.congr rfl rfl (congrArg Prod.fst OutputSide.returnPortBuffers_flags)

theorem InputKept.setLoaded (rules : InputRules codec C P) (h : InputKept codec P d) (n : StartResult) :
    InputKept codec P (d.setLoaded n r) := by
  simp only [VideoDecoder.setLoaded]
  split
  · exact (h.disableInput rules n).congr rfl rfl rfl
  · exact h.congr rfl rfl rfl

theorem InputKept.setIdle (rules : InputRules codec C P) (h : InputKept codec P d) (n : StartResult) :
    InputKept codec P (d.setIdle n r) := by
  have hconfig : InputKept codec P { d with inp := d.inp.configBufferInit } := ⟨rules.config h.inp, h.codec, h.coupled⟩
  have houtput : ∀ d₁, InputKept codec P d₁ → InputKept codec P
      ((if d₁.out.port.isPopulated then d₁.setOutputPortState .idle r else d₁).endStateChange true) := by
    intro d₁ h₁
    refine InputKept.endStateChange ?_ true
    split
    · exact h₁.setOutputPortState rules .idle
    · exact h₁
  refine houtput _ ?_
  split
  · exact hconfig.setInputPortState rules .idle (by decide) (fun hexec => by cases hexec) n
  · exact hconfig

theorem InputKept.setRunning (rules : InputRules codec C P) (h : InputKept codec P d) {newState : OmxState}
    (hstate : newState ≠ .loaded) (hstart : newState = .executing → d.out.nexus.started = true ∨ C.start d.inp)
    (n : StartResult) (r' : PollResult) : InputKept codec P (d.setRunning newState n r r') := by
  have hset := h.setOutputPortState rules (r := r) newState
  have hinp := setOutputPortState_inp (r := r) newState (rfl : d.inp = d.inp)
  have hflags := setOutputPortState_flags (d := d) (r := r) newState
  have hcond : newState = .executing → (d.setOutputPortState newState r).out.nexus.started = true ∨
      C.start (d.setOutputPortState newState r).inp := by
    intro hexec
    rcases hstart hexec with hs | hs
    · exact .inl ((started_of_flags hflags).trans hs)
    · exact .inr (rules.polled_start hinp hs)
  simp only [VideoDecoder.setRunning]
  split
  · split
    · exact (hset.setInputPortState rules newState hstate hcond n).endStateChange _
    · exact hset.endStateChange true
  · split
    · exact (h.setInputPortState rules newState hstate hstart n).endStateChange _
    · exact h.endStateChange true

theorem InputKept.commandStateSet (rules : InputRules codec C P) (h : InputKept codec P d) (newState : OmxState) (n : StartResult)
    (r' : PollResult) (hstart : newState = .executing → d.out.nexus.started = true ∨ C.start d.inp) :
    InputKept codec P (d.commandStateSet newState n r r') := by
  simp only [VideoDecoder.commandStateSet]
  split
  · exact h
  · have htarget : InputKept codec P { d with targetState := newState } := h.congr rfl rfl rfl
    split
    · exact htarget.setLoaded rules n
    · split
      · exact ⟨rules.config h.inp, h.codec, h.coupled⟩
      · exact htarget.setIdle rules n
    · exact htarget.setRunning rules (by decide) hstart n r'
    · exact htarget.setRunning rules (by decide) (fun hexec => by cases hexec) n r'
    · exact htarget.endStateChange false

theorem InputKept.setIdleFromLoaded (rules : InputRules codec C P) (h : InputKept codec P d) (n : StartResult) :
    InputKept codec P (d.setIdleFromLoaded n r) := by
  have hrest : ∀ {d : VideoDecoder} (inputEnabled outputEnabled : Bool), InputKept codec P d →
      InputKept codec P (if (d.setInputPortState .idle n r).2 = true then (d.setInputPortState .idle n r).1.endStateChange true
        else { (d.setInputPortState .idle n r).1 with
          inp := { (d.setInputPortState .idle n r).1.inp with
            port := (d.setInputPortState .idle n r).1.inp.port.disabled.reenabled inputEnabled }
          out := { (d.setInputPortState .idle n r).1.out with
            port := (d.setInputPortState .idle n r).1.out.port.disabled.reenabled outputEnabled } }.endStateChange false) := by
    intro d inputEnabled outputEnabled h
    have hset := h.setInputPortState (r := r) rules .idle (by decide) (fun hexec => by cases hexec) n
    split
    · exact hset.endStateChange true
    · refine InputKept.endStateChange ?_ false
      exact ((hset.disabled rules).reenable rules inputEnabled).congr rfl rfl rfl
  simp only [VideoDecoder.setIdleFromLoaded]
  split
  · have hset := h.setOutputPortState rules (r := r) .idle
    split
    · exact hrest _ _ hset
    · exact hset.endStateChange true
  · split
    · exact hrest _ _ h
    · exact h.endStateChange true

theorem InputKept.resume (rules : InputRules codec C P) (h : InputKept codec P d) (timeout : Bool) (n : StartResult) :
    InputKept codec P (d.resume timeout n r) := by
  simp only [VideoDecoder.resume]
  split
  · exact h
  · split
    · exact h.setIdleFromLoaded rules n
    · split
      · exact h.endStateChange false
      · exact h
  · split
    · split
      · exact (h.disableOutput rules).congr rfl rfl rfl
      · exact h.congr rfl rfl rfl
    · split
      · exact (h.reenable rules true).endStateChange false
      · exact h
  · next inputPortEnabled outputPortEnabled _ =>
    split
    · refine InputKept.endStateChange ?_ true
      exact (h.reenable rules inputPortEnabled).congr rfl rfl rfl
    · split
      · refine InputKept.endStateChange ?_ false
        exact h.congr rfl rfl rfl
      · exact h

theorem InputKept.step (rules : InputRules codec C P) {a : VideoAction} (h : InputKept codec P d) (hok : d.InputStepOk C a)
    (hstep : d.step a = some d') : InputKept codec P d' := by
  have hinp : ∀ {inp : InputSide}, P inp → inp.hPlaypump = d.inp.hPlaypump → InputKept codec P { d with inp } :=
    fun hP hpump => ⟨hP, h.codec, hpump.trans h.coupled⟩
  cases moves_of_step hstep with
  | allocateInputBuffer b nSizeBytes componentAllocated =>
    refine hinp ?_ (InputSide.addBuffer_hPlaypump _ _ _)
    rw [h.codec]
    exact rules.allocate _ _ _ hok h.inp
  | allocateOutputBuffer b nSizeBytes nativeHandle componentAllocated =>
    refine h.congr rfl rfl ?_
    simp only [OutputSide.addBuffer]
    split
    · rfl
    · split <;> rfl
  | emptyThisBuffer submit b header hmem =>
    refine hinp ?_ (InputSide.emptyBuffer_hPlaypump (Nat.le_refl _) (InputSide.emptyFrame_fed _ _))
    rw [h.codec]
    exact rules.empty _ _ _ hmem hok h.inp
  | fillThisBuffer r b grallocSource pHandle => exact h.polled rules (fillThisBuffer_inp _ _) (fillThisBuffer_flags _ _)
  | freeInputBuffer b => exact hinp (rules.free _ h.inp) InputSide.freeBuffer_hPlaypump
  | freeOutputBuffer r b => exact h.polled rules freeOutputBuffer_inp freeOutputBuffer_flags
  | playpumpEvent fifoPts => exact hinp (rules.playpumpEvent _ h.inp) (InputSide.playpumpEvent_hPlaypump _)
  | inputBufferTimeout => exact hinp (rules.timeout h.inp) (InputSide.returnInputBuffers_hPlaypump _ _)
  | outputFrameEvent r => exact h.polled rules (pollDecodedFrames_inp rfl) (pollDecodedFrames_flags rfl)
  | notifyDisplay frameId => exact h.congr rfl rfl rfl
  | takeDisplay =>
    refine h.congr rfl rfl ?_
    simp only [OutputSide.takeDisplayFrame]
    split <;> rfl
  | showDisplay r => exact h.polled rules displayFrameEvent_inp displayFrameEvent_flags
  | flushInput stopped fifoPts => exact hinp (rules.flush _ _ hok h.inp) (InputSide.commandFlush_hPlaypump _ _)
  | flushOutput r =>
    obtain ⟨hcodec, hopen⟩ := flushOutput_acquired (d := d) (r := r)
    refine ⟨rules.polled flushOutput_inp h.inp, hcodec.trans h.codec, ?_⟩
    rw [polled_hPlaypump flushOutput_inp, h.coupled, hopen]
  | stateSet newState n r r' =>
    refine h.commandStateSet rules newState n r' fun hexec => ?_
    subst hexec
    exact hok
  | resume timeout n r => exact h.resume rules timeout n
  | consume n => exact hinp (rules.consume n h.inp) rfl
  | decode frames => exact h.congr rfl rfl rfl

end
end VideoDecoder
end BcmPlatform.Bomx
