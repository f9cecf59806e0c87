import BcmPlatform.Bomx.VideoStep

/-! Nothing but a state change acquires, releases, starts or stops the decoder, or enables the output port. -/

namespace BcmPlatform.Bomx

namespace Port

theorem disabled_eq (p : Port) : ∃ bEnabled bPopulated,
    p.disabled = { p with definition := { p.definition with bEnabled, bPopulated } } := by
  unfold disabled disable
  split
  · exact ⟨_, _, rfl⟩
  · exact ⟨p.definition.bEnabled, p.definition.bPopulated, rfl⟩

theorem reenabled_eq (enabled : Bool) (p : Port) : ∃ bEnabled bPopulated,
    p.reenabled enabled = { p with definition := { p.definition with bEnabled, bPopulated } } := by
  have hsame : p = { p with definition := { p.definition with
      bEnabled := p.definition.bEnabled, bPopulated := p.definition.bPopulated } } := rfl
  unfold reenabled enable
  split
  · split
    · exact ⟨_, _, rfl⟩
    · exact ⟨_, _, hsame⟩
  · exact ⟨_, _, hsame⟩

/-- The port is enabled as before, and as long as it has the same buffers it is populated as before. -/
structure Moved (p q : Port) : Prop where
  enabled : q.isEnabled = p.isEnabled
  populated : q.bufferList = p.bufferList → q.isPopulated = p.isPopulated

namespace Moved
variable {p q : Port} {b : BufferId}

theorem of_outline (h : q.outline = p.outline) : Moved p q :=
  ⟨congrArg Prod.fst h, fun _ => congrArg (fun v => v.2.1) h⟩

theorem refl (p : Port) : Moved p p := .of_outline rfl

theorem congr {r : Port} (h : Moved p q) (hr : r.outline = q.outline) : Moved p r := by
  simp only [outline, Prod.mk.injEq] at hr
  obtain ⟨henabled, hpopulated, hlist⟩ := hr
  exact ⟨henabled.trans h.enabled, fun hsame => hpopulated.trans (h.populated (hlist ▸ hsame))⟩

theorem of_added {componentAllocated : Bool} (h : Added p b componentAllocated q) : Moved p q := by
  refine ⟨h.isEnabled, fun hlist => ?_⟩
  rw [h.bufferList] at hlist
  simp at hlist

theorem of_removed (h : Removed p b q) : Moved p q := by
  refine ⟨h.isEnabled, fun hlist => ?_⟩
  rw [h.bufferList] at hlist
  have hlen := List.length_erase_of_mem h.mem
  have hpos := List.length_pos_of_mem h.mem
  rw [hlist] at hlen
  omega

end Moved

theorem isEnabled_disabled (p : Port) : p.disabled.isEnabled = false := by
  unfold disabled disable
  split
  · rfl
  · next h =>
    change p.isEnabled = false
    simpa using h

theorem isEnabled_reenabled (p : Port) : (p.reenabled true).isEnabled = true := by
  simp only [reenabled, enable, if_true]
  split
  · rfl
  · next h =>
    change p.isEnabled = true
    simpa [isDisabled, isEnabled] using h

theorem outline_disabled {p : Port} (h : p.isEnabled = true) : p.disabled.outline = (false, false, p.bufferList) := by
  simp only [disabled, disable, if_pos h]
  rfl

theorem outline_reenabled {p : Port} (h : p.isEnabled = false) :
    (p.reenabled true).outline = (true, p.isPopulated, p.bufferList) := by
  have hdis : p.isDisabled = true := by
    change (!p.isEnabled) = true
    rw [h]
    rfl
  simp only [reenabled, enable, if_pos hdis, if_true]
  rfl

end Port

namespace OutputSide
variable {s s' : OutputSide} {b : BufferId} {f : FrameBuffer}

/-- Whether the decoder is acquired, whether it is started, whether the output port is being flushed, and whether it
    is enabled. -/
def decoderFlags (s : OutputSide) : Bool × Bool × Bool × Bool :=
  (s.hSimpleVideoDecoder, s.nexus.started, s.outputFlushing, s.port.isEnabled)

/-- The flags, and what the output port says of itself. -/
def outline (s : OutputSide) : (Bool × Bool × Bool × Bool) × Bool × Bool × List BufferId :=
  (s.decoderFlags, s.port.outline)

theorem decoderFlags_of_outline (h : s'.outline = s.outline) : s'.decoderFlags = s.decoderFlags :=
  congrArg Prod.fst h

theorem setPort_flags {port : Port} (h : port.isEnabled = s.port.isEnabled) :
    ({ s with port } : OutputSide).decoderFlags = s.decoderFlags := by
  rw [decoderFlags, h]
  rfl

@[simp] theorem alogAssert_outline (cond : Bool) (a : OutputAssert) : (s.alogAssert cond a).outline = s.outline := by
  unfold alogAssert
  split <;> rfl

theorem getDecodedFrames_outline (n : Nat) : (s.getDecodedFrames n).outline = s.outline := by
  simp only [getDecodedFrames]
  split
  · rfl
  · exact alogAssert_outline _ _

theorem returnDecodedFrames_outline : s.returnDecodedFrames.1.outline = s.outline := by
  simp only [returnDecodedFrames]
  split
  · rfl
  · split <;> rfl

theorem returnDecodedFrames_flags : s.returnDecodedFrames.1.decoderFlags = s.decoderFlags :=
  decoderFlags_of_outline returnDecodedFrames_outline

theorem returnPortBuffers_outline : s.returnPortBuffers.outline = s.outline := by
  have hfold : ∀ (l : List BufferId) (s : OutputSide), (l.foldl returnPortBuffer s).outline = s.outline := by
    intro l
    induction l with
    | nil => exact fun s => rfl
    | cons b rest ih => exact fun s => ih (s.returnPortBuffer b)
  exact hfold _ s

theorem returnPortBuffers_flags : s.returnPortBuffers.decoderFlags = s.decoderFlags :=
  decoderFlags_of_outline returnPortBuffers_outline

theorem unload_outline : s.unload.outline = s.outline := by
  simp only [unload]
  split
  · exact returnPortBuffers_outline
  · exact returnPortBuffers_outline

theorem fillFrame_outline : (s.fillFrame f).outline = s.outline := by
  simp only [fillFrame]
  split
  · rfl
  · split
    · exact alogAssert_outline _ _
    · exact alogAssert_outline (s := s) _ _

theorem requeue_outline : (s.requeue b).outline = s.outline := by
  simp only [requeue]
  split
  · next port hport =>
    have hqueued := Port.Queued.of_ok hport
    exact Prod.ext (setPort_flags hqueued.isEnabled) (Port.outline_of hqueued.definition hqueued.bufferList)
  · exact alogAssert_outline _ _

theorem fillThisBuffer_outline : (s.fillThisBuffer b).1.outline = s.outline := by
  simp only [fillThisBuffer]
  split
  · rfl
  · split
    · rfl
    · rw [requeue_outline]
      split
      · exact fillFrame_outline
      · rfl

theorem fillThisBuffer_flags : (s.fillThisBuffer b).1.decoderFlags = s.decoderFlags :=
  decoderFlags_of_outline fillThisBuffer_outline

theorem freeFrame_outline : (s.freeFrame f).1.outline = s.outline := by
  simp only [freeFrame]
  split
  · rfl
  · split <;> rfl

theorem freeBuffer_flags : (s.freeBuffer b).1.decoderFlags = s.decoderFlags := by
  simp only [freeBuffer]
  split
  · rfl
  · next port hport =>
    have hremoved : ({ s with port }.setBuffer b { s.buffer b with pFrameBuffer := none }).decoderFlags =
        s.decoderFlags := setPort_flags (Port.Removed.of_ok hport).isEnabled
    split
    · exact (decoderFlags_of_outline freeFrame_outline).trans hremoved
    · exact hremoved

theorem addBuffer_flags (type : OutputMode) (nSizeBytes nativeHandle : Nat) (componentAllocated : Bool) :
    (s.addBuffer type b nSizeBytes nativeHandle componentAllocated).1.decoderFlags = s.decoderFlags := by
  simp only [addBuffer]
  split
  · rfl
  · split
    · rfl
    · next port hport => exact setPort_flags (Port.Added.of_ok hport).isEnabled

theorem displayFrameLocked_outline (serialNumber : Nat) :
    (s.displayFrameLocked serialNumber).1.outline = s.outline := by
  simp only [displayFrameLocked]
  split
  · split
    · split <;> rfl
    · rfl
  · rfl

theorem displayFrameLocked_flags (serialNumber : Nat) :
    (s.displayFrameLocked serialNumber).1.decoderFlags = s.decoderFlags :=
  decoderFlags_of_outline (displayFrameLocked_outline serialNumber)

end OutputSide

namespace VideoDecoder

/-- What the configuration and the state of the decoder fix. -/
def flags (d : VideoDecoder) : VideoCodec × OutputMode × Option PortWait × Bool × Bool × Bool × Bool :=
  (d.codec, d.outputMode, d.portWait, d.out.decoderFlags)

/-- With the flags, the state of the component and what the output port says of itself. -/
def outline (d : VideoDecoder) : (VideoCodec × OutputMode × Option PortWait × OmxState) ×
    (Bool × Bool × Bool × Bool) × Bool × Bool × List BufferId :=
  ((d.codec, d.outputMode, d.portWait, d.currentState), d.out.outline)

variable {d d' : VideoDecoder} {f : FrameBuffer} {b : BufferId} {r : PollResult}
  {v : VideoCodec × OutputMode × Option PortWait × Bool × Bool × Bool × Bool}
  {w : (VideoCodec × OutputMode × Option PortWait × OmxState) × (Bool × Bool × Bool × Bool) × Bool × Bool × List BufferId}

theorem flags_of_outline (h : d'.outline = d.outline) : d'.flags = d.flags := by
  simp only [outline, OutputSide.outline, Prod.mk.injEq] at h
  simp only [flags, h]

theorem flags_setOut {out : OutputSide} (h : out.decoderFlags = d.out.decoderFlags) (hd : d.flags = v) :
    { d with out }.flags = v := by
  rw [← hd]
  simp only [flags, h]

theorem outline_setOut {out : OutputSide} (h : out.outline = d.out.outline) (hd : d.outline = w) :
    { d with out }.outline = w := by
  rw [← hd]
  simp only [outline, h]

/-! ### Delivering frames -/

theorem takeEos_outline {d' : VideoDecoder} (h : d.takeEos f b = some d') (hd : d.outline = w) : d'.outline = w := by
  simp only [takeEos] at h
  split at h
  · split at h
    · cases h
      exact hd
    · cases h
  · cases h
    exact hd

theorem resetPort_outline (hd : d.outline = w) : (d.resetPort f).outline = w := by
  simp only [resetPort]
  split
  · exact hd
  · exact hd

theorem deliverRound_outline (hd : d.outline = w) : (d.deliverRound r f b).1.outline = w := by
  have hassert := fun cond =>
    outline_setOut (d := d.prepareHeader f b) (OutputSide.alogAssert_outline cond .bufferInfoUnlinked) hd
  simp only [deliverRound]
  split
  · refine outline_setOut (d := d.prepareHeader f b) ?_ hd
    rw [OutputSide.alogAssert_outline, OutputSide.alogAssert_outline]
  · next d' heos =>
    have hd' := takeEos_outline heos (hassert _)
    split
    · exact hd'
    · split
      · exact resetPort_outline hd'
      · split
        · exact hd'
        · exact hd'

theorem deliver_outline : ∀ (l : List FrameBuffer) (d : VideoDecoder), d.outline = w → (d.deliver r l).outline = w
  | [], d, hd => hd
  | f :: rest, d, hd => by
    simp only [deliver]
    split
    · exact hd
    · split
      · exact hd
      · next b _ =>
        have hround := deliverRound_outline (r := r) (f := f) (b := b) hd
        split
        · exact deliver_outline rest _ hround
        · exact hround

theorem pollDecodedFrames_outline (hd : d.outline = w) : (d.pollDecodedFrames r).outline = w := by
  have hget : { d with out := d.out.getDecodedFrames r.numFrames }.outline = w :=
    outline_setOut (OutputSide.getDecodedFrames_outline _) hd
  simp only [pollDecodedFrames]
  split
  · exact hd
  · split
    · exact deliver_outline _ _ hget
    · exact hget

theorem pollDecodedFrames_flags (hd : d.flags = v) : (d.pollDecodedFrames r).flags = v :=
  (flags_of_outline (pollDecodedFrames_outline rfl)).trans hd

theorem returnDecodedFrames_outline (hd : d.outline = w) : (d.returnDecodedFrames r).outline = w := by
  have hret : { d with out := d.out.returnDecodedFrames.1 }.outline = w :=
    outline_setOut OutputSide.returnDecodedFrames_outline hd
  simp only [returnDecodedFrames]
  split
  · exact pollDecodedFrames_outline hret
  · exact hret

theorem returnDecodedFrames_flags (hd : d.flags = v) : (d.returnDecodedFrames r).flags = v :=
  (flags_of_outline (returnDecodedFrames_outline rfl)).trans hd

/-! ### Buffers, display and the output port -/

theorem fillThisBuffer_outline (grallocSource : Bool) (pHandle : Option Nat) :
    (d.fillThisBuffer r b grallocSource pHandle).1.outline = d.outline := by
  have hfill := OutputSide.fillThisBuffer_outline (b := b)
    (s := d.out.setBuffer b { d.out.buffer b with grallocSource, pHandle })
  simp only [fillThisBuffer]
  split
  · exact returnDecodedFrames_outline (outline_setOut hfill rfl)
  · exact outline_setOut hfill rfl

theorem fillThisBuffer_flags (grallocSource : Bool) (pHandle : Option Nat) :
    (d.fillThisBuffer r b grallocSource pHandle).1.flags = d.flags :=
  flags_of_outline (fillThisBuffer_outline grallocSource pHandle)

theorem freeOutputBuffer_flags : (d.freeOutputBuffer r b).1.flags = d.flags := by
  simp only [freeOutputBuffer]
  split
  · exact returnDecodedFrames_flags (flags_setOut OutputSide.freeBuffer_flags rfl)
  · exact flags_setOut OutputSide.freeBuffer_flags rfl

theorem displayFrameEvent_outline : (d.displayFrameEvent r).outline = d.outline := by
  simp only [displayFrameEvent]
  split
  · rfl
  · next serialNumber _ =>
    have hshow := OutputSide.displayFrameLocked_outline (s := { d.out with displayTaken := none }) serialNumber
    split
    · exact returnDecodedFrames_outline (outline_setOut hshow rfl)
    · exact outline_setOut hshow rfl

theorem displayFrameEvent_flags : (d.displayFrameEvent r).flags = d.flags :=
  flags_of_outline displayFrameEvent_outline

theorem flushOutput_flags (hflush : d.out.outputFlushing = false) : (d.flushOutput r).flags = d.flags := by
  simp only [flushOutput]
  refine flags_setOut OutputSide.returnPortBuffers_flags ?_
  split
  · have hret := returnDecodedFrames_flags (r := r)
      (d := { d with out := { d.out with outputFlushing := true }.nexusFlush }) rfl
    simp only [flags, OutputSide.decoderFlags, Prod.mk.injEq] at hret ⊢
    exact ⟨hret.1, hret.2.1, hret.2.2.1, hret.2.2.2.1, hret.2.2.2.2.1, hflush.symm, hret.2.2.2.2.2.2⟩
  · rfl

theorem flushOutput_acquired : (d.flushOutput r).codec = d.codec ∧
    (d.flushOutput r).out.hSimpleVideoDecoder = d.out.hSimpleVideoDecoder := by
  have hport := fun s : OutputSide => congrArg Prod.fst (OutputSide.returnPortBuffers_flags (s := s))
  have hret := returnDecodedFrames_flags (r := r)
    (d := { d with out := { d.out with outputFlushing := true }.nexusFlush }) rfl
  simp only [flags, OutputSide.decoderFlags, Prod.mk.injEq] at hret
  simp only [flushOutput]
  split
  · exact ⟨hret.1, (hport _).trans hret.2.2.2.1⟩
  · exact ⟨rfl, hport _⟩

theorem setOutputPortState_outline (newState : OmxState) : (d.setOutputPortState newState r).outline = d.outline := by
  simp only [setOutputPortState]
  split
  · exact outline_setOut OutputSide.unload_outline rfl
  · exact outline_setOut OutputSide.returnPortBuffers_outline rfl
  · split
    · exact pollDecodedFrames_outline rfl
    · rfl

theorem setOutputPortState_flags (newState : OmxState) : (d.setOutputPortState newState r).flags = d.flags :=
  flags_of_outline (setOutputPortState_outline newState)

theorem hSimpleVideoDecoder_of_flags (h : d'.flags = d.flags) :
    d'.out.hSimpleVideoDecoder = d.out.hSimpleVideoDecoder :=
  congrArg (fun v => v.2.2.2.1) h

theorem started_of_flags (h : d'.flags = d.flags) : d'.out.nexus.started = d.out.nexus.started :=
  congrArg (fun v => v.2.2.2.2.1) h

theorem codec_of_flags (h : d'.flags = d.flags) : d'.codec = d.codec := congrArg (fun v => v.1) h

end VideoDecoder
end BcmPlatform.Bomx
