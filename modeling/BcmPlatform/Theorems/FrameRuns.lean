import BcmPlatform.Theorems.DescriptorRuns
import BcmPlatform.Theorems.OutputRules

/-! The frame queue over whole runs of the video decoder. -/

namespace BcmPlatform.Bomx
open Lib

namespace OutputSide
variable {s : OutputSide} {mode : OutputMode} {b : BufferId}

theorem fillThisBuffer_notFlushing (h : s.outputFlushing = false) : (s.fillThisBuffer b).1.outputFlushing = false :=
  (congrArg (fun v => v.2.2.1) fillThisBuffer_flags).trans h

theorem freeBuffer_notFlushing (h : s.outputFlushing = false) : (s.freeBuffer b).1.outputFlushing = false :=
  (congrArg (fun v => v.2.2.1) freeBuffer_flags).trans h

theorem displayFrameLocked_notFlushing (h : s.outputFlushing = false) (serialNumber : Nat) :
    (s.displayFrameLocked serialNumber).1.outputFlushing = false :=
  (congrArg (fun v => v.2.2.1) (displayFrameLocked_flags serialNumber)).trans h

theorem FrameQueue.freeAndReturn (h : FrameQueue mode s) (hflush : s.outputFlushing = false) :
    FrameQueue mode (s.freeAndReturn b) := by
  unfold OutputSide.freeAndReturn
  split
  · exact h.freeBuffer.returnDecodedFrames (freeBuffer_notFlushing hflush)
  · exact h.freeBuffer

theorem FrameQueue.showAndReturn (h : FrameQueue mode s) (hflush : s.outputFlushing = false) (n : Nat) :
    FrameQueue mode (s.showAndReturn n) := by
  have htaken : FrameQueue mode { s with displayTaken := none } :=
    h.congr rfl rfl rfl rfl rfl (fun _ => rfl) (fun _ => rfl) id
  simp only [OutputSide.showAndReturn]
  split
  · refine (htaken.displayFrameLocked n).returnDecodedFrames ?_
    exact displayFrameLocked_notFlushing (s := { s with displayTaken := none }) hflush n
  · exact htaken.displayFrameLocked n

theorem FrameQueue.endFlush (h : FrameQueue mode s) : FrameQueue mode s.endFlush :=
  h.congr rfl rfl rfl rfl rfl (fun _ => rfl) (fun _ => rfl) id

/-- The conditions of the frame queue. -/
def queueConditions (mode : OutputMode) : OutputConditions where
  fill := fun s b => HandleOk mode b s

theorem queueRules (mode : OutputMode) : OutputRules mode (queueConditions mode) (FrameQueue mode) where
  queue h := h
  take n h := h.getDecodedFrames n
  pollStep hstep h := hstep.frameQueue h
  add _ _ _ _ h := h.addBuffer _ _ _
  fill _ hok hflush _ h := (h.fillThisBuffer hok).returnDecodedFrames (fillThisBuffer_notFlushing hflush)
  free _ hflush h := h.freeAndReturn hflush
  notify _ h := h.congr rfl rfl rfl rfl rfl (fun _ => rfl) (fun _ => rfl) id
  takeDisplay _ h := by
    simp only [OutputSide.takeDisplayFrame]
    split
    · exact h.congr rfl rfl rfl rfl rfl (fun _ => rfl) (fun _ => rfl) id
    · exact h
  showDisplay _ hflush h := h.showAndReturn hflush _
  decode _ hstarted hserials h := h.decode hstarted hserials
  flush _ hopen h := h.flush hopen
  endFlush _ h := h.endFlush
  returnPortBuffers h := h.returnPortBuffers
  stop_returned _ := trivial
  stop _ _ h := h.stop
  release _ _ h := h.release
  unload _ _ h := h.unload
  clear_flags _ _ _ := trivial
  clear _ _ _ hempty h := h.clearAllocList hempty
  acquire _ h := h.acquire
  start hopen hstopped h := h.nexusStart hopen hstopped
  startFailed hstopped h := h.startFailed hstopped
  portFlags _ _ h := h.congr rfl rfl rfl rfl rfl (fun _ => rfl) (fun _ => rfl) id

/-- The two queues are in lockstep: the alloc list is a run of invalid frames, one of frames that were handed out and
    one of ready frames, its valid frames are the first ones of the FIFO, no mismatch was met, every call gave the
    decisions for the frames of the FIFO, and every node is on one of the two lists. -/
structure InLockstep (s : OutputSide) : Prop where
  shape : ∃ I M R, s.frameBufferAllocList = I ++ M ++ R ∧ (∀ f ∈ I, f.state = .invalid) ∧
    (∀ f ∈ M, f.state = .delivered ∨ f.state = .displayReady ∨ f.state = .dropReady) ∧ ∀ f ∈ R, f.state = .ready
  serials : validSerials s.frameBufferAllocList <+: s.nexus.serials
  mismatch : .frameMismatch ∉ s.asserts
  calls : ∀ c ∈ s.nexus.calls, c.Ok
  nodes : ((s.frameBufferAllocList ++ s.frameBufferFreeList).map (·.id)).Perm (List.range maxDecodedFrames)

theorem FrameQueue.inLockstep (h : FrameQueue mode s) : s.InLockstep := by
  refine ⟨?_, h.aligned.serials, h.asserts, h.calls, h.nodes⟩
  have hvalid : (s.frameBufferAllocList.filter fun f => !f.isInvalid).Pairwise
      fun f g => (!g.isReady) = true → (!f.isReady) = true := h.aligned.readyLast.filter _
  refine ⟨s.frameBufferAllocList.filter (·.isInvalid), (s.frameBufferAllocList.filter fun f => !f.isInvalid).filter
    (fun f => !f.isReady), (s.frameBufferAllocList.filter fun f => !f.isInvalid).filter (fun f => !!f.isReady),
    ?_, fun f hf => ?_, fun f hf => ?_, fun f hf => ?_⟩
  · rw [List.append_assoc, filter_append_filter_not hvalid, filter_append_filter_not h.aligned.invalidFirst]
  · simpa [FrameBuffer.isInvalid] using (List.mem_filter.mp hf).2
  · simp only [List.mem_filter] at hf
    cases hstate : f.state <;> simp_all [FrameBuffer.isInvalid, FrameBuffer.isReady]
  · simpa [FrameBuffer.isReady] using (List.mem_filter.mp hf).2

end OutputSide

namespace VideoDecoder
open OutputSide

/-- A client that fills a metadata buffer names no frame in it that waits for delivery. -/
def handleDelivered (d : VideoDecoder) : VideoAction → Bool
  | .fillThisBuffer _ b grallocSource pHandle => d.outputMode ≠ .metadata ||
    ((d.out.setBuffer b { d.out.buffer b with grallocSource, pHandle }).frameOf b).all fun f => !f.isReady
  | _ => true

theorem handleOk_of_delivered {d : VideoDecoder} {r : PollResult} {b : BufferId} {grallocSource : Bool}
    {pHandle : Option Nat} (h : d.handleDelivered (.fillThisBuffer r b grallocSource pHandle) = true) :
    HandleOk d.outputMode b (d.out.setBuffer b { d.out.buffer b with grallocSource, pHandle }) := by
  intro hmode f hf
  simp only [handleDelivered, hmode, ne_eq, not_true_eq_false, decide_false, Bool.false_or, hf, Option.all_some] at h
  simpa using h

theorem init_frameQueue (codec : VideoCodec) (outputMode : OutputMode) (adaptive : Bool)
    (inputDef outputDef : PortDefinition) :
    FrameQueue outputMode (init codec outputMode adaptive inputDef outputDef).out := by
  refine ⟨⟨?_, fun _ => rfl, (fun _ b n hb => by cases hb), fun _ => rfl, (fun hs => by cases hs), List.not_mem_nil,
    fun _ hc => absurd hc List.not_mem_nil⟩, List.Pairwise.nil, List.nil_prefix, List.Pairwise.nil,
    fun _ hn => absurd hn List.not_mem_nil⟩
  have hids : ((init codec outputMode adaptive inputDef outputDef).out.frameBufferFreeList.map (·.id)) =
      List.range maxDecodedFrames := by
    simp [init, Function.comp_def]
  change ((init codec outputMode adaptive inputDef outputDef).out.frameBufferFreeList.map (·.id)).Perm _
  rw [hids]

theorem OutputInv.of_init {P : OutputSide → Prop} {codec : VideoCodec} {outputMode : OutputMode} {adaptive : Bool}
    {inputDef outputDef : PortDefinition} (h : P (init codec outputMode adaptive inputDef outputDef).out) :
    OutputInv outputMode P (init codec outputMode adaptive inputDef outputDef) := ⟨true, ⟨h, rfl, rfl, rfl⟩, rfl⟩

theorem queueStepOk {d : VideoDecoder} {mode : OutputMode} {a : VideoAction} (hmode : d.outputMode = mode)
    (h : d.handleDelivered a = true) : d.OutputStepOk (queueConditions mode) a := by
  refine outputStepOk_of_fill ?_
  rintro r b grallocSource pHandle rfl
  rw [← hmode]
  exact handleOk_of_delivered h

/-- In every run in which no metadata buffer is filled with the handle of a frame that waits for delivery, the frame
    queue and the FIFO of Nexus are in lockstep in every state. -/
theorem frames_in_lockstep (codec : VideoCodec) (outputMode : OutputMode) (adaptive : Bool)
    (inputDef outputDef : PortDefinition) (d : VideoDecoder)
    (h : Reaches step (fun d a => d.handleDelivered a = true) (init codec outputMode adaptive inputDef outputDef) d) :
    d.out.InLockstep := by
  have hinv : OutputInv outputMode (FrameQueue outputMode) d := by
    refine h.invariant (OutputInv.of_init (init_frameQueue ..)) fun d a _ hd hok hstep => ?_
    refine hd.step (queueRules outputMode) (queueStepOk ?_ hok) hstep
    obtain ⟨_, hkept, -⟩ := hd
    exact hkept.mode
  obtain ⟨_, hkept, -⟩ := hinv
  exact hkept.out.inLockstep

/-! ### Runs on small ports -/

/-- The decoder executes and its only output buffer waits for a frame. -/
def outputWaits : List VideoAction :=
  [.stateSet .idle {} {} {}, .allocateInputBuffer 10 65536 false, .allocateInputBuffer 11 65536 false,
   .allocateOutputBuffer 20 64 0 false, .resume false {} {}, .stateSet .executing {} {} {},
   .fillThisBuffer {} 20 true none]

/-- Frames 1 and 2 are decoded, the first one is delivered and displayed. -/
def frameShown : List VideoAction :=
  outputWaits ++ [.decode [{ serialNumber := 1 }, { serialNumber := 2 }], .outputFrameEvent { numFrames := 2 },
    .notifyDisplay 1, .takeDisplay, .showDisplay {}]

/-- After a frame was displayed, the second one waits. -/
theorem frames_in_lockstep_frameShown :
    ∃ d : VideoDecoder, d.out.nexus.serials = [2] ∧ d.out.frameBufferAllocList.map (·.serial) = [2] ∧
      d.out.InLockstep := by
  obtain ⟨d, hd, hp⟩ := Reaches.exists_of_run step handleDelivered (init .avc .standard false smallInput smallOutput)
    frameShown (fun d => d.out.nexus.serials = [2] && d.out.frameBufferAllocList.map (·.serial) = [2]) (by decide +kernel)
  simp only [Bool.and_eq_true, decide_eq_true_eq] at hp
  exact ⟨d, hp.1, hp.2, frames_in_lockstep .avc .standard false smallInput smallOutput d hd⟩

/-- A flush empties the FIFO of Nexus before the frames go back: the call is about frames that are not in the FIFO. -/
theorem flush_returns_after_fifo :
    ∃ d, Reaches step (fun d a => d.handleDelivered a = true) (init .avc .standard false smallInput smallOutput) d ∧
      ∃ c ∈ d.out.nexus.calls, c.fifo = [] ∧ ¬ c.entries.map (·.serial) <+: c.fifo := by
  obtain ⟨d, hd, hp⟩ := Reaches.exists_of_run step handleDelivered (init .avc .standard false smallInput smallOutput)
    (outputWaits ++ [.decode [{ serialNumber := 1 }], .outputFrameEvent { numFrames := 1 }, .flushOutput {}])
    (fun d => d.out.nexus.calls.any fun c => c.fifo = [] && c.entries.map (·.serial) = [1]) (by decide +kernel)
  obtain ⟨c, hc, hp⟩ := List.any_eq_true.mp hp
  simp only [Bool.and_eq_true, decide_eq_true_eq] at hp
  refine ⟨d, hd, c, hc, hp.1, ?_⟩
  rw [hp.1, hp.2]
  decide

end VideoDecoder
end BcmPlatform.Bomx
