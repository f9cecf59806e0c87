import BcmPlatform.Theorems.AudioAccounting
import BcmPlatform.Theorems.InputRules

/-! Descriptor accounting over whole runs of the video and the audio decoder. -/

namespace BcmPlatform.Bomx
open Lib

/-- The counter of submitted descriptors is right: it is the sum over the queued buffers that are not complete and
    never less than what is in the playpump's FIFO, buffers are marked complete in queue order and only when none of
    their descriptors is left in the FIFO, and no assertion about descriptors has failed. -/
structure InputSide.DescriptorsAccounted (s : InputSide) : Prop where
  submitted : s.submittedDescriptors =
    ((s.port.bufferQueue.filter fun b => !(s.buffer b).complete).map fun b => (s.buffer b).numDescriptors).sum
  noUnderflow : s.descFifo.length ≤ s.submittedDescriptors
  inOrder : s.port.bufferQueue.Pairwise fun a b => (s.buffer b).complete = true → (s.buffer a).complete = true
  consumed : ∀ b ∈ s.port.bufferQueue, (s.buffer b).complete = true → b ∉ s.descFifo
  asserts : .submittedCoversBuffer ∉ s.asserts ∧ .noneSubmittedAfterFlush ∉ s.asserts

theorem InputSide.Accounting.accounted {s : InputSide} (h : s.Accounting) : s.DescriptorsAccounted where
  submitted := by
    rw [h.submitted, outstanding, pending, List.length_flatMap]
    simp
  noUnderflow := h.descFifo_le
  inOrder := h.ordered
  consumed := fun _ _ hc => h.notMem_descFifo hc
  asserts := h.asserts

namespace VideoDecoder

/-- Nothing that is counted is dropped: the input port is flushed through a started playpump, or with nothing
    submitted, and the decoder is started with nothing submitted. -/
def descriptorsKept (d : VideoDecoder) : VideoAction → Bool
  | .flushInput .. =>
    !d.inp.hPlaypump || (d.inp.port.isEnabled && d.inp.port.isPopulated && d.inp.playpumpStarted) ||
      d.inp.submittedDescriptors = 0
  | .stateSet .executing .. => d.out.nexus.started || d.inp.submittedDescriptors = 0
  | _ => true

/-- The conditions on the operations of the input side. -/
def descriptorConditions : InputConditions where
  empty := fun i b _ => b ∉ i.port.bufferQueue
  flush := InputSide.FlushAccounted
  start := fun i => i.submittedDescriptors = 0

theorem descriptorConditions_of_kept {d : VideoDecoder} {a : VideoAction} (hown : d.clientOwns a = true)
    (hkept : d.descriptorsKept a = true) : d.InputStepOk descriptorConditions a := by
  cases a with
  | emptyThisBuffer submit b header =>
    have hb : b ∉ d.inp.port.bufferQueue := of_decide_eq_true hown
    exact hb
  | flushInput stopped fifoPts =>
    intro hopen
    simpa [descriptorsKept, hopen, and_assoc] using hkept
  | stateSet newState n r r' =>
    cases newState with
    | executing =>
      have hstart : d.out.nexus.started = true ∨ d.inp.submittedDescriptors = 0 := by simpa [descriptorsKept] using hkept
      exact hstart
    | _ => trivial
  | _ => trivial

open InputSide in
theorem accountingRules (codec : VideoCodec) : InputRules codec descriptorConditions Accounting where
  polled h hi := h.keeps (fun i t e hi => hi.congr rfl (fun _ _ => rfl) (fun _ _ => rfl) rfl (List.suffix_refl _)
    hi.closed fun _ ha => .inl ha) (fun i ticks hi => hi.returnInputBuffers ticks .timestamp) hi
  polled_start h hs := h.keeps (P := fun i => i.submittedDescriptors = 0) (fun _ _ _ hs => hs) (fun i ticks hs => by
    obtain ⟨k, hr, -⟩ := returnInputBuffers_returned ticks .timestamp i
    exact hr.submitted.trans hs) hs
  allocate _ _ _ _ h := h.addInputPortBuffer _ _ _
  empty submit _ header hmem hb h := (h.setBuffer hb _).emptyBuffer hmem hb (Nat.le_refl _)
    (emptyFrame_fed codec submit.frame)
  free _ h := h.freeBuffer
  playpumpEvent fifoPts h := h.playpumpEvent fifoPts
  timeout h := h.returnInputBuffers 0 .timeout
  consume n h := h.consume n
  flush stopped fifoPts hok h := h.commandFlush stopped fifoPts hok
  config h := h.congr rfl (fun _ _ => rfl) (fun _ _ => rfl) rfl (List.suffix_refl _) h.closed fun _ ha => .inl ha
  acquire _ h := h.openPlaypump
  acquire_start hs := hs
  start _ hs h := h.start hs
  startFailed hs h := h.congr rfl (fun _ _ => rfl) (fun _ _ => rfl) hs.symm (List.suffix_refl _) (fun _ => rfl)
    fun _ ha => .inl ha
  stop _ h := h.stop
  release _ h := h.release
  returnPortBuffers hclosed h := h.returnPortBuffers (h.closed hclosed)
  portFlags _ _ h := h.setPort rfl

end VideoDecoder

theorem InputSide.init_accounting (maxDescriptors : Nat) (inputDef : PortDefinition) :
    (InputSide.init maxDescriptors inputDef).Accounting :=
  .of_empty rfl rfl rfl ⟨List.not_mem_nil, List.not_mem_nil⟩

/-- In every run of either decoder in which the client submits only buffers that it owns, and in which no counted
    descriptors are dropped by a flush or a start, the descriptor counter is right in every state. -/
theorem descriptors_accounted (codec : VideoCodec) (outputMode : OutputMode) (adaptive : Bool)
    (audioCodec : AudioCodec) (mp4ff : Bool) (inputDef outputDef : PortDefinition) :
    (∀ d, Reaches VideoDecoder.step (fun d a => (d.clientOwns a && d.descriptorsKept a) = true)
        (VideoDecoder.init codec outputMode adaptive inputDef outputDef) d → d.inp.DescriptorsAccounted) ∧
    (∀ d, Reaches AudioDecoder.step (fun d a => (d.clientOwns a && d.descriptorsKept a) = true)
        (AudioDecoder.init audioCodec mp4ff inputDef outputDef) d → d.inp.DescriptorsAccounted) := by
  constructor
  · intro d h
    have hkept : VideoDecoder.InputKept codec InputSide.Accounting d := by
      refine h.invariant ⟨InputSide.init_accounting _ _, rfl, rfl⟩ fun _ _ _ hd hok hstep => ?_
      rw [Bool.and_eq_true] at hok
      exact hd.step (VideoDecoder.accountingRules codec) (VideoDecoder.descriptorConditions_of_kept hok.1 hok.2) hstep
    exact hkept.inp.accounted
  · intro d h
    have hacc : d.inp.Accounting := by
      refine h.invariant (P := fun d => d.inp.Accounting) (InputSide.init_accounting _ _) fun _ _ _ hd hok hstep => ?_
      rw [Bool.and_eq_true] at hok
      exact AudioDecoder.step_accounting hd hok.1 hok.2 hstep
    exact hacc.accounted

/-! ### Runs on small ports -/

/-- Two input buffers and one output buffer. -/
def smallInput : PortDefinition :=
  { nPortIndex := 0, nBufferCountActual := 2, nBufferCountMin := 2, nBufferSize := 65536 }

def smallOutput : PortDefinition :=
  { nPortIndex := 1, nBufferCountActual := 1, nBufferCountMin := 1, nBufferSize := 64 }

def frameHeader : BufferHeader :=
  { pBuffer := [1, 2, 3, 4], nAllocLen := 65536, nFilledLen := 4, nTimeStamp := 40000 }

/-- The video decoder executes and gets a frame. -/
def videoFrame : List VideoAction :=
  [.stateSet .idle {} {} {}, .allocateInputBuffer 10 65536 false, .allocateInputBuffer 11 65536 false,
   .allocateOutputBuffer 20 64 0 false, .resume false {} {}, .stateSet .executing {} {} {},
   .emptyThisBuffer {} 10 frameHeader]

/-- The audio decoder executes and gets a frame. -/
def audioFrame : List AudioAction :=
  [.stateSet .idle {} {}, .allocateInputBuffer 10 65536 false, .allocateInputBuffer 11 65536 false,
   .allocateOutputBuffer 20 false, .resume false {} {}, .stateSet .executing {} {}, .emptyThisBuffer {} 10 frameHeader {}]

/-- The descriptors of a frame are counted while the playpump consumes them. -/
theorem descriptors_accounted_smallFrame :
    (∃ d, d.inp.submittedDescriptors = 2 ∧ d.inp.descFifo = [10] ∧ d.inp.DescriptorsAccounted ∧
      Reaches VideoDecoder.step (fun d a => (d.clientOwns a && d.descriptorsKept a) = true)
        (VideoDecoder.init .avc .standard false smallInput smallOutput) d) ∧
    (∃ d, d.inp.submittedDescriptors = 2 ∧ d.inp.descFifo = [10] ∧ d.inp.DescriptorsAccounted ∧
      Reaches AudioDecoder.step (fun d a => (d.clientOwns a && d.descriptorsKept a) = true)
        (AudioDecoder.init .mp3 false smallInput smallOutput) d) := by
  obtain ⟨hvideo, haudio⟩ := descriptors_accounted .avc .standard false .mp3 false smallInput smallOutput
  constructor
  · obtain ⟨d, hd, hp⟩ := Reaches.exists_of_run VideoDecoder.step (fun d a => d.clientOwns a && d.descriptorsKept a)
      (VideoDecoder.init .avc .standard false smallInput smallOutput) (videoFrame ++ [.consume 1])
      (fun d => d.inp.submittedDescriptors = 2 && d.inp.descFifo = [10]) (by decide +kernel)
    simp only [Bool.and_eq_true, decide_eq_true_eq] at hp
    exact ⟨d, hp.1, hp.2, hvideo d hd, hd⟩
  · obtain ⟨d, hd, hp⟩ := Reaches.exists_of_run AudioDecoder.step (fun d a => d.clientOwns a && d.descriptorsKept a)
      (AudioDecoder.init .mp3 false smallInput smallOutput) (audioFrame ++ [.consume 1])
      (fun d => d.inp.submittedDescriptors = 2 && d.inp.descFifo = [10]) (by decide +kernel)
    simp only [Bool.and_eq_true, decide_eq_true_eq] at hp
    exact ⟨d, hp.1, hp.2, haudio d hd, hd⟩

/-- With a buffer freed, the port is not populated; a flush then returns the queued frame and keeps its descriptors
    counted. -/
theorem flush_keeps_descriptors_counted :
    ∃ d, Reaches VideoDecoder.step (fun d a => d.clientOwns a = true)
        (VideoDecoder.init .avc .standard false smallInput smallOutput) d ∧
      d.inp.hPlaypump = true ∧ ¬ d.inp.DescriptorsAccounted := by
  obtain ⟨d, hd, hp⟩ := Reaches.exists_of_run VideoDecoder.step VideoDecoder.clientOwns
    (VideoDecoder.init .avc .standard false smallInput smallOutput)
    (videoFrame ++ [.freeInputBuffer 11, .flushInput false none])
    (fun d => d.inp.hPlaypump && d.inp.port.bufferQueue = [] && d.inp.submittedDescriptors = 2) (by decide +kernel)
  simp only [Bool.and_eq_true, decide_eq_true_eq] at hp
  obtain ⟨⟨hopen, hqueue⟩, hsub⟩ := hp
  refine ⟨d, hd, hopen, fun h => ?_⟩
  have hsum := h.submitted
  rw [hqueue, hsub] at hsum
  simp at hsum

end BcmPlatform.Bomx
