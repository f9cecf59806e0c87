import BcmPlatform.Theorems.DescriptorRuns

/-! The counter of available input buffers mirrors the queue of the input port: with the playpump open, the two add up
    to the number of buffers of the port. -/

namespace BcmPlatform.Bomx
open Lib
namespace InputSide
variable {s s' : InputSide} {b : BufferId}

/-- The number of buffers that the port is defined to have. -/
def bufferCount (s : InputSide) : Nat := s.port.definition.nBufferCountActual

structure Available (s : InputSide) : Prop where
  opened : s.hPlaypump = true → s.availInputBuffers + s.port.queueDepth = s.bufferCount
  closed : s.hPlaypump = false → s.port.bufferQueue = []
  allocated : s.port.numBuffers ≤ s.bufferCount
  bound : s.bufferCount < u32
  asserts : .bufferAvailable ∉ s.asserts ∧ .availableWithinTotal ∉ s.asserts

/-- The assertions that are about descriptors and not about available buffers. -/
def DescriptorAssert (a : InputAssert) : Prop := a = .submittedCoversBuffer ∨ a = .noneSubmittedAfterFlush

theorem asserts_congr (h : .bufferAvailable ∉ s.asserts ∧ .availableWithinTotal ∉ s.asserts)
    (ha : ∀ a ∈ s'.asserts, a ∈ s.asserts ∨ DescriptorAssert a) :
    .bufferAvailable ∉ s'.asserts ∧ .availableWithinTotal ∉ s'.asserts := by
  constructor
  · intro hmem
    rcases ha _ hmem with hmem | hmem | hmem
    · exact h.1 hmem
    · cases hmem
    · cases hmem
  · intro hmem
    rcases ha _ hmem with hmem | hmem | hmem
    · exact h.2 hmem
    · cases hmem
    · cases hmem

theorem Available.congr (h : Available s) (hpump : s'.hPlaypump = s.hPlaypump)
    (havail : s'.availInputBuffers = s.availInputBuffers) (hq : s'.port.bufferQueue = s.port.bufferQueue)
    (hl : s'.port.bufferList.length ≤ s.port.bufferList.length) (hcount : s'.bufferCount = s.bufferCount)
    (ha : ∀ a ∈ s'.asserts, a ∈ s.asserts ∨ DescriptorAssert a) : Available s' where
  opened := by
    rw [hpump, havail, hcount, Port.queueDepth, hq]
    exact h.opened
  closed := by
    rw [hpump, hq]
    exact h.closed
  allocated := by
    rw [hcount]
    exact Nat.le_trans hl h.allocated
  bound := by
    rw [hcount]
    exact h.bound
  asserts := asserts_congr h.asserts ha

theorem Available.of_empty (h : Available s) (hq : s'.port.bufferQueue = []) (havail : s'.availInputBuffers = s.bufferCount)
    (hl : s'.port.bufferList = s.port.bufferList) (hcount : s'.bufferCount = s.bufferCount)
    (ha : s'.asserts = s.asserts) : Available s' where
  opened _ := by
    rw [Port.queueDepth, hq, havail, hcount]
    rfl
  closed _ := hq
  allocated := by
    rw [hcount, Port.numBuffers, hl]
    exact h.allocated
  bound := by
    rw [hcount]
    exact h.bound
  asserts := by
    rw [ha]
    exact h.asserts

/-! ### Returning buffers -/

theorem Available.returnInputPortBuffer {rest : List BufferId} (h : Available s) (hq : s.port.bufferQueue = b :: rest) :
    Available (s.returnInputPortBuffer b) := by
  have hopen : s.hPlaypump = true := by
    by_contra hclosed
    rw [h.closed (by simpa using hclosed)] at hq
    cases hq
  have hsum := h.opened hopen
  rw [Port.queueDepth, hq, List.length_cons] at hsum
  have hbound := h.bound
  have hadd : add32 s.availInputBuffers 1 = s.availInputBuffers + 1 := add32_of_lt (by omega)
  -- the counter stays within the total, so the assertion holds
  have hres : s.returnInputPortBuffer b =
      { s.returnPortBuffer b with availInputBuffers := s.availInputBuffers + 1 } := by
    simp only [InputSide.returnInputPortBuffer, inputBufferReturned, returnPortBuffer, alogAssert, hadd]
    rw [if_pos]
    rw [decide_eq_true_eq]
    exact Nat.le_trans (by omega) (Nat.le_of_eq hsum)
  rw [hres]
  refine ⟨fun _ => ?_, fun hclosed => ?_, h.allocated, h.bound, h.asserts⟩
  · simp only [returnPortBuffer, Port.queueDepth, Port.bufferComplete, hq, List.erase_cons_head]
    exact Nat.add_right_comm _ _ _ ▸ hsum
  · exact absurd (hopen.symm.trans hclosed) (by decide)

theorem Available.returnInputBuffers (h : Available s) (ticks : Ticks) (mode : ReturnMode) :
    Available (s.returnInputBuffers ticks mode) :=
  returnInputBuffers_keeps ticks mode (fun hq hs => hs.returnInputPortBuffer hq) h

theorem Available.playpumpEvent (h : Available s) (fifoPts : Option Nat) : Available (s.playpumpEvent fifoPts) := by
  have hm := playpumpEvent_marked fifoPts s
  refine h.congr ?_ ?_ ?_ ?_ ?_ fun a ha => ?_
  · rw [hm.rest]
  · rw [hm.rest]
  · rw [hm.rest]
  · rw [hm.rest]
  · rw [hm.rest]
    rfl
  · rcases hm.asserts a ha with ha | ha
    · exact .inl ha
    · exact .inr (.inl ha)

/-! ### Accepting a buffer -/

theorem Available.prepared (h : Available s) (hp : Prepared b s s') : Available s' := by
  refine h.congr ?_ ?_ ?_ ?_ ?_ fun a ha => .inl ?_
  · rw [hp.rest]
  · rw [hp.rest]
  · rw [hp.rest]
  · rw [hp.rest]
  · rw [hp.rest]
    rfl
  · rw [hp.rest] at ha
    exact ha

theorem Available.sent {n : Nat} (h : Available s) (hs : Sent b n s s') : Available s' := by
  refine h.congr ?_ ?_ ?_ ?_ ?_ fun a ha => .inl ?_
  · rw [hs.rest]
  · rw [hs.rest]
  · rw [hs.rest]
  · rw [hs.rest]
  · rw [hs.rest]
    rfl
  · rw [hs.rest] at ha
    exact ha

theorem Available.queueInputBuffer (h : Available s) (hopen : s.hPlaypump = true) (hl : b ∈ s.port.bufferList)
    (hb : b ∉ s.port.bufferQueue) : Available (s.queueInputBuffer b).1 := by
  have hlt : s.port.queueDepth < s.port.numBuffers := by
    have hnodup : (b :: s.port.bufferQueue).Nodup := List.nodup_cons.mpr ⟨hb, s.port.nodup_queue⟩
    refine hnodup.length_le_of_subset fun c hc => ?_
    rcases List.mem_cons.mp hc with rfl | hc
    · exact hl
    · exact s.port.queued c hc
  have hsum := h.opened hopen
  have hle := h.allocated
  have hnew : s.inputBufferNew = { s with availInputBuffers := s.availInputBuffers - 1 } := by
    have hpos : decide (s.availInputBuffers > 0) = true := by
      rw [decide_eq_true_eq]
      omega
    simp only [inputBufferNew, alogAssert, hpos, if_true]
    rw [sub32_of_le (by omega)]
  have hqueue : ∃ port, s.port.queueBuffer b = .ok port ∧ port.bufferQueue = s.port.bufferQueue ++ [b] ∧
      port.bufferList = s.port.bufferList ∧ port.definition = s.port.definition := by
    simp [Port.queueBuffer, hl, hb]
  obtain ⟨port, hport, hpq, hpl, hpd⟩ := hqueue
  have hres : (s.queueInputBuffer b).1 = { s with availInputBuffers := s.availInputBuffers - 1, port } := by
    simp only [InputSide.queueInputBuffer, hnew, hport]
  rw [hres]
  refine ⟨fun _ => ?_, fun hclosed => ?_, ?_, ?_, h.asserts⟩
  · simp only [Port.queueDepth, bufferCount, hpq, hpd, List.length_append, List.length_singleton]
    unfold bufferCount Port.queueDepth at hsum
    unfold Port.queueDepth at hlt
    unfold bufferCount at hle
    omega
  · exact absurd (hopen.symm.trans hclosed) (by decide)
  · simp only [bufferCount, Port.numBuffers, hpl, hpd]
    exact h.allocated
  · simp only [bufferCount, hpd]
    exact h.bound

theorem Available.fed (h : Available s) (hopen : s.hPlaypump = true) (hl : b ∈ s.port.bufferList)
    (hb : b ∉ s.port.bufferQueue) (hf : Fed b s s') : Available s' := by
  have hqueued : ∀ {s₁ s₂ : InputSide}, Prepared b s s₁ → Submitted b s₁ s₂ →
      Available (s₂.queueInputBuffer b).1 := by
    intro s₁ s₂ hp hs
    have hsub : Available s₂ ∧ s₂.hPlaypump = true ∧ s₂.port = s.port := by
      rcases hs with rfl | ⟨n, hs⟩
      · exact ⟨h.prepared hp, by rw [hp.rest]; exact hopen, hp.port⟩
      · exact ⟨(h.prepared hp).sent hs, by rw [hs.rest]; exact hs.opened, hs.port.trans hp.port⟩
    exact hsub.1.queueInputBuffer hsub.2.1 (by rw [hsub.2.2]; exact hl) (by rw [hsub.2.2]; exact hb)
  cases hf with
  | dropped hp => exact h.prepared hp
  | queued hp hs => exact hqueued hp hs
  | ended hp hs _ hsent =>
    have hend := (hqueued hp hs).sent hsent
    exact hend.congr rfl rfl rfl (Nat.le_refl _) rfl fun _ ha => .inl ha

theorem Available.setBuffer (h : Available s) (info : InputBuffer) : Available (s.setBuffer b info) :=
  h.congr rfl rfl rfl (Nat.le_refl _) rfl fun _ ha => .inl ha

/-- Without a playpump only a frame may come, which is refused. -/
def EmptyCounted (s : InputSide) (b : BufferId) (header : BufferHeader) : Prop :=
  b ∉ s.port.bufferQueue ∧ (s.hPlaypump = true ∨ (header.nFlags.codecConfig = false ∧ 0 < header.nFilledLen))

theorem Available.emptyBuffer (h : Available s) (hl : b ∈ s.port.bufferList)
    (hok : EmptyCounted s b (s.buffer b).header) {size : Nat} {frame : InputSide → InputSide × OmxError}
    {eosAccepted : Bool} (hsize : size ≤ codecConfigBufferSize) (hframe : FrameFed b frame) :
    Available (s.emptyBuffer size frame eosAccepted b).1 := by
  obtain ⟨hb, hopen⟩ := hok
  by_cases hpump : s.hPlaypump = true
  · by_cases haccept : headerAccepted (s.buffer b).header = true
    · exact (h.setBuffer _).fed hpump hl hb (emptyBuffer_fed hsize hframe haccept)
    · simp only [InputSide.emptyBuffer, haccept, Bool.not_false, if_true]
      exact h
  · rcases hopen with hopen | ⟨hconfig, hdata⟩
    · exact absurd hopen hpump
    · have hres : (s.emptyBuffer size frame eosAccepted b).1 = s ∨
          Prepared b (s.resetBuffer b) (s.emptyBuffer size frame eosAccepted b).1 :=
        emptyBuffer_closed hframe (by simpa using hpump) hconfig hdata
      rcases hres with heq | hp
      · rw [heq]
        exact h
      · exact (h.setBuffer _).prepared hp

/-! ### Flush and state changes -/

/-- The flush goes through the playpump, or nothing is queued. -/
def FlushCounted (s : InputSide) : Prop :=
  s.hPlaypump = true → (s.port.isEnabled = true ∧ s.port.isPopulated = true) ∨ s.port.bufferQueue = []

theorem Available.returnPortBuffers (h : Available s) (hq : s.port.bufferQueue = []) : Available s.returnPortBuffers := by
  have heq : s.returnPortBuffers = s := by
    unfold InputSide.returnPortBuffers
    rw [hq]
    rfl
  rw [heq]
  exact h

theorem Available.alogAssert (h : Available s) (cond : Bool) {a : InputAssert} (ha : DescriptorAssert a) :
    Available (s.alogAssert cond a) := by
  unfold InputSide.alogAssert
  split
  · exact h
  · refine h.congr rfl rfl rfl (Nat.le_refl _) rfl fun x hx => ?_
    rcases List.mem_append.mp hx with hx | hx
    · exact .inl hx
    · rw [List.mem_singleton.mp hx]
      exact .inr ha

theorem Available.commandFlush (h : Available s) (stopped : Bool) (fifoPts : Option Nat) (hok : FlushCounted s) :
    Available (s.commandFlush stopped fifoPts) := by
  simp only [InputSide.commandFlush]
  split
  · have hflush : Available { ({ s with inputFlushing := true } : InputSide).playpumpFlush stopped with
        eosPending := false, ptsReceived := false } := by
      simp only [playpumpFlush]
      split <;> exact h.congr rfl rfl rfl (Nat.le_refl _) rfl fun _ ha => .inl ha
    have hback := fun cond => ((hflush.playpumpEvent fifoPts).alogAssert cond (.inr rfl)).returnInputBuffers 0 .all
    exact (hback _).congr rfl rfl rfl (Nat.le_refl _) rfl fun _ ha => .inl ha
  · next hbranch =>
    refine h.returnPortBuffers ?_
    by_cases hopen : s.hPlaypump = true
    · rcases hok hopen with ⟨henabled, hpopulated⟩ | hq
      · exact absurd (by rw [henabled, hpopulated, hopen]; rfl) hbranch
      · exact hq
    · exact h.closed (by simpa using hopen)

theorem Available.addInputPortBuffer (h : Available s) (hok : s.port.numBuffers < s.bufferCount)
    (maxHeaderLen nSizeBytes : Nat) (componentAllocated : Bool) :
    Available (s.addInputPortBuffer maxHeaderLen b nSizeBytes componentAllocated).1 := by
  simp only [InputSide.addInputPortBuffer]
  split
  · exact h
  · split
    · exact h
    · next port hport =>
      have hadded := Port.Added.of_ok hport
      have hq := hadded.bufferQueue
      have hl := hadded.bufferList
      have hcount : port.definition.nBufferCountActual = s.port.definition.nBufferCountActual := by
        rw [hadded.definition]
      refine ⟨?_, ?_, ?_, ?_, h.asserts⟩
      · simp only [Port.queueDepth, bufferCount, hq, hcount]
        exact h.opened
      · intro hclosed
        exact hq.trans (h.closed hclosed)
      · simp only [Port.numBuffers, bufferCount, hl, hcount, List.length_append, List.length_singleton]
        exact hok
      · simp only [bufferCount, hcount]
        exact h.bound

theorem Available.freeBuffer (h : Available s) : Available (s.freeBuffer b).1 := by
  simp only [InputSide.freeBuffer]
  split
  · exact h
  · next port hport =>
    have hremoved := Port.Removed.of_ok hport
    refine h.congr rfl rfl hremoved.bufferQueue ?_ ?_ fun _ ha => .inl ha
    · rw [hremoved.bufferList]
      exact List.length_erase_le
    · rw [bufferCount, hremoved.definition]
      rfl

theorem Available.openPlaypump (h : Available s) (hclosed : s.hPlaypump = false) : Available s.openPlaypump :=
  h.of_empty (h.closed hclosed) rfl rfl rfl rfl

theorem Available.stop (h : Available s) : Available s.stop := by
  simp only [InputSide.stop]
  have he := returnPortBuffers_emptied (inputBufferCounterReset
    { s with playpumpStarted := false, descFifo := [], eosPending := false, ptsReceived := false, tracker := [] })
  refine h.of_empty he.queue ?_ he.list ?_ ?_
  · rw [he.rest]
    rfl
  · rw [bufferCount, he.definition]
    rfl
  · rw [he.rest]
    rfl

theorem Available.release (h : Available s) : Available s.release.returnPortBuffers := by
  have he := returnPortBuffers_emptied s.release
  refine h.of_empty he.queue ?_ he.list ?_ ?_
  · rw [he.rest]
    rfl
  · rw [bufferCount, he.definition]
    rfl
  · rw [he.rest]
    rfl

end InputSide

namespace VideoDecoder

/-- No buffer is allocated beyond the number that the port is defined to have, only a frame is submitted without a
    playpump, and the input port is flushed through an open playpump or with nothing queued. -/
def buffersCounted (d : VideoDecoder) : VideoAction → Bool
  | .allocateInputBuffer .. => d.inp.port.numBuffers < d.inp.bufferCount
  | .emptyThisBuffer _ _ header => d.inp.hPlaypump || (!header.nFlags.codecConfig && 0 < header.nFilledLen)
  | .flushInput .. =>
    !d.inp.hPlaypump || (d.inp.port.isEnabled && d.inp.port.isPopulated) || d.inp.port.bufferQueue = []
  | _ => true

def availableConditions : InputConditions where
  allocate := fun i => i.port.numBuffers < i.bufferCount
  empty := InputSide.EmptyCounted
  flush := InputSide.FlushCounted

theorem availableConditions_of_counted {d : VideoDecoder} {a : VideoAction} (hown : d.clientOwns a = true)
    (hcount : d.buffersCounted a = true) : d.InputStepOk availableConditions a := by
  cases a with
  | allocateInputBuffer b nSizeBytes componentAllocated =>
    have hlt : d.inp.port.numBuffers < d.inp.bufferCount := of_decide_eq_true hcount
    exact hlt
  | emptyThisBuffer submit b header =>
    have hb : b ∉ d.inp.port.bufferQueue := of_decide_eq_true hown
    refine ⟨hb, ?_⟩
    simpa [buffersCounted] using hcount
  | flushInput stopped fifoPts =>
    intro hopen
    simpa [buffersCounted, hopen] using hcount
  | stateSet newState n r r' =>
    cases newState with
    | executing => exact .inr trivial
    | _ => trivial
  | _ => trivial

open InputSide in
theorem availableRules (codec : VideoCodec) : InputRules codec availableConditions Available where
  polled h hi := h.keeps (fun i t e hi => hi.congr rfl rfl rfl (Nat.le_refl _) rfl fun _ ha => .inl ha)
    (fun i ticks hi => hi.returnInputBuffers ticks .timestamp) hi
  polled_start _ _ := trivial
  allocate _ _ _ hok h := h.addInputPortBuffer hok _ _ _
  empty submit b header hmem hok h := by
    refine (h.setBuffer _).emptyBuffer hmem ⟨hok.1, ?_⟩ (Nat.le_refl _) (emptyFrame_fed codec submit.frame)
    simpa [InputSide.setBuffer] using hok.2
  free _ h := h.freeBuffer
  playpumpEvent fifoPts h := h.playpumpEvent fifoPts
  timeout h := h.returnInputBuffers 0 .timeout
  consume _ h := h.congr rfl rfl rfl (Nat.le_refl _) rfl fun _ ha => .inl ha
  flush stopped fifoPts hok h := h.commandFlush stopped fifoPts hok
  config h := h.congr rfl rfl rfl (Nat.le_refl _) rfl fun _ ha => .inl ha
  acquire hclosed h := h.openPlaypump hclosed
  acquire_start _ := trivial
  start _ _ h := h.congr rfl rfl rfl (Nat.le_refl _) rfl fun _ ha => .inl ha
  startFailed _ h := h.congr rfl rfl rfl (Nat.le_refl _) rfl fun _ ha => .inl ha
  stop _ h := h.stop
  release _ h := h.release
  returnPortBuffers hclosed h := h.returnPortBuffers (h.closed hclosed)
  portFlags _ _ h := h.congr rfl rfl rfl (Nat.le_refl _) rfl fun _ ha => .inl ha

/-- In every run in which the client submits only buffers that it owns and every buffer is counted, the available and
    the queued buffers add up to all buffers while the playpump is open, and neither assertion about them fails. -/
theorem available_add_queued (codec : VideoCodec) (outputMode : OutputMode) (adaptive : Bool)
    (inputDef outputDef : PortDefinition) (hcount : inputDef.nBufferCountActual < u32) (d : VideoDecoder)
    (h : Reaches VideoDecoder.step (fun d a => (d.clientOwns a && d.buffersCounted a) = true)
      (VideoDecoder.init codec outputMode adaptive inputDef outputDef) d) :
    (d.inp.hPlaypump = true →
      d.inp.availInputBuffers + d.inp.port.queueDepth = d.inp.port.definition.nBufferCountActual) ∧
    .bufferAvailable ∉ d.inp.asserts ∧ .availableWithinTotal ∉ d.inp.asserts := by
  have hinit : (InputSide.init (Bomx.maxDescriptorsPerBuffer inputDef.nBufferSize) inputDef).Available :=
    ⟨(fun hopen => by cases hopen), fun _ => rfl, Nat.zero_le _, hcount, List.not_mem_nil, List.not_mem_nil⟩
  have hkept : InputKept codec InputSide.Available d := by
    refine h.invariant ⟨hinit, rfl, rfl⟩ fun _ _ _ hd hok hstep => ?_
    rw [Bool.and_eq_true] at hok
    exact hd.step (availableRules codec) (availableConditions_of_counted hok.1 hok.2) hstep
  exact ⟨hkept.inp.opened, hkept.inp.asserts⟩

/-- With one of the two buffers queued, one is available. -/
theorem available_add_queued_smallFrame :
    smallInput.nBufferCountActual < u32 ∧ ∃ d : VideoDecoder, d.inp.availInputBuffers = 1 ∧ d.inp.port.queueDepth = 1 ∧
      .bufferAvailable ∉ d.inp.asserts ∧ .availableWithinTotal ∉ d.inp.asserts := by
  obtain ⟨d, hd, hp⟩ := Reaches.exists_of_run VideoDecoder.step (fun d a => d.clientOwns a && d.buffersCounted a)
    (VideoDecoder.init .avc .standard false smallInput smallOutput) videoFrame
    (fun d => d.inp.availInputBuffers = 1 && d.inp.port.queueDepth = 1) (by decide +kernel)
  simp only [Bool.and_eq_true, decide_eq_true_eq] at hp
  have h := available_add_queued .avc .standard false smallInput smallOutput (by decide) d hd
  exact ⟨by decide, d, hp.1, hp.2, h.2⟩

/-- The flush of a port that has lost a buffer returns the queued frame uncounted. -/
theorem flush_leaves_buffer_uncounted :
    ∃ d, Reaches VideoDecoder.step (fun d a => d.clientOwns a = true)
        (VideoDecoder.init .avc .standard false smallInput smallOutput) d ∧ d.inp.hPlaypump = true ∧
      d.inp.availInputBuffers + d.inp.port.queueDepth ≠ d.inp.port.definition.nBufferCountActual := by
  obtain ⟨d, hd, hp⟩ := Reaches.exists_of_run VideoDecoder.step clientOwns
    (VideoDecoder.init .avc .standard false smallInput smallOutput)
    (videoFrame ++ [.freeInputBuffer 11, .flushInput false none])
    (fun d => d.inp.hPlaypump &&
      d.inp.availInputBuffers + d.inp.port.queueDepth ≠ d.inp.port.definition.nBufferCountActual) (by decide +kernel)
  simp only [Bool.and_eq_true, decide_eq_true_eq] at hp
  exact ⟨d, hd, hp⟩

end VideoDecoder
end BcmPlatform.Bomx
