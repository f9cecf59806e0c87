import BcmPlatform.Theorems.DescriptorRuns
import BcmPlatform.Theorems.PesRoom

/-! `EmptyThisBuffer` on errors: which error exits leave the state as it was. By the time a frame is built it has been
    tracked, by the time it is submitted its config counts as submitted, and by the time it is queued it is counted. -/

namespace BcmPlatform.Bomx
open Lib
namespace InputSide
variable {s s' : InputSide} {b : BufferId} {codec : VideoCodec} {size : Nat}

/-! ### Sizes of input buffers -/

/-- The sizes on which the room for a frame depends are those of `AddInputPortBuffer` and `ConfigBufferAppend`. -/
structure Sized (codec : VideoCodec) (size : Nat) (s : InputSide) : Prop where
  descriptors : s.maxDescriptorsPerBuffer = Bomx.maxDescriptorsPerBuffer size
  headers : ∀ b ∈ s.port.bufferList, (s.buffer b).maxHeaderLen = headerBufferSize codec s.maxDescriptorsPerBuffer
  config : s.configBuffer.length ≤ codecConfigBufferSize

theorem Sized.congr (h : Sized codec size s) (hd : s'.maxDescriptorsPerBuffer = s.maxDescriptorsPerBuffer)
    (hl : ∀ b ∈ s'.port.bufferList, b ∈ s.port.bufferList)
    (hb : ∀ b, (s'.buffer b).maxHeaderLen = (s.buffer b).maxHeaderLen)
    (hc : s.configBuffer.length ≤ codecConfigBufferSize → s'.configBuffer.length ≤ codecConfigBufferSize) :
    Sized codec size s' where
  descriptors := hd.trans h.descriptors
  headers b hmem := by
    rw [hb, hd]
    exact h.headers b (hl b hmem)
  config := hc h.config

theorem Sized.same (h : Sized codec size s) (hd : s'.maxDescriptorsPerBuffer = s.maxDescriptorsPerBuffer)
    (hl : s'.port.bufferList = s.port.bufferList) (hb : s'.buffer = s.buffer) (hc : s'.configBuffer = s.configBuffer) :
    Sized codec size s' :=
  h.congr hd (fun b hmem => hl ▸ hmem) (fun b => by rw [hb]) (fun hle => by rw [hc]; exact hle)

theorem Sized.returnInputBuffers (h : Sized codec size s) (ticks : Ticks) (mode : ReturnMode) :
    Sized codec size (s.returnInputBuffers ticks mode) := by
  obtain ⟨k, hr, -⟩ := returnInputBuffers_returned ticks mode s
  refine h.same ?_ hr.list hr.buffer ?_
  · rw [hr.rest]
  · rw [hr.rest]

theorem Sized.returnPortBuffers (h : Sized codec size s) : Sized codec size s.returnPortBuffers := by
  have he := returnPortBuffers_emptied s
  refine h.same ?_ he.list ?_ ?_
  · rw [he.rest]
  · rw [he.rest]
  · rw [he.rest]

theorem Sized.playpumpEvent (h : Sized codec size s) (fifoPts : Option Nat) :
    Sized codec size (s.playpumpEvent fifoPts) := by
  have hm := playpumpEvent_marked fifoPts s
  refine h.congr ?_ ?_ hm.maxHeaderLen ?_
  · rw [hm.rest]
  · rw [hm.rest]
    exact fun _ => id
  · rw [hm.rest]
    exact id

theorem Sized.prepared (h : Sized codec size s) (hp : Prepared b s s') : Sized codec size s' := by
  refine h.congr ?_ ?_ ?_ hp.config
  · rw [hp.rest]
  · rw [hp.port]
    exact fun _ => id
  · intro c
    by_cases hcb : c = b
    · rw [hcb, hp.maxHeaderLen]
    · rw [hp.other c hcb]

theorem Sized.sent {n : Nat} (h : Sized codec size s) (hs : Sent b n s s') : Sized codec size s' := by
  refine h.congr ?_ ?_ ?_ ?_
  · rw [hs.rest]
  · rw [hs.port]
    exact fun _ => id
  · intro c
    by_cases hcb : c = b
    · rw [hcb, hs.maxHeaderLen]
    · rw [hs.other c hcb]
  · rw [hs.rest]
    exact id

theorem Sized.queueInputBuffer (h : Sized codec size s) : Sized codec size (s.queueInputBuffer b).1 := by
  simp only [InputSide.queueInputBuffer]
  rw [inputBufferNew_rest]
  split
  · next port hport =>
    exact h.same rfl (Port.Queued.of_ok hport).bufferList rfl rfl
  · exact h.same rfl rfl rfl rfl

theorem Sized.fed (h : Sized codec size s) (hf : Fed b s s') : Sized codec size s' := by
  have hsubmitted : ∀ {s₁ s₂ : InputSide}, Prepared b s s₁ → Submitted b s₁ s₂ → Sized codec size s₂ := by
    intro s₁ s₂ hp hs
    rcases hs with rfl | ⟨n, hs⟩
    · exact h.prepared hp
    · exact (h.prepared hp).sent hs
  cases hf with
  | dropped hp => exact h.prepared hp
  | queued hp hs => exact (hsubmitted hp hs).queueInputBuffer
  | ended hp hs _ hsent => exact ((hsubmitted hp hs).queueInputBuffer.sent hsent).same rfl rfl rfl rfl

theorem Sized.setBuffer (h : Sized codec size s) {info : InputBuffer} (hi : info.maxHeaderLen = (s.buffer b).maxHeaderLen) :
    Sized codec size (s.setBuffer b info) := by
  refine h.congr rfl (fun _ => id) (fun c => ?_) id
  by_cases hcb : c = b
  · rw [hcb]
    simpa [InputSide.setBuffer] using hi
  · simp [InputSide.setBuffer, hcb]

theorem Sized.emptyThisBuffer (h : Sized codec size s) (submit : SubmitResult) :
    Sized codec size (s.emptyThisBuffer codec submit b).1 := by
  by_cases haccept : headerAccepted (s.buffer b).header = true
  · have hreset : Sized codec size (s.resetBuffer b) := h.setBuffer rfl
    exact hreset.fed (emptyBuffer_fed (Nat.le_refl _) (emptyFrame_fed codec submit.frame) haccept)
  · simp only [InputSide.emptyThisBuffer, emptyBuffer, haccept, Bool.not_false, if_true]
    exact h

theorem Sized.addBuffer (h : Sized codec size s) (nSizeBytes : Nat) (componentAllocated : Bool) :
    Sized codec size (s.addBuffer codec b nSizeBytes componentAllocated).1 := by
  simp only [InputSide.addBuffer, addInputPortBuffer]
  split
  · exact h
  · split
    · exact h
    · next hnew port hport =>
      have hlist := (Port.Added.of_ok hport).bufferList
      refine ⟨h.descriptors, fun c hmem => ?_, h.config⟩
      by_cases hcb : c = b
      · rw [hcb]
        simp [InputSide.setBuffer]
      · simp only [hlist, List.mem_append, List.mem_singleton, hcb, or_false] at hmem
        simpa [InputSide.setBuffer, hcb] using h.headers c hmem

theorem Sized.commandFlush (h : Sized codec size s) (stopped : Bool) (fifoPts : Option Nat) :
    Sized codec size (s.commandFlush stopped fifoPts) := by
  simp only [InputSide.commandFlush]
  split
  · have hflush : Sized codec size { ({ s with inputFlushing := true } : InputSide).playpumpFlush stopped with
        eosPending := false, ptsReceived := false } := by
      simp only [playpumpFlush]
      split <;> exact h.same rfl rfl rfl rfl
    have hassert : ∀ (s : InputSide) (cond : Bool) (a : InputAssert), Sized codec size s →
        Sized codec size (s.alogAssert cond a) := by
      intro s cond a h
      unfold alogAssert
      split
      · exact h
      · exact h.same rfl rfl rfl rfl
    exact ((hassert _ _ _ (hflush.playpumpEvent fifoPts)).returnInputBuffers 0 .all).same rfl rfl rfl rfl
  · exact h.returnPortBuffers

theorem Sized.freeBuffer (h : Sized codec size s) : Sized codec size (s.freeBuffer b).1 := by
  simp only [InputSide.freeBuffer]
  split
  · exact h
  · next port hport =>
    refine h.congr rfl (fun c hmem => ?_) (fun _ => rfl) id
    have hmem : c ∈ port.bufferList := hmem
    rw [(Port.Removed.of_ok hport).bufferList] at hmem
    exact List.mem_of_mem_erase hmem

theorem Sized.stop (h : Sized codec size s) : Sized codec size s.stop := by
  have hstop : Sized codec size (inputBufferCounterReset
      { s with playpumpStarted := false, descFifo := [], eosPending := false, ptsReceived := false, tracker := [] }) :=
    h.same rfl rfl rfl rfl
  exact hstop.returnPortBuffers.same rfl rfl rfl rfl

theorem Sized.release (h : Sized codec size s) : Sized codec size s.release.returnPortBuffers := by
  have hrelease : Sized codec size s.release := h.same rfl rfl rfl rfl
  exact hrelease.returnPortBuffers

end InputSide

namespace VideoDecoder

open InputSide in
theorem sizedRules (codec : VideoCodec) (size : Nat) : InputRules codec {} (Sized codec size) where
  polled h hi := h.keeps (fun i t e hi => hi.same rfl rfl rfl rfl)
    (fun i ticks hi => hi.returnInputBuffers ticks .timestamp) hi
  polled_start _ _ := trivial
  allocate _ _ _ _ h := h.addBuffer _ _
  empty {i} submit b header _ _ h := by
    have hset : Sized codec size (i.setBuffer b { i.buffer b with header }) := h.setBuffer rfl
    exact hset.emptyThisBuffer submit
  free b h := h.freeBuffer
  playpumpEvent fifoPts h := h.playpumpEvent fifoPts
  timeout h := h.returnInputBuffers 0 .timeout
  consume _ h := h.same rfl rfl rfl rfl
  flush stopped fifoPts _ h := h.commandFlush stopped fifoPts
  config h := h.congr rfl (fun _ => id) (fun _ => rfl) fun _ => Nat.zero_le _
  acquire _ h := h.same rfl rfl rfl rfl
  acquire_start _ := trivial
  start _ _ h := h.same rfl rfl rfl rfl
  startFailed _ h := h.same rfl rfl rfl rfl
  stop _ h := h.stop
  release _ h := h.release
  returnPortBuffers _ h := h.returnPortBuffers
  portFlags _ _ h := h.same rfl rfl rfl rfl

end VideoDecoder

/-! ### What the steps of `EmptyThisBuffer` change -/

theorem BufferTracker.add_ne (t : BufferTracker) (h : BufferHeader) : (t.add h).1 ≠ t := by
  have hlen : (t.add h).1.length = t.length + 1 := by
    simp only [BufferTracker.add, BufferTracker.insert]
    split
    · split
      · simp
      · split
        · simp
        · simp only [List.length_append, List.length_take, List.length_cons, List.length_drop]
          omega
    · next hnone =>
      cases t with
      | nil => rfl
      | cons n t => exact absurd rfl (hnone _ _ (List.getLast?_cons ..) )
  intro heq
  rw [heq] at hlen
  omega

theorem sub32_one_ne (a : Nat) : sub32 a 1 ≠ a := by
  unfold sub32 u32
  split <;> omega

theorem buildInputFrame_configState {streamId : UInt8} {pts : Option Nat} {codecHeader payload : List UInt8}
    {maxDescriptors : Nat} {s : FrameBuilder} (hdesc : 4 ≤ maxDescriptors) (hroom : pesHeaderLength pts ≤ s.maxHeaderLen) :
    (buildInputFrame streamId true pts codecHeader payload maxDescriptors s).1.configBufferState =
      match (buildInputFrame streamId true pts codecHeader payload maxDescriptors s).2 with
      | .ok _ => .submitted
      | .error _ => if s.configBufferState = .flushed then .accumulating else s.configBufferState := by
  have hstart : ¬ sub32 s.maxHeaderLen (s.start true) < pesHeaderLength pts := by
    rw [FrameBuilder.start, if_pos rfl, sub32_of_le (Nat.zero_le _)]
    omega
  rw [buildInputFrame_eq, if_neg (by omega), if_neg hstart]
  by_cases herr : (s.packets streamId true pts codecHeader payload.length maxDescriptors).2 = .none
  · simp [herr]
  · simp only [herr, if_false]
    cases s.configBufferState <;> simp

namespace InputSide
variable {s s' : InputSide} {b : BufferId} {codec : VideoCodec} {size : Nat}

theorem queueInputBuffer_avail : (s.queueInputBuffer b).1.availInputBuffers ≠ s.availInputBuffers := by
  have hnew : s.inputBufferNew.availInputBuffers ≠ s.availInputBuffers := by
    simp only [inputBufferNew, alogAssert]
    split <;> exact sub32_one_ne _
  simp only [queueInputBuffer]
  split <;> exact hnew

/-- What a client relies on when `EmptyThisBuffer` fails. -/
structure Unchanged (s s' : InputSide) : Prop where
  tracker : s'.tracker = s.tracker
  queue : s'.port.bufferQueue = s.port.bufferQueue
  avail : s'.availInputBuffers = s.availInputBuffers
  submitted : s'.submittedDescriptors = s.submittedDescriptors
  descriptors : ∀ b ∈ s.port.bufferQueue, (s'.buffer b).numDescriptors = (s.buffer b).numDescriptors
  complete : ∀ b ∈ s.port.bufferQueue, (s'.buffer b).complete = (s.buffer b).complete
  ptsReceived : s'.ptsReceived = s.ptsReceived
  config : s'.configBuffer = s.configBuffer
  configState : s'.configBufferState = s.configBufferState

/-- The reset of the buffer's count and flag does nothing to a queued buffer. -/
def ResetHarmless (b : BufferId) (s : InputSide) : Prop :=
  b ∈ s.port.bufferQueue → (s.buffer b).numDescriptors = 0 ∧ (s.buffer b).complete = false

/-- The parts of the state other than the port and the descriptors. -/
def KeepsRest (s s' : InputSide) : Prop :=
  s'.availInputBuffers = s.availInputBuffers ∧ s'.tracker = s.tracker ∧ s'.ptsReceived = s.ptsReceived ∧
    s'.configBuffer = s.configBuffer ∧ s'.configBufferState = s.configBufferState

theorem unchanged_iff_of_prepared (hp : Prepared b (s.resetBuffer b) s') :
    Unchanged s s' ↔ ResetHarmless b s ∧ KeepsRest (s.resetBuffer b) s' := by
  have hn : (s'.buffer b).numDescriptors = 0 := by
    rw [hp.numDescriptors]
    simp [resetBuffer, setBuffer]
  have hc : (s'.buffer b).complete = false := by
    rw [hp.complete]
    simp [resetBuffer, setBuffer]
  have hother : ∀ c, c ≠ b → s'.buffer c = s.buffer c := by
    intro c hcb
    rw [hp.other c hcb]
    simp [resetBuffer, setBuffer, hcb]
  constructor
  · intro h
    refine ⟨fun hmem => ⟨?_, ?_⟩, h.avail, h.tracker, h.ptsReceived, h.config, h.configState⟩
    · rw [← h.descriptors b hmem, hn]
    · rw [← h.complete b hmem, hc]
  · rintro ⟨hreset, havail, htracker, hpts, hconfig, hstate⟩
    refine ⟨htracker, ?_, havail, ?_, ?_, ?_, hpts, hconfig, hstate⟩
    · rw [hp.rest]
      rfl
    · rw [hp.rest]
      rfl
    · intro c hmem
      by_cases hcb : c = b
      · subst hcb
        rw [hn, (hreset hmem).1]
      · rw [hother c hcb]
    · intro c hmem
      by_cases hcb : c = b
      · subst hcb
        rw [hc, (hreset hmem).2]
      · rw [hother c hcb]

theorem Fed.prepared_or_counted (h : Fed b s s') : Prepared b s s' ∨ s'.availInputBuffers ≠ s.availInputBuffers := by
  have hcounted : ∀ {s₁ s₂ : InputSide}, Prepared b s s₁ → Submitted b s₁ s₂ →
      (s₂.queueInputBuffer b).1.availInputBuffers ≠ s.availInputBuffers := by
    intro s₁ s₂ hp hs heq
    have hav : s₂.availInputBuffers = s.availInputBuffers := by
      rcases hs with rfl | ⟨n, hs⟩
      · rw [hp.rest]
      · rw [hs.rest, hp.rest]
    exact queueInputBuffer_avail (heq.trans hav.symm)
  cases h with
  | dropped hp => exact .inl hp
  | queued hp hs => exact .inr (hcounted hp hs)
  | ended hp hs _ hsent =>
    right
    have hav := hcounted hp hs
    rw [hsent.rest]
    exact hav

theorem unchanged_iff_of_fed (h : Fed b (s.resetBuffer b) s') :
    Unchanged s s' ↔ ResetHarmless b s ∧ KeepsRest (s.resetBuffer b) s' := by
  rcases h.prepared_or_counted with hp | hcounted
  · exact unchanged_iff_of_prepared hp
  · exact ⟨fun hu => absurd hu.avail hcounted, fun hk => absurd hk.2.1 hcounted⟩

/-! ### Config data -/

/-- The config buffer that data is appended to. -/
def startConfig (s : InputSide) : InputSide :=
  if s.configBufferState ≠ .accumulating then s.configBufferInit else s

theorem emptyConfig_exits :
    (size < s.startConfig.configBuffer.length + (s.buffer b).header.nFilledLen ∧
      (s.emptyConfig size b).1 = s.startConfig) ∨
    (¬ size < s.startConfig.configBuffer.length + (s.buffer b).header.nFilledLen ∧
      (s.emptyConfig size b).1.availInputBuffers ≠ s.availInputBuffers) := by
  have hbuffer : s.startConfig.buffer = s.buffer := by
    unfold startConfig
    split <;> rfl
  have havail : s.startConfig.availInputBuffers = s.availInputBuffers := by
    unfold startConfig
    split <;> rfl
  simp only [emptyConfig]
  rw [← startConfig, configBufferAppend, hbuffer, BufferHeader.length_payload]
  by_cases hover : s.startConfig.configBuffer.length + (s.buffer b).header.nFilledLen > size
  · rw [if_pos hover]
    exact .inl ⟨hover, rfl⟩
  · rw [if_neg hover]
    exact .inr ⟨hover, fun heq => queueInputBuffer_avail (heq.trans havail.symm)⟩

/-- Config data leaves the state as it was if and only if it does not fit behind the data that is already there: a
    flushed or submitted config is emptied first. -/
theorem emptyConfig_keeps_iff :
    KeepsRest s (s.emptyConfig size b).1 ↔
      s.configBufferState = .accumulating ∧ size < s.configBuffer.length + (s.buffer b).header.nFilledLen := by
  have hexits := @emptyConfig_exits s b size
  by_cases hstate : s.configBufferState = .accumulating
  · have hstart : s.startConfig = s := by simp [startConfig, hstate]
    rw [hstart] at hexits
    rcases hexits with ⟨hover, heq⟩ | ⟨hfit, hcounted⟩
    · rw [heq]
      exact ⟨fun _ => ⟨hstate, hover⟩, fun _ => ⟨rfl, rfl, rfl, rfl, rfl⟩⟩
    · exact ⟨fun hk => absurd hk.1 hcounted, fun h => absurd h.2 hfit⟩
  · refine ⟨fun hk => ?_, fun h => absurd h.1 hstate⟩
    rcases hexits with ⟨-, heq⟩ | ⟨-, hcounted⟩
    · have hcs := hk.2.2.2.2
      rw [heq, startConfig, if_pos hstate] at hcs
      exact absurd hcs.symm hstate
    · exact absurd hk.1 hcounted

/-! ### Frames -/

/-- A fragment of the previous frame, which is not tracked. -/
def IsFragment (codec : VideoCodec) (b : BufferId) (s : InputSide) : Prop :=
  (s.buffer b).header.nTimeStamp = 0 ∧ s.ptsReceived = true ∧ codec.allowsFragments = true

/-- A fragment and the pending config fit into the packets for which the buffer has descriptors and header space. -/
def FragmentFits (b : BufferId) (s : InputSide) : Prop :=
  (s.buffer b).header.nFilledLen + (pesHeaderLengthWithoutPts - pesHeaderStartBytes) +
      (s.builder b).pendingConfig.length ≤
    maxPesPacketLength + residualRoom * ((s.maxDescriptorsPerBuffer - 5) / 2)

theorem trackFrame_tracker (codec : VideoCodec) :
    (s.trackFrame codec b).tracker = s.tracker ↔ IsFragment codec b s := by
  simp only [trackFrame]
  split
  · next h => exact ⟨fun _ => h, fun _ => rfl⟩
  · next h => exact ⟨fun heq => absurd heq (BufferTracker.add_ne _ _), fun hf => absurd hf h⟩

theorem trackFrame_rest (codec : VideoCodec) : (s.trackFrame codec b).ptsReceived = s.ptsReceived ∧
    (s.trackFrame codec b).configBuffer = s.configBuffer ∧
    (s.trackFrame codec b).configBufferState = s.configBufferState ∧
    (s.trackFrame codec b).maxDescriptorsPerBuffer = s.maxDescriptorsPerBuffer ∧
    (s.trackFrame codec b).availInputBuffers = s.availInputBuffers ∧
    (s.trackFrame codec b).hPlaypump = s.hPlaypump ∧ (s.trackFrame codec b).builder b = s.builder b := by
  simp only [trackFrame]
  split
  · exact ⟨rfl, rfl, rfl, rfl, rfl, rfl, by simp [builder, setBuffer]⟩
  · exact ⟨rfl, rfl, rfl, rfl, rfl, rfl, by simp [builder, setBuffer]⟩

theorem fragment_build (h : IsFragment codec b s) (frame : List UInt8) (maxDescriptors : Nat) :
    videoBuildInputFrame codec (s.trackFrame codec b).ptsReceived true ((s.trackFrame codec b).buffer b).pts
      (codecHeader codec frame.length) frame maxDescriptors ((s.trackFrame codec b).builder b) =
    (s.ptsReceived, buildInputFrame 0xe0 true none [] frame maxDescriptors (s.builder b)) := by
  have hpts : ((s.trackFrame codec b).buffer b).pts = 0 := by
    simp only [trackFrame]
    split
    · simp [setBuffer]
    · next hnot => exact absurd h hnot
  have hheader : codecHeader codec frame.length = [] := by
    have hfrag := h.2.2
    cases codec <;> first | rfl | cases hfrag
  obtain ⟨hrec, -, -, -, -, -, hbuilder⟩ := trackFrame_rest (s := s) (b := b) codec
  rw [hpts, hheader, hrec, hbuilder, videoBuildInputFrame, if_pos]
  simp [isFragment, h.2.1, h.2.2]

theorem fragment_ok_iff (hsized : Sized codec size s) (hb : b ∈ s.port.bufferList) (h : IsFragment codec b s) :
    (∃ ds, (buildInputFrame 0xe0 true none [] (s.buffer b).header.payload (s.maxDescriptorsPerBuffer - 1)
      (s.builder b)).2 = .ok ds) ↔ FragmentFits b s := by
  have hcodec : codecHeaderSize codec = 0 := by
    have hfrag := h.2.2
    cases codec <;> first | rfl | cases hfrag
  have hmax : s.maxDescriptorsPerBuffer - 1 = 4 + 2 * (size / residualRoom) := by
    rw [hsized.descriptors, maxDescriptorsPerBuffer_pred]
  have hpackets : (s.maxDescriptorsPerBuffer - 5) / 2 = size / residualRoom := by omega
  have hheader : (s.builder b).maxHeaderLen =
      pesHeaderLengthWithPts + ([] : List UInt8).length + 9 * (size / residualRoom) := by
    have hlen : (s.builder b).maxHeaderLen = headerBufferSize codec s.maxDescriptorsPerBuffer := hsized.headers b hb
    rw [hlen, hsized.descriptors, headerBufferSize_eq, hcodec]
    rfl
  have hfit : HeadersFit none (s.builder b).pendingConfig [] :=
    headersFit_of_limits hsized.config (Nat.zero_le _) none
  rw [hmax, buildInputFrame_ok_iff hfit hheader, FragmentFits, hpackets, BufferHeader.length_payload]
  exact Iff.rfl

theorem fragment_configState (hsized : Sized codec size s) (hb : b ∈ s.port.bufferList) (payload : List UInt8) :
    (buildInputFrame 0xe0 true none [] payload (s.maxDescriptorsPerBuffer - 1) (s.builder b)).1.configBufferState =
      match (buildInputFrame 0xe0 true none [] payload (s.maxDescriptorsPerBuffer - 1) (s.builder b)).2 with
      | .ok _ => .submitted
      | .error _ => if s.configBufferState = .flushed then .accumulating else s.configBufferState := by
  have hheader : (s.builder b).maxHeaderLen = headerBufferSize codec (Bomx.maxDescriptorsPerBuffer size) := by
    rw [← hsized.descriptors]
    exact hsized.headers b hb
  refine buildInputFrame_configState ?_ ?_
  · rw [hsized.descriptors, maxDescriptorsPerBuffer_pred]
    omega
  · rw [hheader, headerBufferSize_eq]
    simp only [pesHeaderLength, Option.isSome_none, Bool.false_eq_true, if_false, pesHeaderLengthWithoutPts,
      pesHeaderLengthWithPts]
    omega

/-- Where `EmptyThisBuffer` is when a frame was built, or was not. -/
structure Built (s₁ : InputSide) (codec : VideoCodec) (b : BufferId) (p : Bool × FrameBuilder) (s : InputSide) :
    Prop where
  tracker : s₁.tracker = (s.trackFrame codec b).tracker
  ptsReceived : s₁.ptsReceived = p.1
  config : s₁.configBuffer = s.configBuffer
  configState : s₁.configBufferState = p.2.configBufferState
  avail : s₁.availInputBuffers = s.availInputBuffers

theorem emptyFrame_exits (codec : VideoCodec) (accepted : Bool) {p : Bool × FrameBuilder × Except OmxError (List Descriptor)}
    (hp : videoBuildInputFrame codec (s.trackFrame codec b).ptsReceived true ((s.trackFrame codec b).buffer b).pts
      (codecHeader codec (s.buffer b).header.payload.length) (s.buffer b).header.payload
      ((s.trackFrame codec b).maxDescriptorsPerBuffer - 1) ((s.trackFrame codec b).builder b) = p) :
    (∃ e, p.2.2 = .error e ∧ Built (s.emptyFrame codec accepted b).1 codec b (p.1, p.2.1) s) ∨
    (∃ ds, p.2.2 = .ok ds ∧ (s.hPlaypump && accepted) = false ∧
      Built (s.emptyFrame codec accepted b).1 codec b (p.1, p.2.1) s) ∨
    (∃ ds, p.2.2 = .ok ds ∧ (s.hPlaypump && accepted) = true ∧
      (s.emptyFrame codec accepted b).1.availInputBuffers ≠ s.availInputBuffers) := by
  obtain ⟨-, hconfig, -, -, hav, hpump, -⟩ := trackFrame_rest (s := s) (b := b) codec
  simp only [emptyFrame, hp]
  split
  · next e he => exact .inl ⟨e, he, rfl, rfl, hconfig, rfl, hav⟩
  · next ds hds =>
    right
    split
    · next hsub =>
      refine .inl ⟨ds, hds, ?_, rfl, rfl, hconfig, rfl, hav⟩
      simp only [submit] at hsub
      split at hsub
      · cases hsub
      · next hnot =>
        have hclosed : ¬ ((s.trackFrame codec b).hPlaypump && accepted) = true := hnot
        rw [hpump] at hclosed
        simpa using hclosed
    · next s₂ hsub =>
      have hs := submit_sent hsub
      refine .inr ⟨ds, hds, ?_, fun heq => ?_⟩
      · simp only [submit] at hsub
        split at hsub
        · next hopen =>
          have hopen : ((s.trackFrame codec b).hPlaypump && accepted) = true := hopen
          rw [hpump] at hopen
          exact hopen
        · cases hsub
      · have hsame : s₂.availInputBuffers = s.availInputBuffers := by
          rw [hs.rest]
          exact hav
        exact queueInputBuffer_avail (heq.trans hsame.symm)

/-- A frame leaves the state as it was if and only if it is a fragment, and then if there is no room for it and the
    config was not flushed, or if it is refused by the playpump and the config was submitted before. -/
theorem emptyFrame_keeps_iff (hsized : Sized codec size s) (hb : b ∈ s.port.bufferList) (accepted : Bool) :
    KeepsRest s (s.emptyFrame codec accepted b).1 ↔
    IsFragment codec b s ∧ ((FragmentFits b s ∧ s.configBufferState = .submitted ∧ (s.hPlaypump && accepted) = false) ∨
      (¬ FragmentFits b s ∧ s.configBufferState ≠ .flushed)) := by
  unfold KeepsRest
  have hmax := (trackFrame_rest (s := s) (b := b) codec).2.2.2.1
  have htracker := trackFrame_tracker (s := s) (b := b) codec
  by_cases hfrag : IsFragment codec b s
  · have hok := fragment_ok_iff hsized hb hfrag
    have hstate := fragment_configState hsized hb (s.buffer b).header.payload
    have hexits := emptyFrame_exits codec accepted
      (fragment_build hfrag (s.buffer b).header.payload ((s.trackFrame codec b).maxDescriptorsPerBuffer - 1))
    rw [hmax] at hexits
    generalize buildInputFrame 0xe0 true none [] (s.buffer b).header.payload (s.maxDescriptorsPerBuffer - 1)
      (s.builder b) = p at hok hstate hexits
    rcases hexits with ⟨e, he, hbuilt⟩ | ⟨ds, hds, hrefused, hbuilt⟩ | ⟨ds, hds, hopen, hav⟩
    · have hnofit : ¬ FragmentFits b s := by
        rw [← hok]
        rintro ⟨ds, hds⟩
        rw [he] at hds
        cases hds
      have hcs : p.1.configBufferState = if s.configBufferState = .flushed then .accumulating else s.configBufferState := by
        rw [hstate, he]
      rw [hbuilt.avail, hbuilt.tracker, hbuilt.ptsReceived, hbuilt.config, hbuilt.configState, htracker, hcs]
      by_cases hflushed : s.configBufferState = .flushed
      · simp [hfrag, hnofit, hflushed]
      · simp [hfrag, hnofit, hflushed]
    · have hfit : FragmentFits b s := hok.mp ⟨ds, hds⟩
      have hcs : p.1.configBufferState = .submitted := by rw [hstate, hds]
      rw [hbuilt.avail, hbuilt.tracker, hbuilt.ptsReceived, hbuilt.config, hbuilt.configState, htracker, hcs]
      simp [hfrag, hfit, hrefused, eq_comm]
    · have hfit : FragmentFits b s := hok.mp ⟨ds, hds⟩
      simp [hfit, hopen, hav]
  · -- the tracker has a new entry, or the buffer was counted
    have hexits := emptyFrame_exits (b := b) (s := s) codec accepted rfl
    constructor
    · rintro ⟨hav, htr, -⟩
      rcases hexits with ⟨e, -, hbuilt⟩ | ⟨ds, -, -, hbuilt⟩ | ⟨ds, -, -, hcounted⟩
      · exact absurd (htracker.mp (hbuilt.tracker.symm.trans htr)) hfrag
      · exact absurd (htracker.mp (hbuilt.tracker.symm.trans htr)) hfrag
      · exact absurd hav hcounted
    · exact fun h => absurd h.1 hfrag

/-! ### The whole call -/

/-- When `EmptyThisBuffer` leaves a header that it accepts without a trace, given that the playpump takes a frame if
    `accepted`. -/
def TracelessExit (codec : VideoCodec) (accepted : Bool) (b : BufferId) (s : InputSide) : Prop :=
  ResetHarmless b s ∧
  if (s.buffer b).header.nFlags.codecConfig then
    s.configBufferState = .accumulating ∧
      codecConfigBufferSize < s.configBuffer.length + (s.buffer b).header.nFilledLen
  else
    0 < (s.buffer b).header.nFilledLen ∧ IsFragment codec b s ∧
      ((FragmentFits b s ∧ s.configBufferState = .submitted ∧ (s.hPlaypump && accepted) = false) ∨
        (¬ FragmentFits b s ∧ s.configBufferState ≠ .flushed))

theorem emptyEos_avail (accepted : Bool) : (s.emptyEos accepted b).1.availInputBuffers = s.availInputBuffers := by
  simp only [emptyEos]
  split
  · rfl
  · next s₁ hsub =>
    have hs := submit_sent hsub
    rw [hs.rest]

theorem emptyData_keeps_iff {frame : InputSide → InputSide × OmxError} (hframe : FrameFed b frame)
    (eos eosAccepted : Bool) :
    KeepsRest s (if (frame s).2 ≠ .none then frame s
      else if eos then (frame s).1.emptyEos eosAccepted b else frame s).1 ↔ KeepsRest s (frame s).1 := by
  by_cases herr : (frame s).2 = .none
  · have hcounted : (frame s).1.availInputBuffers ≠ s.availInputBuffers := by
      obtain ⟨s₁, hp, ⟨-, hne⟩ | ⟨n, s₂, hs, heq⟩⟩ := hframe s
      · exact absurd herr hne
      · intro hav
        rw [heq] at hav
        refine queueInputBuffer_avail (hav.trans ?_)
        rw [hs.rest, hp.rest]
    rw [if_neg (not_not.mpr herr)]
    split
    · refine ⟨fun hk => absurd hk.1 ?_, fun hk => absurd hk.1 hcounted⟩
      rw [emptyEos_avail]
      exact hcounted
    · exact Iff.rfl
  · rw [if_pos herr]

theorem isFragment_resetBuffer : IsFragment codec b (s.resetBuffer b) ↔ IsFragment codec b s := by
  simp [IsFragment, resetBuffer, setBuffer]

theorem fragmentFits_resetBuffer : FragmentFits b (s.resetBuffer b) ↔ FragmentFits b s := by
  have hbuilder : (s.resetBuffer b).builder b = s.builder b := by simp [builder, resetBuffer, setBuffer]
  have hheader : ((s.resetBuffer b).buffer b).header = (s.buffer b).header := by simp [resetBuffer, setBuffer]
  rw [FragmentFits, hbuilder, hheader]
  exact Iff.rfl

theorem emptyThisBuffer_unchanged_iff (hsized : Sized codec size s) (hb : b ∈ s.port.bufferList)
    (submit : SubmitResult) :
    Unchanged s (s.emptyThisBuffer codec submit b).1 ↔
      headerAccepted (s.buffer b).header = false ∨ TracelessExit codec submit.frame b s := by
  have hheader : ((s.resetBuffer b).buffer b).header = (s.buffer b).header := by simp [resetBuffer, setBuffer]
  by_cases haccept : headerAccepted (s.buffer b).header = true
  · have hfed : Fed b (s.resetBuffer b) (s.emptyThisBuffer codec submit b).1 :=
      emptyBuffer_fed (Nat.le_refl _) (emptyFrame_fed codec submit.frame) haccept
    have hreset : Sized codec size (s.resetBuffer b) := hsized.setBuffer rfl
    rw [unchanged_iff_of_fed hfed, TracelessExit]
    simp only [haccept, Bool.true_eq_false, false_or, and_congr_right_iff]
    intro _
    simp only [emptyThisBuffer, emptyBuffer, haccept, Bool.not_true, Bool.false_eq_true, if_false]
    rw [← resetBuffer]
    split
    · rw [emptyConfig_keeps_iff, hheader]
      exact Iff.rfl
    · by_cases hdata : 0 < (s.buffer b).header.nFilledLen
      · simp only [gt_iff_lt, hdata, if_true, true_and]
        rw [emptyData_keeps_iff (emptyFrame_fed codec submit.frame), emptyFrame_keeps_iff hreset hb,
          isFragment_resetBuffer, fragmentFits_resetBuffer]
        exact Iff.rfl
      · -- an empty buffer is counted first
        simp only [gt_iff_lt, hdata, if_false, false_and, iff_false]
        intro hk
        have hav := hk.1
        split at hav
        · exact queueInputBuffer_avail hav
        · split at hav
          · rw [emptyEos_avail] at hav
            exact queueInputBuffer_avail hav
          · exact queueInputBuffer_avail hav
  · have hrejected : headerAccepted (s.buffer b).header = false := by simpa using haccept
    simp only [emptyThisBuffer, emptyBuffer, hrejected, Bool.not_false, if_true, true_or, iff_true]
    exact ⟨rfl, rfl, rfl, rfl, fun _ _ => rfl, fun _ _ => rfl, rfl, rfl, rfl⟩

end InputSide

namespace VideoDecoder
open InputSide

/-- The input side with the header that the client hands over. -/
def received (b : BufferId) (header : BufferHeader) (d : VideoDecoder) : InputSide :=
  d.inp.setBuffer b { d.inp.buffer b with header }

@[simp] theorem received_header (b : BufferId) (header : BufferHeader) (d : VideoDecoder) :
    ((d.received b header).buffer b).header = header := by
  simp [received, InputSide.setBuffer]

theorem sized_step {codec : VideoCodec} {size : Nat} {d d' : VideoDecoder} {a : VideoAction}
    (h : InputKept codec (Sized codec size) d) (hstep : d.step a = some d') : InputKept codec (Sized codec size) d' := by
  refine h.step (sizedRules codec size) ?_ hstep
  cases a with
  | stateSet newState n r r' =>
    cases newState with
    | executing => exact .inr trivial
    | _ => trivial
  | _ => trivial

theorem sized_of_reaches {codec : VideoCodec} {outputMode : OutputMode} {adaptive : Bool}
    {inputDef outputDef : PortDefinition} {d : VideoDecoder}
    (hd : Reaches step (fun _ _ => True) (init codec outputMode adaptive inputDef outputDef) d) :
    InputKept codec (Sized codec inputDef.nBufferSize) d := by
  have hinit : Sized codec inputDef.nBufferSize
      (InputSide.init (Bomx.maxDescriptorsPerBuffer inputDef.nBufferSize) inputDef) :=
    ⟨rfl, fun _ hmem => absurd hmem List.not_mem_nil, Nat.zero_le _⟩
  exact hd.invariant ⟨hinit, rfl, rfl⟩ fun _ _ _ hd _ hstep => sized_step hd hstep

/-- In every reachable state, a call of `EmptyThisBuffer` that fails leaves tracker, queue, counters, queued buffers and
    config as they were if and only if the header is refused at once, or the call leaves at one of the exits of
    `TracelessExit`. -/
theorem emptyThisBuffer_atomic_iff (codec : VideoCodec) (outputMode : OutputMode) (adaptive : Bool)
    (inputDef outputDef : PortDefinition) (d : VideoDecoder)
    (hd : Reaches step (fun _ _ => True) (init codec outputMode adaptive inputDef outputDef) d) (submit : SubmitResult)
    (b : BufferId) (header : BufferHeader) (hb : b ∈ d.inp.port.bufferList) :
    (d.emptyThisBuffer submit b header).2 ≠ .none →
      (Unchanged d.inp (d.emptyThisBuffer submit b header).1.inp ↔
        headerAccepted header = false ∨ TracelessExit codec submit.frame b (d.received b header)) := by
  intro _
  have hkept := sized_of_reaches hd
  have hsized : Sized codec inputDef.nBufferSize (d.received b header) := hkept.inp.setBuffer rfl
  have hiff := emptyThisBuffer_unchanged_iff hsized (b := b) hb submit
  rw [received_header] at hiff
  -- the header that is handed over is no part of what is compared
  have hsame : ∀ s' : InputSide, Unchanged d.inp s' ↔ Unchanged (d.received b header) s' := by
    intro s'
    have hn : ∀ c, ((d.received b header).buffer c).numDescriptors = (d.inp.buffer c).numDescriptors := by
      intro c
      by_cases hcb : c = b
      · simp [received, InputSide.setBuffer, hcb]
      · simp [received, InputSide.setBuffer, hcb]
    have hc : ∀ c, ((d.received b header).buffer c).complete = (d.inp.buffer c).complete := by
      intro c
      by_cases hcb : c = b
      · simp [received, InputSide.setBuffer, hcb]
      · simp [received, InputSide.setBuffer, hcb]
    constructor
    · exact fun h => ⟨h.tracker, h.queue, h.avail, h.submitted, fun c hmem => (h.descriptors c hmem).trans (hn c).symm,
        fun c hmem => (h.complete c hmem).trans (hc c).symm, h.ptsReceived, h.config, h.configState⟩
    · exact fun h => ⟨h.tracker, h.queue, h.avail, h.submitted, fun c hmem => (h.descriptors c hmem).trans (hn c),
        fun c hmem => (h.complete c hmem).trans (hc c), h.ptsReceived, h.config, h.configState⟩
  rw [hsame]
  simp only [VideoDecoder.emptyThisBuffer, hkept.codec]
  exact hiff

/-! ### Runs on a small port -/

def configHeader (n : Nat) : BufferHeader :=
  { pBuffer := List.replicate n 7, nAllocLen := 65536, nFilledLen := n, nTimeStamp := 0,
    nFlags := { codecConfig := true } }

def threeInputs : PortDefinition := { smallInput with nBufferCountActual := 3 }

/-- The decoder executes and gets config data. -/
def smallConfig : List VideoAction :=
  [.stateSet .idle {} {} {}, .allocateInputBuffer 10 65536 false, .allocateInputBuffer 11 65536 false,
   .allocateInputBuffer 12 65536 false, .allocateOutputBuffer 20 64 0 false, .resume false {} {},
   .stateSet .executing {} {} {}, .emptyThisBuffer {} 10 (configHeader 4)]

/-- Config data that does not fit behind the first four bytes is refused without a trace. -/
theorem emptyThisBuffer_atomic_longConfig :
    ∃ d : VideoDecoder, d.inp.configBuffer.length = 4 ∧
      (d.emptyThisBuffer {} 12 (configHeader codecConfigBufferSize)).2 = .overflow ∧
      Unchanged d.inp (d.emptyThisBuffer {} 12 (configHeader codecConfigBufferSize)).1.inp := by
  obtain ⟨d, hd, hp⟩ := Reaches.exists_of_run step (fun _ _ => true) (init .avc .standard false threeInputs smallOutput)
    smallConfig (fun d => d.inp.configBuffer.length = 4 && d.inp.configBufferState = .accumulating &&
      12 ∈ d.inp.port.bufferList && 12 ∉ d.inp.port.bufferQueue &&
      (d.emptyThisBuffer {} 12 (configHeader codecConfigBufferSize)).2 = .overflow) (by decide +kernel)
  simp only [Bool.and_eq_true, decide_eq_true_eq] at hp
  obtain ⟨⟨⟨⟨hlen, hstate⟩, hlist⟩, hqueue⟩, herr⟩ := hp
  refine ⟨d, hlen, herr, ?_⟩
  have hreach := hd.invariant (P := Reaches step (fun _ _ => True) (init .avc .standard false threeInputs smallOutput))
    .init fun _ _ _ h _ hstep => h.step trivial hstep
  have hiff := emptyThisBuffer_atomic_iff .avc .standard false threeInputs smallOutput d hreach {} 12
    (configHeader codecConfigBufferSize) hlist (by rw [herr]; decide)
  refine hiff.mpr (.inr ⟨fun hmem => absurd hmem hqueue, ?_⟩)
  have hconfig : (d.received 12 (configHeader codecConfigBufferSize)).configBuffer = d.inp.configBuffer := rfl
  have hflag : (configHeader codecConfigBufferSize).nFlags.codecConfig = true := rfl
  rw [received_header, if_pos hflag, hconfig, hlen]
  exact ⟨hstate, Nat.lt_add_of_pos_left (by decide)⟩

/-- Behind a frame the same data is refused as well, but the config that was submitted with the frame is lost. -/
theorem emptyThisBuffer_drops_config :
    ∃ d : VideoDecoder, Reaches step (fun _ _ => True) (init .avc .standard false threeInputs smallOutput) d ∧
      12 ∈ d.inp.port.bufferList ∧ 12 ∉ d.inp.port.bufferQueue ∧
      (d.emptyThisBuffer {} 12 (configHeader (codecConfigBufferSize + 1))).2 = .overflow ∧
      d.inp.configBuffer.length = 4 ∧
      (d.emptyThisBuffer {} 12 (configHeader (codecConfigBufferSize + 1))).1.inp.configBuffer = [] ∧
      ¬ Unchanged d.inp (d.emptyThisBuffer {} 12 (configHeader (codecConfigBufferSize + 1))).1.inp := by
  obtain ⟨d, hd, hp⟩ := Reaches.exists_of_run step (fun _ _ => true) (init .avc .standard false threeInputs smallOutput)
    (smallConfig ++ [.emptyThisBuffer {} 11 frameHeader])
    (fun d => 12 ∈ d.inp.port.bufferList && 12 ∉ d.inp.port.bufferQueue &&
      (d.emptyThisBuffer {} 12 (configHeader (codecConfigBufferSize + 1))).2 = .overflow &&
      d.inp.configBuffer.length = 4 &&
      (d.emptyThisBuffer {} 12 (configHeader (codecConfigBufferSize + 1))).1.inp.configBuffer = []) (by decide +kernel)
  simp only [Bool.and_eq_true, decide_eq_true_eq] at hp
  obtain ⟨⟨⟨⟨hlist, hqueue⟩, herr⟩, hlen⟩, hempty⟩ := hp
  have hreach := hd.invariant (P := Reaches step (fun _ _ => True) (init .avc .standard false threeInputs smallOutput))
    .init fun _ _ _ h _ hstep => h.step trivial hstep
  refine ⟨d, hreach, hlist, hqueue, herr, hlen, hempty, fun h => ?_⟩
  have hsame := h.config
  rw [hempty] at hsame
  rw [← hsame] at hlen
  cases hlen

end VideoDecoder
end BcmPlatform.Bomx
