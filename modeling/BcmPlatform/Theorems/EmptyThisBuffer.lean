import BcmPlatform.Theorems.InputReturn

/-! What `EmptyThisBuffer` can do to the input side: prepare the buffer, submit its descriptors, queue it, and submit
    the end of the stream behind it. It stops after any of these. -/

namespace BcmPlatform.Bomx
namespace InputSide
variable {s s' s'' : InputSide} {b c : BufferId}

/-- Buffer `b` was prepared: its descriptor count and its complete flag are as before, and so are the other buffers,
    the port and the counters. -/
structure Prepared (b : BufferId) (s s' : InputSide) : Prop where
  other : ∀ c, c ≠ b → s'.buffer c = s.buffer c
  numDescriptors : (s'.buffer b).numDescriptors = (s.buffer b).numDescriptors
  complete : (s'.buffer b).complete = (s.buffer b).complete
  maxHeaderLen : (s'.buffer b).maxHeaderLen = (s.buffer b).maxHeaderLen
  config : s.configBuffer.length ≤ codecConfigBufferSize → s'.configBuffer.length ≤ codecConfigBufferSize
  rest : s' = { s with buffer := s'.buffer, tracker := s'.tracker, ptsReceived := s'.ptsReceived,
                       configBuffer := s'.configBuffer, configBufferState := s'.configBufferState }

namespace Prepared

theorem refl (b : BufferId) (s : InputSide) : Prepared b s s := ⟨fun _ _ => rfl, rfl, rfl, rfl, id, rfl⟩

theorem trans (h : Prepared b s s') (h' : Prepared b s' s'') : Prepared b s s'' where
  other := fun c hc => (h'.other c hc).trans (h.other c hc)
  numDescriptors := h'.numDescriptors.trans h.numDescriptors
  complete := h'.complete.trans h.complete
  maxHeaderLen := h'.maxHeaderLen.trans h.maxHeaderLen
  config := h'.config ∘ h.config
  rest := by
    rw [h'.rest]
    conv_lhs => rw [h.rest]

theorem setBuffer {info : InputBuffer} (hn : info.numDescriptors = (s.buffer b).numDescriptors)
    (hc : info.complete = (s.buffer b).complete) (hh : info.maxHeaderLen = (s.buffer b).maxHeaderLen) :
    Prepared b s (s.setBuffer b info) where
  other := fun c hne => by simp [InputSide.setBuffer, hne]
  numDescriptors := by simpa [InputSide.setBuffer] using hn
  complete := by simpa [InputSide.setBuffer] using hc
  maxHeaderLen := by simpa [InputSide.setBuffer] using hh
  config := id
  rest := rfl

theorem port (h : Prepared b s s') : s'.port = s.port := by rw [h.rest]

end Prepared

theorem trackFrame_prepared (codec : VideoCodec) : Prepared b s (s.trackFrame codec b) := by
  simp only [trackFrame]
  split
  · exact Prepared.setBuffer rfl rfl rfl
  · have h : Prepared b s (s.setBuffer b { s.buffer b with pts := (s.tracker.add (s.buffer b).header).2 }) :=
      Prepared.setBuffer rfl rfl rfl
    exact ⟨h.other, h.numDescriptors, h.complete, h.maxHeaderLen, id, rfl⟩

theorem setBuilder_prepared (f : FrameBuilder) (ptsReceived : Bool) :
    Prepared b s { s.setBuilder b f with ptsReceived } := by
  have h : Prepared b s (s.setBuffer b { s.buffer b with pHeader := f.header, headerLen := f.headerLen }) :=
    Prepared.setBuffer rfl rfl rfl
  exact ⟨h.other, h.numDescriptors, h.complete, h.maxHeaderLen, id, rfl⟩

theorem updateBuffer_prepared (n : Nat) : Prepared b s (s.updateBuffer b n) := Prepared.setBuffer rfl rfl rfl

theorem configBufferInit_prepared : Prepared b s s.configBufferInit :=
  ⟨fun _ _ => rfl, rfl, rfl, rfl, fun _ => Nat.zero_le _, rfl⟩

theorem configBufferAppend_prepared {size : Nat} (hsize : size ≤ codecConfigBufferSize) (data : List UInt8) :
    Prepared b s (s.configBufferAppend size data).1 := by
  unfold configBufferAppend
  split
  · exact .refl b s
  · next hroom =>
    refine ⟨fun _ _ => rfl, rfl, rfl, rfl, fun _ => ?_, rfl⟩
    rw [List.length_append]
    omega

/-- The playpump took `n` descriptors of buffer `b`. -/
structure Sent (b : BufferId) (n : Nat) (s s' : InputSide) : Prop where
  opened : s.hPlaypump = true
  other : ∀ c, c ≠ b → s'.buffer c = s.buffer c
  numDescriptors : (s'.buffer b).numDescriptors = (s.buffer b).numDescriptors + n
  complete : (s'.buffer b).complete = (s.buffer b).complete
  maxHeaderLen : (s'.buffer b).maxHeaderLen = (s.buffer b).maxHeaderLen
  descFifo : s'.descFifo = s.descFifo ++ List.replicate n b
  submitted : s'.submittedDescriptors = s.submittedDescriptors + n
  rest : s' = { s with buffer := s'.buffer, descFifo := s'.descFifo, submittedDescriptors := s'.submittedDescriptors }

theorem Sent.port {n : Nat} (h : Sent b n s s') : s'.port = s.port := by rw [h.rest]

theorem submit_sent {accepted : Bool} {n : Nat} (h : s.submit accepted b n = some s') : Sent b n s s' := by
  simp only [submit] at h
  split at h
  · next hopen =>
    cases h
    rw [Bool.and_eq_true] at hopen
    exact ⟨hopen.1, fun c hc => by simp [hc], by simp, by simp, by simp, rfl, rfl, rfl⟩
  · cases h

/-- Descriptors of the buffer were submitted, or it has none. -/
def Submitted (b : BufferId) (s s' : InputSide) : Prop := s' = s ∨ ∃ n, Sent b n s s'

/-- What `EmptyThisBuffer` can do, once count and flag of the buffer are reset. -/
inductive Fed (b : BufferId) (s : InputSide) : InputSide → Prop where
  | dropped {s₁ : InputSide} : Prepared b s s₁ → Fed b s s₁
  | queued {s₁ s₂ : InputSide} : Prepared b s s₁ → Submitted b s₁ s₂ → Fed b s (s₂.queueInputBuffer b).1
  | ended {s₁ s₂ s₃ : InputSide} : Prepared b s s₁ → Submitted b s₁ s₂ → (s₂.queueInputBuffer b).2 = .none →
      Sent b 1 (s₂.queueInputBuffer b).1 s₃ → Fed b s { s₃ with eosPending := true }

/-- The buffer with its count and flag reset. -/
def resetBuffer (b : BufferId) (s : InputSide) : InputSide :=
  s.setBuffer b { s.buffer b with numDescriptors := 0, complete := false }

theorem emptyConfig_fed {size : Nat} (hsize : size ≤ codecConfigBufferSize) : Fed b s (s.emptyConfig size b).1 := by
  have hinit : Prepared b s (if s.configBufferState ≠ .accumulating then s.configBufferInit else s) := by
    split
    · exact configBufferInit_prepared
    · exact .refl b s
  simp only [emptyConfig]
  generalize (if s.configBufferState ≠ .accumulating then s.configBufferInit else s) = s₀ at hinit ⊢
  have happend := hinit.trans (configBufferAppend_prepared hsize (s₀.buffer b).header.payload)
  split
  · exact .queued happend (.inl rfl)
  · exact .dropped happend

theorem buildInputFrame_error {streamId : UInt8} {first : Bool} {pts : Option Nat} {maxDescriptors : Nat}
    {header payload : List UInt8} {f : FrameBuilder} {err : OmxError}
    (h : (buildInputFrame streamId first pts header payload maxDescriptors f).2 = .error err) : err ≠ .none := by
  simp only [buildInputFrame] at h
  generalize (if first = true then 0 else f.headerLen) = off at h
  split at h
  · cases h
    decide
  · split at h
    · cases h
      decide
    · split at h
      · cases h
      · next hne =>
        cases h
        exact hne

theorem videoBuildInputFrame_error {codec : VideoCodec} {ptsReceived first : Bool} {pts maxDescriptors : Nat}
    {header payload : List UInt8} {f : FrameBuilder} {err : OmxError}
    (h : (videoBuildInputFrame codec ptsReceived first pts header payload maxDescriptors f).2.2 = .error err) :
    err ≠ .none := by
  unfold videoBuildInputFrame at h
  split at h
  · exact buildInputFrame_error h
  · exact buildInputFrame_error h

/-- A frame is prepared and either stays unqueued with an error, or is submitted and queued. -/
def FrameFed (b : BufferId) (frame : InputSide → InputSide × OmxError) : Prop :=
  ∀ s, ∃ s₁, Prepared b s s₁ ∧ (((frame s).1 = s₁ ∧ (frame s).2 ≠ .none) ∨
    ∃ n s₂, Sent b n s₁ s₂ ∧ frame s = s₂.queueInputBuffer b)

theorem emptyFrame_fed (codec : VideoCodec) (accepted : Bool) : FrameFed b (emptyFrame codec accepted b) := by
  intro s
  simp only [emptyFrame]
  have htrack : Prepared b s (s.trackFrame codec b) := trackFrame_prepared codec
  split
  · next err herr =>
    exact ⟨_, htrack.trans (setBuilder_prepared _ _), .inl ⟨rfl, videoBuildInputFrame_error herr⟩⟩
  · split
    · refine ⟨_, ?_, .inl ⟨rfl, OmxError.noConfusion⟩⟩
      exact (htrack.trans (setBuilder_prepared _ _)).trans (updateBuffer_prepared _)
    · next s₂ hsub =>
      refine ⟨_, ?_, .inr ⟨_, s₂, submit_sent hsub, rfl⟩⟩
      exact (htrack.trans (setBuilder_prepared _ _)).trans (updateBuffer_prepared _)

theorem emptyEos_fed {s₁ s₂ : InputSide} {accepted : Bool} (hp : Prepared b s s₁) (hs : Submitted b s₁ s₂)
    (hq : (s₂.queueInputBuffer b).2 = .none) : Fed b s ((s₂.queueInputBuffer b).1.emptyEos accepted b).1 := by
  simp only [emptyEos]
  split
  · exact .queued hp hs
  · next s₃ hsub => exact .ended hp hs hq (submit_sent hsub)

theorem emptyBuffer_fed {size : Nat} {frame : InputSide → InputSide × OmxError} {eosAccepted : Bool}
    (hsize : size ≤ codecConfigBufferSize) (hframe : FrameFed b frame) (haccept : headerAccepted (s.buffer b).header = true) :
    Fed b (s.resetBuffer b) (s.emptyBuffer size frame eosAccepted b).1 := by
  -- the end of the stream follows a buffer that was queued
  have hend : ∀ {s₁ s₂ : InputSide} (eos : Bool), Prepared b (s.resetBuffer b) s₁ → Submitted b s₁ s₂ →
      Fed b (s.resetBuffer b) (if (s₂.queueInputBuffer b).2 ≠ .none then s₂.queueInputBuffer b
        else if eos then (s₂.queueInputBuffer b).1.emptyEos eosAccepted b else s₂.queueInputBuffer b).1 := by
    intro s₁ s₂ eos hp hs
    split
    · exact .queued hp hs
    · next hq =>
      split
      · exact emptyEos_fed hp hs (not_not.mp hq)
      · exact .queued hp hs
  simp only [emptyBuffer, haccept, Bool.not_true, Bool.false_eq_true, if_false]
  rw [← resetBuffer]
  split
  · exact emptyConfig_fed hsize
  · split
    · obtain ⟨s₁, hp, ⟨heq, herr⟩ | ⟨n, s₂, hs, heq⟩⟩ := hframe (s.resetBuffer b)
      · rw [if_pos herr, heq]
        exact .dropped hp
      · rw [heq]
        exact hend _ hp (.inr ⟨n, hs⟩)
    · exact hend _ (.refl b _) (.inl rfl)

theorem emptyBuffer_closed {size : Nat} {frame : InputSide → InputSide × OmxError} {eosAccepted : Bool}
    (hframe : FrameFed b frame) (hclosed : s.hPlaypump = false) (hconfig : (s.buffer b).header.nFlags.codecConfig = false)
    (hdata : 0 < (s.buffer b).header.nFilledLen) :
    (s.emptyBuffer size frame eosAccepted b).1 = s ∨
      Prepared b (s.resetBuffer b) (s.emptyBuffer size frame eosAccepted b).1 := by
  simp only [emptyBuffer]
  split
  · exact .inl rfl
  · right
    rw [← resetBuffer]
    simp only [hconfig, Bool.false_eq_true, if_false]
    obtain ⟨s₁, hp, ⟨heq, herr⟩ | ⟨n, s₂, hs, -⟩⟩ := hframe (s.resetBuffer b)
    · rw [if_pos herr, heq]
      exact hp
    · have hopen : s.hPlaypump = true := by
        have h := hs.opened
        rw [hp.rest] at h
        exact h
      rw [hclosed] at hopen
      cases hopen

/-! ### What a buffer leaves as it was -/

theorem queueInputBuffer_outline : (s.queueInputBuffer b).1.outline = s.outline := by
  have hnew : s.inputBufferNew.hPlaypump = s.hPlaypump ∧ s.inputBufferNew.port = s.port := by
    simp only [inputBufferNew, alogAssert]
    split <;> exact ⟨rfl, rfl⟩
  simp only [queueInputBuffer, hnew.2]
  split
  · next port hport =>
    have hqueued := Port.Queued.of_ok hport
    exact Prod.ext hnew.1 (Port.outline_of hqueued.definition hqueued.bufferList)
  · exact Prod.ext hnew.1 (congrArg Port.outline hnew.2)

theorem Fed.keeps {α : Type} {f : InputSide → α} (h : Fed b s s')
    (hprepared : ∀ {s s' : InputSide}, Prepared b s s' → f s' = f s)
    (hsent : ∀ {s s' : InputSide} {n : Nat}, Sent b n s s' → f s' = f s)
    (hqueue : ∀ s : InputSide, f (s.queueInputBuffer b).1 = f s)
    (heos : ∀ s : InputSide, f { s with eosPending := true } = f s) : f s' = f s := by
  have hsubmitted : ∀ {s₁ s₂ : InputSide}, Prepared b s s₁ → Submitted b s₁ s₂ → f s₂ = f s := by
    intro s₁ s₂ hp hs
    rcases hs with rfl | ⟨n, hs⟩
    · exact hprepared hp
    · exact (hsent hs).trans (hprepared hp)
  cases h with
  | dropped hp => exact hprepared hp
  | queued hp hs => exact (hqueue _).trans (hsubmitted hp hs)
  | ended hp hs _ hlast =>
    calc f _ = f _ := heos _
      _ = f _ := hsent hlast
      _ = f _ := hqueue _
      _ = f s := hsubmitted hp hs

theorem Fed.outline (h : Fed b s s') : s'.outline = s.outline := by
  refine h.keeps (fun hp => ?_) (fun hs => ?_) (fun _ => queueInputBuffer_outline) (fun _ => rfl)
  · rw [hp.rest]
    rfl
  · rw [hs.rest]
    rfl

theorem emptyBuffer_outline {size : Nat} {frame : InputSide → InputSide × OmxError} {eosAccepted : Bool}
    (hsize : size ≤ codecConfigBufferSize) (hframe : FrameFed b frame) :
    (s.emptyBuffer size frame eosAccepted b).1.outline = s.outline := by
  by_cases haccept : headerAccepted (s.buffer b).header = true
  · exact (emptyBuffer_fed hsize hframe haccept).outline
  · simp [emptyBuffer, haccept]

theorem emptyThisBuffer_outline (codec : VideoCodec) (submit : SubmitResult) :
    (s.emptyThisBuffer codec submit b).1.outline = s.outline :=
  emptyBuffer_outline (Nat.le_refl _) (emptyFrame_fed codec submit.frame)

theorem emptyBuffer_hPlaypump {size : Nat} {frame : InputSide → InputSide × OmxError} {eosAccepted : Bool}
    (hsize : size ≤ codecConfigBufferSize) (hframe : FrameFed b frame) :
    (s.emptyBuffer size frame eosAccepted b).1.hPlaypump = s.hPlaypump :=
  congrArg Prod.fst (emptyBuffer_outline hsize hframe)

end InputSide
end BcmPlatform.Bomx
