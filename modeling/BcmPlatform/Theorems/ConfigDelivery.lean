import Mathlib.Data.List.Induction
import BcmPlatform.Theorems.ConfigState

/-! Delivery of the codec config: which frames carry it. The cached config is always the latest one of the history;
    its state says whether it is due and whether further data belongs to it, as long as no frame that was to carry a
    flushed config fails. -/

namespace BcmPlatform.Bomx
open Lib

/-- Every submitted frame carries the config that is due, in front of its content. -/
def ConfigDelivered (history : List ConfigEvent) : Prop :=
  ∀ f older, (ConfigEvent.frame f :: older) <:+ history →
    ∃ pts, SpellsFrame 0xe0 pts (dueConfig older ++ f.content) f.bytes

theorem ConfigDelivered.nil : ConfigDelivered [] := fun _ _ h => by
  simp at h

theorem ConfigDelivered.cons {history : List ConfigEvent} {e : ConfigEvent} (h : ConfigDelivered history)
    (he : ∀ f, e = .frame f → ∃ pts, SpellsFrame 0xe0 pts (dueConfig history ++ f.content) f.bytes) :
    ConfigDelivered (e :: history) := by
  intro f older hsuffix
  rcases List.suffix_cons_iff.mp hsuffix with heq | hsuffix
  · cases heq
    exact he f rfl
  · exact h f older hsuffix

theorem SpellsFrame.unique {streamId streamId' : UInt8} {pts pts' : Option Nat} {content content' bytes : List UInt8}
    (h : SpellsFrame streamId pts content bytes) (h' : SpellsFrame streamId' pts' content' bytes) :
    content = content' := by
  obtain ⟨p, ps, hparse, -, -, -, hbody⟩ := h
  obtain ⟨p', ps', hparse', -, -, -, hbody'⟩ := h'
  rw [hparse] at hparse'
  cases hparse'
  exact hbody.symm.trans hbody'

/-! ### The cached config against the history -/

/-- The cached config is the latest one. Unless it is empty, its state tells whether it is due and whether further data
    belongs to it. -/
structure ConfigTracks (c : List UInt8 × ConfigBufferState) (history : List ConfigEvent) : Prop where
  latest : c.1 = latestConfig history
  due : c.1 ≠ [] → (c.2 ≠ .submitted ↔ configDue history = true)
  opened : c.1 ≠ [] → (c.2 = .accumulating ↔ configOpen history = true)

namespace ConfigTracks
variable {config : List UInt8} {state : ConfigBufferState} {history : List ConfigEvent}

theorem restart : ConfigTracks ([], .accumulating) (.restart :: history) where
  latest := rfl
  due h := absurd rfl h
  opened h := absurd rfl h

theorem pending (h : ConfigTracks (config, state) history) :
    (if state = .submitted then [] else config) = dueConfig history := by
  have hlatest : config = latestConfig history := h.latest
  unfold dueConfig
  by_cases hempty : config = []
  · rw [← hlatest, hempty]
    simp
  · have hdue : state ≠ .submitted ↔ configDue history = true := h.due hempty
    rw [← hlatest]
    by_cases hstate : state = .submitted
    · rw [if_pos hstate, if_neg fun hd => hdue.mpr hd hstate]
    · rw [if_neg hstate, if_pos (hdue.mp hstate)]

theorem append (h : ConfigTracks (config, state) history) (data : List UInt8) :
    ConfigTracks ((if state = .accumulating then config else []) ++ data, .accumulating) (.config data :: history) where
  latest := by
    have hlatest : config = latestConfig history := h.latest
    simp only [latestConfig]
    by_cases hempty : config = []
    · rw [← hlatest, hempty]
      simp
    · have hopen : state = .accumulating ↔ configOpen history = true := h.opened hempty
      by_cases hstate : state = .accumulating
      · rw [if_pos hstate, if_pos (hopen.mp hstate), hlatest]
      · rw [if_neg hstate, if_neg fun ho => hstate (hopen.mpr ho)]
  due _ := ⟨fun _ => rfl, fun _ => ConfigBufferState.noConfusion⟩
  opened _ := ⟨fun _ => rfl, fun _ => rfl⟩

theorem frame (h : ConfigTracks (config, state) history) (f : SubmittedFrame) :
    ConfigTracks (config, .submitted) (.frame f :: history) where
  latest := h.latest
  due _ := ⟨fun hne => absurd rfl hne, fun hd => by cases hd⟩
  opened _ := ⟨ConfigBufferState.noConfusion, fun ho => by cases ho⟩

theorem failed (h : ConfigTracks (config, state) history) {state' : ConfigBufferState}
    (hsame : config ≠ [] → state' = state) : ConfigTracks (config, state') (.failed :: history) where
  latest := h.latest
  due hne := by
    rw [hsame hne]
    exact h.due hne
  opened hne := by
    rw [hsame hne]
    exact h.opened hne

theorem flush (h : ConfigTracks (config, state) history) {state' : ConfigBufferState}
    (hflushed : config ≠ [] → state' = .flushed) : ConfigTracks (config, state') (.flush :: history) where
  latest := h.latest
  due hne := by
    rw [hflushed hne]
    exact ⟨fun _ => rfl, fun _ => ConfigBufferState.noConfusion⟩
  opened hne := by
    rw [hflushed hne]
    exact ⟨ConfigBufferState.noConfusion, fun ho => by cases ho⟩

end ConfigTracks

/-! ### Frames -/

theorem length_codecHeader (codec : VideoCodec) (n : Nat) :
    (InputSide.codecHeader codec n).length = codecHeaderSize codec := by
  unfold InputSide.codecHeader codecHeaderSize
  split <;> rfl

theorem codecHeaderSize_le (codec : VideoCodec) : codecHeaderSize codec ≤ 10 := by
  unfold codecHeaderSize
  split <;> simp

namespace InputSide
variable {s : InputSide} {b : BufferId} {codec : VideoCodec} {size : Nat}

/-- The time stamp of the frame's first packet. -/
def framePts (codec : VideoCodec) (b : BufferId) (s : InputSide) : Option Nat :=
  videoPts codec s.ptsReceived (tickToPts (s.buffer b).header.nTimeStamp)

/-- The frame, its first PES header, the pending config and the codec header fit into the packets for which the buffer
    has descriptors and header space. -/
def frameFits (codec : VideoCodec) (b : BufferId) (s : InputSide) : Bool :=
  (s.buffer b).header.nFilledLen + (pesHeaderLength (s.framePts codec b) - pesHeaderStartBytes) +
      (s.builder b).pendingConfig.length + codecHeaderSize codec ≤
    maxPesPacketLength + residualRoom * ((s.maxDescriptorsPerBuffer - 5) / 2)

theorem trackFrame_pts (codec : VideoCodec) :
    ((s.trackFrame codec b).buffer b).pts = tickToPts (s.buffer b).header.nTimeStamp := by
  simp only [trackFrame]
  split
  · next h =>
    rw [h.1]
    simp [setBuffer, tickToPts]
  · simp [setBuffer, BufferTracker.add]

theorem builtFrame_snd (codec : VideoCodec) : (s.builtFrame codec b).2 =
    buildInputFrame 0xe0 true (s.framePts codec b) (codecHeader codec (s.buffer b).header.payload.length)
      (s.buffer b).header.payload (s.maxDescriptorsPerBuffer - 1) (s.builder b) := by
  obtain ⟨hrec, -, -, hmax, -, -, hbuilder⟩ := trackFrame_rest (s := s) (b := b) codec
  rw [builtFrame, videoBuildInputFrame_snd, trackFrame_pts, hrec, hmax, hbuilder]
  rfl

theorem builder_room (hsized : Sized codec size s) (hb : b ∈ s.port.bufferList) (n : Nat) :
    s.maxDescriptorsPerBuffer - 1 = 4 + 2 * (size / residualRoom) ∧
    (s.maxDescriptorsPerBuffer - 5) / 2 = size / residualRoom ∧
    (s.builder b).maxHeaderLen =
      pesHeaderLengthWithPts + (codecHeader codec n).length + 9 * (size / residualRoom) := by
  have hmax : s.maxDescriptorsPerBuffer - 1 = 4 + 2 * (size / residualRoom) := by
    rw [hsized.descriptors, maxDescriptorsPerBuffer_pred]
  have hlen : (s.builder b).maxHeaderLen = headerBufferSize codec s.maxDescriptorsPerBuffer := hsized.headers b hb
  refine ⟨hmax, by omega, ?_⟩
  rw [hlen, hsized.descriptors, headerBufferSize_eq, length_codecHeader]

theorem builder_headersFit (hsized : Sized codec size s) (pts : Option Nat) (n : Nat) :
    HeadersFit pts (s.builder b).pendingConfig (codecHeader codec n) := by
  have hconfig : (s.builder b).configBuffer.length ≤ codecConfigBufferSize := hsized.config
  refine headersFit_of_limits hconfig ?_ pts
  rw [length_codecHeader]
  exact (codecHeaderSize_le codec).trans (by decide)

theorem builtFrame_ok_iff (hsized : Sized codec size s) (hb : b ∈ s.port.bufferList) :
    (∃ ds, (s.builtFrame codec b).2.2 = .ok ds) ↔ s.frameFits codec b = true := by
  obtain ⟨hmax, hpackets, hheader⟩ := builder_room hsized hb (s.buffer b).header.payload.length
  have hfit := builder_headersFit (b := b) hsized (s.framePts codec b) (s.buffer b).header.payload.length
  rw [builtFrame_snd, hmax, buildInputFrame_ok_iff hfit hheader, frameFits, decide_eq_true_eq, hpackets,
    length_codecHeader, BufferHeader.length_payload]

theorem builtFrame_configState (hsized : Sized codec size s) (hb : b ∈ s.port.bufferList) :
    (s.builtFrame codec b).2.1.configBufferState =
      if s.frameFits codec b then .submitted
      else if s.configBufferState = .flushed then .accumulating else s.configBufferState := by
  obtain ⟨hmax, -, hheader⟩ := builder_room hsized hb (s.buffer b).header.payload.length
  have hroom : pesHeaderLength (s.framePts codec b) ≤ (s.builder b).maxHeaderLen := by
    rw [hheader]
    rcases pesHeaderLength_cases (s.framePts codec b) with h | h <;> simp only [h, pesHeaderLengthWithPts] <;> omega
  have hok := builtFrame_ok_iff hsized hb
  rw [builtFrame_snd] at hok ⊢
  rw [buildInputFrame_configState (by omega) hroom]
  split
  · next ds hds => rw [if_pos (hok.mp ⟨ds, hds⟩)]
  · next e he =>
    have hnofit : ¬ s.frameFits codec b = true := by
      rw [← hok]
      rintro ⟨ds, hds⟩
      rw [he] at hds
      cases hds
    rw [if_neg hnofit]
    rfl

theorem builtFrame_spells (hsized : Sized codec size s) {ds : List Descriptor} (h : (s.builtFrame codec b).2.2 = .ok ds) :
    ∃ pts, SpellsFrame 0xe0 pts ((s.builder b).pendingConfig ++
        (codecHeader codec (s.buffer b).header.payload.length ++ (s.buffer b).header.payload))
      (descriptorBytes (s.builtFrame codec b).2.1.header (s.builtFrame codec b).2.1.configBuffer
        (s.buffer b).header.payload ds) := by
  refine ⟨s.framePts codec b, ?_⟩
  have hbuilt : buildInputFrame 0xe0 true (s.framePts codec b) (codecHeader codec (s.buffer b).header.payload.length)
      (s.buffer b).header.payload (s.maxDescriptorsPerBuffer - 1) (s.builder b) =
      ((s.builtFrame codec b).2.1, .ok ds) := by
    rw [← builtFrame_snd, ← h]
  rw [← List.append_assoc]
  exact buildInputFrame_spells (builder_headersFit hsized _ _) hbuilt

theorem frameEvent_failed (hsized : Sized codec size s) (hb : b ∈ s.port.bufferList) {accepted : Bool}
    (hfits : ¬ s.frameFits codec b = true) : s.frameEvent codec accepted b = .failed := by
  have hiff := builtFrame_ok_iff hsized hb
  simp only [frameEvent]
  split
  · rfl
  · next ds hds => exact absurd (hiff.mp ⟨ds, hds⟩) hfits

theorem frameEvent_submitted (hsized : Sized codec size s) (hb : b ∈ s.port.bufferList)
    (hfits : s.frameFits codec b = true) (hpump : s.hPlaypump = true) :
    ∃ f, s.frameEvent codec true b = .frame f ∧
      ∃ pts, SpellsFrame 0xe0 pts ((s.builder b).pendingConfig ++ f.content) f.bytes := by
  obtain ⟨ds, hds⟩ := (builtFrame_ok_iff hsized hb).mpr hfits
  simp only [frameEvent, hds, hpump, Bool.and_self, if_true]
  exact ⟨_, rfl, builtFrame_spells hsized hds⟩

/-! ### `EmptyThisBuffer` -/

/-- A call of `EmptyThisBuffer` that leaves the config to what the history says: config data that does not overflow an
    emptied config buffer; a frame that is submitted, unless its config has been submitted before or is put back to
    accumulating. -/
def configKept (codec : VideoCodec) (submit : SubmitResult) (b : BufferId) (s : InputSide) : Bool :=
  let header := (s.buffer b).header
  if !headerAccepted header || header.nFilledLen = 0 || s.configBuffer = [] then true
  else if header.nFlags.codecConfig then s.configBufferState = .accumulating || header.nFilledLen ≤ codecConfigBufferSize
  else
    match s.configBufferState with
    | .submitted => true
    | .accumulating => !s.frameFits codec b || (s.hPlaypump && submit.frame)
    | .flushed => s.frameFits codec b && s.hPlaypump && submit.frame

theorem ConfigTracks.frameEvent {history : List ConfigEvent} (hsized : Sized codec size s) (hb : b ∈ s.port.bufferList)
    (h : ConfigTracks s.config history) (accepted : Bool)
    (hok : s.configBuffer ≠ [] → match s.configBufferState with
      | .submitted => True
      | .accumulating => s.frameFits codec b = true → (s.hPlaypump && accepted) = true
      | .flushed => s.frameFits codec b = true ∧ (s.hPlaypump && accepted) = true) :
    ConfigTracks (s.configBuffer, (s.builtFrame codec b).2.1.configBufferState) (s.frameEvent codec accepted b :: history) ∧
      ∀ f, s.frameEvent codec accepted b = .frame f → ∃ pts, SpellsFrame 0xe0 pts (dueConfig history ++ f.content) f.bytes := by
  have hstate := builtFrame_configState hsized hb
  have hiff := builtFrame_ok_iff hsized hb
  simp only [InputSide.frameEvent]
  split
  · next e he =>
    have hnofit : ¬ s.frameFits codec b = true := by
      rw [← hiff]
      rintro ⟨ds, hds⟩
      rw [he] at hds
      cases hds
    rw [if_neg hnofit] at hstate
    refine ⟨h.failed fun hne => ?_, fun f hf => by cases hf⟩
    have hcond := hok hne
    rw [hstate]
    split
    · next hflushed =>
      rw [hflushed] at hcond
      exact absurd hcond.1 hnofit
    · rfl
  · next ds hds =>
    have hfit : s.frameFits codec b = true := hiff.mp ⟨ds, hds⟩
    rw [if_pos hfit] at hstate
    rw [hstate]
    split
    · refine ⟨h.frame _, fun f hf => ?_⟩
      cases hf
      have hpending : (s.builder b).pendingConfig = dueConfig history := h.pending
      rw [← hpending]
      exact builtFrame_spells hsized hds
    · next hrefused =>
      -- only a config that was submitted before counts as submitted now
      refine ⟨h.failed fun hne => ?_, fun f hf => by cases hf⟩
      have hcond := hok hne
      cases hs : s.configBufferState with
      | submitted => rfl
      | accumulating =>
        rw [hs] at hcond
        exact absurd (hcond hfit) hrefused
      | flushed =>
        rw [hs] at hcond
        exact absurd hcond.2 hrefused

theorem ConfigTracks.emptyConfig {history : List ConfigEvent} (h : ConfigTracks s.config history)
    (hok : s.configBuffer = [] ∨ s.configBufferState = .accumulating ∨
      (s.buffer b).header.nFilledLen ≤ codecConfigBufferSize) :
    ConfigTracks (s.emptyConfig codecConfigBufferSize b).1.config
      ((if (s.emptyConfig codecConfigBufferSize b).2 = .overflow then [] else [.config (s.buffer b).header.payload]) ++
        history) := by
  have hstart : s.startConfig.configBuffer = if s.configBufferState = .accumulating then s.configBuffer else [] := by
    unfold startConfig
    by_cases hacc : s.configBufferState = .accumulating
    · rw [if_neg (not_not.mpr hacc), if_pos hacc]
    · rw [if_pos hacc, if_neg hacc]
      rfl
  by_cases hover : codecConfigBufferSize < s.startConfig.configBuffer.length + (s.buffer b).header.nFilledLen
  · rw [emptyConfig_overflow hover, if_pos rfl]
    by_cases hacc : s.configBufferState = .accumulating
    · have hsame : s.startConfig = s := by simp [startConfig, hacc]
      rw [hsame]
      exact h
    · have hinit : s.startConfig.config = ([], .accumulating) := by
        rw [startConfig, if_pos hacc]
        rfl
      rw [hstart, if_neg hacc] at hover
      have hempty : s.configBuffer = [] := by
        rcases hok with hempty | hacc' | hfit
        · exact hempty
        · exact absurd hacc' hacc
        · exact absurd hover (Nat.not_lt.mpr (by simpa using hfit))
      have hlatest : s.configBuffer = latestConfig history := h.latest
      rw [hinit]
      exact ⟨hempty.symm.trans hlatest, fun hne => absurd rfl hne, fun hne => absurd rfl hne⟩
  · obtain ⟨hconfig, herr⟩ := emptyConfig_appended hover
    rw [hconfig, if_neg herr, hstart]
    exact h.append _

theorem ConfigTracks.emptyThisBuffer {history : List ConfigEvent} (hsized : Sized codec size s)
    (hb : b ∈ s.port.bufferList) (h : ConfigTracks s.config history) (hd : ConfigDelivered history)
    {submit : SubmitResult} (hok : s.configKept codec submit b = true) :
    ConfigTracks (s.emptyThisBuffer codec submit b).1.config (s.bufferEvents codec submit b ++ history) ∧
      ConfigDelivered (s.bufferEvents codec submit b ++ history) := by
  have hreset : Sized codec size (s.resetBuffer b) := hsized.setBuffer rfl
  have hheader : ((s.resetBuffer b).buffer b).header = (s.buffer b).header := by simp [resetBuffer, setBuffer]
  simp only [configKept] at hok
  rw [emptyThisBuffer_config]
  simp only [bufferEvents]
  by_cases haccept : headerAccepted (s.buffer b).header = true
  · simp only [haccept, Bool.not_true, Bool.true_eq_false, Bool.false_eq_true, if_false]
    simp only [haccept, Bool.not_true, Bool.false_or] at hok
    by_cases hflag : (s.buffer b).header.nFlags.codecConfig = true
    · simp only [hflag, if_true]
      rw [emptyThisBuffer_codecConfig codec submit haccept hflag]
      have htracks := ConfigTracks.emptyConfig (s := s.resetBuffer b) (b := b) h (by
        rw [hheader]
        by_cases hempty : (s.buffer b).header.nFilledLen = 0
        · exact .inr (.inr (hempty ▸ Nat.zero_le _))
        · by_cases hnil : s.configBuffer = []
          · exact .inl hnil
          · simp only [hempty, hnil, decide_false, Bool.or_self, Bool.false_eq_true, if_false, hflag, if_true,
              Bool.or_eq_true, decide_eq_true_eq] at hok
            exact .inr hok)
      rw [hheader] at htracks
      refine ⟨htracks, ?_⟩
      split
      · exact hd
      · exact hd.cons fun f hf => by cases hf
    · simp only [hflag, Bool.false_eq_true, if_false]
      by_cases hdata : (s.buffer b).header.nFilledLen > 0
      · simp only [hdata, if_true]
        have hframe := ConfigTracks.frameEvent hsized hb h submit.frame fun hne => by
          simp only [Nat.ne_of_gt hdata, hne, decide_false, Bool.or_self, Bool.false_eq_true, if_false, hflag] at hok
          split
          · trivial
          · next hs =>
            rw [hs] at hok
            intro hfit
            simpa [hfit] using hok
          · next hs =>
            rw [hs] at hok
            simp only [Bool.and_eq_true] at hok
            exact ⟨hok.1.1, by rw [hok.1.2, hok.2]; rfl⟩
        exact ⟨hframe.1, hd.cons hframe.2⟩
      · simp only [hdata, if_false]
        exact ⟨h, hd⟩
  · simp only [haccept, Bool.not_false, if_true]
    exact ⟨h, hd⟩

theorem emptyThisBuffer_bufferList (submit : SubmitResult) :
    (s.emptyThisBuffer codec submit b).1.port.bufferList = s.port.bufferList :=
  congrArg (fun v => v.2.2.2) (emptyThisBuffer_outline codec submit)

end InputSide

/-! ### Runs -/

namespace VideoDecoder
open InputSide

/-- A step that leaves the config to what the history says. -/
def configKept (d : VideoDecoder) : VideoAction → Bool
  | .emptyThisBuffer submit b header => (d.received b header).configKept d.codec submit b
  | .flushInput .. =>
    d.inp.configBuffer = [] || d.inp.configBufferState = .flushed ||
      (d.inp.port.isEnabled && d.inp.port.isPopulated && d.inp.hPlaypump)
  | _ => true

/-- What holds of the decoder and its history. -/
structure ConfigInvariant (codec : VideoCodec) (size : Nat) (p : VideoDecoder × List ConfigEvent) : Prop where
  sized : InputKept codec (Sized codec size) p.1
  tracks : ConfigTracks p.1.inp.config p.2
  delivered : ConfigDelivered p.2

theorem sized_received {codec : VideoCodec} {size : Nat} {d : VideoDecoder} (h : InputKept codec (Sized codec size) d)
    (b : BufferId) (header : BufferHeader) : Sized codec size (d.received b header) := h.inp.setBuffer rfl

theorem step_config {d d' : VideoDecoder} {a : VideoAction} (hstep : d.step a = some d')
    (hempty : ∀ submit b header, a ≠ .emptyThisBuffer submit b header)
    (hflush : ∀ stopped fifoPts, a ≠ .flushInput stopped fifoPts)
    (hidle : ∀ n r r', a ≠ .stateSet .idle n r r') :
    d'.inp.config = d.inp.config ∧ d.configEvents a = [] := by
  cases moves_of_step hstep with
  | allocateInputBuffer b nSizeBytes componentAllocated => exact ⟨addBuffer_config nSizeBytes componentAllocated, rfl⟩
  | allocateOutputBuffer b nSizeBytes nativeHandle componentAllocated => exact ⟨rfl, rfl⟩
  | emptyThisBuffer submit b header => exact absurd rfl (hempty submit b header)
  | fillThisBuffer r b grallocSource pHandle => exact ⟨polled_config (fillThisBuffer_inp grallocSource pHandle), rfl⟩
  | freeInputBuffer b => exact ⟨freeBuffer_config, rfl⟩
  | freeOutputBuffer r b => exact ⟨polled_config freeOutputBuffer_inp, rfl⟩
  | playpumpEvent fifoPts => exact ⟨playpumpEvent_config fifoPts, rfl⟩
  | inputBufferTimeout => exact ⟨returnInputBuffers_config 0 .timeout, rfl⟩
  | outputFrameEvent r => exact ⟨polled_config (pollDecodedFrames_inp rfl), rfl⟩
  | notifyDisplay frameId => exact ⟨rfl, rfl⟩
  | takeDisplay => exact ⟨rfl, rfl⟩
  | showDisplay r => exact ⟨polled_config displayFrameEvent_inp, rfl⟩
  | flushInput stopped fifoPts => exact absurd rfl (hflush stopped fifoPts)
  | flushOutput r => exact ⟨polled_config flushOutput_inp, rfl⟩
  | stateSet newState n r r' =>
    have hne : newState ≠ .idle := fun heq => hidle n r r' (by rw [heq])
    rw [commandStateSet_config, if_neg fun h => hne h.1]
    cases newState with
    | idle => exact absurd rfl hne
    | _ => exact ⟨rfl, rfl⟩
  | resume timeout n r => exact ⟨resume_config timeout, rfl⟩
  | consume n => exact ⟨rfl, rfl⟩
  | decode frames => exact ⟨rfl, rfl⟩

theorem ConfigInvariant.step {codec : VideoCodec} {size : Nat} {p p' : VideoDecoder × List ConfigEvent} {a : VideoAction}
    (h : ConfigInvariant codec size p) (hok : p.1.configKept a = true) (hstep : historyStep p a = some p') :
    ConfigInvariant codec size p' := by
  obtain ⟨d, history⟩ := p
  simp only [historyStep, Option.map_eq_some_iff] at hstep
  obtain ⟨d', hstep, rfl⟩ := hstep
  have hsized := sized_step h.sized hstep
  have htracks : ConfigTracks d.inp.config history := h.tracks
  have hdelivered : ConfigDelivered history := h.delivered
  by_cases hempty : ∃ submit b header, a = .emptyThisBuffer submit b header
  · obtain ⟨submit, b, header, rfl⟩ := hempty
    cases moves_of_step hstep with
    | emptyThisBuffer _ _ _ hmem =>
      have hcodec : d.codec = codec := h.sized.codec
      have hreceived := sized_received h.sized b header
      have hkept : (d.received b header).configKept codec submit b = true := by
        rw [← hcodec]
        exact hok
      obtain ⟨ht, hdel⟩ := ConfigTracks.emptyThisBuffer hreceived (b := b) hmem htracks hdelivered hkept
      rw [← hcodec] at ht hdel
      exact ⟨hsized, ht, hdel⟩
  by_cases hflush : ∃ stopped fifoPts, a = .flushInput stopped fifoPts
  · obtain ⟨stopped, fifoPts, rfl⟩ := hflush
    cases moves_of_step hstep with
    | flushInput =>
      refine ⟨hsized, ?_, hdelivered.cons fun f hf => by cases hf⟩
      have hafter := commandFlush_config (s := d.inp) stopped fifoPts
      change ConfigTracks (d.inp.commandFlush stopped fifoPts).config (.flush :: history)
      rw [hafter]
      simp only [VideoDecoder.configKept, Bool.or_eq_true, decide_eq_true_eq] at hok
      split
      · exact htracks.flush fun _ => rfl
      · next hclosed =>
        refine htracks.flush fun hne => ?_
        rcases hok with (hnil | hflushed) | hopen
        · exact absurd hnil hne
        · exact hflushed
        · exact absurd hopen hclosed
  by_cases hidle : ∃ n r r', a = .stateSet .idle n r r'
  · obtain ⟨n, r, r', rfl⟩ := hidle
    cases moves_of_step hstep with
    | stateSet =>
      refine ⟨hsized, ?_, ?_⟩
      · change ConfigTracks (d.commandStateSet .idle n r r').inp.config _
        rw [commandStateSet_config]
        by_cases hallowed : d.stateChangeAllowed .idle = true
        · rw [if_pos ⟨rfl, hallowed⟩]
          simp only [configEvents, hallowed, if_true]
          exact .restart
        · rw [if_neg fun hi => hallowed hi.2]
          simp only [configEvents, hallowed]
          exact htracks
      · simp only [configEvents]
        split
        · exact hdelivered.cons fun f hf => by cases hf
        · exact hdelivered
  · obtain ⟨hsame, hevents⟩ := step_config hstep (fun submit b header heq => hempty ⟨submit, b, header, heq⟩)
      (fun stopped fifoPts heq => hflush ⟨stopped, fifoPts, heq⟩) fun n r r' heq => hidle ⟨n, r, r', heq⟩
    rw [hevents]
    refine ⟨hsized, ?_, hdelivered⟩
    change ConfigTracks d'.inp.config history
    rw [hsame]
    exact htracks

/-- In every run whose steps leave the config to what the history says, every frame that was submitted carries exactly
    the config that was due. -/
theorem config_delivered (codec : VideoCodec) (outputMode : OutputMode) (adaptive : Bool)
    (inputDef outputDef : PortDefinition) (p : VideoDecoder × List ConfigEvent)
    (hp : Reaches historyStep (fun p a => p.1.configKept a = true)
      (init codec outputMode adaptive inputDef outputDef, []) p) : ConfigDelivered p.2 := by
  have hinit : ConfigInvariant codec inputDef.nBufferSize (init codec outputMode adaptive inputDef outputDef, []) :=
    { sized := sized_of_reaches .init
      tracks := ⟨rfl, fun hne => absurd rfl hne, fun hne => absurd rfl hne⟩
      delivered := .nil }
  have hinv : ConfigInvariant codec inputDef.nBufferSize p :=
    hp.invariant hinit fun _ _ _ h hok hstep => h.step hok hstep
  exact hinv.delivered

/-! ### A flush, a frame that is not built, and new config data -/

/-- A config, a frame with it, one without, and after a flush a frame with it again. -/
theorem config_delivered_flush :
    ∃ p : VideoDecoder × List ConfigEvent, p.2.length = 6 ∧ dueConfig p.2.tail = [7, 7, 7, 7] ∧ ConfigDelivered p.2 := by
  obtain ⟨p, hp, hend⟩ := Reaches.exists_of_run historyStep (fun p a => p.1.configKept a)
    (init .avc .standard false threeInputs smallOutput, [])
    (smallConfig ++ [.emptyThisBuffer {} 11 frameHeader, .emptyThisBuffer {} 12 frameHeader, .flushInput false none,
      .emptyThisBuffer {} 10 frameHeader])
    (fun p => p.2.length = 6 && dueConfig p.2.tail = [7, 7, 7, 7]) (by decide +kernel)
  simp only [Bool.and_eq_true, decide_eq_true_eq] at hend
  exact ⟨p, hend.1, hend.2, config_delivered .avc .standard false threeInputs smallOutput p hp⟩

/-- Three input buffers of a size for which a full frame with a time stamp is not built. -/
def tightInputs : PortDefinition := { threeInputs with nBufferSize := 2424683 }

def fullFrame : BufferHeader := { nAllocLen := 2424683, nFilledLen := 2424683, nTimeStamp := 80000 }

/-- The decoder gets config data and a frame, and is flushed. -/
def flushedConfig : List VideoAction :=
  [.stateSet .idle {} {} {}, .allocateInputBuffer 10 2424683 false, .allocateInputBuffer 11 2424683 false,
   .allocateInputBuffer 12 2424683 false, .allocateOutputBuffer 20 64 0 false, .resume false {} {},
   .stateSet .executing {} {} {}, .emptyThisBuffer {} 10 (configHeader 4), .emptyThisBuffer {} 11 frameHeader,
   .flushInput false none]

theorem emptyThisBuffer_frame {codec : VideoCodec} {size : Nat} {d : VideoDecoder} {b : BufferId} {header : BufferHeader}
    (hsized : InputKept codec (Sized codec size) d) (hb : b ∈ d.inp.port.bufferList)
    (haccept : headerAccepted header = true) (hflag : header.nFlags.codecConfig = false) (hdata : 0 < header.nFilledLen) :
    d.configEvents (.emptyThisBuffer {} b header) = [(d.received b header).frameEvent codec true b] ∧
      (d.emptyThisBuffer {} b header).1.inp.config =
        (d.inp.configBuffer, if (d.received b header).frameFits codec b then .submitted
          else if d.inp.configBufferState = .flushed then .accumulating else d.inp.configBufferState) := by
  have hcodec : d.codec = codec := hsized.codec
  have hreceived := sized_received hsized b header
  have hafter := emptyThisBuffer_config (s := d.received b header) (b := b) codec {}
  have hstate := builtFrame_configState hreceived (b := b) hb
  rw [received_header, haccept, hflag, hstate] at hafter
  simp only [Bool.true_eq_false, Bool.false_eq_true, if_false, gt_iff_lt, hdata, if_true] at hafter
  constructor
  · change (d.received b header).bufferEvents d.codec {} b = _
    simp only [bufferEvents, received_header, haccept, hflag, hcodec, Bool.not_true, Bool.false_eq_true, if_false,
      gt_iff_lt, hdata, if_true]
  · rw [← hcodec] at hafter ⊢
    exact hafter

theorem emptyThisBuffer_configData {d : VideoDecoder} {b : BufferId} (header : BufferHeader)
    (haccept : headerAccepted header = true) (hflag : header.nFlags.codecConfig = true)
    (hopen : d.inp.configBufferState = .accumulating)
    (hroom : ¬ codecConfigBufferSize < d.inp.configBuffer.length + header.nFilledLen) :
    d.configEvents (.emptyThisBuffer {} b header) = [.config header.payload] ∧
      (d.emptyThisBuffer {} b header).1.inp.config = (d.inp.configBuffer ++ header.payload, .accumulating) := by
  have hheader : (((d.received b header).resetBuffer b).buffer b).header = header := by simp [resetBuffer, InputSide.setBuffer]
  have hstart : ((d.received b header).resetBuffer b).startConfig = (d.received b header).resetBuffer b := by
    rw [startConfig, if_neg]
    exact not_not.mpr hopen
  have hroom : ¬ codecConfigBufferSize < ((d.received b header).resetBuffer b).startConfig.configBuffer.length +
      (((d.received b header).resetBuffer b).buffer b).header.nFilledLen := by
    rw [hstart, hheader]
    exact hroom
  have happend := emptyConfig_appended hroom
  have hcall := emptyThisBuffer_codecConfig (s := d.received b header) (b := b) d.codec {}
    (by rw [received_header]; exact haccept) (by rw [received_header]; exact hflag)
  rw [hstart, hheader] at happend
  constructor
  · change (d.received b header).bufferEvents d.codec {} b = _
    simp only [bufferEvents, received_header, haccept, hflag, Bool.not_true, Bool.false_eq_true, if_false, if_true]
    rw [hcall, if_neg happend.2]
  · have hconfig : ((d.received b header).emptyThisBuffer d.codec {} b).1.config =
        (d.inp.configBuffer ++ header.payload, .accumulating) := by
      rw [hcall, happend.1]
      rfl
    exact hconfig

theorem emptyThisBuffer_next {codec : VideoCodec} {size : Nat} {d : VideoDecoder} (history : List ConfigEvent)
    {b : BufferId} (header : BufferHeader) (hsized : InputKept codec (Sized codec size) d)
    (hb : b ∈ d.inp.port.bufferList) :
    InputKept codec (Sized codec size) (d.emptyThisBuffer {} b header).1 ∧
    (d.emptyThisBuffer {} b header).1.inp.port.bufferList = d.inp.port.bufferList ∧
    (d.emptyThisBuffer {} b header).1.inp.hPlaypump = d.inp.hPlaypump ∧
    historyStep (d, history) (.emptyThisBuffer {} b header) =
      some ((d.emptyThisBuffer {} b header).1, d.configEvents (.emptyThisBuffer {} b header) ++ history) := by
  have hstep : d.step (.emptyThisBuffer {} b header) = some (d.emptyThisBuffer {} b header).1 := by
    simp only [VideoDecoder.step, if_pos hb]
  refine ⟨sized_step hsized hstep, emptyThisBuffer_bufferList (s := d.received b header) {}, ?_, ?_⟩
  · exact emptyBuffer_hPlaypump (s := d.received b header) (Nat.le_refl _) (emptyFrame_fed d.codec true)
  · simp only [historyStep, hstep, Option.map_some]

theorem frameFits_tight {d : VideoDecoder} {b : BufferId} (header : BufferHeader)
    (hsized : InputKept .avc (Sized .avc tightInputs.nBufferSize) d) (hpts : tickToPts header.nTimeStamp ≠ 0)
    (hstate : d.inp.configBufferState ≠ .submitted) :
    (d.received b header).frameFits .avc b = true ↔
      header.nFilledLen + 8 + d.inp.configBuffer.length ≤ 2424687 := by
  have hmax : (d.received b header).maxDescriptorsPerBuffer = 77 := hsized.inp.descriptors
  have hpending : ((d.received b header).builder b).pendingConfig = d.inp.configBuffer := if_neg hstate
  have htime : (d.received b header).framePts .avc b = some (tickToPts header.nTimeStamp) := by
    rw [InputSide.framePts, received_header, videoPts, if_neg]
    simp [isFragment, hpts]
  rw [frameFits, decide_eq_true_eq, hmax, hpending, htime, received_header]
  exact Iff.rfl

theorem submitted_behind_failed {d : VideoDecoder} (history : List ConfigEvent)
    (hsized : InputKept .avc (Sized .avc tightInputs.nBufferSize) d)
    (hlist : d.inp.port.bufferList = [10, 11, 12]) (hpump : d.inp.hPlaypump = true)
    (hconfig : d.inp.config = ([7, 7, 7, 7], .flushed)) :
    ∃ d' f, Reaches historyStep (fun _ _ => True) (d, history)
        (d', .frame f :: .config [7, 7, 7] :: .failed :: history) ∧
      ∃ pts, SpellsFrame 0xe0 pts ([7, 7, 7, 7, 7, 7, 7] ++ f.content) f.bytes := by
  -- the full frame
  have hmem : ∀ {d : VideoDecoder} {b : BufferId}, d.inp.port.bufferList = [10, 11, 12] → b ∈ [10, 11, 12] →
      b ∈ d.inp.port.bufferList := fun h hb => by rw [h]; exact hb
  have hb₁ : 12 ∈ d.inp.port.bufferList := hmem hlist (by decide)
  have hbuffer : d.inp.configBuffer = [7, 7, 7, 7] := congrArg Prod.fst hconfig
  have hstate : d.inp.configBufferState = .flushed := congrArg Prod.snd hconfig
  have hfits := frameFits_tight (b := 12) fullFrame hsized (by decide) (by rw [hstate]; decide)
  rw [hbuffer] at hfits
  have hnofit : ¬ (d.received 12 fullFrame).frameFits .avc 12 = true := fun h => absurd (hfits.mp h) (by decide)
  obtain ⟨hsized₁, hlist₁, hpump₁, hstep₁⟩ := emptyThisBuffer_next history fullFrame hsized hb₁
  obtain ⟨hevents₁, hconfig₁⟩ := emptyThisBuffer_frame hsized hb₁ (by decide) (by decide) (by decide : 0 < fullFrame.nFilledLen)
  rw [frameEvent_failed (sized_received hsized 12 fullFrame) hb₁ hnofit] at hevents₁
  rw [if_neg hnofit, if_pos hstate, hbuffer] at hconfig₁
  rw [hlist] at hlist₁
  rw [hpump] at hpump₁
  rw [hevents₁] at hstep₁
  generalize (d.emptyThisBuffer {} 12 fullFrame).1 = d₁ at hsized₁ hlist₁ hpump₁ hstep₁ hconfig₁
  -- the config data
  have hb₂ : 10 ∈ d₁.inp.port.bufferList := hmem hlist₁ (by decide)
  have hbuffer₁ : d₁.inp.configBuffer = [7, 7, 7, 7] := congrArg Prod.fst hconfig₁
  obtain ⟨hsized₂, hlist₂, hpump₂, hstep₂⟩ :=
    emptyThisBuffer_next (.failed :: history) (configHeader 3) hsized₁ hb₂
  obtain ⟨hevents₂, hconfig₂⟩ := emptyThisBuffer_configData (b := 10) (configHeader 3) (by decide) rfl
    (congrArg Prod.snd hconfig₁) (by rw [hbuffer₁]; decide)
  rw [hbuffer₁] at hconfig₂
  rw [hlist₁] at hlist₂
  rw [hpump₁] at hpump₂
  rw [hevents₂] at hstep₂
  generalize (d₁.emptyThisBuffer {} 10 (configHeader 3)).1 = d₂ at hsized₂ hlist₂ hpump₂ hstep₂ hconfig₂
  -- the frame behind it
  have hb₃ : 11 ∈ d₂.inp.port.bufferList := hmem hlist₂ (by decide)
  have hbuffer₂ : d₂.inp.configBuffer = [7, 7, 7, 7, 7, 7, 7] := congrArg Prod.fst hconfig₂
  have hstate₂ : d₂.inp.configBufferState = .accumulating := congrArg Prod.snd hconfig₂
  have hfits₂ := frameFits_tight (b := 11) frameHeader hsized₂ (by decide) (by rw [hstate₂]; decide)
  rw [hbuffer₂] at hfits₂
  obtain ⟨-, -, -, hstep₃⟩ :=
    emptyThisBuffer_next (.config [7, 7, 7] :: .failed :: history) frameHeader hsized₂ hb₃
  obtain ⟨hevents₃, -⟩ := emptyThisBuffer_frame hsized₂ hb₃ (by decide) (by decide) (by decide : 0 < frameHeader.nFilledLen)
  obtain ⟨f, hf, pts, hspells⟩ := frameEvent_submitted (sized_received hsized₂ 11 frameHeader) hb₃ (hfits₂.mpr (by decide)) hpump₂
  have hpending : ((d₂.received 11 frameHeader).builder 11).pendingConfig = d₂.inp.configBuffer :=
    if_neg (by rw [show ((d₂.received 11 frameHeader).builder 11).configBufferState = .accumulating from hstate₂]; decide)
  rw [hpending, hbuffer₂] at hspells
  have hevent : (d₂.received 11 frameHeader).frameEvent .avc true 11 = .frame f := hf
  rw [hevents₃, hevent] at hstep₃
  exact ⟨_, f, ((Reaches.init.step trivial hstep₁).step trivial hstep₂).step trivial hstep₃, pts, hspells⟩

/-- After the flush the full frame fails, and the new config data goes behind the old: the next frame carries four bytes
    too many. -/
theorem failed_frame_keeps_flushed_config :
    ∃ p, Reaches historyStep (fun _ _ => True) (init .avc .standard false tightInputs smallOutput, []) p ∧
      ¬ ConfigDelivered p.2 := by
  obtain ⟨⟨d, history⟩, hp, hend⟩ := Reaches.exists_of_run historyStep (fun _ _ => true)
    (init .avc .standard false tightInputs smallOutput, []) flushedConfig
    (fun p => p.1.inp.port.bufferList = [10, 11, 12] && p.1.inp.hPlaypump &&
      p.1.inp.config = ([7, 7, 7, 7], .flushed) && !configOpen p.2) (by decide +kernel)
  simp only [Bool.and_eq_true, decide_eq_true_eq, Bool.not_eq_true'] at hend
  obtain ⟨⟨⟨hlist, hpump⟩, hconfig⟩, hopen⟩ := hend
  have hsized : InputKept .avc (Sized .avc tightInputs.nBufferSize) d :=
    hp.invariant (P := fun p => InputKept .avc (Sized .avc tightInputs.nBufferSize) p.1) (sized_of_reaches .init)
      fun p a p' h _ hstep => by
        simp only [historyStep, Option.map_eq_some_iff] at hstep
        obtain ⟨d', hstep, rfl⟩ := hstep
        exact sized_step h hstep
  obtain ⟨d', f, hrun, pts, hspells⟩ := submitted_behind_failed history hsized hlist hpump hconfig
  refine ⟨_, (hp.mono fun _ _ _ => trivial).trans hrun, fun hdel => ?_⟩
  obtain ⟨pts', hspells'⟩ := hdel f _ (List.suffix_refl _)
  have hdue : dueConfig (.config [7, 7, 7] :: .failed :: history) = [7, 7, 7] := by
    simp [dueConfig, configDue, latestConfig, configOpen, hopen]
  rw [hdue] at hspells'
  have hlen := congrArg List.length (hspells.unique hspells')
  simp only [List.length_append, List.length_cons, List.length_nil] at hlen
  omega

end VideoDecoder
end BcmPlatform.Bomx
