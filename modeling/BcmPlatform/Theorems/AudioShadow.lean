import BcmPlatform.Bomx.AudioOutput
import BcmPlatform.Theorems.AudioAccounting
import BcmPlatform.Theorems.DescriptorRuns
import BcmPlatform.Theorems.DecoderFlags
import BcmPlatform.Theorems.InputRules
import BcmPlatform.Lib.Runs

/-! `m_decoderState` is the state of the Nexus decoder, as long as the input port is not started on a suspended decoder
    whose output port is enabled: that branch resumes the decoder and forgets the copy. -/

namespace BcmPlatform.Bomx
open Lib

namespace InputSide
variable {s : InputSide} {b : BufferId}

theorem audioPlaypumpEvent_outline (fifoPts : Option Nat) : (s.audioPlaypumpEvent fifoPts).outline = s.outline := by
  simp only [audioPlaypumpEvent, completeConsumed]
  split
  · exact (markComplete_marked _ _ _ _).outline
  · rfl

theorem audioReturnInputBuffers_outline (fifoPts : Option Nat) (ticks : Ticks) (causedByTimeout : Bool) :
    (s.audioReturnInputBuffers fifoPts ticks causedByTimeout).outline = s.outline := by
  simp only [audioReturnInputBuffers]
  rw [returnInputBuffers_outline, audioPlaypumpEvent_outline]

theorem audioEmptyThisBuffer_outline (codecHeader : List UInt8) (submit : SubmitResult) :
    (s.audioEmptyThisBuffer codecHeader submit b).1.outline = s.outline :=
  emptyBuffer_outline (by decide) (audioEmptyFrame_fed codecHeader submit.frame)

theorem addInputPortBuffer_moved (maxHeaderLen nSizeBytes : Nat) (componentAllocated : Bool) :
    s.port.Moved (s.addInputPortBuffer maxHeaderLen b nSizeBytes componentAllocated).1.port := by
  simp only [addInputPortBuffer]
  split
  · exact .refl _
  · split
    · exact .refl _
    · next port hport => exact .of_added (Port.Added.of_ok hport)

theorem addInputPortBuffer_hPlaypump (maxHeaderLen nSizeBytes : Nat) (componentAllocated : Bool) :
    (s.addInputPortBuffer maxHeaderLen b nSizeBytes componentAllocated).1.hPlaypump = s.hPlaypump := by
  simp only [addInputPortBuffer]
  split
  · rfl
  · split <;> rfl

theorem freeBuffer_moved : s.port.Moved (s.freeBuffer b).1.port := by
  simp only [freeBuffer]
  split
  · exact .refl _
  · next port hport => exact .of_removed (Port.Removed.of_ok hport)

end InputSide

namespace AudioDecoder
variable {d d' : AudioDecoder}

/-- The state of the decoder and whether the playpump is open. -/
def flags (d : AudioDecoder) : AudioDecoderState × Bool := (d.decoderState, d.inp.hPlaypump)

/-- The state of the component and of the decoder, and what the two ports say of themselves. -/
def outline (d : AudioDecoder) :
    (OmxState × AudioDecoderState) × (Bool × Bool × Bool × List BufferId) × Bool × Bool × List BufferId :=
  ((d.currentState, d.decoderState), d.inp.outline, d.outPort.outline)

theorem flags_of_outline (h : d'.outline = d.outline) : d'.flags = d.flags := by
  simp only [outline, InputSide.outline, Prod.mk.injEq] at h
  simp only [flags, h]

theorem outline_setInp {inp : InputSide} (h : inp.outline = d.inp.outline) : { d with inp }.outline = d.outline := by
  simp only [outline, h]

theorem takeTracked_outline (pts : Nat) : (d.takeTracked pts).1.outline = d.outline := by
  simp only [takeTracked]
  split
  · rfl
  · split <;> rfl

theorem deliverFrame_outline (f : AudioFrame) (b : BufferId) (ticks : Ticks) :
    (d.deliverFrame f b ticks).outline = d.outline :=
  outline_setInp (d := { d with outPort := d.outPort.bufferComplete b })
    (InputSide.audioReturnInputBuffers_outline (s := d.inp.consume f.consumed) _ _ _)

theorem deliverEos_outline (r : AudioPollResult) (b : BufferId) : (d.deliverEos r b).outline = d.outline :=
  outline_setInp
    (d := { d with
      outPort := d.outPort.bufferComplete b, eosStandalone := false, eosReady := false, eosDelivered := true })
    (InputSide.audioReturnInputBuffers_outline (s := { d.inp with eosPending := false }.consume r.consumed) _ _ _)

theorem endStateChange_flags (ok : Bool) : (d.endStateChange ok).flags = d.flags := by
  unfold endStateChange
  split <;> rfl

theorem fillThisBuffer_outline (queued : Bool) (b : BufferId) : (d.fillThisBuffer queued b).outline = d.outline := by
  simp only [fillThisBuffer]
  split
  · rfl
  · refine Prod.ext rfl (Prod.ext rfl ?_)
    cases hport : d.outPort.queueBuffer b with
    | error err => rfl
    | ok port => exact Port.outline_of (Port.Queued.of_ok hport).definition (Port.Queued.of_ok hport).bufferList

theorem addOutputBuffer_flags (b : BufferId) (componentAllocated : Bool) :
    (d.addOutputBuffer b componentAllocated).flags = d.flags := by
  simp only [addOutputBuffer]
  split <;> rfl

theorem abandonIdle_flags (inputEnabled outputEnabled : Bool) : (d.abandonIdle inputEnabled outputEnabled).flags = d.flags :=
  endStateChange_flags _

/-- The steps of the input side leave the states, the playpump and the output port as they are. -/
structure InputMoved (d d' : AudioDecoder) : Prop where
  flags : d'.flags = d.flags
  currentState : d'.currentState = d.currentState
  inPort : d.inp.port.Moved d'.inp.port
  outPort : d'.outPort = d.outPort

theorem InputMoved.of_inp {inp : InputSide} (h : inp.outline = d.inp.outline) : InputMoved d { d with inp } :=
  ⟨flags_of_outline (outline_setInp h), rfl, .of_outline (congrArg Prod.snd h), rfl⟩

theorem inputStep_moved {a : AudioAction} (ha : a.isInput = true) (hstep : d.step a = some d') : InputMoved d d' := by
  cases a with
  | allocateInputBuffer b nSizeBytes componentAllocated =>
    cases hstep
    exact ⟨Prod.ext rfl (InputSide.addInputPortBuffer_hPlaypump ..), rfl, InputSide.addInputPortBuffer_moved .., rfl⟩
  | emptyThisBuffer submit b header asc =>
    obtain ⟨-, rfl⟩ := Option.ite_some_none_eq_some.mp hstep
    obtain ⟨codecHeader, _, _, heq⟩ := emptyThisBuffer_eq (d := d) submit b header asc
    have hinp : InputMoved d { d with
        inp := ((d.inp.setBuffer b { d.inp.buffer b with header }).audioEmptyThisBuffer codecHeader submit b).1 } :=
      .of_inp (InputSide.audioEmptyThisBuffer_outline (s := d.inp.setBuffer b { d.inp.buffer b with header }) ..)
    rw [heq]
    exact ⟨hinp.flags, rfl, hinp.inPort, rfl⟩
  | freeInputBuffer b =>
    cases hstep
    exact ⟨Prod.ext rfl InputSide.freeBuffer_hPlaypump, rfl, InputSide.freeBuffer_moved, rfl⟩
  | playpumpEvent fifoPts =>
    cases hstep
    exact .of_inp (InputSide.audioPlaypumpEvent_outline fifoPts)
  | inputBufferTimeout fifoPts =>
    cases hstep
    exact .of_inp (InputSide.audioReturnInputBuffers_outline fifoPts 0 true)
  | consume n =>
    obtain ⟨-, rfl⟩ := Option.ite_some_none_eq_some.mp hstep
    exact .of_inp rfl
  | _ => cases ha

end AudioDecoder

namespace AudioOutput
variable {s s' : AudioOutput} {a a' : AudioAnswers} {r : AudioReport}

/-- The two states, the calls that should not have been made, and whether the playpump is open. -/
def shadow (s : AudioOutput) : (AudioDecoderState × Bool) × AudioDecoderState × List NexusFault :=
  (s.d.flags, s.nexus.state, s.nexus.faults)

/-- With the calls and the state of Nexus, what is seen of the component. -/
def outline (s : AudioOutput) : ((OmxState × AudioDecoderState) × (Bool × Bool × Bool × List BufferId) ×
    Bool × Bool × List BufferId) × AudioDecoderState × List NexusFault :=
  (s.d.outline, s.nexus.state, s.nexus.faults)

theorem shadow_of_outline (h : s'.outline = s.outline) : s'.shadow = s.shadow := by
  simp only [outline, Prod.mk.injEq] at h
  exact Prod.ext (AudioDecoder.flags_of_outline h.1) (Prod.ext h.2.1 h.2.2)

theorem assertQueued_rest (b : BufferId) : s.assertQueued b = { s with asserts := (s.assertQueued b).asserts } := by
  unfold assertQueued
  split <;> rfl

/-! ### Delivering frames -/

theorem returnFrame_outline (q : QueuedBlock) (f : AudioFrame) (b : BufferId) (ticks : Ticks) :
    (s.returnFrame q f b ticks).outline = s.outline :=
  Prod.ext (AudioDecoder.deliverFrame_outline f b ticks) rfl

theorem deliver_outline : ∀ (l : List (QueuedBlock × AudioFrame)) (s : AudioOutput), (s.deliver l).1.outline = s.outline
  | [], s => rfl
  | (q, f) :: rest, s => by
    have htrack := AudioDecoder.takeTracked_outline (d := s.d) f.pts
    simp only [deliver]
    split
    · rfl
    · split
      · exact deliver_outline rest s
      · split
        · split
          · rw [deliver_outline rest, returnFrame_outline]
            exact Prod.ext htrack rfl
          · exact Prod.ext htrack rfl
        · rw [deliver_outline rest, returnFrame_outline]
          exact Prod.ext htrack rfl

theorem deliverEos_outline (b : BufferId) : (s.deliverEos r b).outline = s.outline := by
  have hcomplete : (s.bufferComplete b).outline = s.outline := by
    simp only [bufferComplete]
    rw [assertQueued_rest]
    rfl
  simp only [deliverEos, outline]
  rw [AudioDecoder.deliverEos_outline, assertQueued_rest]
  exact hcomplete

theorem pollDecodedFrames_outline : (s.pollDecodedFrames r).outline = s.outline := by
  simp only [pollDecodedFrames]
  split
  · rfl
  · split
    · split
      · rfl
      · next frames _ =>
        have hdeliver := deliver_outline (s.reported frames) s
        split
        · exact hdeliver
        · split
          · split
            · rw [deliverEos_outline, hdeliver]
            · exact hdeliver
          · exact hdeliver
    · rfl

theorem pollDecodedFrames_shadow : (s.pollDecodedFrames r).shadow = s.shadow :=
  shadow_of_outline pollDecodedFrames_outline

/-! ### The decoder's queue -/

theorem queueBlock_shadow (b : BufferId) (h : s.nexus.state = .started) : (s.queueBlock b).shadow = s.shadow := by
  simp [queueBlock, setNexusOwned, shadow, NexusAudio.queueBuffer, h]

theorem addBlocks_shadow (accept : BufferId → Bool) : ∀ (l : List BufferId) (s : AudioOutput),
    s.nexus.state = .started → (s.addBlocks accept l).shadow = s.shadow
  | [], s, _ => rfl
  | b :: rest, s, h => by
    simp only [addBlocks]
    split
    · exact addBlocks_shadow accept rest s h
    · split
      · have hqueue := queueBlock_shadow b h
        rw [addBlocks_shadow accept rest (s.queueBlock b) h, hqueue]
      · rfl

theorem addOutputBuffers_shadow (accept : BufferId → Bool) (h : s.nexus.state = .started) :
    (s.addOutputBuffers accept).shadow = s.shadow :=
  addBlocks_shadow accept _ s h

theorem clearOwned_shadow : ∀ (l : List QueuedBlock) (s : AudioOutput), (l.foldl clearOwned s).shadow = s.shadow
  | [], s => rfl
  | q :: rest, s => by
    have hclear : (s.clearOwned q).shadow = s.shadow := by
      unfold clearOwned
      split <;> rfl
    rw [List.foldl_cons, clearOwned_shadow rest, hclear]

theorem removeOutputBuffers_shadow : (s.removeOutputBuffers a).shadow = s.shadow := by
  simp only [removeOutputBuffers]
  split
  · rfl
  · exact clearOwned_shadow _ s

/-! ### The states -/

/-- The copy is right, no call was wrong, and without a playpump the decoder is stopped. -/
structure Shadowed (s : AudioOutput) : Prop where
  state : s.d.decoderState = s.nexus.state
  faults : s.nexus.faults = []
  closed : s.d.inp.hPlaypump = false → s.d.decoderState = .stopped

namespace Shadowed

theorem congr (h : Shadowed s) (heq : s'.shadow = s.shadow) : Shadowed s' := by
  simp only [shadow, AudioDecoder.flags, Prod.mk.injEq] at heq
  obtain ⟨⟨hstate, hpump⟩, hnexus, hfaults⟩ := heq
  refine ⟨?_, ?_, ?_⟩
  · rw [hstate, hnexus, h.state]
  · rw [hfaults, h.faults]
  · rw [hpump, hstate]
    exact h.closed

theorem endStateChange (h : Shadowed s) (ok : Bool) : Shadowed (s.endStateChange ok) :=
  h.congr (Prod.ext (AudioDecoder.endStateChange_flags ok) rfl)

theorem abandonIdle (h : Shadowed s) (inputEnabled outputEnabled : Bool) :
    Shadowed { s with d := s.d.abandonIdle inputEnabled outputEnabled } :=
  h.congr (Prod.ext (AudioDecoder.abandonIdle_flags _ _) rfl)

theorem startDecoder (h : Shadowed s) (hopen : s.d.inp.hPlaypump = true) (n : AudioDecoder.StartResult) :
    Shadowed (s.startDecoder n).1 ∧
      ((s.startDecoder n).2 = true → (s.startDecoder n).1.d.decoderState = .started) := by
  simp only [AudioOutput.startDecoder]
  split
  · exact ⟨h, Bool.noConfusion⟩
  · next hready =>
    obtain ⟨hstopped, hdecoder⟩ := not_or.mp hready
    have hstopped : s.d.decoderState = .stopped := not_not.mp hstopped
    have hdecoder : n.decoder = true := by simpa using hdecoder
    split
    · next hplaypump =>
      refine ⟨⟨?_, ?_, ?_⟩, Bool.noConfusion⟩
      · simp [AudioDecoder.startDecoder, hdecoder, hstopped, hplaypump, AudioDecoder.clearEos, NexusAudio.start,
          NexusAudio.stop]
      · simp [NexusAudio.start, NexusAudio.stop, h.faults]
      · intro _
        simp [AudioDecoder.startDecoder, hdecoder, hstopped, hplaypump, AudioDecoder.clearEos]
    · next hplaypump =>
      have hplaypump : n.playpump = true := by simpa using hplaypump
      have hres : s.d.startDecoder n = ({ s.d with inp := s.d.inp.start, decoderState := .started }, true) := by
        simp [AudioDecoder.startDecoder, hdecoder, hstopped, hplaypump]
      rw [hres]
      refine ⟨⟨rfl, h.faults, fun hclosed => ?_⟩, fun _ => rfl⟩
      have hclosed : s.d.inp.hPlaypump = false := hclosed
      rw [hopen] at hclosed
      cases hclosed

theorem resumeDecoder (h : Shadowed s) : Shadowed s.resumeDecoder ∧ s.resumeDecoder.d.decoderState ≠ .suspended := by
  simp only [AudioOutput.resumeDecoder]
  split
  · next hs =>
    have hd : s.d.resumeDecoder = { s.d with decoderState := .started } := by
      simp [AudioDecoder.resumeDecoder, hs]
    rw [hd]
    refine ⟨⟨rfl, h.faults, fun hclosed => ?_⟩, AudioDecoderState.noConfusion⟩
    have hstopped := h.closed hclosed
    rw [hs] at hstopped
    cases hstopped
  · next hs => exact ⟨h, hs⟩

theorem stopDecoder (h : Shadowed s) (hs : s.d.decoderState ≠ .suspended) :
    Shadowed s.stopDecoder ∧ s.stopDecoder.d.decoderState = .stopped ∧
      s.stopDecoder.d.inp.hPlaypump = s.d.inp.hPlaypump := by
  simp only [AudioOutput.stopDecoder]
  split
  · next hstarted =>
    have hd : s.d.stopDecoder = ({ s.d with inp := s.d.inp.stop, decoderState := .stopped } : AudioDecoder).clearEos := by
      simp [AudioDecoder.stopDecoder, hstarted]
    have hpump : s.d.inp.stop.hPlaypump = s.d.inp.hPlaypump := by
      simp only [InputSide.stop]
      rw [(InputSide.returnPortBuffers_emptied _).rest]
      rfl
    rw [hd]
    refine ⟨⟨rfl, ?_, fun _ => rfl⟩, rfl, hpump⟩
    have hreal : s.nexus.state = .started := h.state.symm.trans hstarted
    simp [NexusAudio.stop, hreal, h.faults]
  · next hstarted =>
    refine ⟨h, ?_, rfl⟩
    cases hd : s.d.decoderState with
    | stopped => rfl
    | started => exact absurd hd hstarted
    | suspended => exact absurd hd hs

theorem resumeStop (h : Shadowed s) : Shadowed s.resumeDecoder.stopDecoder ∧
    s.resumeDecoder.stopDecoder.d.decoderState = .stopped ∧
    s.resumeDecoder.stopDecoder.d.inp.hPlaypump = s.d.inp.hPlaypump := by
  obtain ⟨hres, hne⟩ := h.resumeDecoder
  obtain ⟨hstop, hstopped, hpump⟩ := hres.stopDecoder hne
  refine ⟨hstop, hstopped, hpump.trans ?_⟩
  simp only [AudioOutput.resumeDecoder, AudioDecoder.resumeDecoder]
  split
  · simp
  · rfl

theorem suspendDecoder (h : Shadowed s) (hopen : s.d.decoderState ≠ .stopped) : Shadowed s.suspendDecoder where
  state := rfl
  faults := h.faults
  closed hclosed := absurd (h.closed hclosed) hopen

theorem startInput (h : Shadowed s) (hopen : s.d.inp.hPlaypump = true) : Shadowed (s.startInput a).1 := by
  obtain ⟨hstart, hstarted⟩ := h.startDecoder hopen a.start
  simp only [AudioOutput.startInput]
  split
  · exact hstart
  · next hok =>
    have hstate := hstarted (by simpa using hok)
    split
    · refine hstart.congr ?_
      rw [pollDecodedFrames_shadow, addOutputBuffers_shadow _ (hstart.state.symm.trans hstate)]
    · split
      · exact (hstart.stopDecoder (by rw [hstate]; decide)).1
      · exact hstart.suspendDecoder (by rw [hstate]; decide)

end Shadowed

/-! ### The ports -/

/-- The branch that resumes the decoder without its copy. -/
def resumesUnseen (s : AudioOutput) : Bool := s.d.decoderState = .suspended && s.d.outPort.isEnabled

theorem Shadowed.opened (h : Shadowed s) :
    Shadowed (if s.d.inp.hPlaypump then s else { s with d := { s.d with inp := s.d.inp.openPlaypump } }) := by
  split
  · exact h
  · exact ⟨h.state, h.faults, fun hclosed => by cases hclosed⟩

theorem Shadowed.setInputPortState (h : Shadowed s) (newState : OmxState)
    (hok : newState = .executing → s.resumesUnseen = false) : Shadowed (s.setInputPortState newState a).1 := by
  simp only [AudioOutput.setInputPortState]
  split
  · split
    · obtain ⟨hstop, hstopped, -⟩ := h.resumeStop
      exact ⟨hstop.state, hstop.faults, fun _ => hstopped⟩
    · exact h
  · split
    · exact h
    · have hopened : Shadowed (if s.d.inp.hPlaypump then s else { s with d := { s.d with inp := s.d.inp.openPlaypump } }) ∧
          (if s.d.inp.hPlaypump then s else { s with d := { s.d with inp := s.d.inp.openPlaypump } }).d.inp.hPlaypump = true ∧
          (newState = .executing → (if s.d.inp.hPlaypump then s
            else { s with d := { s.d with inp := s.d.inp.openPlaypump } }).resumesUnseen = false) := by
        refine ⟨h.opened, ?_⟩
        split
        · next hopen => exact ⟨hopen, hok⟩
        · exact ⟨rfl, hok⟩
      generalize (if s.d.inp.hPlaypump then s else { s with d := { s.d with inp := s.d.inp.openPlaypump } }) = s₁ at hopened ⊢
      obtain ⟨h₁, hopen, hok₁⟩ := hopened
      split
      · split
        · exact h₁
        · exact h₁.resumeStop.1.congr removeOutputBuffers_shadow
      · next hexec =>
        split
        · exact h₁.startInput hopen
        · next hs =>
          have hunseen := hok₁ rfl
          simp only [resumesUnseen, hs, decide_true, Bool.true_and] at hunseen
          simp only [AudioOutput.resumeInput, hunseen, Bool.false_eq_true, if_false]
          exact h₁
        · exact h₁
      · exact h₁
      · exact h₁

theorem Shadowed.releaseOutput (h : Shadowed s) : Shadowed (s.releaseOutput a).1 := by
  simp only [AudioOutput.releaseOutput]
  split
  · exact h
  · have hsuspended : Shadowed (if s.d.decoderState = .started then s.suspendDecoder else s) := by
      split
      · next hs => exact h.suspendDecoder (by rw [hs]; decide)
      · exact h
    refine hsuspended.congr ?_
    exact removeOutputBuffers_shadow

theorem Shadowed.setOutputPortState (h : Shadowed s) (newState : OmxState) : Shadowed (s.setOutputPortState newState a).1 := by
  have hresume : Shadowed (s.resumeDecoder.addOutputBuffers a.accept) ∨ s.d.decoderState ≠ .suspended := by
    by_cases hs : s.d.decoderState = .suspended
    · left
      refine h.resumeDecoder.1.congr (addOutputBuffers_shadow _ ?_)
      simp [AudioOutput.resumeDecoder, hs, NexusAudio.resume]
    · exact .inr hs
  simp only [AudioOutput.setOutputPortState]
  split
  · have hformat : Shadowed { s with d := { s.d with formatChangePending := false } } := h.congr rfl
    exact hformat.releaseOutput
  · exact h.releaseOutput
  · split
    · exact h
    · next hs => exact hresume.resolve_right (not_not.mpr hs)
    · exact h

theorem Shadowed.setInputPortState_idle (h : Shadowed s) :
    Shadowed (s.setInputPortState .idle a).1 ∧ (s.setInputPortState .idle a).1.resumesUnseen = false := by
  have hkeeps := h.setInputPortState (a := a) .idle OmxState.noConfusion
  refine ⟨hkeeps, ?_⟩
  have hstopped : (s.setInputPortState .idle a).1.d.decoderState = .stopped := by
    simp only [AudioOutput.setInputPortState]
    split
    · next hfalse => cases hfalse
    · split
      · next hclosed =>
        refine h.closed ?_
        rw [Bool.and_eq_true] at hclosed
        simpa using hclosed.1
      · have hopened := h.opened
        generalize (if s.d.inp.hPlaypump then s else { s with d := { s.d with inp := s.d.inp.openPlaypump } }) = s₁ at hopened ⊢
        split
        · next hs => exact hs
        · have hremove := removeOutputBuffers_shadow (s := s₁.resumeDecoder.stopDecoder) (a := a)
          have hstate := congrArg (fun t => t.1.1) hremove
          exact hstate.trans hopened.resumeStop.2.1
  simp [resumesUnseen, hstopped]

theorem Shadowed.flushInput (h : Shadowed s) : Shadowed (s.flushInput a a') := by
  obtain ⟨hidle, hunseen⟩ := h.setInputPortState_idle (a := a)
  have hback := hidle.setInputPortState (a := a') (s.setInputPortState .idle a).1.d.currentState
    fun _ => hunseen
  refine hback.congr ?_
  simp only [AudioOutput.flushInput, shadow, AudioDecoder.flags]
  rw [(InputSide.returnPortBuffers_emptied _).rest]

theorem Shadowed.flushOutput (h : Shadowed s) : Shadowed (s.flushOutput a a') := by
  simp only [AudioOutput.flushOutput]
  split
  · exact ((h.setOutputPortState .idle).setOutputPortState _).congr rfl
  · exact h.congr rfl

theorem Shadowed.disableInput (h : Shadowed s) : Shadowed (s.disableInput a) := by
  have hport : Shadowed { s with d := { s.d with inp := { s.d.inp with port := s.d.inp.port.disabled } } } := h.congr rfl
  refine (hport.setInputPortState (a := a) .loaded OmxState.noConfusion).congr ?_
  simp only [AudioOutput.disableInput, shadow, AudioDecoder.flags]
  rw [(InputSide.returnPortBuffers_emptied _).rest]

theorem Shadowed.disableOutput (h : Shadowed s) : Shadowed (s.disableOutput a) := by
  have hport : Shadowed { s with d := { s.d with outPort := s.d.outPort.disabled } } := h.congr rfl
  exact (hport.setOutputPortState (a := a) .loaded).congr rfl

/-! ### Commands -/

theorem Shadowed.commandPortDisable (h : Shadowed s) (dir : OmxDir) : Shadowed (s.commandPortDisable dir a) := by
  cases dir with
  | input =>
    simp only [AudioOutput.commandPortDisable]
    split
    · exact h
    · split
      · exact h.congr rfl
      · exact h.disableInput.congr rfl
  | output =>
    simp only [AudioOutput.commandPortDisable]
    split
    · exact h
    · split
      · exact h.congr rfl
      · exact h.disableOutput.congr rfl

theorem Shadowed.commandPortEnable (h : Shadowed s) (dir : OmxDir) : Shadowed (s.commandPortEnable dir) := by
  cases dir <;> simp only [AudioOutput.commandPortEnable] <;> split <;> first | exact h | exact h.congr rfl

theorem Shadowed.resumePortCommand (h : Shadowed s) {timeout : Bool}
    (hok : s.portCommand = some (.enable .input) → s.d.inp.port.isPopulated = true → s.d.currentState = .executing →
      s.resumesUnseen = false) : Shadowed (s.resumePortCommand timeout a a') := by
  have hdone : Shadowed { s with portCommand := none } := h.congr rfl
  simp only [AudioOutput.resumePortCommand]
  split
  · exact h
  · next hcommand =>
    split
    · next hpopulated =>
      have hset := hdone.setInputPortState (a := a) s.d.currentState (hok hcommand hpopulated)
      split
      · exact hset
      · exact hset.commandPortDisable .input
    · split
      · exact h.congr rfl
      · exact h
  · split
    · have hset := hdone.setOutputPortState (a := a) s.d.currentState
      split
      · exact hset
      · exact hset.commandPortDisable .output
    · split
      · exact h.congr rfl
      · exact h
  · split
    · exact hdone
    · split
      · exact h.congr rfl
      · exact h
  · split
    · exact hdone
    · split
      · exact h.congr rfl
      · exact h

theorem setOutputPortState_seen {newState : OmxState} (hrun : newState = .executing)
    (hset : (s.setOutputPortState newState a).2 = true) : (s.setOutputPortState newState a).1.resumesUnseen = false := by
  subst hrun
  simp only [setOutputPortState] at hset ⊢
  split at hset
  · cases hset
  · next hs =>
    have hadd := addOutputBuffers_shadow (s := s.resumeDecoder) a.accept (by simp [resumeDecoder, hs, NexusAudio.resume])
    have hstarted : s.resumeDecoder.d.decoderState = .started := by simp [resumeDecoder, hs, AudioDecoder.resumeDecoder]
    have hstate : (s.resumeDecoder.addOutputBuffers a.accept).d.decoderState = .started :=
      (congrArg (fun t => t.1.1) hadd).trans hstarted
    simp [resumesUnseen, hstate]
  · next hs => simp [resumesUnseen, hs]

theorem Shadowed.setRunning (h : Shadowed s) {newState : OmxState}
    (hok : newState = .executing → s.d.outPort.isPopulated = false → s.d.inp.port.isPopulated = true →
      s.d.inp.port.isEnabled = true → s.resumesUnseen = false) : Shadowed (s.setRunning newState a a') := by
  by_cases hout : (s.d.outPort.isPopulated && s.d.outPort.isEnabled) = true
  · simp only [AudioOutput.setRunning, hout, if_true]
    have hset := h.setOutputPortState (a := a) newState
    split
    · exact hset.endStateChange _
    · next hdone =>
      split
      · refine (hset.setInputPortState _ fun hrun => ?_).endStateChange _
        exact setOutputPortState_seen hrun (by simpa using hdone)
      · exact hset.endStateChange _
  · simp only [AudioOutput.setRunning, hout, if_false, Bool.not_true, Bool.false_eq_true]
    split
    · next hin =>
      obtain ⟨hpopulated, henabled⟩ := Bool.and_eq_true_iff.mp hin
      refine (h.setInputPortState _ fun hrun => ?_).endStateChange _
      by_cases hpop : s.d.outPort.isPopulated = true
      · have hdisabled : s.d.outPort.isEnabled = false := by simpa [hpop] using hout
        simp [resumesUnseen, hdisabled]
      · exact hok hrun (by simpa using hpop) hpopulated henabled
    · exact h.endStateChange _

theorem Shadowed.setIdle (h : Shadowed s) : Shadowed (s.setIdle a a') := by
  have hconfig : Shadowed { s with d := { s.d with inp := s.d.inp.configBufferInit } } := h.congr rfl
  have hinput : ∀ t : AudioOutput, Shadowed t →
      Shadowed (if t.d.inp.port.isPopulated then (t.setInputPortState .idle a).1 else t) := by
    intro t ht
    split
    · exact ht.setInputPortState _ OmxState.noConfusion
    · exact ht
  have houtput : ∀ t : AudioOutput, Shadowed t →
      Shadowed (if t.d.outPort.isPopulated then (t.setOutputPortState .idle a').1 else t) := by
    intro t ht
    split
    · exact ht.setOutputPortState .idle
    · exact ht
  exact (houtput _ (hinput _ hconfig)).endStateChange true

theorem Shadowed.setLoaded (h : Shadowed s) : Shadowed (s.setLoaded a) := by
  simp only [AudioOutput.setLoaded]
  split
  · exact h.disableInput.congr rfl
  · exact h.congr rfl

theorem Shadowed.setIdleFromLoaded (h : Shadowed s) : Shadowed (s.setIdleFromLoaded a a') := by
  simp only [AudioOutput.setIdleFromLoaded]
  have hset : Shadowed (if s.d.outPort.isPopulated && s.d.outPort.isEnabled then s.setOutputPortState .idle a
      else (s, true)).1 := by
    split
    · exact h.setOutputPortState .idle
    · exact h
  generalize (if s.d.outPort.isPopulated && s.d.outPort.isEnabled then s.setOutputPortState .idle a
    else (s, true)) = p at hset ⊢
  split
  · exact hset.abandonIdle _ _
  · split
    · have hinput := hset.setInputPortState (a := a') .idle OmxState.noConfusion
      split
      · exact hinput.endStateChange true
      · exact hinput.abandonIdle _ _
    · exact hset.endStateChange true

theorem Shadowed.commandStateSet (h : Shadowed s) {newState : OmxState}
    (hok : newState = .executing → stateChangeStart s.d.currentState s.d.targetState newState = true →
      s.d.outPort.isPopulated = false → s.d.inp.port.isPopulated = true → s.d.inp.port.isEnabled = true →
      s.resumesUnseen = false) : Shadowed (s.commandStateSet newState a a') := by
  have htarget : Shadowed { s with d := { s.d with targetState := newState } } := h.congr rfl
  simp only [AudioOutput.commandStateSet]
  split
  · exact h
  · next hstart =>
    have hstart : stateChangeStart s.d.currentState s.d.targetState newState = true := by simpa using hstart
    split
    · exact htarget.setLoaded
    · split
      · exact h.congr rfl
      · exact htarget.setIdle
    · exact htarget.setRunning fun hrun => hok hrun hstart
    · exact htarget.setRunning OmxState.noConfusion
    · exact htarget.endStateChange false

theorem Shadowed.resumeStateSet (h : Shadowed s) {timeout : Bool} : Shadowed (s.resumeStateSet timeout a a') := by
  simp only [AudioOutput.resumeStateSet]
  split
  · exact h
  · split
    · exact h.setIdleFromLoaded
    · split
      · exact h.endStateChange false
      · exact h
  · next inputPortEnabled outputPortEnabled _ =>
    split
    · have hdisable : Shadowed (if outputPortEnabled then s.disableOutput a else s) := by
        split
        · exact h.disableOutput
        · exact h
      exact hdisable.congr rfl
    · split
      · have hback : Shadowed { s with d := { s.d with inp := { s.d.inp with port := s.d.inp.port.reenabled true } } } :=
          h.congr rfl
        exact hback.endStateChange false
      · exact h
  · next inputPortEnabled outputPortEnabled _ =>
    split
    · have hback : Shadowed { s with d := { s.d with
          inp := { s.d.inp with port := s.d.inp.port.reenabled inputPortEnabled }
          outPort := s.d.outPort.reenabled outputPortEnabled } } := h.congr rfl
      exact hback.endStateChange true
    · split
      · have hback : Shadowed { s with d := { s.d with outPort := s.d.outPort.reenabled true } } := h.congr rfl
        exact hback.endStateChange false
      · exact h

/-! ### Runs -/

/-- The steps that start the input port on a suspended decoder with an enabled output port. Blocks are added to the queue
    of a started decoder only. -/
def startsSuspended (s : AudioOutput) : AudioOutputAction → Bool
  | .setInputPortState .executing _ => s.resumesUnseen
  | .stateSet .executing _ _ =>
    stateChangeStart s.d.currentState s.d.targetState .executing && !s.d.outPort.isPopulated &&
      s.d.inp.port.isPopulated && s.d.inp.port.isEnabled && s.resumesUnseen
  | .resumePortCommand _ _ _ =>
    s.portCommand = some (.enable .input) && s.d.inp.port.isPopulated && s.d.currentState = .executing && s.resumesUnseen
  | .addOutputBuffers _ => s.d.decoderState ≠ .started
  | _ => false

theorem Shadowed.step (h : Shadowed s) {action : AudioOutputAction} (hok : s.startsSuspended action = false)
    (hstep : s.step action = some s') : Shadowed s' := by
  cases action with
  | input action =>
    obtain ⟨hinput, hstep⟩ := Option.ite_none_right_eq_some.mp hstep
    obtain ⟨d', hd, rfl⟩ := Option.map_eq_some_iff.mp hstep
    exact h.congr (Prod.ext (AudioDecoder.inputStep_moved hinput hd).flags rfl)
  | allocateOutputBuffer b block =>
    obtain ⟨-, rfl⟩ := Option.ite_some_none_eq_some.mp hstep
    simp only [addOutputBuffer]
    split
    · exact h.congr (Prod.ext (AudioDecoder.addOutputBuffer_flags b false) rfl)
    · exact h
  | fillThisBuffer accepted b =>
    obtain ⟨-, rfl⟩ := Option.ite_some_none_eq_some.mp hstep
    refine h.congr (Prod.ext (AudioDecoder.flags_of_outline (AudioDecoder.fillThisBuffer_outline accepted b)) ?_)
    simp only [fillThisBuffer]
    split
    · next hqueue =>
      have hqueued := congrArg Prod.snd (queueBlock_shadow b (h.state.symm.trans hqueue.1))
      exact hqueued
    · rfl
  | freeOutputBuffer b =>
    cases hstep
    exact h.congr rfl
  | outputFrameEvent r =>
    cases hstep
    exact h.congr pollDecodedFrames_shadow
  | addOutputBuffers accept =>
    cases hstep
    have hstarted : s.d.decoderState = .started := by simpa [startsSuspended] using hok
    exact h.congr (addOutputBuffers_shadow accept (h.state.symm.trans hstarted))
  | removeOutputBuffers a =>
    cases hstep
    exact h.congr removeOutputBuffers_shadow
  | setInputPortState newState a =>
    cases hstep
    refine h.setInputPortState _ fun hrun => ?_
    subst hrun
    exact hok
  | setOutputPortState newState a =>
    cases hstep
    exact h.setOutputPortState newState
  | flushInput a a' =>
    obtain ⟨-, rfl⟩ := Option.ite_some_none_eq_some.mp hstep
    exact h.flushInput
  | flushOutput a a' =>
    obtain ⟨-, rfl⟩ := Option.ite_some_none_eq_some.mp hstep
    exact h.flushOutput
  | portEnable dir =>
    obtain ⟨-, rfl⟩ := Option.ite_some_none_eq_some.mp hstep
    exact h.commandPortEnable dir
  | portDisable dir a =>
    obtain ⟨-, rfl⟩ := Option.ite_some_none_eq_some.mp hstep
    exact h.commandPortDisable dir
  | stateSet newState a a' =>
    obtain ⟨-, rfl⟩ := Option.ite_some_none_eq_some.mp hstep
    refine h.commandStateSet fun hrun hstart hout hin henabled => ?_
    subst hrun
    simpa [startsSuspended, hstart, hout, hin, henabled] using hok
  | resumePortCommand timeout a a' =>
    cases hstep
    refine h.resumePortCommand fun hcommand hin hcurrent => ?_
    simpa [startsSuspended, hcommand, hin, hcurrent] using hok
  | resumeStateSet timeout a a' =>
    cases hstep
    exact h.resumeStateSet

theorem init_shadowed (codec : AudioCodec) (mp4ff : Bool) (inputDef outputDef : PortDefinition) :
    Shadowed (init codec mp4ff inputDef outputDef) := ⟨rfl, rfl, fun _ => rfl⟩

/-- As long as no step starts the input port on a suspended decoder with an enabled output port, `m_decoderState` is the
    decoder's state, only a started decoder is stopped, and blocks are queued to a started decoder only. -/
theorem decoder_state_shadows (codec : AudioCodec) (mp4ff : Bool) (inputDef outputDef : PortDefinition) (s : AudioOutput)
    (h : Reaches step (fun s a => !s.startsSuspended a) (init codec mp4ff inputDef outputDef) s) :
    s.d.decoderState = s.nexus.state ∧ s.nexus.faults = [] := by
  have hshadowed : Shadowed s := h.invariant (init_shadowed codec mp4ff inputDef outputDef)
    fun _ _ _ h hok hstep => h.step (by simpa using hok) hstep
  exact ⟨hshadowed.state, hshadowed.faults⟩

def oneInput : PortDefinition := { nPortIndex := 0, nBufferCountActual := 1, nBufferCountMin := 1, nBufferSize := 64 }

/-- From Loaded to Executing with one buffer a port. -/
def toExecuting : List AudioOutputAction :=
  [.stateSet .idle {} {}, .input (.allocateInputBuffer 10 64 false), .allocateOutputBuffer 20 7,
    .resumeStateSet false {} {}, .stateSet .executing {} {}]

theorem decoder_state_shadows_executing :
    ∃ s : AudioOutput, s.nexus.state = .started ∧ s.nexus.queue.length = 1 ∧
      s.d.decoderState = s.nexus.state ∧ s.nexus.faults = [] := by
  obtain ⟨s, hs, hend⟩ := Reaches.exists_of_run step (fun s a => !s.startsSuspended a)
    (init .aac false oneInput smallOutput) (toExecuting ++ [.fillThisBuffer true 20])
    (fun s => s.nexus.state = .started && s.nexus.queue.length = 1) (by decide +kernel)
  simp only [Bool.and_eq_true, decide_eq_true_eq] at hend
  exact ⟨s, hend.1, hend.2, decoder_state_shadows .aac false oneInput smallOutput s hs⟩

/-- The input port has no buffers when the component goes to Idle, and the output port has none when it goes back to
    Executing: the decoder is resumed, and `m_decoderState` is still suspended. -/
theorem unseen_resume :
    ∃ s, Reaches step (fun _ _ => true) (init .aac false oneInput smallOutput) s ∧
      ¬ s.d.decoderState = s.nexus.state := by
  obtain ⟨s, hs, hend⟩ := Reaches.exists_of_run step (fun _ _ => true) (init .aac false oneInput smallOutput)
    (toExecuting ++ [.input (.freeInputBuffer 10), .stateSet .idle {} {}, .input (.allocateInputBuffer 10 64 false),
      .freeOutputBuffer 20, .stateSet .executing {} {}])
    (fun s => s.d.decoderState ≠ s.nexus.state) (by decide +kernel)
  exact ⟨s, hs, by simpa using hend⟩

end AudioOutput
end BcmPlatform.Bomx
