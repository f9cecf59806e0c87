import BcmPlatform.Bomx.AudioDecoder
import BcmPlatform.Theorems.AccountingSteps

/-! Descriptor accounting of the audio decoder. Its flush goes through Idle state and back, and its playpump is closed
    without a reset of the count, so that a stopped decoder must have nothing submitted when it is flushed, started or
    closed. -/

namespace BcmPlatform.Bomx
namespace InputSide
variable {s s' : InputSide} {b : BufferId}

/-! ### Accepting a buffer -/

theorem audioEmptyFrame_fed (codecHeader : List UInt8) (accepted : Bool) :
    FrameFed b (audioEmptyFrame codecHeader accepted b) := by
  intro s
  have htrack : Prepared b s { s.setBuffer b { s.buffer b with pts := (s.tracker.add (s.buffer b).header).2 } with
      tracker := (s.tracker.add (s.buffer b).header).1 } := by
    have h : Prepared b s (s.setBuffer b { s.buffer b with pts := (s.tracker.add (s.buffer b).header).2 }) :=
      Prepared.setBuffer rfl rfl rfl
    exact ⟨h.other, h.numDescriptors, h.complete, h.maxHeaderLen, id, rfl⟩
  have hbuild : ∀ {s₀ : InputSide} (f : FrameBuilder), Prepared b s₀ (s₀.setBuilder b f) :=
    fun {s₀} f => setBuilder_prepared f s₀.ptsReceived
  simp only [audioEmptyFrame]
  split
  · next err herr => exact ⟨_, htrack.trans (hbuild _), .inl ⟨rfl, buildInputFrame_error herr⟩⟩
  · split
    · refine ⟨_, ?_, .inl ⟨rfl, OmxError.noConfusion⟩⟩
      exact (htrack.trans (hbuild _)).trans (updateBuffer_prepared _)
    · next s₂ hsub =>
      refine ⟨_, ?_, .inr ⟨_, s₂, submit_sent hsub, rfl⟩⟩
      exact (htrack.trans (hbuild _)).trans (updateBuffer_prepared _)

/-! ### The playpump's progress -/

theorem markComplete_submitted_le (head : Option BufferId) : ∀ (l : List BufferId) (n : Nat) (s : InputSide),
    n ≤ s.submittedDescriptors → (markComplete head l n s).submittedDescriptors ≤ s.submittedDescriptors := by
  intro l
  induction l with
  | nil => exact fun n s _ => Nat.le_refl _
  | cons b rest ih =>
    intro n s hn
    rw [markComplete_cons]
    split
    · exact Nat.le_refl _
    · split
      · exact ih n s hn
      · split
        · next hge =>
          have hmark := markOne_eq (s := s) (b := b) (by omega)
          have hsub : (s.markOne b).submittedDescriptors = s.submittedDescriptors - (s.buffer b).numDescriptors := by
            rw [hmark]
          have hle := ih (n - (s.buffer b).numDescriptors) (s.markOne b) (by omega)
          omega
        · exact Nat.le_refl _

/-- The accounting, and nothing submitted if `z` says so. -/
structure Settled (z : Prop) (s : InputSide) : Prop where
  accounting : Accounting s
  zero : z → s.submittedDescriptors = 0

variable {z : Prop}

theorem Settled.congr (h : Settled z s) (hacc : Accounting s') (hs : s'.submittedDescriptors = s.submittedDescriptors) :
    Settled z s' :=
  ⟨hacc, fun hz => hs.trans (h.zero hz)⟩

theorem Settled.audioPlaypumpEvent (h : Settled z s) (fifoPts : Option Nat) :
    Settled z (s.audioPlaypumpEvent fifoPts) := by
  simp only [InputSide.audioPlaypumpEvent]
  split
  · refine ⟨(h.accounting.completeConsumed _).1, fun hz => ?_⟩
    have hle := markComplete_submitted_le ((fifoPts.bind s.findBufferFromPts).bind s.port.getNextBuffer)
      s.port.bufferQueue (sub32 s.submittedDescriptors s.descFifo.length) s
      (by rw [sub32_of_le h.accounting.descFifo_le]; omega)
    exact Nat.le_zero.mp (Nat.le_trans hle (Nat.le_of_eq (h.zero hz)))
  · exact h

theorem Settled.audioReturnInputBuffers (h : Settled z s) (fifoPts : Option Nat) (ticks : Ticks)
    (causedByTimeout : Bool) : Settled z (s.audioReturnInputBuffers fifoPts ticks causedByTimeout) := by
  have hevent := h.audioPlaypumpEvent fifoPts
  obtain ⟨k, hr, -⟩ := returnInputBuffers_returned ticks (if causedByTimeout = true then .all else .timestamp)
    (s.audioPlaypumpEvent fifoPts)
  exact hevent.congr (hevent.accounting.returnInputBuffers _ _) hr.submitted

theorem Settled.consume (h : Settled z s) (n : Nat) : Settled z (s.consume n) :=
  h.congr (h.accounting.consume n) rfl

theorem Settled.track (h : Settled z s) (tracker : BufferTracker) (eosPending : Bool) :
    Settled z { s with tracker, eosPending } :=
  h.congr (h.accounting.congr rfl (fun _ _ => rfl) (fun _ _ => rfl) rfl (List.suffix_refl _) h.accounting.closed
    fun _ ha => .inl ha) rfl

theorem Settled.configBufferInit (h : Settled z s) : Settled z s.configBufferInit :=
  h.congr (h.accounting.congr rfl (fun _ _ => rfl) (fun _ _ => rfl) rfl (List.suffix_refl _) h.accounting.closed
    fun _ ha => .inl ha) rfl

theorem Settled.disabled (h : Settled z s) : Settled z { s with port := s.port.disabled } := by
  refine h.congr (h.accounting.setPort ?_) rfl
  unfold Port.disabled Port.disable
  split <;> rfl

theorem Settled.reenabled (h : Settled z s) (enabled : Bool) :
    Settled z { s with port := s.port.reenabled enabled } := by
  refine h.congr (h.accounting.setPort ?_) rfl
  unfold Port.reenabled Port.enable
  split
  · split <;> rfl
  · rfl

theorem Settled.openPlaypump (h : Settled z s) : Settled z s.openPlaypump :=
  h.congr h.accounting.openPlaypump rfl

theorem Settled.start (h : Settled z s) (hs : s.submittedDescriptors = 0) : Settled z s.start :=
  h.congr (h.accounting.start hs) hs.symm

theorem Settled.stop (h : Settled z s) : Settled True s.stop := ⟨h.accounting.stop, fun _ => rfl⟩

theorem Settled.closePlaypump (h : Settled z s) (hs : s.submittedDescriptors = 0) : Settled z s.closePlaypump :=
  h.congr (h.accounting.congr rfl (fun _ _ => rfl) (fun _ _ => rfl) rfl List.nil_suffix (fun _ => hs)
    fun _ ha => .inl ha) rfl

end InputSide

namespace AudioDecoder
open InputSide
variable {d : AudioDecoder} {z : Prop} {r : AudioPollResult} {n : StartResult}

/-! ### Delivering frames -/

theorem takeTracked_inp (pts : Nat) :
    (d.takeTracked pts).1.inp = { d.inp with tracker := (d.inp.tracker.remove pts).1 } := by
  simp only [takeTracked]
  split
  · rfl
  · split <;> rfl

theorem deliver_settled : ∀ (l : List AudioFrame) (d : AudioDecoder), Settled z d.inp → Settled z (d.deliver l).1.inp
  | [], d, h => h
  | f :: rest, d, h => by
    have htracked : Settled z (d.takeTracked f.pts).1.inp := by
      rw [takeTracked_inp]
      exact h.track _ d.inp.eosPending
    have hdelivered : ∀ {d' : AudioDecoder} (b : BufferId) (ticks : Ticks), Settled z d'.inp →
        Settled z (d'.deliverFrame f b ticks).inp :=
      fun b ticks h => (h.consume f.consumed).audioReturnInputBuffers f.fifoPts ticks false
    simp only [deliver]
    split
    · exact h
    · split
      · exact deliver_settled rest d h
      · split
        · split
          · exact deliver_settled rest _ (hdelivered _ _ htracked)
          · exact htracked
        · exact deliver_settled rest _ (hdelivered _ _ htracked)

theorem pollDecodedFrames_settled (h : Settled z d.inp) : Settled z (d.pollDecodedFrames r).inp := by
  have hloop := deliver_settled r.frames d h
  simp only [pollDecodedFrames]
  split
  · exact h
  · split
    · split
      · exact hloop
      · split
        · split
          · exact ((hloop.track _ false).consume r.consumed).audioReturnInputBuffers r.fifoPts 0 true
          · exact hloop
        · exact hloop
    · exact h

/-! ### State changes -/

/-- A stopped decoder has nothing submitted. -/
def StoppedEmpty (d : AudioDecoder) : Prop := d.decoderState = .stopped → d.inp.submittedDescriptors = 0

theorem stopped_inp : d.resumeDecoder.stopDecoder.inp = if d.decoderState = .stopped then d.inp else d.inp.stop := by
  have hstate : d.decoderState = .stopped ∨ d.decoderState = .started ∨ d.decoderState = .suspended := by
    cases d.decoderState with
    | stopped => exact .inl rfl
    | started => exact .inr (.inl rfl)
    | suspended => exact .inr (.inr rfl)
  rcases hstate with hstate | hstate | hstate
  · simp [resumeDecoder, stopDecoder, hstate]
  · simp [resumeDecoder, stopDecoder, hstate, clearEos]
  · simp [resumeDecoder, stopDecoder, hstate, clearEos]

theorem stopped_settled (h : Settled z d.inp) : Settled z d.resumeDecoder.stopDecoder.inp := by
  rw [stopped_inp]
  split
  · exact h
  · exact ⟨h.stop.accounting, fun _ => rfl⟩

theorem stopped_zero (h : d.StoppedEmpty) : d.resumeDecoder.stopDecoder.inp.submittedDescriptors = 0 := by
  rw [stopped_inp]
  split
  · next hstate => exact h hstate
  · rfl

theorem startDecoder_settled (h : Settled z d.inp) (hok : d.StoppedEmpty) : Settled z (d.startDecoder n).1.inp := by
  simp only [startDecoder]
  split
  · exact h
  · next hstate =>
    have hzero : d.inp.submittedDescriptors = 0 := hok (by simp at hstate; exact hstate.1)
    split
    · refine ⟨?_, fun _ => rfl⟩
      exact h.accounting.congr rfl (fun _ _ => rfl) (fun _ _ => rfl) hzero.symm (List.suffix_refl _) (fun _ => rfl)
        fun _ ha => .inl ha
    · exact h.start hzero

theorem stopDecoder_settled (h : Settled z d.inp) : Settled z d.stopDecoder.inp := by
  simp only [stopDecoder]
  split
  · exact ⟨h.stop.accounting, fun _ => rfl⟩
  · exact h

theorem startInput_settled (h : Settled z d.inp) (hok : d.StoppedEmpty) : Settled z (d.startInput n r).1.inp := by
  have hstart := startDecoder_settled (n := n) h hok
  simp only [startInput]
  split
  · exact hstart
  · split
    · exact pollDecodedFrames_settled hstart
    · split
      · exact stopDecoder_settled hstart
      · exact hstart

theorem opened_settled (h : Settled z d.inp) :
    Settled z (if d.inp.hPlaypump then d else { d with inp := d.inp.openPlaypump }).inp := by
  split
  · exact h
  · exact h.openPlaypump

theorem opened_empty (h : d.StoppedEmpty) :
    (if d.inp.hPlaypump then d else { d with inp := d.inp.openPlaypump }).StoppedEmpty := by
  split
  · exact h
  · exact h

theorem setInputPortState_settled (newState : OmxState) (h : Settled z d.inp)
    (hok : newState = .loaded ∨ newState = .executing → d.StoppedEmpty) :
    Settled z (d.setInputPortState newState n r).1.inp := by
  have hopened := opened_settled h
  have hempty : newState = .executing →
      (if d.inp.hPlaypump then d else { d with inp := d.inp.openPlaypump }).StoppedEmpty :=
    fun hexec => opened_empty (hok (.inr hexec))
  simp only [setInputPortState]
  split
  · next hstate =>
    split
    · exact (stopped_settled h).closePlaypump (stopped_zero (hok (.inl hstate)))
    · exact h
  · split
    · exact h
    · generalize (if d.inp.hPlaypump then d else { d with inp := d.inp.openPlaypump }) = d₁ at hopened hempty ⊢
      split
      · exact stopped_settled hopened
      · split
        · exact startInput_settled hopened (hempty rfl)
        · split
          · exact pollDecodedFrames_settled hopened
          · exact hopened
        · exact hopened
      · exact hopened
      · exact hopened

theorem setIdle_settled (h : Settled z d.inp) (hok : d.StoppedEmpty) :
    Settled True (d.setInputPortState .idle n r).1.inp := by
  refine ⟨(setInputPortState_settled .idle h (by simp)).accounting, fun _ => ?_⟩
  simp only [setInputPortState, reduceCtorEq, if_false]
  split
  · next hclosed =>
    simp only [Bool.and_eq_true, Bool.not_eq_true'] at hclosed
    exact h.accounting.closed hclosed.1
  · exact stopped_zero (opened_empty hok)

theorem flushInput_settled {n' : StartResult} (h : Settled z d.inp) (hok : d.StoppedEmpty) :
    Settled z (d.flushInput n n' r).inp := by
  have hidle := setIdle_settled (n := n) (r := r) h hok
  have hback := setInputPortState_settled (n := n') (r := r)
    (d.setInputPortState .idle n r).1.currentState hidle fun _ _ => hidle.zero trivial
  simp only [flushInput]
  generalize ((d.setInputPortState .idle n r).1.setInputPortState _ n' r).1 = d' at hback ⊢
  have hflushed : Accounting { d'.inp with configBufferState := .flushed } :=
    hback.accounting.congr rfl (fun _ _ => rfl) (fun _ _ => rfl) rfl (List.suffix_refl _) hback.accounting.closed
      fun _ ha => .inl ha
  have hzero : d'.inp.submittedDescriptors = 0 := hback.zero trivial
  refine ⟨hflushed.returnPortBuffers hzero, fun _ => ?_⟩
  rw [(returnPortBuffers_emptied _).rest]
  exact hzero

/-! ### Commands -/

theorem resumeDecoder_inp : d.resumeDecoder.inp = d.inp := by
  unfold resumeDecoder
  split <;> rfl

theorem resumeDecoder_stopped (h : d.resumeDecoder.decoderState = .stopped) : d.decoderState = .stopped := by
  unfold resumeDecoder at h
  split at h
  · cases h
  · exact h

theorem setOutputPortState_kept {newState : OmxState} : (d.setOutputPortState newState n).1.inp = d.inp ∧
    ((d.setOutputPortState newState n).1.decoderState = .stopped → d.decoderState = .stopped) := by
  have hformat : (if newState = .loaded then { d with formatChangePending := false } else d).inp = d.inp ∧
      (if newState = .loaded then { d with formatChangePending := false } else d).decoderState = d.decoderState := by
    split <;> exact ⟨rfl, rfl⟩
  have hsuspend : ∀ {d' : AudioDecoder}, d'.inp = d.inp ∧ d'.decoderState = d.decoderState →
      (if d'.decoderState = .started ∧ !n.suspend then (d', false)
        else ((if d'.decoderState = .started then { d' with decoderState := .suspended } else d').returnOutputBuffers,
          true)).1.inp = d.inp ∧
      ((if d'.decoderState = .started ∧ !n.suspend then (d', false)
        else ((if d'.decoderState = .started then { d' with decoderState := .suspended } else d').returnOutputBuffers,
          true)).1.decoderState = .stopped → d.decoderState = .stopped) := by
    intro d' ⟨hinp, hstate⟩
    split
    · exact ⟨hinp, fun h => hstate.symm.trans h⟩
    · simp only [returnOutputBuffers]
      split
      · exact ⟨hinp, fun h => by cases h⟩
      · exact ⟨hinp, fun h => hstate.symm.trans h⟩
  simp only [setOutputPortState]
  split
  · exact hsuspend hformat
  · exact hsuspend hformat
  · split
    · exact ⟨rfl, id⟩
    · exact ⟨resumeDecoder_inp, resumeDecoder_stopped⟩

theorem setOutputPortState_inp {newState : OmxState} : (d.setOutputPortState newState n).1.inp = d.inp :=
  setOutputPortState_kept.1

theorem endStateChange_inp (ok : Bool) : (d.endStateChange ok).inp = d.inp := by
  unfold endStateChange
  split <;> rfl

theorem setRunning_settled {newState : OmxState} (h : Settled z d.inp) (hstate : newState ≠ .loaded)
    (hok : newState = .executing → d.StoppedEmpty) : Settled z (d.setRunning newState n r).inp := by
  have hrest : ∀ p : AudioDecoder × Bool, p.1.inp = d.inp → (p.1.decoderState = .stopped → d.decoderState = .stopped) →
      Settled z (if !p.2 then p.1.endStateChange false
        else if p.1.inp.port.isPopulated && p.1.inp.port.isEnabled then
          (p.1.setInputPortState newState n r).1.endStateChange (p.1.setInputPortState newState n r).2
        else p.1.endStateChange true).inp := by
    intro p hinp hstopped
    have hp : Settled z p.1.inp := by rw [hinp]; exact h
    split
    · rw [endStateChange_inp]
      exact hp
    · split
      · rw [endStateChange_inp]
        refine setInputPortState_settled newState hp fun hnew hstop => ?_
        rcases hnew with hnew | hnew
        · exact absurd hnew hstate
        · rw [hinp]
          exact hok hnew (hstopped hstop)
      · rw [endStateChange_inp]
        exact hp
  simp only [setRunning]
  split
  · exact hrest _ setOutputPortState_kept.1 setOutputPortState_kept.2
  · exact hrest _ rfl id

theorem setIdle_inp_settled (h : Settled z d.inp) : Settled z (d.setIdle n r).inp := by
  have hconfig := h.configBufferInit
  have houtput : ∀ d₁ : AudioDecoder, Settled z d₁.inp → Settled z
      ((if d₁.outPort.isPopulated then (d₁.setOutputPortState .idle n).1 else d₁).endStateChange true).inp := by
    intro d₁ h₁
    rw [endStateChange_inp]
    split
    · rw [setOutputPortState_inp]
      exact h₁
    · exact h₁
  refine houtput _ ?_
  split
  · exact setInputPortState_settled (d := { d with inp := d.inp.configBufferInit }) .idle hconfig (by simp)
  · exact hconfig

theorem setLoaded_zero (h : Settled z d.inp) (hok : d.StoppedEmpty) :
    (d.setInputPortState .loaded n r).1.inp.submittedDescriptors = 0 := by
  simp only [setInputPortState, if_true]
  split
  · exact stopped_zero hok
  · next hclosed => exact h.accounting.closed (by simpa using hclosed)

theorem disableInput_settled (h : Settled z d.inp) (hok : d.StoppedEmpty) : Settled z (d.disableInput n r).inp := by
  have hdis : Settled z { d.inp with port := d.inp.port.disabled } := h.disabled
  have hset := setInputPortState_settled (d := { d with inp := { d.inp with port := d.inp.port.disabled } }) (n := n)
    (r := r) .loaded hdis fun _ => hok
  have hzero := setLoaded_zero (d := { d with inp := { d.inp with port := d.inp.port.disabled } }) (n := n) (r := r)
    hdis hok
  refine ⟨hset.accounting.returnPortBuffers hzero, fun _ => ?_⟩
  simp only [disableInput]
  rw [(returnPortBuffers_emptied _).rest]
  exact hzero

theorem commandStateSet_settled {newState : OmxState} (h : Settled z d.inp)
    (hok : newState = .loaded ∨ newState = .executing → d.StoppedEmpty) :
    Settled z (d.commandStateSet newState n r).inp := by
  simp only [commandStateSet]
  split
  · exact h
  · split
    · simp only [setLoaded]
      split
      · exact disableInput_settled (d := { d with targetState := .loaded }) h (hok (.inl rfl))
      · exact h
    · split
      · exact h.configBufferInit
      · exact setIdle_inp_settled h
    · exact setRunning_settled h (by decide) fun _ => hok (.inr rfl)
    · exact setRunning_settled h (by decide) fun hexec => by cases hexec
    · rw [endStateChange_inp]
      exact h

theorem abandonIdle_settled (h : Settled z d.inp) (inputEnabled outputEnabled : Bool) :
    Settled z (d.abandonIdle inputEnabled outputEnabled).inp := by
  simp only [abandonIdle]
  rw [endStateChange_inp]
  exact h.disabled.reenabled inputEnabled

theorem setIdleFromLoaded_settled (h : Settled z d.inp) : Settled z (d.setIdleFromLoaded n r).inp := by
  have hrest : ∀ (p : AudioDecoder × Bool) (inputEnabled outputEnabled : Bool), Settled z p.1.inp →
      Settled z (if !p.2 then p.1.abandonIdle inputEnabled outputEnabled
        else if p.1.inp.port.isPopulated && p.1.inp.port.isEnabled then
          if (p.1.setInputPortState .idle n r).2 then (p.1.setInputPortState .idle n r).1.endStateChange true
          else (p.1.setInputPortState .idle n r).1.abandonIdle inputEnabled outputEnabled
        else p.1.endStateChange true).inp := by
    intro p inputEnabled outputEnabled hp
    have hset := setInputPortState_settled (n := n) (r := r) .idle hp (by simp)
    split
    · exact abandonIdle_settled hp _ _
    · split
      · split
        · rw [endStateChange_inp]
          exact hset
        · exact abandonIdle_settled hset _ _
      · rw [endStateChange_inp]
        exact hp
  simp only [setIdleFromLoaded]
  split
  · exact hrest _ _ _ (by rw [setOutputPortState_inp]; exact h)
  · exact hrest _ _ _ h

theorem disableOutput_inp : (d.disableOutput n).inp = d.inp := by
  simp only [disableOutput, returnOutputBuffers]
  rw [setOutputPortState_inp]

theorem resume_settled (h : Settled z d.inp) (timeout : Bool) : Settled z (d.resume timeout n r).inp := by
  simp only [resume]
  split
  · exact h
  · split
    · exact setIdleFromLoaded_settled h
    · split
      · rw [endStateChange_inp]
        exact h
      · exact h
  · split
    · split
      · rw [disableOutput_inp]
        exact h
      · exact h
    · split
      · rw [endStateChange_inp]
        exact h.reenabled true
      · exact h
  · next inputPortEnabled outputPortEnabled _ =>
    split
    · rw [endStateChange_inp]
      exact h.reenabled inputPortEnabled
    · split
      · rw [endStateChange_inp]
        exact h
      · exact h

/-! ### Steps -/

/-- The client submits a buffer that it owns. -/
def clientOwns (d : AudioDecoder) : AudioAction → Bool
  | .emptyThisBuffer _ b _ _ => b ∉ d.inp.port.bufferQueue
  | _ => true

/-- Nothing that is counted is dropped: a stopped decoder is flushed, started or closed with nothing submitted. -/
def descriptorsKept (d : AudioDecoder) : AudioAction → Bool
  | .flushInput .. | .stateSet .loaded .. | .stateSet .executing .. =>
    d.decoderState ≠ .stopped || d.inp.submittedDescriptors = 0
  | _ => true

theorem stoppedEmpty_of_kept (h : (d.decoderState ≠ .stopped || d.inp.submittedDescriptors = 0) = true) :
    d.StoppedEmpty := by
  intro hstopped
  simpa [hstopped] using h

theorem emptyThisBuffer_eq (submit : SubmitResult) (b : BufferId) (header : BufferHeader) (asc : AscInfo) :
    ∃ codecHeader ascInfo eosStandalone, (d.emptyThisBuffer submit b header asc).1 = { d with
      inp := ((d.inp.setBuffer b { d.inp.buffer b with header }).audioEmptyThisBuffer codecHeader submit b).1
      ascInfo, eosStandalone } := by
  simp only [emptyThisBuffer]
  generalize (if d.codec = .aac ∧ d.mp4ff = true then adtsHeader header.nFilledLen d.ascInfo else []) = codecHeader
  split
  · exact ⟨codecHeader, d.ascInfo, d.eosStandalone, rfl⟩
  · split
    · split
      · exact ⟨codecHeader, asc, d.eosStandalone, rfl⟩
      · exact ⟨codecHeader, d.ascInfo, d.eosStandalone, rfl⟩
    · split
      · exact ⟨codecHeader, d.ascInfo, header.nFilledLen = 0, rfl⟩
      · exact ⟨codecHeader, d.ascInfo, d.eosStandalone, rfl⟩

theorem step_accounting {a : AudioAction} {d' : AudioDecoder} (hacc : Accounting d.inp)
    (hown : d.clientOwns a = true) (hok : d.descriptorsKept a = true) (hstep : d.step a = some d') : Accounting d'.inp := by
  have h : Settled False d.inp := ⟨hacc, False.elim⟩
  cases a with
  | allocateInputBuffer b nSizeBytes componentAllocated =>
    cases hstep
    exact h.accounting.addInputPortBuffer _ _ _
  | allocateOutputBuffer b componentAllocated =>
    cases hstep
    simp only [addOutputBuffer]
    split <;> exact h.accounting
  | emptyThisBuffer submit b header asc =>
    obtain ⟨hmem, rfl⟩ := Option.ite_some_none_eq_some.mp hstep
    have hown : b ∉ d.inp.port.bufferQueue := of_decide_eq_true hown
    have hset : Accounting (d.inp.setBuffer b { d.inp.buffer b with header }) := h.accounting.setBuffer hown _
    obtain ⟨codecHeader, _, _, heq⟩ := emptyThisBuffer_eq (d := d) submit b header asc
    rw [heq]
    exact hset.emptyBuffer hmem hown (by decide) (audioEmptyFrame_fed codecHeader submit.frame)
  | fillThisBuffer queued b =>
    obtain ⟨-, rfl⟩ := Option.ite_some_none_eq_some.mp hstep
    simp only [fillThisBuffer]
    split <;> exact h.accounting
  | freeInputBuffer b =>
    cases hstep
    exact h.accounting.freeBuffer
  | freeOutputBuffer b =>
    cases hstep
    exact h.accounting
  | playpumpEvent fifoPts =>
    cases hstep
    exact (h.audioPlaypumpEvent fifoPts).accounting
  | inputBufferTimeout fifoPts =>
    cases hstep
    exact (h.audioReturnInputBuffers fifoPts 0 true).accounting
  | outputFrameEvent r =>
    cases hstep
    exact (pollDecodedFrames_settled h).accounting
  | flushInput n n' r =>
    obtain ⟨-, rfl⟩ := Option.ite_some_none_eq_some.mp hstep
    exact (flushInput_settled h (stoppedEmpty_of_kept hok)).accounting
  | flushOutput n =>
    obtain ⟨-, rfl⟩ := Option.ite_some_none_eq_some.mp hstep
    simp only [flushOutput, returnOutputBuffers]
    split
    · rw [setOutputPortState_inp, setOutputPortState_inp]
      exact h.accounting
    · exact h.accounting
  | stateSet newState n r =>
    obtain ⟨-, rfl⟩ := Option.ite_some_none_eq_some.mp hstep
    refine (commandStateSet_settled h fun hnew => ?_).accounting
    rcases hnew with rfl | rfl
    · exact stoppedEmpty_of_kept hok
    · exact stoppedEmpty_of_kept hok
  | resume timeout n r =>
    cases hstep
    exact (resume_settled h timeout).accounting
  | consume n =>
    obtain ⟨-, rfl⟩ := Option.ite_some_none_eq_some.mp hstep
    exact h.accounting.consume n

end AudioDecoder
end BcmPlatform.Bomx
