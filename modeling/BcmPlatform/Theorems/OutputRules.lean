import BcmPlatform.Lib.Runs
import BcmPlatform.Theorems.DecoderFlags
import BcmPlatform.Theorems.PollFrames

/-! What the steps of the video decoder do to its output side, as rules: a property of the output side that each of its
    operations keeps is kept by every step of the decoder. Some operations need a condition, which is a condition on
    the step then. -/

namespace BcmPlatform.Bomx
open Lib Relation

namespace OutputSide

/-- `FillThisBuffer`, without the poll that may follow. -/
def fillAndReturn (b : BufferId) (s : OutputSide) : OutputSide := (s.fillThisBuffer b).1.returnDecodedFrames.1

/-- `FreeBuffer`, without the poll that may follow. -/
def freeAndReturn (b : BufferId) (s : OutputSide) : OutputSide :=
  if (s.freeBuffer b).2.2 then (s.freeBuffer b).1.returnDecodedFrames.1 else (s.freeBuffer b).1

/-- The display of a frame, without the poll that may follow. -/
def showAndReturn (serialNumber : Nat) (s : OutputSide) : OutputSide :=
  let p := { s with displayTaken := none }.displayFrameLocked serialNumber
  if p.2 then p.1.returnDecodedFrames.1 else p.1

/-- The end of a flush of the output port. -/
def endFlush (s : OutputSide) : OutputSide :=
  { s with eosDelivered := false, eosReceived := false, displayFrameAvailable := false, frameSerial := 0,
           outputFlushing := false }

/-- The flags of the port may change. -/
def setPortFlags (bEnabled bPopulated : Bool) (s : OutputSide) : OutputSide :=
  { s with port := { s.port with definition := { s.port.definition with bEnabled, bPopulated } } }

end OutputSide

/-- The conditions under which the client's calls, the flush and the state changes take place. -/
structure OutputConditions where
  fill : OutputSide → BufferId → Prop := fun _ _ => True
  free : OutputSide → BufferId → Prop := fun _ _ => True
  notify : OutputSide → Nat → Prop := fun _ _ => True
  decode : OutputSide → List FrameStatus → Prop := fun _ _ => True
  flush : OutputSide → Prop := fun _ => True
  stop : OutputSide → Prop := fun _ => True
  clear : OutputSide → Prop := fun _ => True
  leave : Prop := True

/-- The operations of the output side keep `P` under the conditions `C`. -/
structure OutputRules (mode : OutputMode) (C : OutputConditions) (P : OutputSide → Prop) : Prop where
  queue : ∀ {s}, P s → s.FrameQueue mode
  take : ∀ {s} n, P s → P (s.getDecodedFrames n)
  pollStep : ∀ {s s'}, OutputSide.PollStep s s' → P s → P s'
  add : ∀ {s} b nSizeBytes nativeHandle componentAllocated, P s →
    P (s.addBuffer mode b nSizeBytes nativeHandle componentAllocated).1
  fill : ∀ {s b}, b ∈ s.port.bufferList → C.fill s b → s.outputFlushing = false → (s.fillThisBuffer b).2 = .none →
    P s → P (s.fillAndReturn b)
  free : ∀ {s b}, C.free s b → s.outputFlushing = false → P s → P (s.freeAndReturn b)
  notify : ∀ {s n}, C.notify s n → P s → P (s.binderNotifyDisplay n)
  takeDisplay : ∀ {s}, s.displayTaken = none → P s → P s.takeDisplayFrame
  showDisplay : ∀ {s n}, s.displayTaken = some n → s.outputFlushing = false → P s → P (s.showAndReturn n)
  decode : ∀ {s frames}, C.decode s frames → s.nexus.started = true → serialsFrom s.nexus.nextSerial frames = true →
    P s → P (s.decode frames)
  flush : ∀ {s}, C.flush s → s.hSimpleVideoDecoder = true → P s → P s.startFlush.returnDecodedFrames.1
  endFlush : ∀ {s₀ s}, C.flush s₀ → P s → P s.endFlush
  returnPortBuffers : ∀ {s}, P s → P s.returnPortBuffers
  stop_returned : ∀ {s}, C.stop s → C.stop s.returnPortBuffers
  stop : ∀ {s}, C.stop s → s.nexus.started = true → P s → P s.stop
  release : C.leave → ∀ {s}, P s → P s.release
  unload : C.leave → ∀ {s}, P s → P s.unload
  clear_flags : ∀ {s} bEnabled bPopulated, C.clear s → C.clear (s.setPortFlags bEnabled bPopulated)
  clear : C.leave → ∀ {s}, C.clear s → s.port.bufferList = [] → P s → P s.clearAllocList
  acquire : ∀ {s}, s.hSimpleVideoDecoder = false → P s → P { s with hSimpleVideoDecoder := true }
  start : ∀ {s}, s.hSimpleVideoDecoder = true → s.nexus.started = false → P s → P s.nexusStart
  startFailed : ∀ {s}, s.nexus.started = false → P s →
    P { s.nexusStart.nexusStop with eosDelivered := false, eosReceived := false }
  portFlags : ∀ {s} bEnabled bPopulated, P s → P (s.setPortFlags bEnabled bPopulated)

namespace VideoDecoder

/-- The conditions on a step. -/
def OutputStepOk (C : OutputConditions) (d : VideoDecoder) : VideoAction → Prop
  | .fillThisBuffer _ b grallocSource pHandle =>
    C.fill (d.out.setBuffer b { d.out.buffer b with grallocSource, pHandle }) b
  | .freeOutputBuffer _ b => C.free d.out b
  | .notifyDisplay frameId => C.notify d.out frameId
  | .flushOutput _ => (d.out.port.isEnabled && d.out.port.isPopulated && d.out.hSimpleVideoDecoder) = true → C.flush d.out
  | .stateSet .idle .. => d.out.nexus.started = true → C.stop d.out
  | .stateSet .loaded .. => C.leave
  | .resume .. =>
    match d.portWait with
    | none => True
    | some .populate => d.out.nexus.started = true → C.stop d.out
    | some (.depopulateInput ..) => C.leave
    | some (.depopulateOutput ..) => C.leave ∧ C.clear d.out
  | .decode frames => C.decode d.out frames
  | _ => True

theorem outputStepOk_of_fill {fill : OutputSide → BufferId → Prop} {d : VideoDecoder} {a : VideoAction}
    (h : ∀ r b grallocSource pHandle, a = .fillThisBuffer r b grallocSource pHandle →
      fill (d.out.setBuffer b { d.out.buffer b with grallocSource, pHandle }) b) : d.OutputStepOk { fill } a := by
  cases a with
  | fillThisBuffer r b grallocSource pHandle => exact h r b grallocSource pHandle rfl
  | flushOutput r => exact fun _ => trivial
  | stateSet newState n r r' =>
    cases newState with
    | idle => exact fun _ => trivial
    | _ => trivial
  | resume timeout n r =>
    simp only [OutputStepOk]
    split
    · trivial
    · exact fun _ => trivial
    · trivial
    · exact ⟨trivial, trivial⟩
  | _ => trivial

/-- The property of the output side; no flush is under way. -/
structure OutputKept (mode : OutputMode) (P : OutputSide → Prop) (enabled : Bool) (d : VideoDecoder) : Prop where
  out : P d.out
  mode : d.outputMode = mode
  notFlushing : d.out.outputFlushing = false
  enabled : d.out.port.isEnabled = enabled

/-- A command has ended; the output port is enabled. -/
def OutputEnded (mode : OutputMode) (P : OutputSide → Prop) (d : VideoDecoder) : Prop :=
  OutputKept mode P true d ∧ d.portWait = none

/-- The output port is enabled, except while a command waits for it to lose its buffers. -/
def WaitOk (enabled : Bool) : Option PortWait → Prop
  | some (.depopulateInput _ outputPortEnabled) => outputPortEnabled = true ∧ enabled = true
  | some (.depopulateOutput _ outputPortEnabled) => outputPortEnabled = true
  | _ => enabled = true

section
variable {mode : OutputMode} {C : OutputConditions} {P : OutputSide → Prop} {e : Bool} {d d' : VideoDecoder}
  {r : PollResult} {b : BufferId}

namespace OutputKept

theorem congr (h : OutputKept mode P e d) (hout : d'.out = d.out) (hmode : d'.outputMode = d.outputMode) :
    OutputKept mode P e d' :=
  ⟨by rw [hout]; exact h.out, hmode.trans h.mode, by rw [hout]; exact h.notFlushing, by rw [hout]; exact h.enabled⟩

theorem of_flags (h : OutputKept mode P e d) (hout : P d'.out) (hflags : d'.flags = d.flags) :
    OutputKept mode P e d' := by
  simp only [flags, OutputSide.decoderFlags, Prod.mk.injEq] at hflags
  obtain ⟨-, hmode, -, -, -, hflush, henabled⟩ := hflags
  exact ⟨hout, hmode.trans h.mode, hflush.trans h.notFlushing, henabled.trans h.enabled⟩

theorem poll_out (rules : OutputRules mode C P) (h : P d.out) : P (d.pollDecodedFrames r).out := by
  rcases pollDecodedFrames_steps (r := r) (rules.queue h) with heq | hsteps
  · rw [heq]
    exact h
  · exact hsteps.head_induction_on (motive := fun s _ => P s → P (d.pollDecodedFrames r).out) id
      (fun hstep _ ih hs => ih (rules.pollStep hstep hs)) (rules.take _ h)

theorem return_out (rules : OutputRules mode C P) (h : P d.out.returnDecodedFrames.1) :
    P (d.returnDecodedFrames r).out := by
  simp only [VideoDecoder.returnDecodedFrames]
  split
  · exact poll_out (d := { d with out := d.out.returnDecodedFrames.1 }) rules h
  · exact h

theorem poll (rules : OutputRules mode C P) (h : OutputKept mode P e d) : OutputKept mode P e (d.pollDecodedFrames r) :=
  h.of_flags (poll_out rules h.out) (pollDecodedFrames_flags rfl)

/-! ### Buffers and display -/

theorem fillThisBuffer (rules : OutputRules mode C P) (h : OutputKept mode P e d) (hb : b ∈ d.out.port.bufferList)
    (grallocSource : Bool) (pHandle : Option Nat)
    (hok : C.fill (d.out.setBuffer b { d.out.buffer b with grallocSource, pHandle }) b) :
    OutputKept mode P e (d.fillThisBuffer r b grallocSource pHandle).1 := by
  refine h.of_flags ?_ (fillThisBuffer_flags _ _)
  have hclient := rules.pollStep (.quiet (.setMetadata b grallocSource pHandle d.out)) h.out
  simp only [VideoDecoder.fillThisBuffer]
  split
  · next hnone => exact return_out rules (rules.fill hb hok h.notFlushing hnone hclient)
  · next herr =>
    -- a buffer that is refused changes nothing
    have hsame : ∀ s : OutputSide, (s.fillThisBuffer b).2 ≠ .none → (s.fillThisBuffer b).1 = s := by
      intro s hne
      simp only [OutputSide.fillThisBuffer] at hne ⊢
      split
      · rfl
      · split
        · rfl
        · next hdir htype =>
          rw [if_neg hdir, if_neg htype] at hne
          exact absurd rfl hne
    exact (hsame _ herr).symm ▸ hclient

theorem freeOutputBuffer (rules : OutputRules mode C P) (h : OutputKept mode P e d) (hok : C.free d.out b) :
    OutputKept mode P e (d.freeOutputBuffer r b).1 := by
  refine h.of_flags ?_ freeOutputBuffer_flags
  have hfree := rules.free hok h.notFlushing h.out
  simp only [VideoDecoder.freeOutputBuffer]
  unfold OutputSide.freeAndReturn at hfree
  split
  · next hreturn =>
    rw [if_pos hreturn] at hfree
    exact return_out rules hfree
  · next hreturn =>
    rw [if_neg hreturn] at hfree
    exact hfree

theorem displayFrameEvent (rules : OutputRules mode C P) (h : OutputKept mode P e d) :
    OutputKept mode P e (d.displayFrameEvent r) := by
  refine h.of_flags ?_ displayFrameEvent_flags
  simp only [VideoDecoder.displayFrameEvent]
  split
  · exact h.out
  · next serialNumber htaken =>
    have hshow := rules.showDisplay htaken h.notFlushing h.out
    simp only [OutputSide.showAndReturn] at hshow
    split
    · next hreturn =>
      rw [if_pos hreturn] at hshow
      exact return_out rules hshow
    · next hreturn =>
      rw [if_neg hreturn] at hshow
      exact hshow

theorem flushOutput (rules : OutputRules mode C P) (h : OutputKept mode P e d)
    (hok : (d.out.port.isEnabled && d.out.port.isPopulated && d.out.hSimpleVideoDecoder) = true → C.flush d.out) :
    OutputKept mode P e (d.flushOutput r) := by
  refine h.of_flags ?_ (flushOutput_flags h.notFlushing)
  simp only [VideoDecoder.flushOutput]
  refine rules.returnPortBuffers ?_
  split
  · next hbranch =>
    have hopen : d.out.hSimpleVideoDecoder = true := by
      simp only [Bool.and_eq_true] at hbranch
      exact hbranch.2
    have hflush : P (({ d with out := d.out.startFlush } : VideoDecoder).returnDecodedFrames r).out :=
      return_out rules (rules.flush (hok hbranch) hopen h.out)
    exact rules.endFlush (hok hbranch) hflush
  · exact h.out

/-! ### State changes -/

theorem setOut (h : OutputKept mode P e d) {out : OutputSide} (hout : P out)
    (hflush : out.outputFlushing = d.out.outputFlushing) (henabled : out.port.isEnabled = d.out.port.isEnabled) :
    OutputKept mode P e { d with out } :=
  ⟨hout, h.mode, hflush.trans h.notFlushing, henabled.trans h.enabled⟩

theorem endStateChange (h : OutputKept mode P true d) (ok : Bool) : OutputEnded mode P (d.endStateChange ok) := by
  unfold VideoDecoder.endStateChange
  split
  · exact ⟨h.congr rfl rfl, rfl⟩
  · exact ⟨h.congr rfl rfl, rfl⟩

theorem returnPortBuffers (rules : OutputRules mode C P) (h : OutputKept mode P e d) :
    OutputKept mode P e { d with out := d.out.returnPortBuffers } := by
  have hflags := OutputSide.returnPortBuffers_flags (s := d.out)
  simp only [OutputSide.decoderFlags, Prod.mk.injEq] at hflags
  exact h.setOut (rules.returnPortBuffers h.out) hflags.2.2.1 hflags.2.2.2

theorem setOutputPortState (rules : OutputRules mode C P) (h : OutputKept mode P e d) {newState : OmxState}
    (hstate : newState ≠ .loaded) : OutputKept mode P e (d.setOutputPortState newState r) := by
  simp only [VideoDecoder.setOutputPortState]
  split
  · exact absurd rfl hstate
  · exact h.returnPortBuffers rules
  · split
    · exact h.poll rules
    · exact h

theorem startDecoder (rules : OutputRules mode C P) (h : OutputKept mode P e d) (hopen : d.out.hSimpleVideoDecoder = true)
    (hstopped : d.out.nexus.started = false) (n : StartResult) : OutputKept mode P e (d.startDecoder n r).1 := by
  simp only [VideoDecoder.startDecoder]
  split
  · exact h
  · split
    · exact ⟨rules.startFailed hstopped h.out, h.mode, h.notFlushing, h.enabled⟩
    · have hstart : OutputKept mode P e { d with inp := d.inp.start, out := d.out.nexusStart } :=
        ⟨rules.start hopen hstopped h.out, h.mode, h.notFlushing, h.enabled⟩
      split
      · exact hstart.poll rules
      · exact hstart

theorem setInputPortState (rules : OutputRules mode C P) (h : OutputKept mode P e d) {newState : OmxState}
    (hstate : newState ≠ .loaded) (hstop : newState = .idle → d.out.nexus.started = true → C.stop d.out)
    (n : StartResult) : OutputKept mode P e (d.setInputPortState newState n r).1 := by
  simp only [VideoDecoder.setInputPortState, if_neg hstate]
  split
  · exact h
  · by_cases hopen : d.out.hSimpleVideoDecoder = true
    · simp only [hopen, if_true]
      split
      · split
        · next hstarted => exact ⟨rules.stop (hstop rfl hstarted) hstarted h.out, h.mode, h.notFlushing, h.enabled⟩
        · exact h
      · split
        · exact h
        · next hstopped => exact h.startDecoder rules hopen (by simpa using hstopped) n
      · exact h
      · exact h
    · -- a decoder that is acquired now is not started
      have hclosed : d.out.hSimpleVideoDecoder = false := by simpa using hopen
      have hstopped : d.out.nexus.started = false := by
        by_contra hstarted
        exact hopen ((rules.queue h.out).acquired (by simpa using hstarted))
      have hacquire : OutputKept mode P e d.acquire := ⟨rules.acquire hclosed h.out, h.mode, h.notFlushing, h.enabled⟩
      have hstopped' : d.acquire.out.nexus.started = false := hstopped
      simp only [hclosed, Bool.false_eq_true, if_false]
      split
      · rw [if_neg (by simp [hstopped'])]
        exact hacquire
      · rw [if_neg (by simp [hstopped'])]
        exact hacquire.startDecoder rules rfl hstopped' n
      · exact hacquire
      · exact hacquire

theorem setRunning (rules : OutputRules mode C P) (h : OutputKept mode P true d) {newState : OmxState}
    (hloaded : newState ≠ .loaded) (hidle : newState ≠ .idle) (n : StartResult) (r' : PollResult) :
    OutputEnded mode P (d.setRunning newState n r r') := by
  have hrest : ∀ {d : VideoDecoder}, OutputKept mode P true d → OutputEnded mode P
      (if d.inp.port.isPopulated && d.inp.port.isEnabled then
        (d.setInputPortState newState n r').1.endStateChange (d.setInputPortState newState n r').2
      else d.endStateChange true) := by
    intro d h
    split
    · exact (h.setInputPortState rules hloaded (fun heq => absurd heq hidle) n).endStateChange _
    · exact h.endStateChange true
  simp only [VideoDecoder.setRunning]
  split
  · exact hrest (h.setOutputPortState rules hloaded)
  · exact hrest h

theorem setIdle (rules : OutputRules mode C P) (h : OutputKept mode P true d) (n : StartResult)
    (hstop : d.out.nexus.started = true → C.stop d.out) : OutputEnded mode P (d.setIdle n r) := by
  have hconfig : OutputKept mode P true { d with inp := d.inp.configBufferInit } := h.congr rfl rfl
  have hrest : ∀ {d : VideoDecoder}, OutputKept mode P true d → OutputEnded mode P
      ((if d.out.port.isPopulated then d.setOutputPortState .idle r else d).endStateChange true) := by
    intro d h
    refine endStateChange ?_ true
    split
    · exact h.setOutputPortState rules OmxState.noConfusion
    · exact h
  refine hrest ?_
  split
  · exact hconfig.setInputPortState rules OmxState.noConfusion (fun _ => hstop) n
  · exact hconfig

theorem disabled (rules : OutputRules mode C P) (h : OutputKept mode P e d) :
    OutputKept mode P false { d with out := { d.out with port := d.out.port.disabled } } := by
  obtain ⟨bEnabled, bPopulated, heq⟩ := d.out.port.disabled_eq
  refine ⟨?_, h.mode, h.notFlushing, d.out.port.isEnabled_disabled⟩
  rw [heq]
  exact rules.portFlags bEnabled bPopulated h.out

theorem reenabled (rules : OutputRules mode C P) (h : OutputKept mode P e d) :
    OutputKept mode P true { d with out := { d.out with port := d.out.port.reenabled true } } := by
  obtain ⟨bEnabled, bPopulated, heq⟩ := d.out.port.reenabled_eq true
  refine ⟨?_, h.mode, h.notFlushing, d.out.port.isEnabled_reenabled⟩
  rw [heq]
  exact rules.portFlags bEnabled bPopulated h.out

theorem setIdleFromLoaded (rules : OutputRules mode C P) (h : OutputKept mode P true d) (n : StartResult)
    (hstop : d.out.nexus.started = true → C.stop d.out) : OutputEnded mode P (d.setIdleFromLoaded n r) := by
  have hrest : ∀ {d : VideoDecoder} (inputEnabled : Bool), OutputKept mode P true d →
      (d.out.nexus.started = true → C.stop d.out) → OutputEnded mode P
        (if (d.setInputPortState .idle n r).2 = true then (d.setInputPortState .idle n r).1.endStateChange true
          else { (d.setInputPortState .idle n r).1 with
            inp := { (d.setInputPortState .idle n r).1.inp with
              port := (d.setInputPortState .idle n r).1.inp.port.disabled.reenabled inputEnabled }
            out := { (d.setInputPortState .idle n r).1.out with
              port := (d.setInputPortState .idle n r).1.out.port.disabled.reenabled true } }.endStateChange false) := by
    intro d inputEnabled h hstop
    have hset : OutputKept mode P true (d.setInputPortState .idle n r).1 :=
      h.setInputPortState rules OmxState.noConfusion (fun _ => hstop) n
    split
    · exact hset.endStateChange true
    · refine endStateChange ?_ false
      exact ((hset.disabled rules).reenabled rules).congr rfl rfl
  simp only [VideoDecoder.setIdleFromLoaded, h.enabled, Bool.and_true]
  split
  · have hset : OutputKept mode P true (d.setOutputPortState .idle r) := h.setOutputPortState rules OmxState.noConfusion
    have hstop' : (d.setOutputPortState .idle r).out.nexus.started = true → C.stop (d.setOutputPortState .idle r).out := by
      intro hstarted
      refine rules.stop_returned (hstop ?_)
      rw [← started_of_flags (setOutputPortState_flags (r := r) .idle)]
      exact hstarted
    split
    · exact hrest _ hset hstop'
    · exact hset.endStateChange true
  · split
    · exact hrest _ h hstop
    · exact h.endStateChange true

theorem disableInput (rules : OutputRules mode C P) (h : OutputKept mode P e d) (hleave : C.leave) (n : StartResult) :
    OutputKept mode P e (d.disableInput n r) := by
  have hrelease : d.out.release.outputFlushing = d.out.outputFlushing ∧
      d.out.release.port.isEnabled = d.out.port.isEnabled := by
    simp only [OutputSide.release]
    split <;> exact ⟨rfl, rfl⟩
  exact ⟨rules.release hleave h.out, h.mode, hrelease.1.trans h.notFlushing, hrelease.2.trans h.enabled⟩

theorem disableOutput (rules : OutputRules mode C P) (h : OutputKept mode P e d) (hleave : C.leave) :
    OutputKept mode P false (d.disableOutput r) := by
  have hdis := h.disabled rules
  have hunload : ∀ s : OutputSide, s.unload.outputFlushing = s.outputFlushing ∧ s.unload.port.isEnabled = s.port.isEnabled := by
    intro s
    have hflags := OutputSide.returnPortBuffers_flags (s := s)
    simp only [OutputSide.decoderFlags, Prod.mk.injEq] at hflags
    simp only [OutputSide.unload]
    split <;> exact ⟨hflags.2.2.1, hflags.2.2.2⟩
  obtain ⟨hflush, henabled⟩ := hunload { d.out with port := d.out.port.disabled }
  exact (hdis.setOut (rules.unload hleave hdis.out) hflush henabled).returnPortBuffers rules

end OutputKept

/-- The property of the output side, and whether the output port is enabled. -/
def OutputInv (mode : OutputMode) (P : OutputSide → Prop) (d : VideoDecoder) : Prop :=
  ∃ enabled, OutputKept mode P enabled d ∧ WaitOk enabled d.portWait

namespace OutputInv

theorem of_ended (h : OutputEnded mode P d) : OutputInv mode P d := by
  refine ⟨true, h.1, ?_⟩
  rw [h.2]
  exact rfl

theorem commandStateSet (rules : OutputRules mode C P) (h : OutputEnded mode P d) (newState : OmxState)
    (n : StartResult) (r' : PollResult) (hstop : newState = .idle → d.out.nexus.started = true → C.stop d.out)
    (hleave : newState = .loaded → C.leave) : OutputInv mode P (d.commandStateSet newState n r r') := by
  have htarget : OutputKept mode P true { d with targetState := newState } := h.1.congr rfl rfl
  simp only [VideoDecoder.commandStateSet]
  split
  · exact of_ended h
  · split
    · simp only [VideoDecoder.setLoaded]
      refine ⟨true, ?_, h.1.enabled, rfl⟩
      split
      · exact (htarget.disableInput (r := r) rules (hleave rfl) n).congr rfl rfl
      · exact htarget.congr rfl rfl
    · split
      · exact ⟨true, htarget.congr rfl rfl, rfl⟩
      · exact of_ended (htarget.setIdle rules n (hstop rfl))
    · exact of_ended (htarget.setRunning rules OmxState.noConfusion OmxState.noConfusion n r')
    · exact of_ended (htarget.setRunning rules OmxState.noConfusion OmxState.noConfusion n r')
    · exact of_ended (htarget.endStateChange false)

theorem resume (rules : OutputRules mode C P) (h : OutputInv mode P d) (timeout : Bool) (n : StartResult)
    (hok : OutputStepOk C d (.resume timeout n r)) : OutputInv mode P (d.resume timeout n r) := by
  obtain ⟨e, hkept, hwaitOk⟩ := h
  have hself : OutputInv mode P d := ⟨e, hkept, hwaitOk⟩
  simp only [OutputStepOk] at hok
  simp only [VideoDecoder.resume]
  cases hwait : d.portWait with
  | none => exact hself
  | some w =>
    rw [hwait] at hok hwaitOk
    cases w with
    | populate =>
      obtain rfl : e = true := hwaitOk
      simp only
      split
      · exact of_ended (hkept.setIdleFromLoaded rules n hok)
      · split
        · exact of_ended (hkept.endStateChange false)
        · exact hself
    | depopulateInput inputPortEnabled outputPortEnabled =>
      obtain ⟨rfl, rfl⟩ := hwaitOk
      simp only [if_true]
      split
      · exact ⟨false, (hkept.disableOutput (r := r) rules hok).congr rfl rfl, rfl⟩
      · split
        · refine of_ended (OutputKept.endStateChange ?_ false)
          exact hkept.congr rfl rfl
        · exact hself
    | depopulateOutput inputPortEnabled outputPortEnabled =>
      obtain rfl : outputPortEnabled = true := hwaitOk
      simp only [Bool.not_true, Bool.or_false]
      split
      · next hempty =>
        have hre := hkept.reenabled rules
        have hcleared : P ({ d.out with port := d.out.port.reenabled true }.clearAllocList) := by
          obtain ⟨bEnabled, bPopulated, heq⟩ := d.out.port.reenabled_eq true
          rw [heq]
          exact rules.clear hok.1 (rules.clear_flags bEnabled bPopulated hok.2)
            (List.length_eq_zero_iff.mp (of_decide_eq_true hempty)) (rules.portFlags bEnabled bPopulated hkept.out)
        refine of_ended (OutputKept.endStateChange ?_ true)
        exact ⟨hcleared, hre.mode, hre.notFlushing, hre.enabled⟩
      · split
        · exact of_ended ((hkept.reenabled rules).endStateChange false)
        · exact hself

theorem step (rules : OutputRules mode C P) {a : VideoAction} (h : OutputInv mode P d) (hok : d.OutputStepOk C a)
    (hstep : d.step a = some d') : OutputInv mode P d' := by
  have hself := h
  obtain ⟨e, hkept, hwaitOk⟩ := h
  -- the steps that no command waits for
  have hkeep : ∀ {d₁ : VideoDecoder}, OutputKept mode P e d₁ → d₁.portWait = d.portWait → OutputInv mode P d₁ :=
    fun h₁ hwait => ⟨e, h₁, by rw [hwait]; exact hwaitOk⟩
  have hflags : ∀ {d₁ : VideoDecoder}, d₁.flags = d.flags → d₁.portWait = d.portWait :=
    fun heq => congrArg (fun v => v.2.2.1) heq
  have hout : ∀ {out : OutputSide}, P out → out.outputFlushing = d.out.outputFlushing →
      out.port.isEnabled = d.out.port.isEnabled → OutputInv mode P { d with out } :=
    fun hP hflush henabled => hkeep (hkept.setOut hP hflush henabled) rfl
  cases moves_of_step hstep with
  | allocateInputBuffer b nSizeBytes componentAllocated => exact hkeep (hkept.congr rfl rfl) rfl
  | allocateOutputBuffer b nSizeBytes nativeHandle componentAllocated =>
    have hadd := OutputSide.addBuffer_flags (s := d.out) (b := b) d.outputMode nSizeBytes nativeHandle componentAllocated
    simp only [OutputSide.decoderFlags, Prod.mk.injEq] at hadd
    refine hout ?_ hadd.2.2.1 hadd.2.2.2
    rw [hkept.mode]
    exact rules.add _ _ _ _ hkept.out
  | emptyThisBuffer submit b header => exact hkeep (hkept.congr rfl rfl) rfl
  | fillThisBuffer r b grallocSource pHandle hb =>
    exact hkeep (hkept.fillThisBuffer rules hb grallocSource pHandle hok) (hflags (fillThisBuffer_flags _ _))
  | freeInputBuffer b => exact hkeep (hkept.congr rfl rfl) rfl
  | freeOutputBuffer r b => exact hkeep (hkept.freeOutputBuffer rules hok) (hflags freeOutputBuffer_flags)
  | playpumpEvent fifoPts => exact hkeep (hkept.congr rfl rfl) rfl
  | inputBufferTimeout => exact hkeep (hkept.congr rfl rfl) rfl
  | outputFrameEvent r => exact hkeep (hkept.poll rules) (hflags (pollDecodedFrames_flags rfl))
  | notifyDisplay frameId => exact hout (rules.notify hok hkept.out) rfl rfl
  | takeDisplay hnone =>
    have htake : d.out.takeDisplayFrame.outputFlushing = d.out.outputFlushing ∧
        d.out.takeDisplayFrame.port = d.out.port := by
      simp only [OutputSide.takeDisplayFrame]
      split <;> exact ⟨rfl, rfl⟩
    exact hout (rules.takeDisplay hnone hkept.out) htake.1 (by rw [htake.2])
  | showDisplay r => exact hkeep (hkept.displayFrameEvent rules) (hflags displayFrameEvent_flags)
  | flushInput stopped fifoPts => exact hkeep (hkept.congr rfl rfl) rfl
  | flushOutput r => exact hkeep (hkept.flushOutput rules hok) (hflags (flushOutput_flags hkept.notFlushing))
  | stateSet newState n r r' hnone =>
    rw [hnone] at hwaitOk
    obtain rfl : e = true := hwaitOk
    refine commandStateSet rules ⟨hkept, hnone⟩ newState n r' (fun hidle => ?_) fun hloaded => ?_
    · subst hidle
      exact hok
    · subst hloaded
      exact hok
  | resume timeout n r => exact hself.resume rules timeout n hok
  | consume n => exact hkeep (hkept.congr rfl rfl) rfl
  | decode frames hstarted hserials => exact hout (rules.decode hok hstarted hserials hkept.out) rfl rfl

end OutputInv

end
end VideoDecoder
end BcmPlatform.Bomx
