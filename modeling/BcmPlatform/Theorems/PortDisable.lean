import BcmPlatform.Theorems.PortDevice
import BcmPlatform.Theorems.AudioShadow
import BcmPlatform.Theorems.DescriptorRuns

/-! The video and the audio decoder obey the laws, so a command of theirs that times out restores the ports exactly if it
    was spared. What the input port releases is the decoder with the playpump; the output port of the audio decoder
    suspends a started decoder. -/

namespace BcmPlatform.Bomx
open Lib

/-! ### The video decoder -/

namespace OutputSide
variable {s : OutputSide} {b : BufferId}

theorem addBuffer_moved {type : OutputMode} {nSizeBytes nativeHandle : Nat} {componentAllocated : Bool} :
    s.port.Moved (s.addBuffer type b nSizeBytes nativeHandle componentAllocated).1.port := by
  simp only [addBuffer]
  split
  · exact .refl _
  · split
    · exact .refl _
    · next port hport => exact .of_added (Port.Added.of_ok hport)

theorem release_port : s.release.port = s.port := by
  simp only [release]
  split <;> rfl

theorem freeBuffer_moved : s.port.Moved (s.freeBuffer b).1.port := by
  simp only [freeBuffer]
  split
  · exact .refl _
  · next port hport =>
    have hremoved : s.port.Moved port := .of_removed (Port.Removed.of_ok hport)
    split
    · exact hremoved.congr (congrArg Prod.snd freeFrame_outline)
    · exact hremoved

end OutputSide

namespace VideoDecoder
variable {d d' : VideoDecoder}

/-- Whether the decoder is acquired, whether the playpump is open, and whether the decoder is started. -/
def resources (d : VideoDecoder) : Bool × Bool × Bool := (d.out.hSimpleVideoDecoder, d.inp.hPlaypump, d.out.nexus.started)

/-- The input port has no decoder to release, and the output port never releases anything. -/
def portIdle : OmxDir → Unit → VideoDecoder → Prop
  | .input, _, d => d.out.hSimpleVideoDecoder = false
  | .output, _, _ => True

/-- What a step that is not a section of a command does to the ports; state and resources stay as they are. -/
structure PortsMoved (d d' : VideoDecoder) : Prop where
  inPort : d.inp.port.Moved d'.inp.port
  outPort : d.out.port.Moved d'.out.port
  currentState : d'.currentState = d.currentState
  resources : d'.resources = d.resources

namespace PortsMoved

theorem of_outline (hinp : d'.inp.outline = d.inp.outline) (hout : d'.outline = d.outline) : PortsMoved d d' := by
  simp only [outline, OutputSide.outline, OutputSide.decoderFlags, Prod.mk.injEq] at hout
  obtain ⟨⟨-, -, -, hstate⟩, ⟨hopen, hstarted, -, -⟩, hport⟩ := hout
  refine ⟨.of_outline (congrArg Prod.snd hinp), .of_outline hport, hstate, ?_⟩
  have hpump : d'.inp.hPlaypump = d.inp.hPlaypump := congrArg Prod.fst hinp
  simp only [VideoDecoder.resources, hopen, hstarted, hpump]

theorem of_inp {inp : InputSide} (hport : d.inp.port.Moved inp.port) (hpump : inp.hPlaypump = d.inp.hPlaypump) :
    PortsMoved d { d with inp } :=
  ⟨hport, .refl _, rfl, by simp only [VideoDecoder.resources, hpump]⟩

theorem of_polled (hinp : Polled d.inp d'.inp) (hout : d'.outline = d.outline) : PortsMoved d d' := by
  refine of_outline (hinp.keeps (P := fun i => i.outline = d.inp.outline) (fun _ _ _ hi => hi) (fun i ticks hi => ?_) rfl)
    hout
  rw [InputSide.returnInputBuffers_outline, hi]

theorem of_out {out : OutputSide} (hport : d.out.port.Moved out.port) (hflags : out.decoderFlags = d.out.decoderFlags) :
    PortsMoved d { d with out } := by
  simp only [OutputSide.decoderFlags, Prod.mk.injEq] at hflags
  exact ⟨.refl _, hport, rfl, by simp only [VideoDecoder.resources, hflags]⟩

theorem poll {d₁ : VideoDecoder} (h : PortsMoved d d₁) (hinp : Polled d₁.inp d'.inp) (hout : d'.outline = d₁.outline) :
    PortsMoved d d' := by
  have hpoll := of_polled hinp hout
  have hport : d'.inp.port.outline = d₁.inp.port.outline := by
    refine hinp.keeps (P := fun i => i.port.outline = d₁.inp.port.outline) (fun _ _ _ hi => hi) (fun i ticks hi => ?_) rfl
    exact (congrArg Prod.snd (InputSide.returnInputBuffers_outline ticks .timestamp)).trans hi
  exact ⟨h.inPort.congr hport, h.outPort.congr (congrArg (fun v => v.2.2) hout),
    hpoll.currentState.trans h.currentState, hpoll.resources.trans h.resources⟩

end PortsMoved

theorem step_portsMoved {a : VideoAction} (ha : a.isCommand = false) (hstep : d.step a = some d') : PortsMoved d d' := by
  cases moves_of_step hstep with
  | allocateInputBuffer b nSizeBytes componentAllocated =>
    exact .of_inp (InputSide.addInputPortBuffer_moved ..) (InputSide.addBuffer_hPlaypump ..)
  | allocateOutputBuffer b nSizeBytes nativeHandle componentAllocated =>
    exact .of_out OutputSide.addBuffer_moved (OutputSide.addBuffer_flags ..)
  | emptyThisBuffer submit b header hmem =>
    have hinp := InputSide.emptyThisBuffer_outline (s := d.inp.setBuffer b { d.inp.buffer b with header }) (b := b)
      d.codec submit
    exact .of_inp (.of_outline (congrArg Prod.snd hinp)) (congrArg Prod.fst hinp)
  | fillThisBuffer r b grallocSource pHandle => exact .of_polled (fillThisBuffer_inp _ _) (fillThisBuffer_outline _ _)
  | freeInputBuffer b => exact .of_inp InputSide.freeBuffer_moved InputSide.freeBuffer_hPlaypump
  | freeOutputBuffer r b =>
    have hfree : PortsMoved d { d with out := (d.out.freeBuffer b).1 } :=
      .of_out OutputSide.freeBuffer_moved OutputSide.freeBuffer_flags
    simp only [freeOutputBuffer]
    split
    · exact hfree.poll (returnDecodedFrames_inp rfl) (returnDecodedFrames_outline rfl)
    · exact hfree
  | playpumpEvent fifoPts =>
    have hinp := (InputSide.playpumpEvent_marked fifoPts d.inp).outline
    exact .of_inp (.of_outline (congrArg Prod.snd hinp)) (congrArg Prod.fst hinp)
  | inputBufferTimeout =>
    have hinp := InputSide.returnInputBuffers_outline (s := d.inp) 0 .timeout
    exact .of_inp (.of_outline (congrArg Prod.snd hinp)) (congrArg Prod.fst hinp)
  | outputFrameEvent r => exact .of_polled (pollDecodedFrames_inp rfl) (pollDecodedFrames_outline rfl)
  | notifyDisplay frameId => exact .of_out (.refl _) rfl
  | takeDisplay =>
    have htake : d.out.takeDisplayFrame.outline = d.out.outline := by
      simp only [OutputSide.takeDisplayFrame]
      split <;> rfl
    exact .of_out (.of_outline (congrArg Prod.snd htake)) (congrArg Prod.fst htake)
  | showDisplay r => exact .of_polled displayFrameEvent_inp displayFrameEvent_outline
  | consume n => exact .of_inp (.refl _) rfl
  | decode frames => exact .of_out (.refl _) rfl
  | _ => cases ha

theorem resources_releaseInput (p : Port) :
    (portDevice.returnPortBuffers .input (portDevice.setPortLoaded .input () (portDevice.setPort .input p d))).resources =
      d.resources ↔ d.out.hSimpleVideoDecoder = false := by
  have hpump : ∀ i : InputSide, i.returnPortBuffers.hPlaypump = i.hPlaypump :=
    fun i => congrArg Prod.fst (InputSide.returnPortBuffers_outline (s := i))
  simp only [portDevice, setInputPortState, if_true, resources, hpump]
  constructor
  · intro h
    by_contra hopen
    have hopen : d.out.hSimpleVideoDecoder = true := by simpa using hopen
    simp [OutputSide.release, OutputSide.invalidateDecodedFrames, hopen] at h
  · intro hclosed
    simp [OutputSide.release, OutputSide.invalidateDecodedFrames, hclosed]

theorem portDevice_laws : portDevice.Laws resources portIdle where
  port_setPort dir p d := by cases dir <;> rfl
  port_setPort_ne {dir dir'} p d hne := by
    cases dir <;> cases dir' <;> first | rfl | exact absurd rfl hne
  currentState_setPort dir p d := by cases dir <;> rfl
  resources_setPort dir p d := by cases dir <;> rfl
  outline_release dir dir' n d := by
    cases dir with
    | input =>
      cases dir' with
      | input =>
        refine (congrArg Prod.snd (InputSide.returnPortBuffers_outline (s := (d.setInputPortState .loaded {} {}).1.inp))).trans ?_
        simp only [setInputPortState, if_true]
        split <;> rfl
      | output => exact congrArg Port.outline (OutputSide.release_port (s := d.out))
    | output =>
      cases dir' with
      | input => rfl
      | output =>
        exact congrArg Prod.snd (OutputSide.returnPortBuffers_outline.trans (OutputSide.unload_outline (s := d.out)))
  currentState_release dir n d := by cases dir <;> rfl
  resources_release dir n p d := by
    cases dir with
    | input => exact resources_releaseInput p
    | output =>
      have hflags := OutputSide.decoderFlags_of_outline
        (OutputSide.returnPortBuffers_outline.trans (OutputSide.unload_outline (s := { d.out with port := p })))
      simp only [OutputSide.decoderFlags, Prod.mk.injEq] at hflags
      refine iff_of_true ?_ trivial
      exact Prod.ext hflags.1 (Prod.ext rfl hflags.2.1)
  step := by
    intro d d' a h
    obtain ⟨hcommand, hstep⟩ := Option.ite_none_left_eq_some.mp h
    have hmoved := step_portsMoved (by simpa using hcommand) hstep
    refine ⟨fun dir => ?_, hmoved.currentState, hmoved.resources⟩
    cases dir with
    | input => exact hmoved.inPort
    | output => exact hmoved.outPort

end VideoDecoder

/-! ### The audio decoder -/

namespace AudioDecoder
variable {d : AudioDecoder}

/-- The state of the component, and what the ports say of themselves. -/
def ports (d : AudioDecoder) : OmxState × (Bool × Bool × List BufferId) × Bool × Bool × List BufferId :=
  (d.currentState, d.inp.port.outline, d.outPort.outline)

theorem resumeDecoder_ports : d.resumeDecoder.ports = d.ports := by
  unfold resumeDecoder
  split <;> rfl

theorem stopDecoder_ports : d.stopDecoder.ports = d.ports := by
  unfold stopDecoder
  split
  · have hstop := congrArg Prod.snd (InputSide.returnPortBuffers_outline
      (s := { d.inp with playpumpStarted := false, descFifo := [], eosPending := false, ptsReceived := false
                         tracker := [] }.inputBufferCounterReset))
    exact Prod.ext rfl (Prod.ext hstop rfl)
  · rfl

theorem returnOutputBuffers_ports : d.returnOutputBuffers.ports = d.ports := by
  have hfold : ∀ (l : List BufferId) (p : Port), (l.foldl Port.bufferComplete p).outline = p.outline := by
    intro l
    induction l with
    | nil => exact fun p => rfl
    | cons b rest ih => exact fun p => ih (p.bufferComplete b)
  exact Prod.ext rfl (Prod.ext rfl (hfold _ _))

theorem addOutputBuffer_moved (b : BufferId) (componentAllocated : Bool) :
    d.outPort.Moved (d.addOutputBuffer b componentAllocated).outPort ∧
      (d.addOutputBuffer b componentAllocated).inp = d.inp ∧
      (d.addOutputBuffer b componentAllocated).currentState = d.currentState := by
  simp only [addOutputBuffer]
  split
  · exact ⟨.refl _, rfl, rfl⟩
  · next hnew =>
    refine ⟨?_, rfl, rfl⟩
    cases hport : d.outPort.addBuffer b componentAllocated hnew with
    | error err => exact .refl _
    | ok port => exact .of_added (Port.Added.of_ok hport)

end AudioDecoder

namespace AudioOutput
variable {s s' : AudioOutput} {a : AudioAnswers}

/-- The state of the decoder and whether the playpump is open. -/
def resources (s : AudioOutput) : AudioDecoderState × Bool := s.d.flags

/-- Without a playpump the input port has nothing to release; the output port suspends a started decoder, unless Nexus
    refuses. -/
def portIdle : OmxDir → AudioAnswers → AudioOutput → Prop
  | .input, _, s => s.d.inp.hPlaypump = false
  | .output, a, s => s.d.decoderState = .started → a.start.suspend = false

theorem resumeDecoder_ports : s.resumeDecoder.d.ports = s.d.ports := by
  unfold resumeDecoder
  split
  · exact AudioDecoder.resumeDecoder_ports
  · rfl

theorem stopDecoder_ports : s.stopDecoder.d.ports = s.d.ports := by
  unfold stopDecoder
  split
  · exact AudioDecoder.stopDecoder_ports
  · rfl

theorem clearOwned_d : ∀ (l : List QueuedBlock) (s : AudioOutput), (l.foldl clearOwned s).d = s.d
  | [], s => rfl
  | q :: rest, s => by
    have hclear : (s.clearOwned q).d = s.d := by
      unfold clearOwned
      split <;> rfl
    rw [List.foldl_cons, clearOwned_d rest, hclear]

theorem removeOutputBuffers_d : (s.removeOutputBuffers a).d = s.d := by
  simp only [removeOutputBuffers]
  split
  · rfl
  · exact clearOwned_d _ s

theorem setInputPortState_loaded :
    (s.setInputPortState .loaded a).1.d.ports = s.d.ports ∧
      ((s.setInputPortState .loaded a).1.resources = s.resources ↔ s.d.inp.hPlaypump = false) := by
  simp only [setInputPortState, if_true]
  split
  · next hopen =>
    refine ⟨stopDecoder_ports.trans resumeDecoder_ports, iff_of_false (fun h => ?_) (by simp [hopen])⟩
    have hpump := congrArg Prod.snd h
    simp [resources, AudioDecoder.flags, InputSide.closePlaypump, hopen] at hpump
  · next hclosed => exact ⟨rfl, iff_of_true rfl (by simpa using hclosed)⟩

theorem returnRemoved_d : (s.removeOutputBuffers a).returnPortBuffers.d.ports = s.d.ports ∧
    (s.removeOutputBuffers a).returnPortBuffers.resources = s.resources := by
  simp only [returnPortBuffers, resources, removeOutputBuffers_d]
  exact ⟨AudioDecoder.returnOutputBuffers_ports, rfl⟩

theorem setOutputPortState_loaded :
    (s.setOutputPortState .loaded a).1.d.ports = s.d.ports ∧
      ((s.setOutputPortState .loaded a).1.resources = s.resources ↔ portIdle .output a s) := by
  simp only [setOutputPortState, releaseOutput, portIdle]
  split
  · next hrefused => exact ⟨rfl, iff_of_true rfl fun _ => by simpa using hrefused.2⟩
  · next hsuspend =>
    obtain ⟨hports, hresources⟩ := returnRemoved_d (a := a)
      (s := if s.d.decoderState = .started then { s with d := { s.d with formatChangePending := false } }.suspendDecoder
        else { s with d := { s.d with formatChangePending := false } })
    refine ⟨hports.trans ?_, ?_⟩
    · split <;> rfl
    · rw [hresources]
      split
      · next hstarted =>
        refine iff_of_false (fun h => ?_) fun h => hsuspend ⟨hstarted, by simpa using h hstarted⟩
        have hstate := congrArg Prod.fst h
        simp only [suspendDecoder, resources, AudioDecoder.flags, hstarted] at hstate
        cases hstate
      · next hstopped => exact iff_of_true rfl fun h => absurd h hstopped

theorem step_portsMoved {action : AudioOutputAction} (ha : action.isCommand = false) (hstep : s.step action = some s') :
    s.d.inp.port.Moved s'.d.inp.port ∧ s.d.outPort.Moved s'.d.outPort ∧ s'.d.currentState = s.d.currentState ∧
      s'.resources = s.resources := by
  -- the steps that leave both ports alone but for their queues
  have hsame : ∀ {d' : AudioDecoder}, d'.outline = s.d.outline → s.d.inp.port.Moved d'.inp.port ∧
      s.d.outPort.Moved d'.outPort ∧ d'.currentState = s.d.currentState ∧ d'.flags = s.d.flags := by
    intro d' h
    have hflags := AudioDecoder.flags_of_outline h
    simp only [AudioDecoder.outline, InputSide.outline, Prod.mk.injEq] at h
    exact ⟨.of_outline h.2.1.2, .of_outline h.2.2, h.1.1, hflags⟩
  cases action with
  | input action =>
    obtain ⟨hinput, hstep⟩ := Option.ite_none_right_eq_some.mp hstep
    obtain ⟨d', hd, rfl⟩ := Option.map_eq_some_iff.mp hstep
    have hmoved := AudioDecoder.inputStep_moved hinput hd
    refine ⟨hmoved.inPort, ?_, hmoved.currentState, hmoved.flags⟩
    rw [hmoved.outPort]
    exact .refl _
  | allocateOutputBuffer b block =>
    obtain ⟨-, rfl⟩ := Option.ite_some_none_eq_some.mp hstep
    simp only [addOutputBuffer]
    split
    · obtain ⟨hport, hinp, hstate⟩ := AudioDecoder.addOutputBuffer_moved (d := s.d) b false
      refine ⟨?_, hport, hstate, AudioDecoder.addOutputBuffer_flags b false⟩
      rw [hinp]
      exact .refl _
    · exact hsame rfl
  | fillThisBuffer accepted b =>
    obtain ⟨-, rfl⟩ := Option.ite_some_none_eq_some.mp hstep
    exact hsame (AudioDecoder.fillThisBuffer_outline accepted b)
  | freeOutputBuffer b =>
    cases hstep
    refine ⟨.refl _, ?_, rfl, rfl⟩
    simp only [freeOutputBuffer]
    cases hport : s.d.outPort.removeBuffer b with
    | error err => exact .refl _
    | ok port => exact .of_removed (Port.Removed.of_ok hport)
  | outputFrameEvent r =>
    cases hstep
    exact hsame (congrArg Prod.fst pollDecodedFrames_outline)
  | _ => cases ha

theorem returnInput_ports : (portDevice.returnPortBuffers .input s).d.ports = s.d.ports ∧
    (portDevice.returnPortBuffers .input s).resources = s.resources := by
  have hreturn := InputSide.returnPortBuffers_outline (s := s.d.inp)
  exact ⟨Prod.ext rfl (Prod.ext (congrArg Prod.snd hreturn) rfl), Prod.ext rfl (congrArg Prod.fst hreturn)⟩

theorem release_ports (dir : OmxDir) (a : AudioAnswers) (s : AudioOutput) :
    (portDevice.returnPortBuffers dir (portDevice.setPortLoaded dir a s)).d.ports = s.d.ports ∧
      ((portDevice.returnPortBuffers dir (portDevice.setPortLoaded dir a s)).resources = s.resources ↔ portIdle dir a s) := by
  cases dir with
  | input =>
    obtain ⟨hports, hresources⟩ := setInputPortState_loaded (s := s) (a := a)
    obtain ⟨hports', hresources'⟩ := returnInput_ports (s := (s.setInputPortState .loaded a).1)
    refine ⟨hports'.trans hports, ?_⟩
    rw [show portDevice.setPortLoaded .input a s = (s.setInputPortState .loaded a).1 from rfl, hresources']
    exact hresources
  | output =>
    obtain ⟨hports, hresources⟩ := setOutputPortState_loaded (s := s) (a := a)
    exact ⟨AudioDecoder.returnOutputBuffers_ports.trans hports, hresources⟩

theorem portDevice_laws : portDevice.Laws resources portIdle where
  port_setPort dir p s := by cases dir <;> rfl
  port_setPort_ne {dir dir'} p s hne := by
    cases dir <;> cases dir' <;> first | rfl | exact absurd rfl hne
  currentState_setPort dir p s := by cases dir <;> rfl
  resources_setPort dir p s := by cases dir <;> rfl
  outline_release dir dir' a s := by
    have hports := congrArg Prod.snd (release_ports dir a s).1
    cases dir' with
    | input => exact congrArg Prod.fst hports
    | output => exact congrArg Prod.snd hports
  currentState_release dir a s := congrArg Prod.fst (release_ports dir a s).1
  resources_release dir a p s := by
    have hset : (portDevice.setPort dir p s).resources = s.resources ∧
        (portIdle dir a (portDevice.setPort dir p s) ↔ portIdle dir a s) := by
      cases dir <;> exact ⟨rfl, Iff.rfl⟩
    rw [← hset.1, ← hset.2]
    exact (release_ports dir a (portDevice.setPort dir p s)).2
  step := by
    intro s s' action h
    obtain ⟨hcommand, hstep⟩ := Option.ite_none_left_eq_some.mp h
    obtain ⟨hin, hout, hstate, hresources⟩ := step_portsMoved (by simpa using hcommand) hstep
    refine ⟨fun dir => ?_, hstate, hresources⟩
    cases dir with
    | input => exact hin
    | output => exact hout

end AudioOutput

/-! ### Both decoders -/

/-- For both decoders in any state, with anything happening in the waits: a command that times out restores the ports and
    leaves the component able to go on exactly if it is spared. -/
theorem failedDisable_restored_iff (command : DisableCommand) :
    (∀ (run : DisableRun Unit VideoAction) (d : VideoDecoder) (e : CommandEnd VideoDecoder),
      VideoDecoder.portDevice.execute run command d = some e → e.err = .timeout →
      (VideoDecoder.portDevice.Restored VideoDecoder.resources d e ↔
        VideoDecoder.portDevice.Spared VideoDecoder.portIdle run command d e)) ∧
    ∀ (run : DisableRun AudioAnswers AudioOutputAction) (s : AudioOutput) (e : CommandEnd AudioOutput),
      AudioOutput.portDevice.execute run command s = some e → e.err = .timeout →
      (AudioOutput.portDevice.Restored AudioOutput.resources s e ↔
        AudioOutput.portDevice.Spared AudioOutput.portIdle run command s e) :=
  ⟨fun _ _ _ h hto => PortDevice.restored_iff VideoDecoder.portDevice_laws h hto,
    fun _ _ _ h hto => PortDevice.restored_iff AudioOutput.portDevice_laws h hto⟩

/-- The client does nothing, and the first wait times out. -/
def quietWait {α : Type} : List (WaitCall α) := [{ meanwhile := [], timeout := true }]

/-- A port that had lost a buffer before the command is after the timeout as it was. -/
theorem failedDisable_restored_unpopulated :
    (∃ d e, Reaches VideoDecoder.step (fun _ _ => true)
        (VideoDecoder.init .avc .standard false smallInput { smallOutput with nBufferCountActual := 2 }) d ∧
      d.currentState = .idle ∧ e.err = .timeout ∧ VideoDecoder.portDevice.Restored VideoDecoder.resources d e) ∧
    ∃ s e, Reaches AudioOutput.step (fun _ _ => true)
        (AudioOutput.init .mp3 false smallInput { smallOutput with nBufferCountActual := 2 }) s ∧
      s.d.currentState = .idle ∧ e.err = .timeout ∧ AudioOutput.portDevice.Restored AudioOutput.resources s e := by
  constructor
  · obtain ⟨d, hd, hp⟩ := Reaches.exists_of_run VideoDecoder.step (fun _ _ => true)
      (VideoDecoder.init .avc .standard false smallInput { smallOutput with nBufferCountActual := 2 })
      [.stateSet .idle {} {} {}, .allocateInputBuffer 10 64 false, .allocateInputBuffer 11 64 false,
        .allocateOutputBuffer 20 64 0 false, .allocateOutputBuffer 21 64 0 false, .resume false {} {},
        .freeOutputBuffer {} 21]
      (fun d => d.currentState = .idle && !d.out.port.isPopulated &&
        (VideoDecoder.portDevice.execute { nexus := fun _ => (), waits := fun _ => quietWait }
          (.portDisable (.port .output)) d).any fun e => e.err = .timeout && e.timedOut = some .output)
      (by decide +kernel)
    simp only [Bool.and_eq_true, decide_eq_true_eq, Option.any_eq_true, Bool.not_eq_true'] at hp
    obtain ⟨⟨hidle, hpopulated⟩, e, he, hto, hport⟩ := hp
    refine ⟨d, e, hd, hidle, hto, ((failedDisable_restored_iff _).1 _ d e he hto).mpr ⟨hport, fun h => ?_, trivial⟩⟩
    rw [show VideoDecoder.portDevice.port _ d = d.out.port from rfl, hpopulated] at h
    cases h
  · obtain ⟨s, hs, hp⟩ := Reaches.exists_of_run AudioOutput.step (fun _ _ => true)
      (AudioOutput.init .mp3 false smallInput { smallOutput with nBufferCountActual := 2 })
      [.stateSet .idle {} {}, .input (.allocateInputBuffer 10 64 false), .input (.allocateInputBuffer 11 64 false),
        .allocateOutputBuffer 20 7, .allocateOutputBuffer 21 8, .resumeStateSet false {} {}, .freeOutputBuffer 21]
      (fun s => s.d.currentState = .idle && !s.d.outPort.isPopulated && s.d.decoderState = .stopped &&
        (AudioOutput.portDevice.execute { nexus := fun _ => {}, waits := fun _ => quietWait }
          (.portDisable (.port .output)) s).any fun e => e.err = .timeout && e.timedOut = some .output)
      (by decide +kernel)
    simp only [Bool.and_eq_true, decide_eq_true_eq, Option.any_eq_true, Bool.not_eq_true'] at hp
    obtain ⟨⟨⟨hidle, hpopulated⟩, hstopped⟩, e, he, hto, hport⟩ := hp
    refine ⟨s, e, hs, hidle, hto, ((failedDisable_restored_iff _).2 _ s e he hto).mpr
      ⟨hport, fun h => ?_, fun hstarted => ?_⟩⟩
    · rw [show AudioOutput.portDevice.port _ s = s.d.outPort from rfl, hpopulated] at h
      cases h
    · rw [hstopped] at hstarted
      cases hstarted

/-- In Idle state the output port has its buffer and is populated, the client does nothing, and the command times out: the
    port still has its buffer and is not populated. -/
theorem failedDisable_not_restored :
    ¬ ∀ (d : VideoDecoder) (run : DisableRun Unit VideoAction) (command : DisableCommand) (e : CommandEnd VideoDecoder),
      Reaches VideoDecoder.step (fun _ _ => true) (VideoDecoder.init .avc .standard false smallInput smallOutput) d →
      VideoDecoder.portDevice.execute run command d = some e → e.err = .timeout →
      VideoDecoder.portDevice.Restored VideoDecoder.resources d e := by
  intro hclaim
  obtain ⟨d, hd, hp⟩ := Reaches.exists_of_run VideoDecoder.step (fun _ _ => true)
    (VideoDecoder.init .avc .standard false smallInput smallOutput)
    [.stateSet .idle {} {} {}, .allocateInputBuffer 10 64 false, .allocateInputBuffer 11 64 false,
      .allocateOutputBuffer 20 64 0 false, .resume false {} {}]
    (fun d => d.out.port.isPopulated && d.out.port.bufferList = [20] &&
      (VideoDecoder.portDevice.execute { nexus := fun _ => (), waits := fun _ => quietWait } (.portDisable (.port .output)) d).any
        fun e => e.err = .timeout && !e.state.out.port.isPopulated &&
          e.seen.all fun t => t.out.port.bufferList = [20]) (by decide +kernel)
  simp only [Bool.and_eq_true, decide_eq_true_eq, Option.any_eq_true, Bool.not_eq_true', List.all_eq_true] at hp
  obtain ⟨⟨hpopulated, hlist⟩, e, he, ⟨hto, hlost⟩, hseen⟩ := hp
  have hsame := (hclaim d _ _ e hd he hto).populated .output fun t ht => (hseen t ht).trans hlist.symm
  rw [show VideoDecoder.portDevice.port .output e.state = e.state.out.port from rfl,
    show VideoDecoder.portDevice.port .output d = d.out.port from rfl, hlost, hpopulated] at hsame
  cases hsame

end BcmPlatform.Bomx
