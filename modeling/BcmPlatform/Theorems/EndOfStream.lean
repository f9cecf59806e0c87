import Mathlib.Data.List.Perm.Subperm
import BcmPlatform.Theorems.StreamStates

/-! The end of the stream over whole runs of the video decoder, with every decode order and every interleaving with
    flushes, state changes and changes of the output format. -/

namespace BcmPlatform.Bomx
open Lib OutputSide VideoDecoder

/-- What is promised about the end of the stream: since the output was last flushed or stopped at most one buffer had
    the flag, none with data came after it, and no tracked frame was later than it; a frame that is pushed back keeps
    the flag and what is pending; and the end of the stream never came while it was not pending. -/
structure EosOnceAndLast (x : StreamRun) : Prop where
  once : x.filled.Pairwise fun y z => y.eos = true → z.eos = false ∧ z.data = false
  last : ∀ y ∈ x.filled, y.eos = true → y.later = false
  pushBack : ∀ r f b d, x.decoder.examine f b = some d → d.pushesBack f = true →
    (x.decoder.deliverRound r f b).1.inp.eosPending = x.decoder.inp.eosPending ∧
    (x.decoder.deliverRound r f b).1.out.eosDelivered = x.decoder.out.eosDelivered ∧
    (x.decoder.out.eosReceived = true ∨ (x.decoder.inp.tracker.remove f.frameStatus.pts).2.2.eos = true →
      (x.decoder.deliverRound r f b).1.out.eosReceived = true ∨
        ∃ n ∈ (x.decoder.deliverRound r f b).1.inp.tracker, n.flags.eos = true)
  pending : .eosPending ∉ x.decoder.out.asserts

namespace VideoDecoder

/-- The end of the stream is still to come, with these packets in the hardware. -/
def eosOwed (packets : List Packet) (d : VideoDecoder) : Bool :=
  d.inp.tracker.any (·.flags.eos) || d.out.eosReceived || .eos ∈ d.out.undelivered.map (·.packet) ++ packets

/-- Every tracked frame is still to be delivered, with these packets in the hardware. -/
def tracksUndelivered (packets : List Packet) (d : VideoDecoder) : Bool :=
  (d.inp.tracker.map (·.pts)).isSubperm (framePts (d.out.undelivered.map (·.packet) ++ packets))

/-- A playpump that fails drops what is pending. -/
def stateSetSafe (newState : OmxState) (n : StartResult) (d : VideoDecoder) : Bool :=
  !d.stateChangeAllowed newState ||
    match newState with
    | .idle =>
      d.currentState = .loaded || !d.out.port.isPopulated || (d.out.nexus.started && d.inp.port.isPopulated) ||
        d.queueUnflagged
    | .executing =>
      d.out.nexus.started || !(d.out.hSimpleVideoDecoder || n.acquired) ||
        !(d.inp.port.isPopulated && d.inp.port.isEnabled) || !n.decoder || n.playpump || !d.inp.eosPending
    | _ => true

end VideoDecoder

namespace StreamRun

/-- What the client does: it submits frames up to the one with the end-of-stream flag, with time stamps below the wrap,
    and fills no metadata buffer with a frame that waits for delivery. -/
def admissible (x : StreamRun) : StreamAction → Bool
  | .decoder (.emptyThisBuffer _ b header) =>
    !(InputSide.headerAccepted header && !header.nFlags.codecConfig) ||
      (!x.decoder.inp.eosPending && !x.decoder.out.eosDelivered &&
        (!(x.decoder.inp.setBuffer b { x.decoder.inp.buffer b with header }).tracksFrame x.decoder.codec b ||
          belowWrap header.nTimeStamp))
  | .decoder a => x.decoder.handleDelivered a
  | _ => true

/-- The steps after which the component still knows what it owes: a tracked frame is taken, and with the flag so is the
    end-of-stream packet; an output flush leaves no packet behind that is not pending; an input flush alone finds nothing
    owed or tracked that it drops; the playpump starts while the end of the stream is pending; and outside flushes and
    stops no buffer comes back with the flag. -/
def eosSafe (x : StreamRun) : StreamAction → Bool
  | .decoder (.emptyThisBuffer submit b header) =>
    let s := x.decoder.inp.setBuffer b { x.decoder.inp.buffer b with header }
    !s.tracksFrame x.decoder.codec b ||
      (s.takesFrame x.decoder.codec submit.frame b && (!header.nFlags.eos || s.takesEos x.decoder.codec submit b))
  | .decoder (.stateSet newState n _ _) => x.decoder.stateSetSafe newState n
  | .decoder (.resume ..) => !x.decoder.resumeReturns || x.decoder.queueUnflagged
  | .flush input output stopped _ passed _ =>
    let kept := x.decoder.flushPackets input output stopped passed x.packets
    if output && x.decoder.flushesOutput then
      .eos ∉ kept || (x.decoder.inp.eosPending && !(input && x.decoder.flushesInput))
    else
      !(input && x.decoder.flushesInput) || x.decoder.out.eosDelivered ||
        (!x.decoder.eosOwed kept && x.decoder.tracksUndelivered kept)
  | .disableOutput _ => x.decoder.out.port.isDisabled || x.decoder.currentState = .loaded || x.decoder.queueUnflagged
  | .resumeOutput .. =>
    x.outputWait ≠ some .populate || !x.decoder.out.port.isPopulated ||
      (x.decoder.currentState ≠ .loaded && x.decoder.currentState ≠ .idle) || x.decoder.queueUnflagged
  | _ => true

/-- What holds in every state of a run. -/
structure StreamInv (mode : OutputMode) (x : StreamRun) : Prop where
  kept : StreamKept mode x.packets x.filled x.decoder
  wait : x.decoder.WaitClosed

section
variable {mode : OutputMode} {x x' : StreamRun} {d : VideoDecoder} {packets : List Packet} {new : List FilledBuffer}

theorem waitClosed_of_flags (h : x.decoder.WaitClosed) (hflags : d.flags = x.decoder.flags) : d.WaitClosed := by
  have hwait : d.portWait = x.decoder.portWait := congrArg (fun v => v.2.2.1) hflags
  rw [WaitClosed] at h ⊢
  rw [hwait, hSimpleVideoDecoder_of_flags hflags]
  exact h

namespace StreamInv

theorem settles (h : Settles mode packets x.filled new x.decoder d) (hwait : d.WaitClosed) :
    StreamInv mode (x.next d packets new) := ⟨h, hwait⟩

theorem of_flags (h : StreamInv mode x) (hkept : StreamKept mode packets (x.filled ++ new) d)
    (hflags : d.flags = x.decoder.flags) : StreamInv mode (x.next d packets new) :=
  settles (.running hkept (.of_flags hflags)) (waitClosed_of_flags h.wait hflags)

theorem of_flags_nil (h : StreamInv mode x) (hkept : StreamKept mode packets x.filled d)
    (hflags : d.flags = x.decoder.flags) : StreamInv mode (x.next d packets []) :=
  h.of_flags (by rw [List.append_nil]; exact hkept) hflags

theorem stateSetSafe_spec {newState : OmxState} {n : StartResult} (h : d.stateSetSafe newState n = true) :
    d.StateSetOk newState n := by
  intro hallowed
  refine ⟨fun hexec hstopped hacquired hin hdecoder hplaypump => ?_, fun hidle hloaded hpopulated hrunning => ?_⟩
  · subst hexec
    simpa [VideoDecoder.stateSetSafe, hallowed, hstopped, hacquired, hin, hdecoder, hplaypump] using h
  · subst hidle
    simpa [VideoDecoder.stateSetSafe, hallowed, hloaded, hpopulated, hrunning] using h

theorem of_inp (h : StreamInv mode x) {inp : InputSide} (hend : inp.endState = x.decoder.inp.endState) :
    StreamInv mode (x.next { x.decoder with inp } x.packets []) :=
  h.of_flags_nil (h.kept.setInp hend rfl rfl) rfl

theorem of_out (h : StreamInv mode x) {out : OutputSide} (hqueue : FrameQueue mode out) (hstill : Still x.decoder.out out)
    (hflags : out.decoderFlags = x.decoder.out.decoderFlags) :
    StreamInv mode (x.next { x.decoder with out } x.packets []) :=
  h.of_flags_nil (h.kept.setOut hqueue hstill (congrArg (fun v => v.2.2.1) hflags)) (flags_setOut hflags rfl)

theorem emptyThisBuffer (h : StreamInv mode x) {submit : InputSide.SubmitResult} {b : BufferId} {header : BufferHeader}
    (hadm : x.admissible (.decoder (.emptyThisBuffer submit b header)) = true)
    (hsafe : x.eosSafe (.decoder (.emptyThisBuffer submit b header)) = true)
    (hpackets : x.stepPackets (.emptyThisBuffer submit b header) = some packets) :
    StreamInv mode (x.next (x.decoder.emptyThisBuffer submit b header).1 packets []) := by
  cases hpackets
  have hdata : (x.decoder.inp.setBuffer b { x.decoder.inp.buffer b with header }).tracksFrame x.decoder.codec b = true →
      (InputSide.headerAccepted header && !header.nFlags.codecConfig) = true := by
    intro htracks
    simp only [InputSide.tracksFrame, InputSide.setBuffer, Function.update_self, Bool.and_eq_true] at htracks
    rw [Bool.and_eq_true]
    exact htracks.1.1
  refine h.of_flags_nil (h.kept.emptyThisBuffer submit header rfl (fun hdata => ?_) (fun htracks => ?_)
    fun htracks => ?_) rfl
  · simp only [admissible, hdata, Bool.not_true, Bool.false_or, Bool.and_eq_true, Bool.not_eq_true'] at hadm
    exact hadm.1
  · simp only [admissible, hdata htracks, htracks, Bool.not_true, Bool.false_or, Bool.and_eq_true] at hadm
    exact hadm.2
  · simp only [eosSafe, htracks, Bool.not_true, Bool.false_or, Bool.and_eq_true, Bool.or_eq_true,
      Bool.not_eq_true'] at hsafe
    refine ⟨hsafe.1, fun heos => hsafe.2.resolve_left ?_⟩
    rw [heos]
    exact Bool.noConfusion

theorem takeDisplay (h : StreamInv mode x) :
    StreamInv mode (x.next { x.decoder with out := x.decoder.out.takeDisplayFrame } x.packets []) := by
  obtain ⟨taken, available, heq⟩ : ∃ taken available, x.decoder.out.takeDisplayFrame =
      { x.decoder.out with displayTaken := taken, displayFrameAvailable := available } := by
    simp only [OutputSide.takeDisplayFrame]
    split
    · exact ⟨_, _, rfl⟩
    · exact ⟨x.decoder.out.displayTaken, x.decoder.out.displayFrameAvailable, rfl⟩
  rw [heq]
  exact h.of_out (h.kept.eos.queue.congr rfl rfl rfl rfl rfl (fun _ => rfl) (fun _ => rfl) id) ⟨rfl, rfl, rfl, rfl, id⟩ rfl

theorem decoderStep (h : StreamInv mode x) {a : VideoAction} (hadm : x.admissible (.decoder a) = true)
    (hsafe : x.eosSafe (.decoder a) = true) (hstep : x.step (.decoder a) = some x') : StreamInv mode x' := by
  simp only [StreamRun.step] at hstep
  split at hstep
  · next htakes =>
    obtain ⟨d, hd, hstep⟩ := Option.bind_eq_some_iff.mp hstep
    obtain ⟨packets, hpackets, rfl⟩ := Option.map_eq_some_iff.mp hstep
    cases moves_of_step hd with
    | allocateInputBuffer b nSizeBytes componentAllocated =>
      cases hpackets
      exact h.of_inp (InputSide.addBuffer_endState _ _)
    | allocateOutputBuffer b nSizeBytes nativeHandle componentAllocated =>
      cases hpackets
      refine h.of_out ?_ (.addBuffer _ _ _ _) (OutputSide.addBuffer_flags _ _ _ _)
      rw [h.kept.mode]
      exact h.kept.eos.queue.addBuffer _ _ _
    | emptyThisBuffer submit b header => exact h.emptyThisBuffer hadm hsafe hpackets
    | fillThisBuffer r b grallocSource pHandle =>
      cases hpackets
      have hok := handleOk_of_delivered (r := r) hadm
      rw [h.kept.mode] at hok
      exact h.of_flags (h.kept.fillThisBuffer grallocSource pHandle hok) (fillThisBuffer_flags _ _)
    | freeInputBuffer b =>
      cases hpackets
      exact h.of_inp InputSide.freeBuffer_endState
    | freeOutputBuffer r b =>
      cases hpackets
      exact h.of_flags h.kept.freeOutputBuffer freeOutputBuffer_flags
    | playpumpEvent fifoPts =>
      cases hpackets
      exact h.of_inp (InputSide.playpumpEvent_endState _)
    | inputBufferTimeout =>
      cases hpackets
      exact h.of_inp (InputSide.returnInputBuffers_endState _ _)
    | outputFrameEvent r =>
      cases hpackets
      exact h.of_flags h.kept.poll (pollDecodedFrames_flags rfl)
    | notifyDisplay frameId =>
      cases hpackets
      have hqueue : FrameQueue mode (x.decoder.out.binderNotifyDisplay frameId) :=
        h.kept.eos.queue.congr rfl rfl rfl rfl rfl (fun _ => rfl) (fun _ => rfl) id
      exact h.of_out hqueue ⟨rfl, rfl, rfl, rfl, id⟩ rfl
    | takeDisplay =>
      cases hpackets
      exact h.takeDisplay
    | showDisplay r =>
      cases hpackets
      exact h.of_flags h.kept.displayFrameEvent displayFrameEvent_flags
    | flushInput stopped fifoPts => cases htakes
    | flushOutput r => cases htakes
    | stateSet newState n r r' hwait =>
      cases hpackets
      simp only [takesStep, Bool.and_eq_true] at htakes
      obtain ⟨hset, hclosed⟩ := h.kept.commandStateSet newState n r r' htakes.1.2 htakes.2 hwait
        (stateSetSafe_spec hsafe)
      exact settles hset hclosed
    | resume timeout n r =>
      cases hpackets
      obtain ⟨hset, hclosed⟩ := h.kept.resume (r := r) timeout n h.wait fun hreturns => by
        simpa [eosSafe, hreturns] using hsafe
      exact settles hset hclosed
    | consume n =>
      cases hpackets
      exact h.of_inp rfl
    | decode frames hstarted hserials => exact h.of_flags_nil (h.kept.decode hstarted hserials hpackets) rfl
  · cases hstep

/-! ### Flushes -/

theorem flushPackets_sublist (input output stopped : Bool) (passed : Nat) (packets : List Packet) (d : VideoDecoder) :
    (d.flushPackets input output stopped passed packets).Sublist packets := by
  have htake : (if input && d.flushesInput && (d.inp.playpumpStarted || stopped) then packets.take passed
      else packets).Sublist packets := by
    split
    · exact List.take_sublist _ _
    · exact .refl _
  simp only [flushPackets]
  split
  · exact (List.drop_sublist _ _).trans htake
  · exact htake

theorem not_owed_of_eosOwed (h : d.eosOwed packets = false) : ¬ (d.streamEnd packets).Owed := by
  simp only [eosOwed, Bool.or_eq_false_iff, List.any_eq_false, decide_eq_false_iff_not] at h
  obtain ⟨⟨hnone, hreceived⟩, hmem⟩ := h
  rintro (⟨n, hn, heos⟩ | hrec | heos)
  · exact hnone n hn heos
  · rw [streamEnd, hreceived] at hrec
    cases hrec
  · exact hmem heos

theorem flushedInput (h : StreamKept mode x.packets x.filled x.decoder) (input stopped : Bool) (fifoPts : Option Nat)
    {kept : List Packet} (hsub : kept.Sublist x.packets)
    (hclosed : (input && x.decoder.flushesInput) = false → kept = x.packets)
    (hsafe : (!(input && x.decoder.flushesInput) || x.decoder.out.eosDelivered ||
      (!x.decoder.eosOwed kept && x.decoder.tracksUndelivered kept)) = true) :
    StreamKept mode kept x.filled (if input then x.decoder.flushInput stopped fifoPts else x.decoder) := by
  cases input with
  | false =>
    rw [hclosed rfl]
    exact h
  | true =>
    rw [Bool.true_and] at hclosed hsafe
    refine h.flushInput stopped fifoPts hsub hclosed fun hflushes => ?_
    rw [hflushes, Bool.not_true, Bool.false_or, Bool.or_eq_true, Bool.and_eq_true, Bool.not_eq_true'] at hsafe
    exact hsafe.imp id fun hlost => ⟨not_owed_of_eosOwed hlost.1, List.isSubperm_iff.mp hlost.2⟩

theorem flush (h : StreamInv mode x) (input output stopped : Bool) (fifoPts : Option Nat) (passed : Nat) (r : PollResult)
    (hsafe : x.eosSafe (.flush input output stopped fifoPts passed r) = true) :
    StreamInv mode { x with
      decoder := x.decoder.commandFlush input output stopped fifoPts r
      packets := x.decoder.flushPackets input output stopped passed x.packets
      filled := if output then [] else x.filled } := by
  obtain ⟨first, hfirst⟩ : ∃ first, first = if input then x.decoder.flushInput stopped fifoPts else x.decoder :=
    ⟨_, rfl⟩
  have hflags : first.flags = x.decoder.flags := by
    rw [hfirst]
    split <;> rfl
  have hsame : first.out = x.decoder.out ∧ first.outputMode = x.decoder.outputMode := by
    rw [hfirst]
    split <;> exact ⟨rfl, rfl⟩
  have hflush : x.decoder.commandFlush input output stopped fifoPts r = if output then first.flushOutput r else first := by
    rw [hfirst]
    rfl
  have hsub := flushPackets_sublist input output stopped passed x.packets x.decoder
  have hout : first.flushesOutput = x.decoder.flushesOutput := by
    simp only [flushesOutput, hsame.1]
  have hnotFlushing : first.out.outputFlushing = false := by
    rw [hsame.1]
    exact h.kept.notFlushing
  rw [hflush]
  simp only [eosSafe] at hsafe
  refine ⟨?_, ?_⟩
  · cases hboth : output && x.decoder.flushesOutput with
    | true =>
      -- an end-of-stream packet that is left is still pending after a flush of the input
      rw [Bool.and_eq_true] at hboth
      rw [if_pos (by rw [hboth.1, hboth.2]; rfl), Bool.or_eq_true, Bool.and_eq_true, decide_eq_true_eq] at hsafe
      obtain ⟨rfl, hflushes⟩ := hboth
      refine h.kept.flushOutput hsame.1 hsame.2 (hout.trans hflushes) hsub fun hleft => ?_
      obtain ⟨hpending, hinput⟩ := hsafe.resolve_left fun hnone => hnone hleft
      have hend : first.inp.endState = x.decoder.inp.endState := by
        rw [hfirst]
        cases input with
        | false => rfl
        | true =>
          have hcommand := InputSide.commandFlush_endState (s := x.decoder.inp) stopped fifoPts
          rw [← flushesInput, if_neg (by simpa using hinput)] at hcommand
          exact hcommand
      exact (congrArg Prod.snd hend).trans hpending
    | false =>
      rw [if_neg (by rw [hboth]; exact Bool.false_ne_true)] at hsafe
      have hkept := flushedInput h.kept input stopped fifoPts hsub (fun hclosed => ?_) hsafe
      · rw [← hfirst] at hkept
        cases output with
        | false => exact hkept
        | true => exact hkept.flushClosed (hout.trans hboth)
      · simp only [flushPackets, hboth, hclosed, Bool.false_and, Bool.false_eq_true, if_false]
  · cases output with
    | false => exact waitClosed_of_flags h.wait hflags
    | true => exact waitClosed_of_flags h.wait ((flushOutput_flags hnotFlushing).trans hflags)

/-! ### The output port -/

theorem set (h : StreamInv mode x) {filled : List FilledBuffer} (hkept : StreamKept mode x.packets filled d)
    (hwait : d.portWait = x.decoder.portWait) (hopen : d.out.hSimpleVideoDecoder = x.decoder.out.hSimpleVideoDecoder)
    (outputWait : Option OutputWait) :
    StreamInv mode { x with decoder := d, outputWait, filled } := by
  refine ⟨hkept, ?_⟩
  have hclosed := h.wait
  rw [WaitClosed] at hclosed ⊢
  rw [hwait, hopen]
  exact hclosed

theorem resumeOutput (h : StreamInv mode x) (timeout : Bool) (r : PollResult)
    (hsafe : x.eosSafe (.resumeOutput timeout r) = true) (hstep : x.step (.resumeOutput timeout r) = some x') :
    StreamInv mode x' := by
  simp only [StreamRun.step] at hstep
  cases hwait : x.outputWait with
  | none =>
    rw [hwait] at hstep
    cases hstep
  | some w =>
    rw [hwait] at hstep
    cases w with
    | depopulate =>
      dsimp only at hstep
      split at hstep
      · cases hstep
        exact ⟨h.kept, h.wait⟩
      · split at hstep
        · cases hstep
          exact h.set (h.kept.reenabled true) rfl rfl none
        · cases hstep
          exact h
    | populate =>
      dsimp only at hstep
      split at hstep
      · next hpopulated =>
        cases hstep
        have hflags := setOutputPortState_flags (d := x.decoder) (r := r) x.decoder.currentState
        refine h.set (h.kept.setOutputPortState fun hstate => ?_) (congrArg (fun v => v.2.2.1) hflags)
          (hSimpleVideoDecoder_of_flags hflags) none
        rcases hstate with hstate | hstate <;> simpa [eosSafe, hwait, hpopulated, hstate] using hsafe
      · split at hstep
        · cases hstep
          exact h.set h.kept.disabled rfl rfl none
        · cases hstep
          exact h

theorem step (h : StreamInv mode x) {a : StreamAction} (hadm : x.admissible a = true) (hsafe : x.eosSafe a = true)
    (hstep : x.step a = some x') : StreamInv mode x' := by
  cases a with
  | decoder a => exact h.decoderStep hadm hsafe hstep
  | writeFlags b flags =>
    simp only [StreamRun.step] at hstep
    split at hstep
    · cases hstep
    · cases hstep
      have hquiet := Quiet.setHeader b { (x.decoder.out.buffer b).header with nFlags := flags }
        x.decoder.out.eosDelivered x.decoder.out.eosReceived x.decoder.out
      exact h.set (h.kept.setOut (hquiet.frameQueue h.kept.eos.queue) ⟨rfl, rfl, rfl, rfl, id⟩ rfl) rfl rfl x.outputWait
  | flush input output stopped fifoPts passed r =>
    simp only [StreamRun.step] at hstep
    split at hstep
    · cases hstep
      exact h.flush input output stopped fifoPts passed r hsafe
    · cases hstep
  | disableOutput r =>
    simp only [StreamRun.step] at hstep
    split at hstep
    · split at hstep
      · cases hstep
        exact h
      · next henabled =>
        split at hstep
        · cases hstep
          exact h.set h.kept.disabled rfl rfl x.outputWait
        · next hloaded =>
          cases hstep
          have hqueue : x.decoder.queueUnflagged = true := by simpa [eosSafe, henabled, hloaded] using hsafe
          exact h.set (h.kept.disableOutput hqueue) rfl (disableOutput_decoder x.decoder).2 _
    · cases hstep
  | enableOutput =>
    simp only [StreamRun.step] at hstep
    split at hstep
    · split at hstep
      · cases hstep
        exact h
      · cases hstep
        exact h.set (h.kept.reenabled true) rfl rfl _
    · cases hstep
  | resumeOutput timeout r => exact h.resumeOutput timeout r hsafe hstep

theorem init (codec : VideoCodec) (outputMode : OutputMode) (adaptivePlaybackEnabled : Bool)
    (inputDef outputDef : PortDefinition) :
    StreamInv outputMode (StreamRun.init codec outputMode adaptivePlaybackEnabled inputDef outputDef) := by
  refine ⟨⟨⟨init_frameQueue .., StreamEnd.Known.empty, FilledOk.nil _, fun _ => ⟨rfl, rfl⟩, List.not_mem_nil⟩, rfl, rfl⟩,
    trivial⟩

/-! ### The promise -/

theorem pushBack_kept {d d' : VideoDecoder} {r : PollResult} {f : FrameBuffer} {b : BufferId}
    (hexamine : d.examine f b = some d') (hpush : d'.pushesBack f = true) :
    (d.deliverRound r f b).1.inp.eosPending = d.inp.eosPending ∧
    (d.deliverRound r f b).1.out.eosDelivered = d.out.eosDelivered ∧
    (d.out.eosReceived = true ∨ (d.inp.tracker.remove f.frameStatus.pts).2.2.eos = true →
      (d.deliverRound r f b).1.out.eosReceived = true ∨
        ∃ n ∈ (d.deliverRound r f b).1.inp.tracker, n.flags.eos = true) := by
  rcases deliverRound_cases (r := r) hexamine with ⟨-, -, hround⟩ | ⟨hnot, -, -⟩
  · rcases examine_cases [] d f b with ⟨hnone, -, -⟩ | ⟨d₁, hsome, he⟩
    · rw [hexamine] at hnone
      cases hnone
    · rw [hexamine, Option.some.injEq] at hsome
      subst hsome
      have hlast : f.frameStatus.lastPicture = false := by
        simp only [pushesBack, Bool.and_eq_true, Bool.not_eq_true'] at hpush
        exact hpush.1.1
      have hend := streamEnd_pushedBack he hlast
      rw [hround]
      refine ⟨congrArg StreamEnd.pending hend, congrArg StreamEnd.delivered hend, fun hflag => ?_⟩
      have hreceived : (pushedBack f b d d').out.eosReceived = ((d.streamEnd []).pushBack f.frameStatus).received :=
        congrArg StreamEnd.received hend
      have htracker : (pushedBack f b d d').inp.tracker = ((d.streamEnd []).pushBack f.frameStatus).tracker :=
        congrArg StreamEnd.tracker hend
      rw [hreceived, htracker]
      have hmark : ((d.streamEnd []).mark f.frameStatus).1 = true ∨ ((d.streamEnd []).mark f.frameStatus).2 = true :=
        endMark_lossless hflag.symm
      rcases hmark with hmark | hmark
      · exact .inl hmark
      · exact .inr ⟨_, BufferTracker.mem_insert.mpr (.inl rfl), hmark⟩
  · rw [hnot] at hpush
    cases hpush

theorem eosOnceAndLast (h : StreamInv mode x) : EosOnceAndLast x where
  once := h.kept.eos.filled.once
  last := h.kept.eos.filled.last
  pushBack _ _ _ _ hexamine hpush := pushBack_kept hexamine hpush
  pending := h.kept.eos.asserts

end StreamInv
end

/-- A frame of four bytes at 40 ms with the end-of-stream flag. -/
def lastFrame : BufferHeader :=
  { pBuffer := [1, 2, 3, 4], nAllocLen := 65536, nFilledLen := 4, nTimeStamp := 40000, nFlags := { eos := true } }

/-- The last frame is submitted. -/
def lastFrameSubmitted : List StreamAction := outputWaits.map .decoder ++ [.decoder (.emptyThisBuffer {} 10 lastFrame)]

end StreamRun
end BcmPlatform.Bomx
