import BcmPlatform.Bomx.EndOfStream
import BcmPlatform.Theorems.ConfigState
import BcmPlatform.Theorems.EosDelivery

/-! What each call, each state change and each flush does to the end of the stream. On the input side only a frame that is
    submitted, the end-of-stream packet, a flush and a stop touch the tracker and the pending end of the stream. -/

namespace BcmPlatform.Bomx
namespace InputSide
variable {s s' : InputSide} {b : BufferId} {codec : VideoCodec}

/-- The tracker, and whether the end of the stream is pending. -/
def endState (s : InputSide) : BufferTracker × Bool := (s.tracker, s.eosPending)

theorem alogAssert_endState (cond : Bool) (a : InputAssert) : (s.alogAssert cond a).endState = s.endState := by
  unfold alogAssert
  split <;> rfl

theorem returnPortBuffers_endState : s.returnPortBuffers.endState = s.endState := by
  have he := returnPortBuffers_emptied s
  rw [endState, endState, he.rest]

theorem returnInputBuffers_endState (ticks : Ticks) (mode : ReturnMode) :
    (s.returnInputBuffers ticks mode).endState = s.endState := by
  obtain ⟨k, hr, -⟩ := returnInputBuffers_returned ticks mode s
  rw [endState, endState, hr.rest]

theorem playpumpEvent_endState (fifoPts : Option Nat) : (s.playpumpEvent fifoPts).endState = s.endState := by
  have hm := playpumpEvent_marked fifoPts s
  rw [endState, endState, hm.rest]

theorem addBuffer_endState (nSizeBytes : Nat) (componentAllocated : Bool) :
    (s.addBuffer codec b nSizeBytes componentAllocated).1.endState = s.endState := by
  simp only [addBuffer, addInputPortBuffer]
  split
  · rfl
  · split <;> rfl

theorem freeBuffer_endState : (s.freeBuffer b).1.endState = s.endState := by
  simp only [freeBuffer]
  split <;> rfl

theorem queueInputBuffer_endState : (s.queueInputBuffer b).1.endState = s.endState := by
  have hnew : s.inputBufferNew.endState = s.endState := alogAssert_endState _ _
  simp only [queueInputBuffer]
  split <;> exact hnew

theorem stop_endState : s.stop.endState = ([], false) := by
  simp only [stop]
  change (returnPortBuffers _).endState = _
  rw [returnPortBuffers_endState]
  rfl

theorem commandFlush_endState (stopped : Bool) (fifoPts : Option Nat) :
    (s.commandFlush stopped fifoPts).endState =
      if s.port.isEnabled && s.port.isPopulated && s.hPlaypump then (s.tracker, false) else s.endState := by
  simp only [commandFlush]
  split
  · have hflush : ({ ({ s with inputFlushing := true } : InputSide).playpumpFlush stopped with
        eosPending := false, ptsReceived := false } : InputSide).endState = (s.tracker, false) := by
      simp only [playpumpFlush]
      split <;> rfl
    have hall : ∀ s₁ : InputSide, s₁.endState = (s.tracker, false) →
        (((s₁.playpumpEvent fifoPts).alogAssert ((s₁.playpumpEvent fifoPts).submittedDescriptors = 0)
          .noneSubmittedAfterFlush).returnInputBuffers 0 .all).endState = (s.tracker, false) := by
      intro s₁ h
      rw [returnInputBuffers_endState, alogAssert_endState, playpumpEvent_endState, h]
    exact hall _ hflush
  · exact returnPortBuffers_endState

/-! ### A buffer -/

theorem submit_endState {accepted : Bool} {n : Nat} (h : s.submit accepted b n = some s') :
    s'.endState = s.endState := by
  have hs := submit_sent h
  rw [endState, endState, hs.rest]

theorem emptyConfig_endState (size : Nat) : (s.emptyConfig size b).1.endState = s.endState := by
  have hstart : s.startConfig.endState = s.endState := by
    unfold startConfig
    split <;> rfl
  simp only [emptyConfig]
  rw [← startConfig]
  split
  · rw [queueInputBuffer_endState]
    simp only [configBufferAppend]
    split <;> exact hstart
  · simp only [configBufferAppend]
    split <;> exact hstart

/-- The tracker with the frame in it. -/
def trackedFrame (b : BufferId) (s : InputSide) : BufferTracker := (s.tracker.add (s.buffer b).header).1

/-- The frame is not a fragment of the frame before it. -/
def startsFrame (codec : VideoCodec) (b : BufferId) (s : InputSide) : Bool :=
  !((s.buffer b).header.nTimeStamp = 0 && s.ptsReceived && codec.allowsFragments)

theorem trackFrame_endState (codec : VideoCodec) : (s.trackFrame codec b).endState =
    (if s.startsFrame codec b then s.trackedFrame b else s.tracker, s.eosPending) := by
  simp only [trackFrame, startsFrame, Bool.not_eq_true', Bool.and_eq_false_iff, decide_eq_false_iff_not]
  split
  · next hfragment => rw [if_neg (by simp [hfragment])]; rfl
  · next hframe =>
    rw [if_pos (by simpa [or_assoc, imp_iff_not_or] using hframe)]
    rfl

theorem emptyFrame_endState (codec : VideoCodec) (accepted : Bool) :
    (s.emptyFrame codec accepted b).1.endState = (s.trackFrame codec b).endState := by
  simp only [emptyFrame]
  split
  · rfl
  · split
    · rfl
    · next s₂ hsub =>
      rw [queueInputBuffer_endState, submit_endState hsub]
      rfl

/-- What a buffer that is not config data does before the end of the stream is submitted. -/
def emptyData (codec : VideoCodec) (submit : SubmitResult) (b : BufferId) (s : InputSide) : InputSide × OmxError :=
  if (s.buffer b).header.nFilledLen > 0 then (s.resetBuffer b).emptyFrame codec submit.frame b
  else (s.resetBuffer b).queueInputBuffer b

theorem emptyThisBuffer_data (codec : VideoCodec) (submit : SubmitResult)
    (haccept : headerAccepted (s.buffer b).header = true) (hflag : (s.buffer b).header.nFlags.codecConfig = false) :
    s.emptyThisBuffer codec submit b =
      if (s.emptyData codec submit b).2 ≠ .none then s.emptyData codec submit b
      else if (s.buffer b).header.nFlags.eos then (s.emptyData codec submit b).1.emptyEos submit.eos b
      else s.emptyData codec submit b := by
  simp only [emptyThisBuffer, emptyBuffer, haccept, hflag, Bool.not_true, Bool.false_eq_true, if_false]
  rfl

theorem emptyData_endState (codec : VideoCodec) (submit : SubmitResult)
    (haccept : headerAccepted (s.buffer b).header = true) (hflag : (s.buffer b).header.nFlags.codecConfig = false) :
    (s.emptyData codec submit b).1.endState =
      (if s.tracksFrame codec b then s.trackedFrame b else s.tracker, s.eosPending) := by
  have hreset : ((s.resetBuffer b).buffer b).header = (s.buffer b).header := by simp [resetBuffer, setBuffer]
  have htracks : s.tracksFrame codec b = (decide ((s.buffer b).header.nFilledLen > 0) && s.startsFrame codec b) := by
    simp only [tracksFrame, startsFrame, haccept, hflag, Bool.not_false, Bool.true_and, Bool.and_assoc]
  rw [htracks]
  simp only [emptyData]
  split
  · next hdata =>
    rw [emptyFrame_endState, trackFrame_endState, decide_eq_true hdata, Bool.true_and]
    simp only [startsFrame, trackedFrame, hreset]
    rfl
  · next hdata =>
    rw [queueInputBuffer_endState, decide_eq_false hdata]
    rfl

theorem emptyEos_endState (accepted : Bool) : (s.emptyEos accepted b).1.endState =
    (s.tracker, s.eosPending || (s.emptyEos accepted b).2 = .none) := by
  have hcases : s.emptyEos accepted b = (s, .undefined) ∨
      ∃ s₁ : InputSide, s₁.endState = (s.tracker, true) ∧ s.emptyEos accepted b = (s₁, .none) := by
    simp only [emptyEos]
    split
    · exact .inl rfl
    · next s₁ hsub =>
      have hsame : s₁.tracker = s.tracker := congrArg Prod.fst (submit_endState hsub)
      exact .inr ⟨{ s₁ with eosPending := true }, Prod.ext hsame rfl, rfl⟩
  rcases hcases with heq | ⟨s₁, hend, heq⟩
  · rw [heq]
    exact Prod.ext rfl (Bool.or_false _).symm
  · rw [heq]
    exact hend.trans (Prod.ext rfl (Bool.or_true _).symm)

theorem emptyThisBuffer_endState (codec : VideoCodec) (submit : SubmitResult) :
    (s.emptyThisBuffer codec submit b).1.endState =
      (if s.tracksFrame codec b then s.trackedFrame b else s.tracker,
        s.eosPending || s.takesEos codec submit b) := by
  have hnothing : s.tracksFrame codec b = false → s.takesEos codec submit b = false →
      (if s.tracksFrame codec b then s.trackedFrame b else s.tracker, s.eosPending || s.takesEos codec submit b) =
        s.endState := by
    intro htracks htakes
    rw [htracks, htakes, Bool.or_false]
    rfl
  cases haccept : headerAccepted (s.buffer b).header with
  | false =>
    rw [hnothing (by simp [tracksFrame, haccept]) (by simp [takesEos, haccept])]
    simp only [emptyThisBuffer, emptyBuffer, haccept, Bool.not_false, if_true]
  | true =>
    cases hconfig : (s.buffer b).header.nFlags.codecConfig with
    | true =>
      rw [hnothing (by simp [tracksFrame, hconfig]) (by simp [takesEos, hconfig]),
        emptyThisBuffer_codecConfig codec submit haccept hconfig, emptyConfig_endState]
      rfl
    | false =>
      have hdata := emptyData_endState codec submit haccept hconfig
      have hwhole := emptyThisBuffer_data codec submit haccept hconfig
      have htakes : s.takesEos codec submit b =
          ((s.buffer b).header.nFlags.eos && (s.emptyThisBuffer codec submit b).2 = .none) := by
        simp only [takesEos, haccept, hconfig, Bool.not_false, Bool.true_and]
      rw [htakes]
      by_cases herr : (s.emptyData codec submit b).2 = .none
      · rw [if_neg (by simp [herr])] at hwhole
        cases heos : (s.buffer b).header.nFlags.eos with
        | true =>
          rw [heos, if_pos rfl] at hwhole
          rw [hwhole, emptyEos_endState, Bool.true_and]
          rw [endState, Prod.mk.injEq] at hdata
          rw [hdata.1, hdata.2]
        | false =>
          rw [heos, if_neg Bool.false_ne_true] at hwhole
          rw [hwhole, hdata, Bool.false_and, Bool.or_false]
      · rw [if_pos herr] at hwhole
        rw [hwhole, hdata, decide_eq_false herr, Bool.and_false, Bool.or_false]

end InputSide
end BcmPlatform.Bomx

/-! ### Calls and commands -/

namespace BcmPlatform.Bomx
open Lib OutputSide

/-- The PTS of a time stamp is not cut to 32 bits. -/
def belowWrap (ticks : Ticks) : Bool := ticks.toNat / 1000 * 45 < u32

theorem tickToPts_ptsToTick {ticks : Ticks} (h : belowWrap ticks = true) :
    tickToPts (ptsToTick (tickToPts ticks)) = tickToPts ticks := by
  have hlt : ticks.toNat / 1000 * 45 < u32 := of_decide_eq_true h
  have hback : ∀ k : Nat, k * 45 < u32 → tickToPts (ptsToTick (k * 45)) = k * 45 := by
    intro k hk
    have hticks : ptsToTick (k * 45) = ((k * 1000 : Nat) : Int) := by
      rw [ptsToTick, Nat.mul_right_comm, Nat.mul_div_cancel _ (by decide)]
    rw [hticks, tickToPts]
    split
    · next hzero =>
      have hk : k * 1000 ≤ 0 := Int.ofNat_le.mp hzero
      rw [(Nat.mul_eq_zero.mp (Nat.le_zero.mp hk)).resolve_right (by decide)]
    · rw [Int.toNat_natCast, Nat.mul_div_cancel _ (by decide), Nat.mod_eq_of_lt hk]
  rcases Int.lt_or_le 0 ticks with hpos | hneg
  · have hpts : tickToPts ticks = ticks.toNat / 1000 * 45 := by
      rw [tickToPts, if_neg (Int.not_le.mpr hpos), Nat.mod_eq_of_lt hlt]
    rw [hpts]
    exact hback _ hlt
  · have hpts : tickToPts ticks = 0 * 45 := if_pos hneg
    rw [hpts]
    exact hback 0 (by decide)

namespace VideoDecoder

/-- What every step keeps, and that no flush of the output is under way between two steps. -/
structure StreamKept (mode : OutputMode) (packets : List Packet) (filled : List FilledBuffer) (d : VideoDecoder) :
    Prop where
  eos : EosKept mode packets filled d
  mode : d.outputMode = mode
  notFlushing : d.out.outputFlushing = false

section
variable {mode : OutputMode} {packets packets' : List Packet} {filled filled' : List FilledBuffer} {d d' : VideoDecoder}
  {b : BufferId} {r : PollResult}

namespace StreamKept

theorem of_flags (h : StreamKept mode packets filled d) (heos : EosKept mode packets' filled' d')
    (hflags : d'.flags = d.flags) : StreamKept mode packets' filled' d' := by
  simp only [flags, OutputSide.decoderFlags, Prod.mk.injEq] at hflags
  exact ⟨heos, hflags.2.1.trans h.mode, hflags.2.2.2.2.2.1.trans h.notFlushing⟩

theorem setInp (h : StreamKept mode packets filled d) (hinp : d'.inp.endState = d.inp.endState)
    (hout : d'.out = d.out) (hmode : d'.outputMode = d.outputMode) : StreamKept mode packets filled d' := by
  simp only [InputSide.endState, Prod.mk.injEq] at hinp
  refine ⟨h.eos.congr ?_ ?_ ?_ ?_, hmode.trans h.mode, ?_⟩
  · rw [hout]
    exact h.eos.queue
  · simp only [streamEnd, hinp.1, hinp.2, hout]
  · rw [hout]
    exact id
  · rw [hout]
    exact id
  · rw [hout]
    exact h.notFlushing

theorem setOut (h : StreamKept mode packets filled d) {out : OutputSide} (hqueue : FrameQueue mode out)
    (hstill : Still d.out out) (hflush : out.outputFlushing = d.out.outputFlushing) :
    StreamKept mode packets filled { d with out } :=
  ⟨h.eos.setOut hqueue hstill, h.mode, hflush.trans h.notFlushing⟩

theorem append (h : StreamKept mode packets filled d) {queue : List FilledBuffer}
    (hqueue : ∀ y ∈ queue, y.eos = false ∧ y.data = false) : StreamKept mode packets (filled ++ queue) d :=
  ⟨⟨h.eos.queue, h.eos.known, h.eos.filled.append hqueue, h.eos.stopped, h.eos.asserts⟩, h.mode, h.notFlushing⟩

theorem emptied (h : StreamKept mode packets filled d) (hqueue : FrameQueue mode d'.out)
    (hundelivered : d'.out.undelivered = []) (htracker : d'.inp.tracker = [])
    (hdone : d'.out.eosDelivered = false ∧ d'.out.eosReceived = false) (hsub : packets'.Sublist packets)
    (hpending : .eos ∈ packets' → d'.inp.eosPending = true) (hfilled : FilledOk false filled')
    (hasserts : .eosPending ∈ d'.out.asserts → .eosPending ∈ d.out.asserts) (hmode : d'.outputMode = d.outputMode)
    (hflush : d'.out.outputFlushing = false) : StreamKept mode packets' filled' d' := by
  refine ⟨⟨hqueue, ?_, ?_, fun _ => hdone, fun hmem => h.eos.asserts (hasserts hmem)⟩, hmode.trans h.mode, hflush⟩
  · have hend : d'.streamEnd packets' =
        { tracker := [], pending := d'.inp.eosPending, received := false, delivered := false, stream := packets' } := by
      simp only [streamEnd, hundelivered, htracker, hdone.1, hdone.2]
      rfl
    rw [hend]
    exact h.eos.known.flushOutput (hsub.trans (List.sublist_append_right _ _)) hpending
  · rw [hdone.1]
    exact hfilled

/-! ### Polls and the client's calls -/

theorem poll (h : StreamKept mode packets filled d) :
    StreamKept mode packets (filled ++ d.pollFilled r) (d.pollDecodedFrames r) :=
  h.of_flags h.eos.poll (pollDecodedFrames_flags rfl)

theorem returned (h : StreamKept mode packets filled d) :
    StreamKept mode packets (filled ++ d.returnFilled r) (d.returnDecodedFrames r) :=
  h.of_flags (h.eos.returned h.notFlushing) (returnDecodedFrames_flags rfl)

theorem fillThisBuffer (h : StreamKept mode packets filled d) (grallocSource : Bool) (pHandle : Option Nat)
    (hok : HandleOk mode b (d.out.setBuffer b { d.out.buffer b with grallocSource, pHandle })) :
    StreamKept mode packets (filled ++ d.stepFilled (.fillThisBuffer r b grallocSource pHandle))
      (d.fillThisBuffer r b grallocSource pHandle).1 := by
  have hmeta : FrameQueue mode (d.out.setBuffer b { d.out.buffer b with grallocSource, pHandle }) :=
    (Quiet.setMetadata b grallocSource pHandle d.out).frameQueue h.eos.queue
  have hstill : Still d.out (d.out.setBuffer b { d.out.buffer b with grallocSource, pHandle }) :=
    ⟨rfl, rfl, rfl, rfl, id⟩
  have hflush := congrArg (fun v => v.2.2.1)
    (OutputSide.fillThisBuffer_flags (s := d.out.setBuffer b { d.out.buffer b with grallocSource, pHandle }) (b := b))
  have hfill := h.setOut (hmeta.fillThisBuffer hok) (hstill.trans (.fillThisBuffer hmeta hok)) hflush
  simp only [stepFilled, VideoDecoder.fillThisBuffer]
  by_cases hnone : ((d.out.setBuffer b { d.out.buffer b with grallocSource, pHandle }).fillThisBuffer b).2 = .none
  · rw [if_pos hnone, if_pos hnone]
    exact hfill.returned
  · rw [if_neg hnone, if_neg hnone, List.append_nil]
    exact hfill

theorem freeOutputBuffer (h : StreamKept mode packets filled d) :
    StreamKept mode packets (filled ++ d.stepFilled (.freeOutputBuffer r b)) (d.freeOutputBuffer r b).1 := by
  have hfree := h.setOut (h.eos.queue.freeBuffer (b := b)) (.freeBuffer h.eos.queue)
    (congrArg (fun v => v.2.2.1) freeBuffer_flags)
  simp only [stepFilled, VideoDecoder.freeOutputBuffer]
  by_cases hreturn : (d.out.freeBuffer b).2.2 = true
  · rw [if_pos hreturn, if_pos hreturn]
    exact hfree.returned
  · rw [if_neg hreturn, if_neg hreturn, List.append_nil]
    exact hfree

theorem displayFrameEvent (h : StreamKept mode packets filled d) :
    StreamKept mode packets (filled ++ d.stepFilled (.showDisplay r)) (d.displayFrameEvent r) := by
  simp only [stepFilled, VideoDecoder.displayFrameEvent]
  cases d.out.displayTaken with
  | none =>
    rw [List.append_nil]
    exact h
  | some serialNumber =>
    have htaken : FrameQueue mode { d.out with displayTaken := none } :=
      h.eos.queue.congr rfl rfl rfl rfl rfl (fun _ => rfl) (fun _ => rfl) id
    have hstill : Still d.out { d.out with displayTaken := none } := ⟨rfl, rfl, rfl, rfl, id⟩
    have hshow := h.setOut (htaken.displayFrameLocked serialNumber)
      (hstill.trans (.displayFrameLocked htaken serialNumber))
      (congrArg (fun v => v.2.2.1) (displayFrameLocked_flags (s := { d.out with displayTaken := none }) serialNumber))
    dsimp only
    by_cases hreturn : ({ d.out with displayTaken := none }.displayFrameLocked serialNumber).2 = true
    · rw [if_pos hreturn, if_pos hreturn]
      exact hshow.returned
    · rw [if_neg hreturn, if_neg hreturn, List.append_nil]
      exact hshow

/-! ### The stream -/

/-- A buffer is submitted before the end of the stream: its frame is taken if it is tracked, with the end-of-stream
    packet behind it if it has the flag. -/
theorem emptyThisBuffer (h : StreamKept mode packets filled d) (submit : InputSide.SubmitResult) (header : BufferHeader)
    {s : InputSide} (hs : s = d.inp.setBuffer b { d.inp.buffer b with header })
    (hopen : (InputSide.headerAccepted header && !header.nFlags.codecConfig) = true →
      d.inp.eosPending = false ∧ d.out.eosDelivered = false)
    (hwrap : s.tracksFrame d.codec b = true → belowWrap header.nTimeStamp = true)
    (hsafe : s.tracksFrame d.codec b = true →
      s.takesFrame d.codec submit.frame b = true ∧ (header.nFlags.eos = true → s.takesEos d.codec submit b = true)) :
    StreamKept mode (packets ++ s.submittedPackets d.codec submit b) filled (d.emptyThisBuffer submit b header).1 := by
  have hheader : (s.buffer b).header = header := by simp [hs, InputSide.setBuffer]
  have hend : (d.emptyThisBuffer submit b header).1.inp.endState =
      (if s.tracksFrame d.codec b then s.trackedFrame b else d.inp.tracker,
        d.inp.eosPending || s.takesEos d.codec submit b) := by
    have hwhole := InputSide.emptyThisBuffer_endState (s := s) (b := b) d.codec submit
    rw [hs] at hwhole ⊢
    exact hwhole
  have hsame : (d.emptyThisBuffer submit b header).1.out = d.out := rfl
  cases hdata : InputSide.headerAccepted header && !header.nFlags.codecConfig with
  | false =>
    have htracks : s.tracksFrame d.codec b = false := by
      rw [InputSide.tracksFrame]
      simp only [hheader, hdata, Bool.false_and]
    have htakes : s.takesEos d.codec submit b = false := by
      rw [InputSide.takesEos]
      simp only [hheader, hdata, Bool.false_and]
    have hnone : s.submittedPackets d.codec submit b = [] := by simp [InputSide.submittedPackets, htracks, htakes]
    rw [htracks, htakes, Bool.or_false] at hend
    rw [hnone, List.append_nil]
    exact h.setInp hend rfl rfl
  | true =>
    obtain ⟨hpending, hdelivered⟩ := hopen hdata
    rw [InputSide.endState, Prod.mk.injEq] at hend
    refine ⟨⟨h.eos.queue, ?_, h.eos.filled, h.eos.stopped, h.eos.asserts⟩, h.mode, h.notFlushing⟩
    have hstream : (d.emptyThisBuffer submit b header).1.streamEnd (packets ++ s.submittedPackets d.codec submit b) =
        { d.streamEnd packets with
          tracker := if s.tracksFrame d.codec b then s.trackedFrame b else d.inp.tracker
          pending := d.inp.eosPending || s.takesEos d.codec submit b
          stream := (d.streamEnd packets).stream ++
            ((if s.tracksFrame d.codec b && s.takesFrame d.codec submit.frame b then
              [.frame (tickToPts header.nTimeStamp)] else []) ++ if s.takesEos d.codec submit b then [.eos] else []) } := by
      simp only [streamEnd, hsame, hend.1, hend.2, InputSide.submittedPackets, hheader, List.append_assoc]
    rw [hstream]
    refine h.eos.known.submit hpending hdelivered ?_
    cases htracks : s.tracksFrame d.codec b with
    | false => exact .inl ⟨rfl, rfl⟩
    | true =>
      obtain ⟨htakes, heos⟩ := hsafe htracks
      rw [htakes]
      refine .inr ⟨{ ticks := header.nTimeStamp, flags := header.nFlags, pts := tickToPts header.nTimeStamp }, ?_, rfl,
        rfl, tickToPts_ptsToTick (hwrap htracks), heos⟩
      simp only [if_true, InputSide.trackedFrame, BufferTracker.add, hheader]
      rw [hs]
      rfl

theorem decode (h : StreamKept mode packets filled d) {frames : List FrameStatus} (hstarted : d.out.nexus.started = true)
    (hserials : serialsFrom d.out.nexus.nextSerial frames = true)
    (hpackets : decodePackets packets frames = some packets') :
    StreamKept mode packets' filled { d with out := d.out.decode frames } := by
  have hbefore : StreamEnd.Ended (d.out.undelivered.map (·.packet) ++ packets) := h.eos.known.ended
  obtain ⟨hperm, hended⟩ := StreamEnd.decodePackets_spec frames _ packets packets' hpackets hbefore
  refine ⟨⟨h.eos.queue.decode hstarted hserials, ?_, h.eos.filled, h.eos.stopped, h.eos.asserts⟩, h.mode, h.notFlushing⟩
  have hstream : ({ d with out := d.out.decode frames } : VideoDecoder).streamEnd packets' =
      { d.streamEnd packets with
        stream := d.out.undelivered.map (·.packet) ++ (frames.map (·.packet) ++ packets') } := by
    simp only [streamEnd, undelivered_decode h.eos.queue, List.map_append, List.append_assoc]
    rfl
  rw [hstream]
  exact h.eos.known.perm hperm hended

/-! ### Flushes -/

/-- A flush of the input: nothing is lost that is still to be delivered, or the end of the stream is delivered
    already. -/
theorem flushInput (h : StreamKept mode packets filled d) (stopped : Bool) (fifoPts : Option Nat)
    (hsub : packets'.Sublist packets) (hclosed : d.flushesInput = false → packets' = packets)
    (hsafe : d.flushesInput = true → d.out.eosDelivered = true ∨ ¬ (d.streamEnd packets').Owed ∧
      (d.inp.tracker.map (·.pts)).Subperm (framePts (d.streamEnd packets').stream)) :
    StreamKept mode packets' filled (d.flushInput stopped fifoPts) := by
  have hend := InputSide.commandFlush_endState (s := d.inp) stopped fifoPts
  rw [← flushesInput] at hend
  cases hflushes : d.flushesInput with
  | false =>
    rw [hflushes, if_neg Bool.false_ne_true] at hend
    rw [hclosed hflushes]
    exact h.setInp hend rfl rfl
  | true =>
    rw [hflushes, if_pos rfl, InputSide.endState, Prod.mk.injEq] at hend
    refine ⟨⟨h.eos.queue, ?_, h.eos.filled, h.eos.stopped, h.eos.asserts⟩, h.mode, h.notFlushing⟩
    have hstream : (d.flushInput stopped fifoPts).streamEnd packets' =
        { d.streamEnd packets with pending := false, stream := (d.streamEnd packets').stream } := by
      simp only [streamEnd, VideoDecoder.flushInput, hend.1, hend.2]
    rw [hstream]
    exact h.eos.known.flushInput (hsub.append_left _) (hsafe hflushes)

end StreamKept

theorem poll_of_empty (h : FrameQueue mode d.out) (hempty : d.out.nexus.fifo = []) :
    ∃ out, d.pollDecodedFrames r = { d with out } ∧ FrameQueue mode out ∧ Still d.out out := by
  have htaken := h.getDecodedFrames r.numFrames
  have hstill := Still.getDecodedFrames h r.numFrames
  simp only [VideoDecoder.pollDecodedFrames]
  split
  · exact ⟨d.out, rfl, h, .refl _⟩
  · split
    · have hnone : (d.out.getDecodedFrames r.numFrames).frameBufferAllocList.dropWhile (fun f => !f.isReady) = [] := by
        have hund := hstill.undelivered.trans (undelivered_of_empty h hempty)
        rw [undelivered, List.append_eq_nil_iff, List.map_eq_nil_iff] at hund
        rw [dropWhile_eq_filter htaken.aligned.readyLast, ← hund.1]
        simp
      rw [hnone]
      exact ⟨_, rfl, htaken, hstill⟩
    · exact ⟨_, rfl, htaken, hstill⟩

theorem flushed_out (h : FrameQueue mode d.out) (hopen : d.out.hSimpleVideoDecoder = true) :
    ∃ out, { d with out := d.out.startFlush }.returnDecodedFrames r = { d with out } ∧ FrameQueue mode out ∧
      out.undelivered = [] ∧ (.eosPending ∈ out.asserts → .eosPending ∈ d.out.asserts) := by
  have hqueue := h.flush hopen
  have hempty : d.out.startFlush.returnDecodedFrames.1.nexus.fifo = [] := returnDecodedFrames_empty rfl
  have hasserts : d.out.startFlush.returnDecodedFrames.1.asserts = d.out.asserts := by
    rw [returnDecodedFrames_rest]
    rfl
  have hnone := undelivered_of_empty hqueue hempty
  simp only [VideoDecoder.returnDecodedFrames]
  split
  · obtain ⟨out, heq, hout, hstill⟩ :=
      poll_of_empty (d := { d with out := d.out.startFlush.returnDecodedFrames.1 }) (r := r) hqueue hempty
    exact ⟨out, heq, hout, hstill.undelivered.trans hnone, fun hmem => hasserts ▸ hstill.asserts hmem⟩
  · exact ⟨_, rfl, hqueue, hnone, fun hmem => hasserts ▸ hmem⟩

theorem StreamKept.flushOutput (h : StreamKept mode packets filled d) (hout : d'.out = d.out)
    (hmode : d'.outputMode = d.outputMode) (hflushes : d'.flushesOutput = true) (hsub : packets'.Sublist packets)
    (hpending : .eos ∈ packets' → d'.inp.eosPending = true) :
    StreamKept mode packets' [] (d'.flushOutput r) := by
  have hopen : d'.out.hSimpleVideoDecoder = true := by
    simp only [flushesOutput, Bool.and_eq_true] at hflushes
    exact hflushes.2
  have hqueue : FrameQueue mode d'.out := hout ▸ h.eos.queue
  obtain ⟨out, heq, hflushed, hnone, hasserts⟩ := flushed_out (r := r) hqueue hopen
  have hwhole : d'.flushOutput r = { d' with
      inp := { d'.inp with tracker := [] }, out := out.endFlush.returnPortBuffers } := by
    rw [flushesOutput] at hflushes
    rw [startFlush] at heq
    simp only [VideoDecoder.flushOutput, hflushes, if_true, heq]
    rfl
  have hstill := Still.returnPortBuffers out.endFlush
  rw [hwhole]
  refine h.emptied hflushed.endFlush.returnPortBuffers ?_ rfl ⟨hstill.delivered, hstill.received⟩ hsub hpending
    (FilledOk.nil false) (fun hmem => ?_) hmode ?_
  · rw [hstill.undelivered]
    exact hnone
  · rw [← hout]
    exact hasserts (hstill.asserts hmem)
  · rw [(returnPortBuffers_port (s := out.endFlush)).1]
    rfl

theorem StreamKept.flushClosed (h : StreamKept mode packets filled d) (hclosed : d.flushesOutput = false) :
    StreamKept mode packets [] (d.flushOutput r) := by
  have hwhole : d.flushOutput r = { d with out := d.out.returnPortBuffers } := by
    rw [flushesOutput] at hclosed
    simp only [VideoDecoder.flushOutput, hclosed, Bool.false_eq_true, if_false]
  rw [hwhole]
  have hback := h.setOut h.eos.queue.returnPortBuffers (.returnPortBuffers d.out)
    (congrArg (fun v => v.2.2.1) OutputSide.returnPortBuffers_flags)
  exact ⟨⟨hback.eos.queue, hback.eos.known, FilledOk.nil _, hback.eos.stopped, hback.eos.asserts⟩, hback.mode,
    hback.notFlushing⟩

end
end VideoDecoder
end BcmPlatform.Bomx
