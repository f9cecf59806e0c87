import BcmPlatform.Theorems.FrameRuns
import BcmPlatform.Theorems.InputRules
import BcmPlatform.Theorems.StreamEnd
import BcmPlatform.Theorems.Undelivered

/-! What a poll for decoded frames does to the end of the stream: each round of the delivery loop delivers the next
    frame, or pushes it back and stops. -/

namespace BcmPlatform.Bomx
open Lib OutputSide
namespace VideoDecoder

/-- What the component knows about the end of the stream. -/
def streamEnd (packets : List Packet) (d : VideoDecoder) : StreamEnd where
  tracker := d.inp.tracker
  pending := d.inp.eosPending
  received := d.out.eosReceived
  delivered := d.out.eosDelivered
  stream := d.out.undelivered.map (·.packet) ++ packets

/-- What every step keeps: the frame queue, what is known about the end of the stream, and what was promised about the
    buffers that the client got. -/
structure EosKept (mode : OutputMode) (packets : List Packet) (filled : List FilledBuffer) (d : VideoDecoder) : Prop where
  queue : FrameQueue mode d.out
  known : (d.streamEnd packets).Known
  filled : FilledOk d.out.eosDelivered filled
  stopped : d.out.nexus.started = false → d.out.eosDelivered = false ∧ d.out.eosReceived = false
  asserts : .eosPending ∉ d.out.asserts

section
variable {mode : OutputMode} {packets : List Packet} {filled : List FilledBuffer} {d d' : VideoDecoder}
  {f : FrameBuffer} {b : BufferId} {r : PollResult}

theorem EosKept.congr (h : EosKept mode packets filled d) (hqueue : FrameQueue mode d'.out)
    (hend : d'.streamEnd packets = d.streamEnd packets)
    (hstarted : d'.out.nexus.started = false → d.out.nexus.started = false)
    (hasserts : .eosPending ∈ d'.out.asserts → .eosPending ∈ d.out.asserts) : EosKept mode packets filled d' where
  queue := hqueue
  known := by
    rw [hend]
    exact h.known
  filled := by
    have hdelivered : d'.out.eosDelivered = d.out.eosDelivered := congrArg StreamEnd.delivered hend
    rw [hdelivered]
    exact h.filled
  stopped hstopped := by
    have hdelivered : d'.out.eosDelivered = d.out.eosDelivered := congrArg StreamEnd.delivered hend
    have hreceived : d'.out.eosReceived = d.out.eosReceived := congrArg StreamEnd.received hend
    rw [hdelivered, hreceived]
    exact h.stopped (hstarted hstopped)
  asserts hmem := h.asserts (hasserts hmem)

theorem EosKept.setOut (h : EosKept mode packets filled d) {out : OutputSide} (hqueue : FrameQueue mode out)
    (hstill : Still d.out out) : EosKept mode packets filled { d with out } := by
  refine h.congr hqueue ?_ ?_ hstill.asserts
  · simp only [streamEnd, hstill.undelivered, hstill.received, hstill.delivered]
  · simp only [hstill.started]
    exact id

/-! ### One round -/

/-- What is known once the header of a frame is prepared and the end of the stream is taken. -/
structure Examined (packets : List Packet) (f : FrameBuffer) (b : BufferId) (d d' : VideoDecoder) : Prop where
  ends : (d.streamEnd packets).endsStream f.frameStatus = true → d.inp.eosPending = true
  tracker : d'.inp.tracker = (d.streamEnd packets).removed f.frameStatus
  pending : d'.inp.eosPending = (d.inp.eosPending && !(d.streamEnd packets).endsStream f.frameStatus)
  quiet : Quiet d.out d'.out
  received : d'.out.eosReceived = ((d.streamEnd packets).mark f.frameStatus).1
  delivered : d'.out.eosDelivered = (d.out.eosDelivered || (d.streamEnd packets).endsStream f.frameStatus)
  ticks : (d'.out.buffer b).header.nTimeStamp = (d.inp.tracker.remove f.frameStatus.pts).2.1
  flags : (d'.out.buffer b).header.nFlags = { (d.inp.tracker.remove f.frameStatus.pts).2.2 with
    eos := (d.streamEnd packets).endsStream f.frameStatus }
  asserts : .eosPending ∈ d'.out.asserts → .eosPending ∈ d.out.asserts

theorem prepareHeader_flags (packets : List Packet) : ((d.prepareHeader f b).out.buffer b).header.nFlags =
    { (d.inp.tracker.remove f.frameStatus.pts).2.2 with eos := ((d.streamEnd packets).mark f.frameStatus).2 } := by
  simp only [prepareHeader, OutputSide.setBuffer, Function.update_self]
  rfl

theorem examine_cases (packets : List Packet) (d : VideoDecoder) (f : FrameBuffer) (b : BufferId) :
    (d.examine f b = none ∧ (d.streamEnd packets).endsStream f.frameStatus = true ∧ d.inp.eosPending = false) ∨
    ∃ d', d.examine f b = some d' ∧ Examined packets f b d d' := by
  obtain ⟨cond, hexamine⟩ : ∃ cond, d.examine f b = { d.prepareHeader f b with
      out := (d.prepareHeader f b).out.alogAssert cond .bufferInfoUnlinked }.takeEos f b := ⟨_, rfl⟩
  have hquiet := (prepareHeader_quiet (d := d) (f := f) (b := b)).trans
    (Quiet.alogAssert cond (a := .bufferInfoUnlinked) OutputAssert.noConfusion _)
  have hasserts : .eosPending ∈ ((d.prepareHeader f b).out.alogAssert cond .bufferInfoUnlinked).asserts →
      .eosPending ∈ d.out.asserts := alogAssert_eosPending cond OutputAssert.noConfusion
  have hflags : (((d.prepareHeader f b).out.alogAssert cond .bufferInfoUnlinked).buffer b).header.nFlags =
      { (d.inp.tracker.remove f.frameStatus.pts).2.2 with eos := ((d.streamEnd packets).mark f.frameStatus).2 } := by
    rw [alogAssert_rest]
    exact prepareHeader_flags packets
  have hticks : (((d.prepareHeader f b).out.alogAssert cond .bufferInfoUnlinked).buffer b).header.nTimeStamp =
      (d.inp.tracker.remove f.frameStatus.pts).2.1 := by
    rw [alogAssert_rest]
    simp [prepareHeader, OutputSide.setBuffer]
  have hends : (f.frameStatus.lastPicture ||
      (((d.prepareHeader f b).out.alogAssert cond .bufferInfoUnlinked).buffer b).header.nFlags.eos) =
      (d.streamEnd packets).endsStream f.frameStatus := by rw [hflags]; rfl
  rw [hexamine]
  simp only [takeEos, hends]
  split
  · next htrue =>
    split
    · next hpending =>
      have hp : d.inp.eosPending = true := hpending
      refine .inr ⟨_, rfl, fun _ => hp, rfl, ?_, hquiet.trans (Quiet.setHeader b _ _ _ _), ?_, ?_, ?_, ?_, hasserts⟩
      · rw [htrue, Bool.not_true, Bool.and_false]
      · change ((d.prepareHeader f b).out.alogAssert cond .bufferInfoUnlinked).eosReceived = _
        rw [alogAssert_rest]
        rfl
      · rw [htrue, Bool.or_true]
      · simpa [OutputSide.setBuffer] using hticks
      · simp [OutputSide.setBuffer, hflags, htrue]
    · next hpending =>
      have hp : ¬ d.inp.eosPending = true := hpending
      exact .inl ⟨rfl, htrue, by simpa using hp⟩
  · next hfalse =>
    have hno : (d.streamEnd packets).endsStream f.frameStatus = false := by simpa using hfalse
    have hmark : ((d.streamEnd packets).mark f.frameStatus).2 = false :=
      (Bool.or_eq_false_iff.mp hno).2
    refine .inr ⟨_, rfl, fun h => absurd h hfalse, rfl, ?_, hquiet, ?_, ?_, hticks, ?_, hasserts⟩
    · rw [hno, Bool.not_false, Bool.and_true]
      rfl
    · change ((d.prepareHeader f b).out.alogAssert cond .bufferInfoUnlinked).eosReceived = _
      rw [alogAssert_rest]
      rfl
    · rw [hno, Bool.or_false]
      change ((d.prepareHeader f b).out.alogAssert cond .bufferInfoUnlinked).eosDelivered = _
      rw [alogAssert_rest]
      rfl
    · rw [hflags, hmark, hno]

/-- The state when a frame is pushed back: its entry is in the tracker again. -/
def pushedBack (f : FrameBuffer) (b : BufferId) (d d' : VideoDecoder) : VideoDecoder :=
  resetPort f { d' with
    inp := { d'.inp with
      tracker := (d'.inp.tracker.add (d'.out.buffer b).header).1, eosPending := d.inp.eosPending }
    out := { d'.out with eosDelivered := d.out.eosDelivered } }

theorem deliverRound_cases (h : d.examine f b = some d') :
    (d'.pushesBack f = true ∧ d.roundFilled f b = [] ∧ d.deliverRound r f b = (pushedBack f b d d', false)) ∨
    (d'.pushesBack f = false ∧ d.roundFilled f b = [d'.filledBuffer (!f.frameStatus.lastPicture) b] ∧
      ∃ outputWidth outputHeight, (d.deliverRound r f b).1 =
        { d' with out := { d'.out with outputWidth, outputHeight } }.deliverFrame f b) := by
  have hround : d.roundFilled f b =
      if d'.pushesBack f then [] else [d'.filledBuffer (!f.frameStatus.lastPicture) b] := by
    rw [roundFilled, h]
  rw [hround]
  rw [examine] at h
  simp only [deliverRound, h]
  by_cases hlast : f.frameStatus.lastPicture = true
  · refine .inr ⟨by simp [pushesBack, hlast], by simp [pushesBack, hlast], ?_⟩
    rw [if_pos hlast]
    exact ⟨d'.out.outputWidth, d'.out.outputHeight, rfl⟩
  · rw [if_neg hlast]
    by_cases hreset : (d'.formatChanged f && d'.portReset f) = true
    · have hpush : d'.pushesBack f = true := by
        rw [pushesBack, Bool.and_assoc, hreset, Bool.and_true]
        simpa using hlast
      rw [if_pos hreset, hpush]
      exact .inl ⟨rfl, rfl, rfl⟩
    · have hpush : d'.pushesBack f = false := by
        rw [pushesBack, Bool.and_assoc, Bool.eq_false_iff.mpr hreset, Bool.and_false]
      rw [if_neg hreset, hpush]
      refine .inr ⟨rfl, rfl, ?_⟩
      split
      · exact ⟨_, _, rfl⟩
      · exact ⟨d'.out.outputWidth, d'.out.outputHeight, rfl⟩

theorem resetPort_kept (f : FrameBuffer) (d : VideoDecoder) : ∃ portDefs state serial,
    (d.resetPort f).out = { d.out with
      port := d.out.port.setDefinition portDefs, formatChangeState := state, formatChangeSerial := serial } := by
  have hsame : ∃ portDefs, d.out.port = d.out.port.setDefinition portDefs := ⟨d.out.port.definition, rfl⟩
  simp only [resetPort]
  split
  · obtain ⟨portDefs, heq⟩ := hsame
    exact ⟨portDefs, .waitForSerial, f.serial, by rw [← heq]⟩
  · exact ⟨_, _, d.out.formatChangeSerial, rfl⟩

theorem find?_ready {pre rest : List FrameBuffer} (halloc : d.out.frameBufferAllocList = pre ++ f :: rest)
    (hpre : ∀ k ∈ pre, k.isReady = false) (hready : f.isReady = true) :
    d.out.frameBufferAllocList.find? (·.isReady) = some f := by
  rw [halloc, List.find?_append, List.find?_eq_none.mpr (fun k hk => by simp [hpre k hk]), Option.none_or,
    List.find?_cons_of_pos hready]

theorem deliverRound_queue (h : FrameQueue mode d.out) (hfind : d.out.frameBufferAllocList.find? (·.isReady) = some f)
    (hopen : d.out.formatChangeState ≠ .waitForSerial) (hb : d.out.port.getBuffer = some b) :
    FrameQueue mode (d.deliverRound r f b).1.out := by
  obtain ⟨s, hq, hdelivered | ⟨-, hsteps⟩⟩ := deliverRound_steps (r := r) (b := b) hfind hopen
  · rw [hdelivered]
    refine (hq.frameQueue h).deliverNode ?_ ?_
    · rw [hq.rest]
      exact hfind
    · rw [hq.rest]
      exact hb
  · exact hsteps.head_induction_on (motive := fun s _ => FrameQueue mode s → FrameQueue mode (d.deliverRound r f b).1.out)
      id (fun hstep _ ih hs => ih (hstep.frameQueue hs)) (hq.frameQueue h)

theorem started_of_ready (h : FrameQueue mode d.out) (hmem : f ∈ d.out.frameBufferAllocList) (hready : f.isReady = true) :
    d.out.nexus.started = true := by
  by_contra hstopped
  have hinvalid := isInvalid_of_stopped h (by simpa using hstopped) hmem
  cases hstate : f.state <;> simp_all [FrameBuffer.isReady, FrameBuffer.isInvalid]

theorem returnInputBuffers_tracker (s : InputSide) (ticks : Ticks) (mode : InputSide.ReturnMode) :
    (s.returnInputBuffers ticks mode).tracker = s.tracker ∧ (s.returnInputBuffers ticks mode).eosPending = s.eosPending := by
  obtain ⟨k, hr, -⟩ := InputSide.returnInputBuffers_returned ticks mode s
  rw [hr.rest]
  exact ⟨rfl, rfl⟩

theorem streamEnd_pushedBack (he : Examined packets f b d d') (hlast : f.frameStatus.lastPicture = false) :
    (pushedBack f b d d').streamEnd packets = (d.streamEnd packets).pushBack f.frameStatus := by
  obtain ⟨portDefs, state, serial, hout⟩ := resetPort_kept f { d' with
    inp := { d'.inp with
      tracker := (d'.inp.tracker.add (d'.out.buffer b).header).1, eosPending := d.inp.eosPending }
    out := { d'.out with eosDelivered := d.out.eosDelivered } }
  have hsame : d'.out.undelivered = d.out.undelivered := by
    refine undelivered_congr ?_ ?_
    · rw [he.quiet.rest]
    · rw [he.quiet.rest]
  have hends : (d.streamEnd packets).endsStream f.frameStatus = ((d.streamEnd packets).mark f.frameStatus).2 := by
    rw [StreamEnd.endsStream, hlast, Bool.false_or]
  have hund : (pushedBack f b d d').out.undelivered = d.out.undelivered := by
    rw [pushedBack, hout, ← hsame]
    rfl
  simp only [streamEnd, StreamEnd.pushBack, hund]
  rw [pushedBack, resetPort_inp, hout]
  simp only [BufferTracker.add, he.tracker, he.ticks, he.flags, he.received, hends]
  rfl

theorem streamEnd_delivered (he : Examined packets f b d d') (outputWidth outputHeight : Nat) :
    ({ d' with out := { d'.out with outputWidth, outputHeight } }.deliverFrame f b).streamEnd packets =
      (d.streamEnd packets).deliver f.frameStatus
        ((({ d'.out with outputWidth, outputHeight } : OutputSide).deliverNode f b).undelivered.map (·.packet) ++
          packets) := by
  obtain ⟨htracker, hpending⟩ := returnInputBuffers_tracker d'.inp (d'.out.buffer b).header.nTimeStamp .timestamp
  simp only [streamEnd, StreamEnd.deliver, StreamEnd.mk.injEq]
  refine ⟨htracker.trans he.tracker, hpending.trans he.pending, he.received, he.delivered, rfl⟩

theorem EosKept.deliverRound {pre rest : List FrameBuffer} (h : EosKept mode packets filled d)
    (halloc : d.out.frameBufferAllocList = pre ++ f :: rest) (hpre : ∀ k ∈ pre, k.isReady = false)
    (hready : f.isReady = true) (hdelivered : d.out.eosDelivered = false)
    (hopen : d.out.formatChangeState ≠ .waitForSerial) (hb : d.out.port.getBuffer = some b) :
    EosKept mode packets (filled ++ d.roundFilled f b) (d.deliverRound r f b).1 := by
  have hqueue := deliverRound_queue (r := r) h.queue (find?_ready halloc hpre hready) hopen hb
  have hstarted := started_of_ready h.queue (f := f) (by rw [halloc]; simp) hready
  -- the packet of the frame is the next one, whatever a quiet change does
  have hstream : ∀ {s : OutputSide}, s.frameBufferAllocList = d.out.frameBufferAllocList → s.nexus = d.out.nexus →
      (d.streamEnd packets).stream =
        f.frameStatus.packet :: ((s.deliverNode f b).undelivered.map (·.packet) ++ packets) := by
    intro s hs hn
    have hnodup : (s.frameBufferAllocList.map (·.id)).Nodup := by
      rw [hs]
      exact h.queue.nodup_ids
    rw [streamEnd, ← undelivered_congr hs (by rw [hn]), undelivered_deliverNode (b := b) (hs.trans halloc) hpre hready hnodup]
    rfl
  rcases examine_cases packets d f b with ⟨-, hends, hpending⟩ | ⟨d', hexam, he⟩
  · have htrue : d.inp.eosPending = true := h.known.pending_of_ends (hstream rfl rfl) hdelivered hends
    rw [hpending] at htrue
    cases htrue
  · have halloc' : d'.out.frameBufferAllocList = d.out.frameBufferAllocList := by rw [he.quiet.rest]
    have hnexus : d'.out.nexus = d.out.nexus := by rw [he.quiet.rest]
    rcases deliverRound_cases (r := r) hexam with ⟨hpush, hfilled, hround⟩ | ⟨-, hfilled, w, hgt, hround⟩
    · have hlast : f.frameStatus.lastPicture = false := by
        simp only [pushesBack, Bool.and_eq_true, Bool.not_eq_true'] at hpush
        exact hpush.1.1
      have hend := streamEnd_pushedBack he hlast
      rw [hround] at hqueue ⊢
      rw [hfilled, List.append_nil]
      obtain ⟨portDefs, state, serial, hout⟩ := resetPort_kept f { d' with
        inp := { d'.inp with
          tracker := (d'.inp.tracker.add (d'.out.buffer b).header).1, eosPending := d.inp.eosPending }
        out := { d'.out with eosDelivered := d.out.eosDelivered } }
      refine ⟨hqueue, ?_, ?_, fun hstopped => ?_, fun hmem => ?_⟩
      · rw [hend]
        exact h.known.pushBack (hstream rfl rfl) hdelivered hlast
      · change FilledOk ((pushedBack f b d d').streamEnd packets).delivered filled
        rw [hend]
        exact h.filled
      · rw [pushedBack, hout] at hstopped
        have hstopped : d'.out.nexus.started = false := hstopped
        rw [hnexus, hstarted] at hstopped
        cases hstopped
      · rw [pushedBack, hout] at hmem
        exact h.asserts (he.asserts hmem)
    · have hend := streamEnd_delivered he w hgt
      have hnext := hstream (s := { d'.out with outputWidth := w, outputHeight := hgt }) halloc' hnexus
      have heos : (d'.filledBuffer (!f.frameStatus.lastPicture) b).eos =
          (d.streamEnd packets).endsStream f.frameStatus := by
        rw [filledBuffer]
        exact congrArg BufferFlags.eos he.flags
      rw [hround] at hqueue ⊢
      rw [hfilled]
      refine ⟨hqueue, ?_, ?_, fun hstopped => ?_, fun hmem => h.asserts (he.asserts hmem)⟩
      · rw [hend]
        exact h.known.deliver hnext hdelivered
      · have hdone : ({ d' with out := { d'.out with outputWidth := w, outputHeight := hgt } }.deliverFrame f
            b).out.eosDelivered = (d'.filledBuffer (!f.frameStatus.lastPicture) b).eos := by
          rw [heos]
          change d'.out.eosDelivered = _
          rw [he.delivered, hdelivered, Bool.false_or]
        have hbefore := h.filled
        rw [hdelivered] at hbefore
        rw [hdone]
        refine hbefore.deliver fun hy => ?_
        have hlast := h.known.last_of_ends hnext hdelivered (heos ▸ hy)
        rw [filledBuffer]
        simp only [he.tracker, he.ticks]
        rw [StreamEnd.isLast] at hlast
        rw [Bool.not_eq_false']
        exact hlast
      · have hstopped : d'.out.nexus.started = false := hstopped
        rw [hnexus, hstarted] at hstopped
        cases hstopped

/-! ### The loop and the poll -/

theorem deliverRound_alloc {pre rest : List FrameBuffer} (h : FrameQueue mode d.out)
    (halloc : d.out.frameBufferAllocList = pre ++ f :: rest) (hmore : (d.deliverRound r f b).2 = true) :
    ∃ f', f'.isReady = false ∧ (d.deliverRound r f b).1.out.frameBufferAllocList = (pre ++ [f']) ++ rest := by
  rcases examine_cases [] d f b with ⟨hnone, -, -⟩ | ⟨d', hexam, he⟩
  · rw [examine] at hnone
    simp [VideoDecoder.deliverRound, hnone] at hmore
  · rcases deliverRound_cases (r := r) hexam with ⟨-, -, hround⟩ | ⟨-, -, w, hgt, hround⟩
    · rw [hround] at hmore
      cases hmore
    · have hsame : ({ d'.out with outputWidth := w, outputHeight := hgt } : OutputSide).frameBufferAllocList =
          d.out.frameBufferAllocList := by
        change d'.out.frameBufferAllocList = _
        rw [he.quiet.rest]
      obtain ⟨f', -, -, hstate, -, halloc'⟩ := deliverNode_alloc (b := b) (hsame.trans halloc)
        (by rw [hsame]; exact h.nodup_ids)
      refine ⟨f', by simp [FrameBuffer.isReady, hstate], ?_⟩
      rw [hround, List.append_assoc]
      exact halloc'

theorem EosKept.deliver : ∀ (ready pre : List FrameBuffer) (filled : List FilledBuffer) (d : VideoDecoder),
    d.out.frameBufferAllocList = pre ++ ready → (∀ f ∈ pre, f.isReady = false) → (∀ f ∈ ready, f.isReady = true) →
    EosKept mode packets filled d → EosKept mode packets (filled ++ d.deliverFilled r ready) (d.deliver r ready)
  | [], _, filled, d, _, _, _, h => by
    rw [deliverFilled, List.append_nil]
    exact h
  | f :: rest, pre, filled, d, halloc, hpre, hready, h => by
    simp only [VideoDecoder.deliver, deliverFilled]
    split
    · rw [List.append_nil]
      exact h
    · next hloop =>
      rw [not_or, not_not] at hloop
      have hdelivered : d.out.eosDelivered = false := by simpa using hloop.1
      have hopen : d.out.formatChangeState ≠ .waitForSerial := by
        rcases hloop.2 with hstate | hstate <;> rw [hstate] <;> exact FormatChangeState.noConfusion
      cases hb : d.out.port.getBuffer with
      | none =>
        rw [List.append_nil]
        exact h
      | some b =>
        have hround := h.deliverRound (r := r) halloc hpre (hready f (List.mem_cons_self ..)) hdelivered hopen hb
        dsimp only
        split
        · next hmore =>
          obtain ⟨f', hnot, halloc'⟩ := deliverRound_alloc h.queue halloc hmore
          rw [← List.append_assoc]
          refine EosKept.deliver rest (pre ++ [f']) _ _ halloc' (fun k hk => ?_)
            (fun k hk => hready k (List.mem_cons_of_mem _ hk)) hround
          rcases List.mem_append.mp hk with hk | hk
          · exact hpre k hk
          · rw [List.mem_singleton.mp hk]
            exact hnot
        · rw [List.append_nil]
          exact hround

theorem EosKept.take (h : EosKept mode packets filled d) (n : Nat) :
    EosKept mode packets filled { d with out := d.out.getDecodedFrames n } :=
  h.setOut (h.queue.getDecodedFrames n) (.getDecodedFrames h.queue n)

theorem EosKept.poll (h : EosKept mode packets filled d) :
    EosKept mode packets (filled ++ d.pollFilled r) (d.pollDecodedFrames r) := by
  simp only [pollFilled, pollDecodedFrames]
  split
  · rw [List.append_nil]
    exact h
  · have htaken := h.take r.numFrames
    split
    · refine EosKept.deliver _ ((d.out.getDecodedFrames r.numFrames).frameBufferAllocList.takeWhile fun f => !f.isReady)
        filled _ List.takeWhile_append_dropWhile.symm (fun f hf => ?_) (fun f hf => ?_) htaken
      · simpa using List.mem_takeWhile_imp hf
      · rw [dropWhile_eq_filter htaken.queue.aligned.readyLast, List.mem_filter] at hf
        simpa using hf.2
    · rw [List.append_nil]
      exact htaken

theorem EosKept.returned (h : EosKept mode packets filled d) (hflush : d.out.outputFlushing = false) :
    EosKept mode packets (filled ++ d.returnFilled r) (d.returnDecodedFrames r) := by
  have hback : EosKept mode packets filled { d with out := d.out.returnDecodedFrames.1 } :=
    h.setOut (h.queue.returnDecodedFrames hflush) (.returnDecodedFrames h.queue hflush)
  simp only [returnFilled, VideoDecoder.returnDecodedFrames]
  split
  · exact hback.poll
  · rw [List.append_nil]
    exact hback

end
end VideoDecoder
end BcmPlatform.Bomx
