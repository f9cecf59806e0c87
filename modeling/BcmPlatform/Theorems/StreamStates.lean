import BcmPlatform.Theorems.StreamSteps

/-! What the state changes do to the end of the stream: a stop and a release end the stream, and every other change
    keeps it, as long as the buffers that come back have no end-of-stream flag. -/

namespace BcmPlatform.Bomx
open Lib OutputSide
namespace VideoDecoder

/-- No output buffer that the component holds has the end-of-stream flag. -/
def queueUnflagged (d : VideoDecoder) : Bool := d.out.port.bufferQueue.all fun b => !(d.out.buffer b).header.nFlags.eos

/-- What the hardware holds and what the client got after a change of the state: nothing once the decoder is stopped or
    released. -/
def Settles (mode : OutputMode) (packets : List Packet) (filled new : List FilledBuffer) (d d' : VideoDecoder) : Prop :=
  let stopped := d.out.nexus.started && !d'.out.nexus.started
  let released := d.out.hSimpleVideoDecoder && !d'.out.hSimpleVideoDecoder
  StreamKept mode (if stopped || released then [] else packets) (if stopped then [] else filled ++ new) d'

/-- The playpump of a decoder that is started does not fail while the end of the stream is pending. -/
def StartSafe (newState : OmxState) (n : StartResult) (d : VideoDecoder) : Prop :=
  newState = .executing → d.out.nexus.started = false → (d.out.hSimpleVideoDecoder || n.acquired) = true →
    (d.inp.port.isPopulated && d.inp.port.isEnabled) = true → n.decoder = true → n.playpump = false →
    d.inp.eosPending = false

/-- A change of the state that can start gives back no buffer with the flag unless it stops the decoder. -/
def StateSetOk (newState : OmxState) (n : StartResult) (d : VideoDecoder) : Prop :=
  d.stateChangeAllowed newState = true → d.StartSafe newState n ∧
    (newState = .idle → d.currentState ≠ .loaded → d.out.port.isPopulated = true →
      (d.out.nexus.started && d.inp.port.isPopulated) = false → d.queueUnflagged = true)

/-- To Loaded, the output port was enabled, and the decoder is released. -/
def WaitClosed (d : VideoDecoder) : Prop :=
  match d.portWait with
  | some (.depopulateInput _ outputPortEnabled) | some (.depopulateOutput _ outputPortEnabled) =>
    outputPortEnabled = true ∧ d.out.hSimpleVideoDecoder = false
  | _ => True

/-- The decoder is neither stopped nor released. -/
structure Onward (d d' : VideoDecoder) : Prop where
  started : d.out.nexus.started = true → d'.out.nexus.started = true
  acquired : d.out.hSimpleVideoDecoder = true → d'.out.hSimpleVideoDecoder = true

section
variable {mode : OutputMode} {packets : List Packet} {filled filled' new : List FilledBuffer} {d d' : VideoDecoder}
  {r r' : PollResult}

theorem Onward.trans {d'' : VideoDecoder} (h : Onward d d') (h' : Onward d' d'') : Onward d d'' :=
  ⟨h'.started ∘ h.started, h'.acquired ∘ h.acquired⟩

theorem Onward.of_flags (h : d'.flags = d.flags) : Onward d d' :=
  ⟨(started_of_flags h).trans, (hSimpleVideoDecoder_of_flags h).trans⟩

theorem Onward.of_out (hstarted : d'.out.nexus.started = d.out.nexus.started)
    (hopen : d'.out.hSimpleVideoDecoder = d.out.hSimpleVideoDecoder) : Onward d d' := ⟨hstarted.trans, hopen.trans⟩

theorem filledQueue_unflagged (h : d.queueUnflagged = true) : ∀ y ∈ d.filledQueue, y.eos = false ∧ y.data = false := by
  intro y hy
  obtain ⟨b, hb, rfl⟩ := List.mem_map.mp hy
  have hflag := List.all_eq_true.mp h b hb
  exact ⟨by simpa [filledBuffer] using hflag, rfl⟩

namespace Settles

theorem running (h : StreamKept mode packets (filled ++ new) d') (honward : Onward d d') :
    Settles mode packets filled new d d' := by
  have hnotStopped : (d.out.nexus.started && !d'.out.nexus.started) = false := by
    cases hs : d.out.nexus.started with
    | false => rfl
    | true => rw [honward.started hs]; rfl
  have hnotReleased : (d.out.hSimpleVideoDecoder && !d'.out.hSimpleVideoDecoder) = false := by
    cases hs : d.out.hSimpleVideoDecoder with
    | false => rfl
    | true => rw [honward.acquired hs]; rfl
  rw [Settles, hnotStopped, hnotReleased]
  exact h

theorem stopped (h : StreamKept mode [] [] d') (hstarted : d.out.nexus.started = true)
    (hstopped : d'.out.nexus.started = false) : Settles mode packets filled new d d' := by
  rw [Settles, hstarted, hstopped]
  exact h

theorem released (h : StreamKept mode [] (filled ++ new) d') (hstopped : d.out.nexus.started = false)
    (hopen : d.out.hSimpleVideoDecoder = true) (hclosed : d'.out.hSimpleVideoDecoder = false) :
    Settles mode packets filled new d d' := by
  rw [Settles, hstopped, hopen, hclosed]
  exact h

end Settles

namespace StreamKept

/-! ### The output port -/

theorem returnPortBuffers (h : StreamKept mode packets filled d) :
    StreamKept mode packets filled { d with out := d.out.returnPortBuffers } :=
  h.setOut h.eos.queue.returnPortBuffers (.returnPortBuffers d.out) (congrArg (fun v => v.2.2.1) returnPortBuffers_flags)

theorem unload (h : StreamKept mode packets filled d) : StreamKept mode packets filled { d with out := d.out.unload } :=
  h.setOut h.eos.queue.unload (.unload d.out)
    (congrArg (fun v => v.2.2.2.2.2.1) (setOutputPortState_flags (d := d) (r := {}) .loaded))

theorem portFlags (h : StreamKept mode packets filled d) {port : Port}
    (hport : ∃ bEnabled bPopulated, port = { d.out.port with
      definition := { d.out.port.definition with bEnabled, bPopulated } }) :
    StreamKept mode packets filled { d with out := { d.out with port } } := by
  obtain ⟨bEnabled, bPopulated, rfl⟩ := hport
  exact h.setOut (h.eos.queue.congr rfl rfl rfl rfl rfl (fun _ => rfl) (fun _ => rfl) id) ⟨rfl, rfl, rfl, rfl, id⟩ rfl

theorem disabled (h : StreamKept mode packets filled d) :
    StreamKept mode packets filled { d with out := { d.out with port := d.out.port.disabled } } :=
  h.portFlags d.out.port.disabled_eq

theorem reenabled (h : StreamKept mode packets filled d) (enabled : Bool) :
    StreamKept mode packets filled { d with out := { d.out with port := d.out.port.reenabled enabled } } :=
  h.portFlags (d.out.port.reenabled_eq enabled)

theorem setOutputPortState (h : StreamKept mode packets filled d) {newState : OmxState}
    (hqueue : newState = .loaded ∨ newState = .idle → d.queueUnflagged = true) :
    StreamKept mode packets (filled ++ d.setOutputFilled newState r) (d.setOutputPortState newState r) := by
  have hpoll : StreamKept mode packets
      (filled ++ if d.out.hSimpleVideoDecoder && d.out.nexus.started then d.pollFilled r else [])
      (if d.out.hSimpleVideoDecoder && d.out.nexus.started then d.pollDecodedFrames r else d) := by
    by_cases hon : (d.out.hSimpleVideoDecoder && d.out.nexus.started) = true
    · rw [if_pos hon, if_pos hon]
      exact h.poll
    · rw [if_neg hon, if_neg hon, List.append_nil]
      exact h
  cases newState with
  | loaded => exact h.unload.append (filledQueue_unflagged (hqueue (.inl rfl)))
  | idle => exact h.returnPortBuffers.append (filledQueue_unflagged (hqueue (.inr rfl)))
  | executing => exact hpoll
  | pause => exact hpoll
  | waitForResources => exact hpoll
  | invalid => exact hpoll

theorem disableOutput (h : StreamKept mode packets filled d) (hqueue : d.queueUnflagged = true) :
    StreamKept mode packets (filled ++ d.filledQueue) (d.disableOutput r) :=
  (h.disabled.unload.append (filledQueue_unflagged hqueue)).returnPortBuffers

/-! ### The decoder -/

theorem not_started (h : StreamKept mode packets filled d) (hclosed : d.out.hSimpleVideoDecoder = false) :
    d.out.nexus.started = false := by
  by_contra hstarted
  rw [h.eos.queue.acquired (by simpa using hstarted)] at hclosed
  cases hclosed

theorem acquire (h : StreamKept mode packets filled d) : StreamKept mode packets filled d.acquire := by
  have hopened : StreamKept mode packets filled { d with inp := d.inp.openPlaypump } := h.setInp rfl rfl rfl
  exact hopened.setOut h.eos.queue.acquire ⟨rfl, rfl, rfl, rfl, id⟩ rfl

/-- The buffers of a decoder that is started. -/
def startFilled (n : StartResult) (r : PollResult) (d : VideoDecoder) : List FilledBuffer :=
  if n.decoder && n.playpump && d.out.port.isEnabled then
    { d with inp := d.inp.start, out := d.out.nexusStart }.pollFilled r
  else []

theorem startDecoder (h : StreamKept mode packets filled d) (hopen : d.out.hSimpleVideoDecoder = true)
    (hstopped : d.out.nexus.started = false) (n : StartResult)
    (hfail : n.decoder = true → n.playpump = false → d.inp.eosPending = false) :
    StreamKept mode packets (filled ++ startFilled n r d) (d.startDecoder n r).1 := by
  have hempty : d.out.nexus.fifo = [] := h.eos.queue.stopped hstopped
  simp only [VideoDecoder.startDecoder, startFilled]
  cases hdecoder : n.decoder with
  | false =>
    rw [Bool.not_false, if_pos rfl, Bool.false_and, Bool.false_and, if_neg Bool.false_ne_true, List.append_nil]
    exact h
  | true =>
    rw [Bool.not_true, if_neg Bool.false_ne_true, Bool.true_and]
    cases hplaypump : n.playpump with
    | false =>
      rw [Bool.not_false, if_pos rfl, Bool.false_and, if_neg Bool.false_ne_true, List.append_nil]
      obtain ⟨hdelivered, hreceived⟩ := h.eos.stopped hstopped
      refine ⟨h.eos.congr (h.eos.queue.startFailed hstopped) ?_ (fun _ => hstopped) id, h.mode, h.notFlushing⟩
      have hund : ({ d.out.nexusStart.nexusStop with eosDelivered := false, eosReceived := false } : OutputSide).undelivered =
          d.out.undelivered := undelivered_congr rfl hempty.symm
      simp only [streamEnd, hund, hfail hdecoder hplaypump, hdelivered, hreceived]
    | true =>
      rw [Bool.not_true, if_neg Bool.false_ne_true, Bool.true_and]
      have hstart : StreamKept mode packets filled { d with inp := d.inp.start, out := d.out.nexusStart } := by
        refine ⟨h.eos.congr (h.eos.queue.nexusStart hopen hstopped) ?_ (fun hs => by cases hs) id, h.mode, h.notFlushing⟩
        have hund : d.out.nexusStart.undelivered = d.out.undelivered := undelivered_congr rfl hempty.symm
        simp only [streamEnd, hund]
        rfl
      have hsame : d.out.nexusStart.port.isEnabled = d.out.port.isEnabled := rfl
      rw [hsame]
      by_cases henabled : d.out.port.isEnabled = true
      · rw [if_pos henabled, if_pos henabled]
        exact hstart.poll
      · rw [if_neg henabled, if_neg henabled, List.append_nil]
        exact hstart

theorem stop (h : StreamKept mode packets filled d) :
    StreamKept mode [] [] { d with inp := d.inp.stop, out := d.out.stop } := by
  have hqueue : FrameQueue mode d.out.stop := h.eos.queue.stop
  have hend := InputSide.stop_endState (s := d.inp)
  rw [InputSide.endState, Prod.mk.injEq] at hend
  exact h.emptied hqueue (undelivered_of_stopped hqueue rfl) hend.1 ⟨rfl, rfl⟩ (List.nil_sublist _)
    (fun hmem => absurd hmem List.not_mem_nil) (FilledOk.nil _) id rfl h.notFlushing

theorem release (h : StreamKept mode packets filled d) (hopen : d.out.hSimpleVideoDecoder = true)
    (hfilled : FilledOk false filled') :
    StreamKept mode [] filled' { d with inp := d.inp.release, out := d.out.release } := by
  have hqueue : FrameQueue mode d.out.release := h.eos.queue.release
  have hrelease : d.out.release = { d.out.invalidateDecodedFrames.nexusStop with
      eosDelivered := false, eosReceived := false, displayFrameAvailable := false, hSimpleVideoDecoder := false
      lastReturnedSerial := 0, formatChangeState := .none } := if_pos hopen
  refine h.emptied hqueue (undelivered_of_stopped hqueue ?_) rfl ?_ (List.nil_sublist _)
    (fun hmem => absurd hmem List.not_mem_nil) hfilled ?_ rfl ?_
  · rw [hrelease]
    rfl
  · rw [hrelease]
    exact ⟨rfl, rfl⟩
  · rw [hrelease]
    exact id
  · rw [hrelease]
    exact h.notFlushing

theorem releaseClosed (h : StreamKept mode packets filled d) (hclosed : d.out.hSimpleVideoDecoder = false) :
    StreamKept mode packets filled { d with out := d.out.release } := by
  have hstopped := h.not_started hclosed
  have hqueue : FrameQueue mode d.out.release := h.eos.queue.release
  have hrelease : d.out.release = d.out.invalidateDecodedFrames := if_neg (by
    change ¬ d.out.hSimpleVideoDecoder = true
    rw [hclosed]
    exact Bool.false_ne_true)
  have hund : d.out.release.undelivered = d.out.undelivered := by
    rw [undelivered_of_stopped h.eos.queue hstopped]
    refine undelivered_of_stopped hqueue ?_
    rw [hrelease]
    exact hstopped
  rw [hrelease] at hqueue hund ⊢
  exact h.setOut hqueue ⟨hund, rfl, rfl, rfl, id⟩ rfl

/-! ### The input port -/

theorem onward_startDecoder (n : StartResult) (hstopped : d.out.nexus.started = false) :
    Onward d (d.startDecoder n r).1 := by
  refine ⟨fun hstarted => ?_, fun hopen => ?_⟩
  · rw [hstopped] at hstarted
    cases hstarted
  · simp only [VideoDecoder.startDecoder]
    split
    · exact hopen
    · split
      · exact hopen
      · have hflags : ∀ d₁ : VideoDecoder, (d₁.pollDecodedFrames r).out.hSimpleVideoDecoder = d₁.out.hSimpleVideoDecoder :=
          fun d₁ => hSimpleVideoDecoder_of_flags (pollDecodedFrames_flags rfl)
        split
        · rw [hflags]
          exact hopen
        · exact hopen

theorem setInputAcquired (h : StreamKept mode packets filled d) (hopen : d.out.hSimpleVideoDecoder = true)
    {newState : OmxState} (hloaded : newState ≠ .loaded) (hidle : newState ≠ .idle) (n : StartResult)
    (hfail : newState = .executing → d.out.nexus.started = false → n.decoder = true → n.playpump = false →
      d.inp.eosPending = false) :
    StreamKept mode packets
      (filled ++ if newState = .executing && !d.out.nexus.started then startFilled n r d else [])
      (match newState with
        | .idle => (if d.out.nexus.started then { d with inp := d.inp.stop, out := d.out.stop } else d, true)
        | .executing => if d.out.nexus.started then (d, n.trick) else d.startDecoder n r
        | .pause => (d, !d.out.nexus.started || n.trick)
        | _ => (d, false)).1 ∧
    Onward d
      (match newState with
        | .idle => (if d.out.nexus.started then { d with inp := d.inp.stop, out := d.out.stop } else d, true)
        | .executing => if d.out.nexus.started then (d, n.trick) else d.startDecoder n r
        | .pause => (d, !d.out.nexus.started || n.trick)
        | _ => (d, false)).1 := by
  have hself : StreamKept mode packets (filled ++ []) d := by
    rw [List.append_nil]
    exact h
  cases newState with
  | loaded => exact absurd rfl hloaded
  | idle => exact absurd rfl hidle
  | executing =>
    cases hstarted : d.out.nexus.started with
    | true => exact ⟨hself, .of_out rfl rfl⟩
    | false => exact ⟨h.startDecoder hopen hstarted n (hfail rfl hstarted), onward_startDecoder n hstarted⟩
  | pause => exact ⟨hself, .of_out rfl rfl⟩
  | waitForResources => exact ⟨hself, .of_out rfl rfl⟩
  | invalid => exact ⟨hself, .of_out rfl rfl⟩

theorem setInputRunning (h : StreamKept mode packets filled d) {newState : OmxState} (hloaded : newState ≠ .loaded)
    (hidle : newState ≠ .idle) (n : StartResult)
    (hfail : newState = .executing → d.out.nexus.started = false →
      (d.out.hSimpleVideoDecoder || n.acquired) = true → n.decoder = true → n.playpump = false →
      d.inp.eosPending = false) :
    StreamKept mode packets
      (filled ++ if d.out.hSimpleVideoDecoder || n.acquired then d.setInputFilled newState n r else [])
      (d.setInputPortState newState n r).1 ∧
    Onward d (d.setInputPortState newState n r).1 := by
  have hself : StreamKept mode packets (filled ++ []) d := by
    rw [List.append_nil]
    exact h
  have hsame : ∀ d₁ : VideoDecoder, (if newState = .executing && !d₁.out.nexus.started then startFilled n r d₁ else []) =
      if newState = .executing && !d₁.out.nexus.started && n.decoder && n.playpump && d₁.out.port.isEnabled then
        { d₁ with inp := d₁.inp.start, out := d₁.out.nexusStart }.pollFilled r
      else [] := by
    intro d₁
    by_cases hstart : (newState = .executing && !d₁.out.nexus.started) = true
    · rw [if_pos hstart, hstart, Bool.true_and]
      rfl
    · rw [if_neg hstart, Bool.eq_false_iff.mpr hstart, Bool.false_and, Bool.false_and, Bool.false_and,
        if_neg Bool.false_ne_true]
  simp only [VideoDecoder.setInputPortState, if_neg hloaded, setInputFilled]
  cases hopen : d.out.hSimpleVideoDecoder with
  | true =>
    have hset := h.setInputAcquired (r := r) hopen hloaded hidle n
      fun hexec hstopped => hfail hexec hstopped (by rw [hopen, Bool.true_or])
    rw [hsame] at hset
    exact hset
  | false =>
    cases hacquired : n.acquired with
    | false => exact ⟨hself, .of_out rfl rfl⟩
    | true =>
      have hset := h.acquire.setInputAcquired (r := r) rfl hloaded hidle n
        fun hexec hstopped => hfail hexec hstopped (by rw [hacquired, Bool.or_true])
      rw [hsame] at hset
      have hacquire : Onward d d.acquire := ⟨id, fun _ => rfl⟩
      exact ⟨hset.1, hacquire.trans hset.2⟩

theorem setInputIdle (h : StreamKept mode packets filled d) (n : StartResult) :
    (d.out.nexus.started = true → StreamKept mode [] [] (d.setInputPortState .idle n r).1 ∧
      (d.setInputPortState .idle n r).1.out.nexus.started = false) ∧
    (d.out.nexus.started = false → StreamKept mode packets filled (d.setInputPortState .idle n r).1 ∧
      Onward d (d.setInputPortState .idle n r).1) := by
  simp only [VideoDecoder.setInputPortState, if_neg (show OmxState.idle ≠ .loaded from OmxState.noConfusion)]
  cases hopen : d.out.hSimpleVideoDecoder with
  | true =>
    refine ⟨fun hstarted => ?_, fun hstopped => ?_⟩
    · rw [Bool.not_true, Bool.false_and, if_neg Bool.false_ne_true, if_pos rfl, if_pos hstarted]
      exact ⟨h.stop, rfl⟩
    · rw [Bool.not_true, Bool.false_and, if_neg Bool.false_ne_true, if_pos rfl, if_neg (by simp [hstopped])]
      exact ⟨h, .of_out rfl rfl⟩
  | false =>
    have hstopped := h.not_started hopen
    refine ⟨fun hstarted => ?_, fun _ => ?_⟩
    · rw [hstopped] at hstarted
      cases hstarted
    · cases hacquired : n.acquired with
      | false => exact ⟨h, .of_out rfl rfl⟩
      | true =>
        have hsame : d.acquire.out.nexus.started = false := hstopped
        rw [Bool.not_true, Bool.and_false, if_neg Bool.false_ne_true, if_neg Bool.false_ne_true,
          if_neg (by simp [hsame])]
        exact ⟨h.acquire, id, fun _ => rfl⟩

/-! ### State changes -/

theorem endStateChange (h : StreamKept mode packets filled d) (ok : Bool) :
    StreamKept mode packets filled (d.endStateChange ok) := by
  unfold VideoDecoder.endStateChange
  split <;> exact h.setInp rfl rfl rfl

end StreamKept

theorem disableOutput_decoder (d : VideoDecoder) : (d.disableOutput r).out.nexus.started = d.out.nexus.started ∧
    (d.disableOutput r).out.hSimpleVideoDecoder = d.out.hSimpleVideoDecoder := by
  have hunload := setOutputPortState_flags (r := r) (d := { d with out := { d.out with port := d.out.port.disabled } }) .loaded
  have hback := returnPortBuffers_flags (s := { d.out with port := d.out.port.disabled }.unload)
  simp only [OutputSide.decoderFlags, Prod.mk.injEq] at hback
  exact ⟨hback.2.1.trans (started_of_flags hunload), hback.1.trans (hSimpleVideoDecoder_of_flags hunload)⟩

@[simp] theorem endStateChange_out (ok : Bool) (d : VideoDecoder) : (d.endStateChange ok).out = d.out := by
  unfold endStateChange
  split <;> rfl

theorem Settles.endStateChange (h : Settles mode packets filled new d d') (ok : Bool) :
    Settles mode packets filled new d (d'.endStateChange ok) := by
  rw [Settles] at h ⊢
  rw [endStateChange_out]
  exact StreamKept.endStateChange h ok

theorem Settles.returnPortBuffers (h : Settles mode packets filled new d d') :
    Settles mode packets filled new d { d' with out := d'.out.returnPortBuffers } := by
  have hport := (returnPortBuffers_port (s := d'.out)).1
  have hstarted : d'.out.returnPortBuffers.nexus.started = d'.out.nexus.started := by rw [hport]
  have hopen : d'.out.returnPortBuffers.hSimpleVideoDecoder = d'.out.hSimpleVideoDecoder := by rw [hport]
  rw [Settles] at h ⊢
  rw [hstarted, hopen]
  exact StreamKept.returnPortBuffers h

namespace StreamKept

theorem settles (h : StreamKept mode packets filled d) (hnew : ∀ y ∈ new, y.eos = false ∧ y.data = false)
    (hsame : Onward d d') (hkept : StreamKept mode packets filled d → StreamKept mode packets filled d') :
    Settles mode packets filled new d d' := .running ((hkept h).append hnew) hsame

theorem settlesIdle (h : StreamKept mode packets filled d) (n : StartResult)
    (hnew : d.out.nexus.started = false → ∀ y ∈ new, y.eos = false ∧ y.data = false) :
    Settles mode packets filled new d (d.setInputPortState .idle n r).1 := by
  obtain ⟨hstop, hkeep⟩ := h.setInputIdle (r := r) n
  cases hstarted : d.out.nexus.started with
  | true => exact .stopped (hstop hstarted).1 hstarted (hstop hstarted).2
  | false => exact .running ((hkeep hstarted).1.append (hnew hstarted)) (hkeep hstarted).2

theorem setRunningInput (h : StreamKept mode packets filled d) {newState : OmxState} (hloaded : newState ≠ .loaded)
    (hidle : newState ≠ .idle) (n : StartResult)
    (hfail : d.StartSafe newState n) (hin : (d.inp.port.isPopulated && d.inp.port.isEnabled) = true) :
    StreamKept mode packets
      (filled ++ if (d.out.hSimpleVideoDecoder || n.acquired) && d.inp.port.isPopulated && d.inp.port.isEnabled then
        d.setInputFilled newState n r else [])
      ((d.setInputPortState newState n r).1.endStateChange (d.setInputPortState newState n r).2) ∧
    Onward d ((d.setInputPortState newState n r).1.endStateChange (d.setInputPortState newState n r).2) := by
  obtain ⟨hkept, honward⟩ := h.setInputRunning (r := r) hloaded hidle n
    fun hexec hstopped hacquired => hfail hexec hstopped hacquired hin
  rw [Bool.and_assoc, hin, Bool.and_true]
  refine ⟨hkept.endStateChange _, honward.trans (.of_out ?_ ?_)⟩
  · rw [endStateChange_out]
  · rw [endStateChange_out]

theorem setRunning (h : StreamKept mode packets filled d) {newState : OmxState} (hloaded : newState ≠ .loaded)
    (hidle : newState ≠ .idle) (n : StartResult) (hfail : d.StartSafe newState n) :
    let output := d.out.port.isPopulated && d.out.port.isEnabled
    let polled := if output then d.setOutputPortState newState r else d
    Settles mode packets filled ((if output then d.setOutputFilled newState r else []) ++
      if (polled.out.hSimpleVideoDecoder || n.acquired) && polled.inp.port.isPopulated && polled.inp.port.isEnabled then
        polled.setInputFilled newState n r' else []) d (d.setRunning newState n r r') := by
  have hrest : ∀ {d₁ : VideoDecoder} {new₁ : List FilledBuffer}, StreamKept mode packets (filled ++ new₁) d₁ →
      Onward d d₁ → d₁.StartSafe newState n →
      Settles mode packets filled (new₁ ++
        if (d₁.out.hSimpleVideoDecoder || n.acquired) && d₁.inp.port.isPopulated && d₁.inp.port.isEnabled then
          d₁.setInputFilled newState n r' else []) d
        (if d₁.inp.port.isPopulated && d₁.inp.port.isEnabled then
          (d₁.setInputPortState newState n r').1.endStateChange (d₁.setInputPortState newState n r').2
        else d₁.endStateChange true) := by
    intro d₁ new₁ h₁ honward hfail₁
    by_cases hin : (d₁.inp.port.isPopulated && d₁.inp.port.isEnabled) = true
    · obtain ⟨hkept, hset⟩ := h₁.setRunningInput (r := r') hloaded hidle n hfail₁ hin
      rw [if_pos hin]
      rw [List.append_assoc] at hkept
      exact .running hkept (honward.trans hset)
    · rw [if_neg hin, Bool.and_assoc, Bool.eq_false_iff.mpr hin, Bool.and_false, if_neg Bool.false_ne_true,
        List.append_nil]
      exact (Settles.running h₁ honward).endStateChange true
  simp only [VideoDecoder.setRunning]
  by_cases hout : (d.out.port.isPopulated && d.out.port.isEnabled) = true
  · simp only [if_pos hout]
    have hflags := setOutputPortState_flags (d := d) (r := r) newState
    refine hrest (h.setOutputPortState fun hstate => ?_) (.of_flags hflags) fun hexec hstopped => ?_
    · rcases hstate with hstate | hstate
      · exact absurd hstate hloaded
      · exact absurd hstate hidle
    · -- a decoder that is not started is not polled
      rw [started_of_flags hflags] at hstopped
      subst hexec
      simp only [VideoDecoder.setOutputPortState, hstopped, Bool.and_false, Bool.false_eq_true, if_false]
      exact hfail rfl hstopped
  · simp only [if_neg hout]
    have hself : StreamKept mode packets (filled ++ []) d := by
      rw [List.append_nil]
      exact h
    exact hrest hself (.of_out rfl rfl) hfail

theorem setIdle (h : StreamKept mode packets filled d) (n : StartResult)
    (hqueue : d.out.port.isPopulated = true → (d.out.nexus.started && d.inp.port.isPopulated) = false →
      d.queueUnflagged = true) :
    Settles mode packets filled (if d.out.port.isPopulated then d.filledQueue else []) d (d.setIdle n r) := by
  have hnew : (d.out.nexus.started && d.inp.port.isPopulated) = false →
      ∀ y ∈ if d.out.port.isPopulated then d.filledQueue else [], y.eos = false ∧ y.data = false := by
    intro hrunning y hy
    by_cases hpopulated : d.out.port.isPopulated = true
    · rw [if_pos hpopulated] at hy
      exact filledQueue_unflagged (hqueue hpopulated hrunning) y hy
    · rw [if_neg hpopulated] at hy
      exact absurd hy List.not_mem_nil
  have hconfig : StreamKept mode packets filled { d with inp := d.inp.configBufferInit } := h.setInp rfl rfl rfl
  have hinput : Settles mode packets filled (if d.out.port.isPopulated then d.filledQueue else []) d
      (if d.inp.port.isPopulated then ({ d with inp := d.inp.configBufferInit }.setInputPortState .idle n r).1
        else { d with inp := d.inp.configBufferInit }) := by
    by_cases hpopulated : d.inp.port.isPopulated = true
    · rw [if_pos hpopulated]
      refine hconfig.settlesIdle n fun hstopped => hnew ?_
      have hstopped : d.out.nexus.started = false := hstopped
      rw [hstopped, Bool.false_and]
    · rw [if_neg hpopulated]
      refine .running (hconfig.append (hnew ?_)) (.of_out rfl rfl)
      rw [Bool.eq_false_iff.mpr hpopulated, Bool.and_false]
  have hrest : ∀ {d₁ : VideoDecoder} {new₁ : List FilledBuffer}, Settles mode packets filled new₁ d d₁ →
      Settles mode packets filled new₁ d (if d₁.out.port.isPopulated then d₁.setOutputPortState .idle r else d₁) := by
    intro d₁ new₁ h₁
    split
    · exact h₁.returnPortBuffers
    · exact h₁
  exact (hrest hinput).endStateChange true

theorem setLoaded (h : StreamKept mode packets filled d) (n : StartResult) (henabled : d.inp.port.isEnabled = true) :
    Settles mode packets filled [] d (d.setLoaded n r) ∧ (d.setLoaded n r).out.hSimpleVideoDecoder = false := by
  have hout : (d.setLoaded n r).out = d.out.release := by
    simp only [VideoDecoder.setLoaded, henabled, if_true]
    rfl
  have hmode : (d.setLoaded n r).outputMode = d.outputMode := by
    simp only [VideoDecoder.setLoaded, henabled, if_true]
    rfl
  have hinp : (d.setLoaded n r).inp.endState = if d.out.hSimpleVideoDecoder then ([], false) else d.inp.endState := by
    simp only [VideoDecoder.setLoaded, henabled, if_true, VideoDecoder.disableInput, setInputPortState]
    rw [InputSide.returnPortBuffers_endState]
    split <;> rfl
  have hclosed : d.out.release.hSimpleVideoDecoder = false := by
    simp only [OutputSide.release]
    split
    · rfl
    · next hclosed => exact Bool.eq_false_iff.mpr hclosed
  refine ⟨?_, by rw [hout, hclosed]⟩
  cases hopen : d.out.hSimpleVideoDecoder with
  | true =>
    rw [hopen, if_pos rfl] at hinp
    have hrelease : ∀ {filled' : List FilledBuffer}, FilledOk false filled' →
        StreamKept mode [] filled' (d.setLoaded n r) := fun hfilled =>
      (h.release hopen hfilled).setInp hinp hout hmode
    have hstopped : d.out.release.nexus.started = false := by
      simp only [OutputSide.release]
      rw [if_pos (show d.out.invalidateDecodedFrames.hSimpleVideoDecoder = true from hopen)]
      rfl
    cases hstarted : d.out.nexus.started with
    | true => exact .stopped (hrelease (FilledOk.nil _)) hstarted (by rw [hout, hstopped])
    | false =>
      refine .released (hrelease ?_) hstarted hopen (by rw [hout, hclosed])
      have hfilled := h.eos.filled
      rw [(h.eos.stopped hstarted).1] at hfilled
      rw [List.append_nil]
      exact hfilled
  | false =>
    rw [hopen, if_neg Bool.false_ne_true] at hinp
    have hstopped := h.not_started hopen
    refine .running ?_ ⟨fun hstarted => ?_, fun hs => ?_⟩
    · rw [List.append_nil]
      exact (h.releaseClosed hopen).setInp hinp hout hmode
    · rw [hstopped] at hstarted
      cases hstarted
    · rw [hopen] at hs
      cases hs

theorem commandStateSet (h : StreamKept mode packets filled d) (newState : OmxState) (n : StartResult)
    (r r' : PollResult) (henabled : d.inp.port.isEnabled = true) (houtput : d.out.port.isEnabled = true) (hwait : d.portWait = none)
    (hsafe : d.StateSetOk newState n) :
    Settles mode packets filled (d.stateSetFilled newState n r r') d (d.commandStateSet newState n r r') ∧
      (d.commandStateSet newState n r r').WaitClosed := by
  have hself : StreamKept mode packets (filled ++ []) d := by
    rw [List.append_nil]
    exact h
  have htarget : StreamKept mode packets filled { d with targetState := newState } := h.setInp rfl rfl rfl
  have hended : ∀ (ok : Bool) (d₁ : VideoDecoder), (d₁.endStateChange ok).WaitClosed := by
    intro ok d₁
    unfold VideoDecoder.endStateChange
    split <;> trivial
  simp only [stateSetFilled, VideoDecoder.commandStateSet]
  by_cases hallowed : d.stateChangeAllowed newState = true
  · obtain ⟨hstart, hidle⟩ := hsafe hallowed
    rw [hallowed, Bool.not_true, if_neg Bool.false_ne_true, if_neg Bool.false_ne_true]
    have hself' : StreamKept mode packets (filled ++ []) { d with targetState := newState } := hself.setInp rfl rfl rfl
    have hrunning : ∀ state : OmxState, ({ d with targetState := newState }.setRunning state n r r').WaitClosed := by
      intro state
      simp only [VideoDecoder.setRunning]
      split
      · split <;> exact hended _ _
      · split <;> exact hended _ _
    cases newState with
    | loaded =>
      obtain ⟨hset, hclosed⟩ := htarget.setLoaded (r := r) n henabled
      have hport : ({ d with targetState := .loaded }.setLoaded n r).portWait =
          some (.depopulateInput d.inp.port.isEnabled d.out.port.isEnabled) := rfl
      refine ⟨hset, ?_⟩
      rw [WaitClosed, hport]
      exact ⟨houtput, hclosed⟩
    | idle =>
      dsimp only
      by_cases hloaded : d.currentState = .loaded
      · rw [if_neg (by simp [hloaded]), if_pos hloaded]
        refine ⟨.running ?_ (.of_out rfl rfl), trivial⟩
        rw [List.append_nil]
        exact h.setInp rfl rfl rfl
      · have hnot : decide (d.currentState ≠ .loaded) = true := decide_eq_true hloaded
        rw [if_neg hloaded, hnot, Bool.true_and]
        refine ⟨htarget.setIdle n (hidle rfl hloaded), ?_⟩
        simp only [VideoDecoder.setIdle]
        exact hended _ _
    | executing =>
      exact ⟨htarget.setRunning OmxState.noConfusion OmxState.noConfusion n hstart, hrunning _⟩
    | pause =>
      exact ⟨htarget.setRunning OmxState.noConfusion OmxState.noConfusion n hstart, hrunning _⟩
    | waitForResources => exact ⟨(Settles.running hself' (.of_out rfl rfl)).endStateChange false, hended _ _⟩
    | invalid => exact ⟨(Settles.running hself' (.of_out rfl rfl)).endStateChange false, hended _ _⟩
  · rw [Bool.eq_false_iff.mpr hallowed, Bool.not_false, if_pos rfl, if_pos rfl]
    refine ⟨.running hself (.of_out rfl rfl), ?_⟩
    rw [WaitClosed, hwait]
    trivial

/-! ### Waiting commands -/

theorem clearAllocList (h : StreamKept mode packets filled d) (hempty : d.out.port.bufferList = [])
    (hclosed : d.out.hSimpleVideoDecoder = false) :
    StreamKept mode packets filled { d with out := d.out.clearAllocList } := by
  have hstopped := h.not_started hclosed
  have hqueue := h.eos.queue.clearAllocList hempty
  refine h.setOut hqueue ⟨?_, rfl, rfl, rfl, id⟩ rfl
  rw [undelivered_of_stopped h.eos.queue hstopped, undelivered_of_stopped hqueue hstopped]

theorem setIdleFromLoaded (h : StreamKept mode packets filled d) (n : StartResult)
    (hnew : ∀ y ∈ new, y.eos = false ∧ y.data = false) : Settles mode packets filled new d (d.setIdleFromLoaded n r) := by
  have hrest : ∀ (d₁ : VideoDecoder) (inputEnabled outputEnabled : Bool), StreamKept mode packets filled d₁ →
      Settles mode packets filled new d₁ (if d₁.inp.port.isPopulated && d₁.inp.port.isEnabled then
        if (d₁.setInputPortState .idle n r).2 then (d₁.setInputPortState .idle n r).1.endStateChange true
        else { (d₁.setInputPortState .idle n r).1 with
          inp := { (d₁.setInputPortState .idle n r).1.inp with
            port := (d₁.setInputPortState .idle n r).1.inp.port.disabled.reenabled inputEnabled }
          out := { (d₁.setInputPortState .idle n r).1.out with
            port := (d₁.setInputPortState .idle n r).1.out.port.disabled.reenabled outputEnabled } }.endStateChange false
        else d₁.endStateChange true) := by
    intro d₁ inputEnabled outputEnabled h₁
    split
    · have hset : Settles mode packets filled new d₁ (d₁.setInputPortState .idle n r).1 := h₁.settlesIdle n fun _ => hnew
      split
      · exact hset.endStateChange true
      · refine Settles.endStateChange ?_ false
        rw [Settles] at hset ⊢
        exact ((hset.disabled).reenabled outputEnabled).setInp rfl rfl rfl
    · exact (Settles.running (h₁.append hnew) (.of_out rfl rfl)).endStateChange true
  simp only [VideoDecoder.setIdleFromLoaded]
  split
  · have hflags := setOutputPortState_flags (d := d) (r := r) .idle
    have hset := hrest (d.setOutputPortState .idle r) d.inp.port.isEnabled d.out.port.isEnabled h.returnPortBuffers
    rw [Settles, started_of_flags hflags, hSimpleVideoDecoder_of_flags hflags] at hset
    exact hset
  · exact hrest d _ _ h

theorem resume (h : StreamKept mode packets filled d) (timeout : Bool) (n : StartResult) (hwait : d.WaitClosed)
    (hsafe : d.resumeReturns = true → d.queueUnflagged = true) :
    Settles mode packets filled d.resumeFilled d (d.resume timeout n r) ∧ (d.resume timeout n r).WaitClosed := by
  have hended : ∀ (ok : Bool) (d₁ : VideoDecoder), (d₁.endStateChange ok).WaitClosed := by
    intro ok d₁
    unfold VideoDecoder.endStateChange
    split <;> trivial
  have hnew : ∀ y ∈ d.resumeFilled, y.eos = false ∧ y.data = false := by
    intro y hy
    rw [resumeFilled] at hy
    split at hy
    · next hreturns => exact filledQueue_unflagged (hsafe hreturns) y hy
    · exact absurd hy List.not_mem_nil
  have hback : StreamKept mode packets (filled ++ d.resumeFilled) d := h.append hnew
  have hself : Settles mode packets filled d.resumeFilled d d := .running hback (.of_out rfl rfl)
  simp only [VideoDecoder.resume]
  cases hport : d.portWait with
  | none => exact ⟨hself, hwait⟩
  | some w =>
    have hclosed := hwait
    rw [WaitClosed, hport] at hclosed
    cases w with
    | populate =>
      dsimp only
      split
      · refine ⟨h.setIdleFromLoaded n hnew, ?_⟩
        simp only [VideoDecoder.setIdleFromLoaded]
        split
        · split
          · split <;> exact hended _ _
          · exact hended _ _
        · split
          · split <;> exact hended _ _
          · exact hended _ _
      · split
        · exact ⟨hself.endStateChange false, hended _ _⟩
        · exact ⟨hself, hwait⟩
    | depopulateInput inputPortEnabled outputPortEnabled =>
      obtain ⟨rfl, hopen⟩ := hclosed
      dsimp only
      split
      · next hempty =>
        have hreturns : d.resumeReturns = true := by
          simp only [resumeReturns, hport, Bool.and_true]
          exact hempty
        have hfilled : d.resumeFilled = d.filledQueue := if_pos hreturns
        obtain ⟨hstarted, hsimple⟩ := disableOutput_decoder (r := r) d
        rw [hfilled, if_pos rfl]
        refine ⟨.running ?_ (.of_out hstarted hsimple), rfl, hsimple.trans hopen⟩
        exact (h.disableOutput (r := r) (hsafe hreturns)).setInp rfl rfl rfl
      · split
        · refine ⟨Settles.endStateChange ?_ false, hended _ _⟩
          exact .running (hback.setInp rfl rfl rfl) (.of_out rfl rfl)
        · exact ⟨hself, hwait⟩
    | depopulateOutput inputPortEnabled outputPortEnabled =>
      obtain ⟨rfl, hopen⟩ := hclosed
      dsimp only
      split
      · next hempty =>
        have hlist : (d.out.port.reenabled true).bufferList = [] := by
          obtain ⟨_, _, heq⟩ := d.out.port.reenabled_eq true
          rw [Bool.not_true, Bool.or_false] at hempty
          rw [heq]
          exact List.length_eq_zero_iff.mp (of_decide_eq_true hempty)
        refine ⟨Settles.endStateChange ?_ true, hended _ _⟩
        exact .running (((hback.reenabled true).clearAllocList hlist hopen).setInp rfl rfl rfl)
          (.of_out rfl rfl)
      · split
        · refine ⟨Settles.endStateChange ?_ false, hended _ _⟩
          exact .running ((hback.reenabled true).setInp rfl rfl rfl) (.of_out rfl rfl)
        · exact ⟨hself, hwait⟩

end StreamKept
end
end VideoDecoder
end BcmPlatform.Bomx
