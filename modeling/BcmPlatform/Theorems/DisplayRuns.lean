import BcmPlatform.Theorems.DisplayRequests

/-! A display request over whole runs of the video decoder. -/

namespace BcmPlatform.Bomx
open Lib
namespace OutputSide
variable {s s' : OutputSide} {mode : OutputMode} {n : Nat} {old : List ReturnCall}

theorem Requested.decode (h : Requested mode n old s) {frames : List FrameStatus} (hstarted : s.nexus.started = true)
    (hserials : serialsFrom s.nexus.nextSerial frames = true) : Requested mode n old (s.decode frames) := by
  refine ⟨h.queue.decode hstarted hserials, Nat.lt_of_lt_of_le h.known (nextSerial_decode frames _).1, ?_⟩
  obtain ⟨new, hcalls, hshows, hprogress⟩ := h.calls
  refine ⟨new, hcalls, hshows, hprogress.imp (fun hw => ⟨hw.request, hw.frame⟩) fun hreturned => ⟨hreturned.1, ?_⟩⟩
  intro hmem
  rw [OutputSide.decode, Nexus.serials, List.map_append, List.mem_append] at hmem
  rcases hmem with hmem | hmem
  · exact hreturned.2 hmem
  · exact Nat.lt_irrefl n (Nat.lt_of_lt_of_le h.known ((serialsFrom_spec frames _ hserials).2 n hmem))

theorem Requested.restart (h : Requested mode n old s) (hqueue : FrameQueue mode s')
    (hcalls : s'.nexus.calls = s.nexus.calls) (hfifo : s'.nexus.fifo = []) (hnext : s'.nexus.nextSerial = s.nexus.nextSerial)
    (halloc : s'.frameBufferAllocList = s.frameBufferAllocList)
    (hrequest : (s'.displayFrameAvailable, s'.frameSerial, s'.displayTaken) =
      (s.displayFrameAvailable, s.frameSerial, s.displayTaken)) : Requested mode n old s' := by
  refine ⟨hqueue, by rw [hnext]; exact h.known, ?_⟩
  obtain ⟨new, hnew, hshows, hprogress⟩ := h.calls
  refine ⟨new, hcalls.trans hnew, hshows, hprogress.imp (fun hw => ?_) fun hreturned => ⟨hreturned.1, ?_⟩⟩
  · rw [Prod.mk.injEq, Prod.mk.injEq] at hrequest
    obtain ⟨havailable, hserial, htaken⟩ := hrequest
    refine ⟨?_, ?_⟩
    · rw [havailable, hserial, htaken]
      exact hw.request
    · rw [halloc]
      exact hw.frame
  · simp [Nexus.serials, hfifo]

/-- Nothing is flushed or stopped and no newer request comes; a buffer is not filled again with frame `n` in it once the
    display thread has taken the request. -/
def requestConditions (mode : OutputMode) (n : Nat) : OutputConditions where
  fill := fun s b => HandleOk mode b s ∧ FillOk n b s
  free := fun s b => ∀ f, s.frameOf b = some f → f.serial ≠ n
  notify := fun _ _ => False
  flush := fun _ => False
  stop := fun _ => False
  clear := fun _ => False
  leave := False

theorem requestRules (mode : OutputMode) (n : Nat) (old : List ReturnCall) :
    OutputRules mode (requestConditions mode n) (Requested mode n old) where
  queue h := h.queue
  take k h := by
    have hqueue := h.queue.getDecodedFrames k
    simp only [OutputSide.getDecodedFrames] at hqueue ⊢
    split at hqueue
    · next hempty =>
      rw [if_pos hempty]
      exact h
    · next hempty =>
      rw [if_neg hempty]
      rw [alogAssert_rest] at hqueue ⊢
      refine h.congr hqueue rfl fun hw => ⟨hw.request, ?_⟩
      obtain ⟨f, hf, hserial, hstate⟩ := hw.frame
      exact ⟨f, List.mem_append_left _ hf, hserial, hstate⟩
  pollStep := @fun s s' hstep h => by
    have hqueue := hstep.frameQueue h.queue
    cases hstep with
    | quiet hq =>
      refine h.same hqueue ?_ ?_ ?_ ?_ ?_
      all_goals rw [hq.rest]
    | deliver hready _ _ =>
      refine h.congr hqueue rfl fun hw => ⟨hw.request, ?_⟩
      -- the frame that is delivered is another one
      obtain ⟨f, hf, hserial, hstate⟩ := hw.frame
      refine ⟨f, mem_map_other hf fun hid => ?_, hserial, hstate⟩
      have hfound := List.find?_some hready
      rw [← h.queue.eq_of_id hf (List.mem_of_find?_eq_some hready) hid] at hfound
      simp [FrameBuffer.isReady, hstate] at hfound
    | defer _ _ _ _ => exact h.same hqueue rfl rfl rfl rfl rfl
    | reconfig _ _ => exact h.same hqueue rfl rfl rfl rfl rfl
  add b nSizeBytes nativeHandle componentAllocated h := by
    have hqueue := h.queue.addBuffer (b := b) nSizeBytes nativeHandle componentAllocated
    simp only [OutputSide.addBuffer] at hqueue ⊢
    split at hqueue
    · next hnew =>
      rw [dif_pos hnew]
      exact h
    · next hnew =>
      rw [dif_neg hnew]
      split at hqueue
      · next hport =>
        simp only
        exact h
      · next hport =>
        simp only
        exact h.same hqueue rfl rfl rfl rfl rfl
  fill _ hok hflush hnone h :=
    (h.fillThisBuffer hok.1 hok.2 hnone).returnDecodedFrames (fillThisBuffer_notFlushing hflush)
  free hok hflush h := by
    unfold freeAndReturn
    split
    · exact (h.freeBuffer hok).returnDecodedFrames (freeBuffer_notFlushing hflush)
    · exact h.freeBuffer hok
  notify hok _ := absurd hok id
  takeDisplay hnone h := h.takeDisplayFrame hnone
  showDisplay := @fun s m htaken hflush h => by
    have hqueue : FrameQueue mode { s with displayTaken := none } :=
      h.queue.congr rfl rfl rfl rfl rfl (fun _ => rfl) (fun _ => rfl) id
    have hshown := hqueue.displayFrameLocked m
    have hflush' := displayFrameLocked_notFlushing (s := { s with displayTaken := none }) hflush m
    obtain ⟨new, hcalls, hshows, -⟩ := h.calls
    simp only [showAndReturn]
    by_cases hm : m = n
    · subst hm
      by_cases hw : Waits m s
      · obtain ⟨hreturn, hdone⟩ := Requested.show (s := { s with displayTaken := none }) hqueue h.known hcalls hshows
          hw.frame hflush'
        rw [if_pos hreturn]
        exact hdone
      · -- the frame went back before
        have hnexus : ({ s with displayTaken := none }.displayFrameLocked m).1.nexus = s.nexus := by
          rcases displayFrameLocked_cases (s := { s with displayTaken := none }) m with ⟨heq, -⟩ | ⟨_, -, -, -, heq⟩ <;>
            rw [heq]
        have hkept : Requested mode m old ({ s with displayTaken := none }.displayFrameLocked m).1 :=
          h.congr hshown hnexus fun hwaits => absurd hwaits hw
        split
        · exact hkept.returnDecodedFrames hflush'
        · exact hkept
    · have hother : Requested mode n old { s with displayTaken := none } := h.congr hqueue rfl fun hw => by
        refine ⟨hw.request.elim .inl fun hn => ?_, hw.frame⟩
        rw [htaken, Option.some_inj] at hn
        exact absurd hn hm
      have hkept := hother.showOther hm hshown
      split
      · exact hkept.returnDecodedFrames hflush'
      · exact hkept
  decode _ hstarted hserials h := h.decode hstarted hserials
  flush hok _ _ := absurd hok id
  endFlush hok _ := absurd hok id
  returnPortBuffers h := by
    have hqueue := h.queue.returnPortBuffers
    rw [(returnPortBuffers_port).1] at hqueue ⊢
    exact h.same hqueue rfl rfl rfl rfl rfl
  stop_returned hok := absurd hok id
  stop hok _ _ := absurd hok id
  release hleave _ _ := absurd hleave id
  unload hleave _ _ := absurd hleave id
  clear_flags _ _ hok := absurd hok id
  clear hleave _ _ _ _ := absurd hleave id
  acquire _ h := h.same h.queue.acquire rfl rfl rfl rfl rfl
  start hopen hstopped h := h.restart (h.queue.nexusStart hopen hstopped) rfl rfl rfl rfl rfl
  startFailed hstopped h := h.restart (h.queue.startFailed hstopped) rfl rfl rfl rfl rfl
  portFlags bEnabled bPopulated h :=
    h.same ((queueRules mode).portFlags bEnabled bPopulated h.queue) rfl rfl rfl rfl rfl

end OutputSide

namespace VideoDecoder
open OutputSide

/-- Nothing is flushed or stopped and no newer request comes; the buffer of frame `n` is not freed, and it is filled again
    only as long as the display thread has not taken the request. -/
def keepsRequest (n : Nat) (d : VideoDecoder) : VideoAction → Bool
  | .fillThisBuffer r b grallocSource pHandle =>
    d.handleDelivered (.fillThisBuffer r b grallocSource pHandle) &&
      ((d.out.setBuffer b { d.out.buffer b with grallocSource, pHandle }).frameOf b).all fun f =>
        f.serial ≠ n || f.state ≠ .delivered || (d.out.displayFrameAvailable && d.out.frameSerial = n)
  | .freeOutputBuffer _ b => (d.out.frameOf b).all (·.serial ≠ n)
  | .notifyDisplay _ | .flushOutput _ | .stateSet .idle .. | .stateSet .loaded .. => false
  | .resume .. => d.portWait.isNone
  | _ => true

theorem requestStepOk {d : VideoDecoder} {mode : OutputMode} {n : Nat} {a : VideoAction} (hmode : d.outputMode = mode)
    (h : d.keepsRequest n a = true) : d.OutputStepOk (requestConditions mode n) a := by
  cases a with
  | fillThisBuffer r b grallocSource pHandle =>
    simp only [keepsRequest, Bool.and_eq_true] at h
    have hhandle := handleOk_of_delivered h.1
    rw [hmode] at hhandle
    refine ⟨hhandle, fun f hf hserial hstate => ?_⟩
    have hpending := h.2
    rw [hf, Option.all_some] at hpending
    have hwaits : d.out.displayFrameAvailable = true ∧ d.out.frameSerial = n := by
      simpa [hserial, hstate] using hpending
    exact hwaits
  | freeOutputBuffer r b =>
    intro f hf
    rw [keepsRequest, hf, Option.all_some] at h
    simpa using h
  | notifyDisplay frameId => cases h
  | flushOutput r => cases h
  | stateSet newState n r r' =>
    cases newState with
    | idle => cases h
    | loaded => cases h
    | _ => trivial
  | resume timeout n r =>
    have hnone : d.portWait = none := by simpa [keepsRequest] using h
    simp only [OutputStepOk, hnone]
  | _ => trivial

/-- After the client has asked for the display of a frame that it has, Nexus is told to display the frame, or to drop it
    because of a later one in the same call; the frame is never marked to be dropped, and once the display thread is
    done with the request, Nexus was told. -/
theorem display_not_lost (codec : VideoCodec) (outputMode : OutputMode) (adaptive : Bool)
    (inputDef outputDef : PortDefinition) (n : Nat) (d₀ d : VideoDecoder)
    (h₀ : Reaches step (fun d a => d.handleDelivered a = true) (init codec outputMode adaptive inputDef outputDef) d₀)
    (hdelivered : ∃ f ∈ d₀.out.frameBufferAllocList, f.serial = n ∧ f.state = .delivered)
    (h : Reaches step (fun d a => d.keepsRequest n a = true) { d₀ with out := d₀.out.binderNotifyDisplay n } d) :
    ∃ new, d.out.nexus.calls = d₀.out.nexus.calls ++ new ∧ (∀ c ∈ new, c.Shows n) ∧
      (∀ f ∈ d.out.frameBufferAllocList, f.serial = n → f.state ≠ .dropReady) ∧
      (¬ (d.out.displayFrameAvailable = true ∧ d.out.frameSerial = n) → d.out.displayTaken ≠ some n →
        ∃ c ∈ new, n ∈ c.entries.map (·.serial)) := by
  have hbefore : OutputInv outputMode (FrameQueue outputMode) d₀ := by
    refine h₀.invariant (OutputInv.of_init (init_frameQueue ..)) fun d a _ hd hok hstep => ?_
    obtain ⟨_, hkept, -⟩ := id hd
    exact hd.step (queueRules outputMode) (queueStepOk hkept.mode hok) hstep
  obtain ⟨enabled, hkept, hwait⟩ := hbefore
  have hnotified : Requested outputMode n d₀.out.nexus.calls (d₀.out.binderNotifyDisplay n) := by
    obtain ⟨f, hf, hserial, hstate⟩ := hdelivered
    have hmem : n ∈ d₀.out.nexus.serials := by
      rw [← hserial]
      exact hkept.out.serial_mem hf (by simp [FrameBuffer.isInvalid, hstate])
    refine ⟨(queueRules outputMode).notify trivial hkept.out,
      hkept.out.aligned.fresh n (List.mem_append_right _ hmem), [], (List.append_nil _).symm,
      fun c hc => absurd hc List.not_mem_nil, .inl ⟨.inl ⟨rfl, rfl⟩, f, hf, hserial, hstate⟩⟩
  have hstart : OutputInv outputMode (Requested outputMode n d₀.out.nexus.calls)
      { d₀ with out := d₀.out.binderNotifyDisplay n } :=
    ⟨enabled, ⟨hnotified, hkept.mode, hkept.notFlushing, hkept.enabled⟩, hwait⟩
  have hinv : OutputInv outputMode (Requested outputMode n d₀.out.nexus.calls) d := by
    refine h.invariant hstart fun d a _ hd hok hstep => ?_
    obtain ⟨_, hkept, -⟩ := id hd
    exact hd.step (requestRules outputMode n _) (requestStepOk hkept.mode hok) hstep
  obtain ⟨_, hkept, -⟩ := hinv
  obtain ⟨new, hcalls, hshows, hprogress⟩ := hkept.out.calls
  refine ⟨new, hcalls, hshows, fun f hf => hkept.out.undropped hf, fun havailable htaken => ?_⟩
  rcases hprogress with hw | hreturned
  · exact absurd hw.request (not_or.mpr ⟨havailable, htaken⟩)
  · exact hreturned.1

/-- Frames 1 and 2 are decoded, and the first one is with the client. -/
def frameDelivered : List VideoAction :=
  outputWaits ++ [.decode [{ serialNumber := 1 }, { serialNumber := 2 }], .outputFrameEvent { numFrames := 2 }]

/-- The buffer is filled again before the display thread takes the request, and frame 1 is displayed. -/
theorem display_not_lost_refilled : ∃ d₀ d : VideoDecoder,
    (∃ f ∈ d₀.out.frameBufferAllocList, f.serial = 1 ∧ f.state = .delivered) ∧ d.out.displayTaken = none ∧
    d.out.displayFrameAvailable = false ∧
    ∃ new, d.out.nexus.calls = d₀.out.nexus.calls ++ new ∧ ∃ c ∈ new, c.Shows 1 ∧ 1 ∈ c.entries.map (·.serial) := by
  obtain ⟨d₀, hd₀, hp₀⟩ := Reaches.exists_of_run step
    handleDelivered (init .avc .standard false smallInput smallOutput) frameDelivered
    (fun d₀ => (d₀.out.frameBufferAllocList.any fun f => f.serial = 1 && f.state = .delivered) &&
      (runChecked step (keepsRequest 1) { d₀ with out := d₀.out.binderNotifyDisplay 1 }
        [.fillThisBuffer {} 20 true none, .takeDisplay, .showDisplay {}]).any fun d =>
          d.out.displayTaken = none && d.out.displayFrameAvailable = false) (by decide +kernel)
  rw [Bool.and_eq_true] at hp₀
  obtain ⟨d, hd, hp⟩ := Reaches.exists_of_run step (keepsRequest 1) _ _ _ hp₀.2
  simp only [Bool.and_eq_true, decide_eq_true_eq] at hp
  have hdelivered : ∃ f ∈ d₀.out.frameBufferAllocList, f.serial = 1 ∧ f.state = .delivered := by
    simpa [List.any_eq_true] using hp₀.1
  obtain ⟨new, hcalls, hshows, -, hdone⟩ :=
    display_not_lost .avc .standard false smallInput smallOutput 1 d₀ d hd₀ hdelivered hd
  obtain ⟨c, hc, hmem⟩ := hdone (by simp [hp.2]) (by simp [hp.1])
  exact ⟨d₀, d, hdelivered, hp.1, hp.2, new, hcalls, c, hc, hshows c hc, hmem⟩

/-- The steps of the display thread, and the client's return of a buffer. -/
def isDisplayOrFill : VideoAction → Bool
  | .takeDisplay | .showDisplay _ | .fillThisBuffer .. => true
  | _ => false

/-- The buffer is filled again after the display thread has taken the request: frame 1 is dropped. -/
theorem fill_after_take_drops_frame : ∃ d₀ d : VideoDecoder,
    Reaches step (fun d a => d.handleDelivered a = true) (init .avc .standard false smallInput smallOutput) d₀ ∧
    (∃ f ∈ d₀.out.frameBufferAllocList, f.serial = 1 ∧ f.state = .delivered) ∧
    Reaches step (fun _ a => isDisplayOrFill a = true) { d₀ with out := d₀.out.binderNotifyDisplay 1 } d ∧
    ∃ c, d.out.nexus.calls = d₀.out.nexus.calls ++ [c] ∧ ¬ c.Shows 1 := by
  obtain ⟨d₀, hd₀, hp₀⟩ := Reaches.exists_of_run step
    handleDelivered (init .avc .standard false smallInput smallOutput) frameDelivered
    (fun d₀ => (d₀.out.frameBufferAllocList.any fun f => f.serial = 1 && f.state = .delivered) &&
      (d₀.out.nexus.calls = [] && (runChecked step (fun _ a => isDisplayOrFill a) { d₀ with out := d₀.out.binderNotifyDisplay 1 }
        [.takeDisplay, .fillThisBuffer {} 20 true none, .showDisplay {}]).any fun d =>
          d.out.nexus.calls.map (·.entries) = [[{ serial := 1, state := .dropReady, display := false }]]))
    (by decide +kernel)
  simp only [Bool.and_eq_true, decide_eq_true_eq] at hp₀
  obtain ⟨d, hd, hp⟩ := Reaches.exists_of_run step _ _ _ _ hp₀.2.2
  have hp := of_decide_eq_true hp
  obtain ⟨c, hc, hentries⟩ := List.map_eq_singleton_iff.mp hp
  refine ⟨d₀, d, hd₀, by simpa [List.any_eq_true] using hp₀.1, hd, c, by rw [hp₀.2.1, hc]; rfl, fun hshows => ?_⟩
  have hlost := hshows 0 { serial := 1, state := .dropReady, display := false } (by rw [hentries]; rfl) rfl
  rw [hentries] at hlost
  simp at hlost

end VideoDecoder
end BcmPlatform.Bomx
