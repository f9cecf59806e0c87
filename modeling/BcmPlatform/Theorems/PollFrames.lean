import Mathlib.Logic.Relation
import BcmPlatform.Theorems.FrameMoves

/-! What a poll for decoded frames does to the output side: it takes frames from Nexus, and then it delivers the ready
    ones one after the other until it runs out of buffers or finds a change of format. -/

namespace BcmPlatform.Bomx
open Lib Relation
namespace OutputSide
variable {s s' s'' : OutputSide} {mode : OutputMode} {b : BufferId} {f : FrameBuffer}

/-- Headers, the size of the output and the end of the stream may change. -/
structure Quiet (s s' : OutputSide) : Prop where
  type : ∀ b, (s'.buffer b).type = (s.buffer b).type
  frame : ∀ b, (s'.buffer b).pFrameBuffer = (s.buffer b).pFrameBuffer
  asserts : .frameMismatch ∈ s'.asserts → .frameMismatch ∈ s.asserts
  rest : s' = { s with
    buffer := s'.buffer, outputWidth := s'.outputWidth, outputHeight := s'.outputHeight
    eosDelivered := s'.eosDelivered, eosReceived := s'.eosReceived, asserts := s'.asserts }

namespace Quiet

theorem refl (s : OutputSide) : Quiet s s := ⟨fun _ => rfl, fun _ => rfl, id, rfl⟩

theorem trans (h : Quiet s s') (h' : Quiet s' s'') : Quiet s s'' where
  type b := (h'.type b).trans (h.type b)
  frame b := (h'.frame b).trans (h.frame b)
  asserts hmem := h.asserts (h'.asserts hmem)
  rest := by
    rw [h'.rest]
    conv_lhs => rw [h.rest]

theorem setBuffer (b : BufferId) (info : OutputBuffer) (eosDelivered eosReceived : Bool) (s : OutputSide)
    (htype : info.type = (s.buffer b).type) (hframe : info.pFrameBuffer = (s.buffer b).pFrameBuffer) :
    Quiet s { s.setBuffer b info with eosDelivered, eosReceived } := by
  refine ⟨fun c => ?_, fun c => ?_, id, rfl⟩
  · by_cases hcb : c = b
    · simp [OutputSide.setBuffer, hcb, htype]
    · simp [OutputSide.setBuffer, hcb]
  · by_cases hcb : c = b
    · simp [OutputSide.setBuffer, hcb, hframe]
    · simp [OutputSide.setBuffer, hcb]

theorem setHeader (b : BufferId) (header : BufferHeader) (eosDelivered eosReceived : Bool) (s : OutputSide) :
    Quiet s { s.setBuffer b { s.buffer b with header } with eosDelivered, eosReceived } :=
  setBuffer b _ eosDelivered eosReceived s rfl rfl

theorem setMetadata (b : BufferId) (grallocSource : Bool) (pHandle : Option Nat) (s : OutputSide) :
    Quiet s (s.setBuffer b { s.buffer b with grallocSource, pHandle }) :=
  setBuffer b _ s.eosDelivered s.eosReceived s rfl rfl

theorem alogAssert (cond : Bool) {a : OutputAssert} (ha : a ≠ .frameMismatch) (s : OutputSide) :
    Quiet s (s.alogAssert cond a) := by
  unfold OutputSide.alogAssert
  split
  · exact .refl s
  · refine ⟨fun _ => rfl, fun _ => rfl, fun hmem => ?_, rfl⟩
    rcases List.mem_append.mp hmem with hmem | hmem
    · exact hmem
    · exact absurd (List.mem_singleton.mp hmem) ha.symm

end Quiet

/-- The frame goes to the client with the buffer. -/
def deliverNode (f : FrameBuffer) (b : BufferId) (s : OutputSide) : OutputSide :=
  let info := s.buffer b
  let s := s.setNode f.id fun g =>
    { g with state := .delivered, pBufferInfo := some b, pPrivateHandle := VideoDecoder.privateHandle g info }
  (s.setBuffer b { info with pFrameBuffer := some f.id }).returnPortBuffer b

@[simp] theorem deliverNode_buffer (f : FrameBuffer) (b : BufferId) (s : OutputSide) :
    (s.deliverNode f b).buffer b = { s.buffer b with pFrameBuffer := some f.id } :=
  buffer_setBuffer b _ _

theorem deliverNode_buffer_of_ne {c : BufferId} (h : c ≠ b) : (s.deliverNode f b).buffer c = s.buffer c :=
  buffer_setBuffer_of_ne (s := s.setNode f.id _) h

/-- One step of the delivery loop. -/
inductive PollStep (s : OutputSide) : OutputSide → Prop where
  | quiet {s' : OutputSide} : Quiet s s' → PollStep s s'
  | deliver {f : FrameBuffer} {b : BufferId} : s.frameBufferAllocList.find? (·.isReady) = some f →
      s.port.getBuffer = some b → s.formatChangeState ≠ .waitForSerial → PollStep s (s.deliverNode f b)
  | defer {f : FrameBuffer} : s.frameBufferAllocList.find? (·.isReady) = some f → s.formatChangeState = .none →
      0 < s.lastReturnedSerial → s.lastReturnedSerial + 1 < f.serial →
      PollStep s { s with formatChangeState := .waitForSerial, formatChangeSerial := f.serial }
  | reconfig (portDefs : PortDefinition) : s.formatChangeState ≠ .waitForSerial →
      PollStep s { s with port := s.port.setDefinition portDefs, formatChangeState := .waitForPortReconfig }

end OutputSide

namespace VideoDecoder
open OutputSide
variable {d : VideoDecoder} {r : PollResult} {b : BufferId} {f : FrameBuffer}

theorem prepareHeader_quiet : Quiet d.out (d.prepareHeader f b).out := Quiet.setHeader b _ _ _ d.out

theorem takeEos_quiet {d' : VideoDecoder} (h : d.takeEos f b = some d') : Quiet d.out d'.out := by
  simp only [takeEos] at h
  split at h
  · split at h
    · cases h
      exact Quiet.setHeader b _ _ _ d.out
    · cases h
  · cases h
    exact .refl _

theorem resetPort_step {s : OutputSide} (hs : d.out = s) (hready : s.frameBufferAllocList.find? (·.isReady) = some f)
    (hopen : s.formatChangeState ≠ .waitForSerial) : PollStep s (d.resetPort f).out := by
  subst hs
  simp only [resetPort]
  split
  · next hdefer => exact .defer hready hdefer.1 hdefer.2.1 hdefer.2.2
  · exact .reconfig _ hopen

theorem deliverRound_steps (hready : d.out.frameBufferAllocList.find? (·.isReady) = some f)
    (hopen : d.out.formatChangeState ≠ .waitForSerial) :
    ∃ s₁, Quiet d.out s₁ ∧ (((d.deliverRound r f b).1.out = s₁.deliverNode f b) ∨
      (d.deliverRound r f b).2 = false ∧ ReflTransGen PollStep s₁ (d.deliverRound r f b).1.out) := by
  -- what holds before a quiet change holds after it
  have hkeep : ∀ {s₁ : OutputSide}, Quiet d.out s₁ → s₁.frameBufferAllocList.find? (·.isReady) = some f ∧
      s₁.formatChangeState ≠ .waitForSerial := by
    intro s₁ hq
    rw [hq.rest]
    exact ⟨hready, hopen⟩
  have hassert := fun cond => (prepareHeader_quiet (d := d) (f := f) (b := b)).trans
    (Quiet.alogAssert cond (a := .bufferInfoUnlinked) OutputAssert.noConfusion _)
  simp only [deliverRound]
  split
  · exact ⟨_, (hassert _).trans (Quiet.alogAssert false OutputAssert.noConfusion _), .inr ⟨rfl, .refl⟩⟩
  · next d' heos =>
    have hq := (hassert _).trans (takeEos_quiet heos)
    split
    · exact ⟨d'.out, hq, .inl rfl⟩
    · split
      · have hback : Quiet d.out { d'.out with eosDelivered := d.out.eosDelivered } :=
          hq.trans ⟨fun _ => rfl, fun _ => rfl, id, rfl⟩
        obtain ⟨hfind, hstate⟩ := hkeep hback
        exact ⟨_, hback, .inr ⟨rfl, .single (resetPort_step rfl hfind hstate)⟩⟩
      · split
        · refine ⟨{ d'.out with outputWidth := f.frameStatus.imageWidth, outputHeight := f.frameStatus.imageHeight },
            hq.trans ⟨fun _ => rfl, fun _ => rfl, id, rfl⟩, .inl rfl⟩
        · exact ⟨d'.out, hq, .inl rfl⟩

theorem deliverNode_alloc {s : OutputSide} {pre rest : List FrameBuffer}
    (halloc : s.frameBufferAllocList = pre ++ f :: rest) (hnodup : (s.frameBufferAllocList.map (·.id)).Nodup) :
    ∃ f', f'.id = f.id ∧ f'.serial = f.serial ∧ f'.state = .delivered ∧ f'.pBufferInfo = some b ∧
      (s.deliverNode f b).frameBufferAllocList = pre ++ f' :: rest := by
  rw [halloc] at hnodup
  refine ⟨{ f with state := .delivered, pBufferInfo := some b, pPrivateHandle := privateHandle f (s.buffer b) },
    rfl, rfl, rfl, rfl, ?_⟩
  change (s.frameBufferAllocList.map fun k => if k.id = f.id then _ else k) = _
  rw [halloc, map_setNode hnodup]

theorem deliver_steps : ∀ (ready pre : List FrameBuffer) (d : VideoDecoder),
    d.out.frameBufferAllocList = pre ++ ready → (∀ f ∈ pre, f.isReady = false) → (∀ f ∈ ready, f.isReady = true) →
    (d.out.frameBufferAllocList.map (·.id)).Nodup → ReflTransGen PollStep d.out (d.deliver r ready).out
  | [], _, _, _, _, _, _ => .refl
  | f :: rest, pre, d, halloc, hpre, hrest, hnodup => by
    simp only [deliver]
    split
    · exact .refl
    · next hloop =>
      rw [not_or, not_not] at hloop
      split
      · exact .refl
      · next b hb =>
        have hready : d.out.frameBufferAllocList.find? (·.isReady) = some f := by
          rw [halloc, List.find?_append, List.find?_eq_none.mpr (fun k hk => by simp [hpre k hk]), Option.none_or,
            List.find?_cons_of_pos (hrest f (List.mem_cons_self ..))]
        have hopen : d.out.formatChangeState ≠ .waitForSerial := by
          rcases hloop.2 with hstate | hstate <;> rw [hstate] <;> exact FormatChangeState.noConfusion
        obtain ⟨s₁, hq, hdelivered | ⟨hend, hsteps⟩⟩ := deliverRound_steps (r := r) (b := b) hready hopen
        · have hs₁ : s₁.frameBufferAllocList = d.out.frameBufferAllocList ∧ s₁.port = d.out.port ∧
              s₁.formatChangeState = d.out.formatChangeState := by
            rw [hq.rest]
            exact ⟨rfl, rfl, rfl⟩
          have hstep : ReflTransGen PollStep d.out (d.deliverRound r f b).1.out := by
            refine (ReflTransGen.single (.quiet hq)).tail ?_
            rw [hdelivered]
            refine .deliver ?_ ?_ ?_
            · rw [hs₁.1]
              exact hready
            · rw [hs₁.2.1]
              exact hb
            · rw [hs₁.2.2]
              exact hopen
          split
          · have hnodup₁ : (s₁.frameBufferAllocList.map (·.id)).Nodup := by
              rw [hs₁.1]
              exact hnodup
            obtain ⟨f', hid, -, hstate, -, halloc'⟩ := deliverNode_alloc (b := b) (hs₁.1.trans halloc) hnodup₁
            rw [← hdelivered] at halloc'
            refine hstep.trans (deliver_steps rest (pre ++ [f']) _ ?_ (fun k hk => ?_) (fun k hk => ?_) ?_)
            · rw [halloc', List.append_assoc]
              rfl
            · rcases List.mem_append.mp hk with hk | hk
              · exact hpre k hk
              · rw [List.mem_singleton.mp hk]
                simp [FrameBuffer.isReady, hstate]
            · exact hrest k (List.mem_cons_of_mem _ hk)
            · rw [halloc] at hnodup
              rw [halloc']
              simpa [hid] using hnodup
          · exact hstep
        · rw [if_neg (by simp [hend])]
          exact (ReflTransGen.single (.quiet hq)).trans hsteps

theorem pollDecodedFrames_steps {mode : OutputMode} (h : FrameQueue mode d.out) :
    (d.pollDecodedFrames r).out = d.out ∨
    ReflTransGen PollStep (d.out.getDecodedFrames r.numFrames) (d.pollDecodedFrames r).out := by
  have htaken := h.getDecodedFrames r.numFrames
  simp only [pollDecodedFrames]
  split
  · exact .inl rfl
  · right
    split
    · refine deliver_steps _ ((d.out.getDecodedFrames r.numFrames).frameBufferAllocList.takeWhile fun f => !f.isReady)
        { d with out := d.out.getDecodedFrames r.numFrames } List.takeWhile_append_dropWhile.symm (fun f hf => ?_)
        (fun f hf => ?_) htaken.nodup_ids
      · simpa using List.mem_takeWhile_imp hf
      · rw [dropWhile_eq_filter htaken.aligned.readyLast, List.mem_filter] at hf
        simpa using hf.2
    · exact .refl

end VideoDecoder

/-! ### The frame queue -/

namespace OutputSide
variable {s s' : OutputSide} {mode : OutputMode} {b : BufferId} {f : FrameBuffer}

theorem Quiet.frameQueue (hq : Quiet s s') (h : FrameQueue mode s) : FrameQueue mode s' := by
  refine h.congr ?_ ?_ ?_ ?_ ?_ hq.type hq.frame hq.asserts
  all_goals rw [hq.rest]

theorem find?_ready_split (h : FrameQueue mode s) (hready : s.frameBufferAllocList.find? (·.isReady) = some f) :
    ∃ pre rest, s.frameBufferAllocList = pre ++ f :: rest ∧ (∀ k ∈ pre, k.isReady = false) ∧ f.isReady = true ∧
      ∀ k ∈ rest, k.isReady = true := by
  obtain ⟨hf, pre, rest, halloc, hpre⟩ := List.find?_eq_some_iff_append.mp hready
  refine ⟨pre, rest, halloc, fun k hk => by simpa using hpre k hk, hf, fun k hk => ?_⟩
  have hlast := h.aligned.readyLast
  rw [halloc, List.pairwise_append, List.pairwise_cons] at hlast
  by_contra hnot
  have hcontra := hlast.2.1.1 k hk (by simpa using hnot)
  simp [hf] at hcontra

theorem FrameQueue.deliverNode (h : FrameQueue mode s) (hready : s.frameBufferAllocList.find? (·.isReady) = some f)
    (hb : s.port.getBuffer = some b) : FrameQueue mode (s.deliverNode f b) := by
  obtain ⟨pre, rest, halloc, hpre, hf, hrest⟩ := find?_ready_split h hready
  obtain ⟨f', hid, hserial, hstate, hinfo, halloc'⟩ := VideoDecoder.deliverNode_alloc (b := b) halloc h.nodup_ids
  have hmem : b ∈ s.port.bufferList := s.port.queued b (List.mem_of_head? hb)
  refine ⟨⟨?_, fun c => ?_, fun hmode c n hc => ?_, h.stopped, h.acquired, h.asserts, h.calls⟩, ?_⟩
  · refine List.Perm.trans ?_ h.nodes
    rw [halloc', halloc]
    simp only [List.map_append, List.map_cons, hid]
    exact List.Perm.refl _
  · by_cases hcb : c = b
    · rw [hcb, deliverNode_buffer]
      exact h.types b
    · rw [deliverNode_buffer_of_ne hcb]
      exact h.types c
  · rw [halloc']
    by_cases hcb : c = b
    · subst hcb
      have hn : f.id = n := by simpa using hc
      exact ⟨hmem, f', by simp, hid.trans hn, by simp [FrameBuffer.isClientOwned, hstate], hinfo⟩
    · rw [deliverNode_buffer_of_ne hcb] at hc
      obtain ⟨hlist, k, hk, hkid, howned, hkinfo⟩ := h.linked hmode c n hc
      refine ⟨hlist, k, ?_, hkid, howned, hkinfo⟩
      rw [halloc, List.mem_append, List.mem_cons] at hk
      rcases hk with hk | rfl | hk
      · exact List.mem_append_left _ hk
      · cases hs : k.state <;> simp_all [FrameBuffer.isReady, FrameBuffer.isClientOwned]
      · exact List.mem_append_right _ (List.mem_cons_of_mem _ hk)
  · have haligned := h.aligned
    rw [halloc] at haligned
    rw [halloc']
    exact haligned.deliver hpre hf hrest hserial hstate

theorem PollStep.frameQueue (hstep : PollStep s s') (h : FrameQueue mode s) : FrameQueue mode s' := by
  cases hstep with
  | quiet hq => exact hq.frameQueue h
  | deliver hready hb _ => exact h.deliverNode hready hb
  | defer _ _ _ _ => exact h.congr rfl rfl rfl rfl rfl (fun _ => rfl) (fun _ => rfl) id
  | reconfig _ _ => exact h.congr rfl rfl rfl rfl rfl (fun _ => rfl) (fun _ => rfl) id

end OutputSide
end BcmPlatform.Bomx
