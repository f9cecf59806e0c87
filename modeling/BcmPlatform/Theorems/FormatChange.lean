import BcmPlatform.Theorems.FrameRuns
import BcmPlatform.Theorems.FrameSpecs

/-! A format change that is deferred: as long as nothing is discarded, the frame that changes the format stays ready
    behind the frames that are to be returned first. -/

namespace BcmPlatform.Bomx
open Lib
namespace OutputSide
variable {s s' : OutputSide} {mode : OutputMode} {b : BufferId} {f : FrameBuffer}

/-- A format change that waits for earlier frames: the frame that changes the format is ready, and the frame before it
    is not returned. -/
def Deferred (s : OutputSide) : Prop :=
  s.formatChangeState = .waitForSerial → s.lastReturnedSerial + 1 < s.formatChangeSerial ∧
    ∃ f ∈ s.frameBufferAllocList, f.isReady = true ∧ f.serial = s.formatChangeSerial

/-- Frames that wait for delivery still do. -/
def ReadyKept (s s' : OutputSide) : Prop :=
  ∀ f ∈ s.frameBufferAllocList, f.isReady = true →
    ∃ f' ∈ s'.frameBufferAllocList, f'.isReady = true ∧ f'.serial = f.serial

theorem ReadyKept.of_subset (h : ∀ f ∈ s.frameBufferAllocList, f.isReady = true → f ∈ s'.frameBufferAllocList) :
    ReadyKept s s' := fun f hf hready => ⟨f, h f hf hready, hready, rfl⟩

theorem Deferred.congr (h : Deferred s) (hkept : ReadyKept s s')
    (hstate : s'.formatChangeState = .waitForSerial → s.formatChangeState = .waitForSerial)
    (hserial : s'.formatChangeSerial = s.formatChangeSerial) (hlast : s'.lastReturnedSerial = s.lastReturnedSerial) :
    Deferred s' := by
  intro hwait
  obtain ⟨hlt, f, hf, hready, hfs⟩ := h (hstate hwait)
  obtain ⟨f', hf', hready', hserial'⟩ := hkept f hf hready
  exact ⟨by rw [hlast, hserial]; exact hlt, f', hf', hready', by rw [hserial', hserial, hfs]⟩

theorem Deferred.of_ne (h : s.formatChangeState ≠ .waitForSerial) : Deferred s := fun hwait => absurd hwait h

theorem Deferred.same (h : Deferred s) (halloc : s'.frameBufferAllocList = s.frameBufferAllocList)
    (hstate : s'.formatChangeState = s.formatChangeState) (hserial : s'.formatChangeSerial = s.formatChangeSerial)
    (hlast : s'.lastReturnedSerial = s.lastReturnedSerial) : Deferred s' :=
  h.congr (.of_subset fun f hf _ => by rw [halloc]; exact hf) (fun hwait => hstate ▸ hwait) hserial hlast

/-! ### The client's calls -/

theorem readyKept_map {n : Nat} {g : FrameBuffer → FrameBuffer}
    (halloc : s'.frameBufferAllocList = s.frameBufferAllocList.map fun k => if k.id = n then g k else k)
    (hready : ∀ k ∈ s.frameBufferAllocList, k.id = n → k.isReady = true → (g k).isReady = true ∧ (g k).serial = k.serial) :
    ReadyKept s s' := by
  intro k hk hkready
  by_cases hid : k.id = n
  · obtain ⟨hgready, hgserial⟩ := hready k hk hid hkready
    refine ⟨g k, ?_, hgready, hgserial⟩
    rw [halloc]
    exact List.mem_map.mpr ⟨k, hk, if_pos hid⟩
  · refine ⟨k, ?_, hkready, rfl⟩
    rw [halloc]
    exact List.mem_map.mpr ⟨k, hk, if_neg hid⟩

theorem readyKept_filter {n : Nat} (halloc : s'.frameBufferAllocList = s.frameBufferAllocList.filter (·.id ≠ n))
    (hready : ∀ k ∈ s.frameBufferAllocList, k.id = n → k.isReady = false) : ReadyKept s s' := by
  refine .of_subset fun k hk hkready => ?_
  rw [halloc]
  refine List.mem_filter.mpr ⟨hk, ?_⟩
  have hid : k.id ≠ n := by
    intro hid
    rw [hready k hk hid] at hkready
    cases hkready
  simpa using hid

theorem fillThisBuffer_readyKept (h : FrameQueue mode s) (hok : HandleOk mode b s)
    (hnone : (s.fillThisBuffer b).2 = .none) : ReadyKept s (s.fillThisBuffer b).1 := by
  have hnot : ∀ f, s.frameOf b = some f → ∀ k ∈ s.frameBufferAllocList, k.id = f.id → k.isReady = false := by
    intro f hframe k hk hid
    rw [h.eq_of_id hk (frameOf_spec h hframe).1 hid]
    exact frameOf_notReady h hok hframe
  cases fillThisBuffer_cases hnone with
  | noFrame hframe halloc hfree => exact .of_subset fun k hk _ => by rw [halloc]; exact hk
  | freed f hframe hinvalid halloc hfree => exact readyKept_filter halloc (hnot f hframe)
  | pending f hframe hvalid hpending halloc hfree => exact .of_subset fun k hk _ => by rw [halloc]; exact hk
  | dropped f hframe hvalid hother halloc hfree =>
    refine readyKept_map halloc fun k hk hid hready => ?_
    rw [hnot f hframe k hk hid] at hready
    cases hready

theorem freeBuffer_readyKept (h : FrameQueue mode s) : ReadyKept s (s.freeBuffer b).1 := by
  rcases freeBuffer_cases (s := s) (b := b) with heq | ⟨-, hreleased⟩
  · exact .of_subset fun f hf _ => by rw [heq]; exact hf
  · have hnot : ∀ f, s.frameOf b = some f → f.isReady = false →
        ∀ k ∈ s.frameBufferAllocList, k.id = f.id → k.isReady = false := by
      intro f hframe hf k hk hid
      rw [h.eq_of_id hk (frameOf_spec h hframe).1 hid]
      exact hf
    cases hreleased with
    | noFrame hframe halloc hfree => exact .of_subset fun k hk _ => by rw [halloc]; exact hk
    | dropped f hframe hdelivered halloc hfree =>
      refine readyKept_map halloc fun k hk hid hready => ?_
      rw [hnot f hframe (by simp [FrameBuffer.isReady, hdelivered]) k hk hid] at hready
      cases hready
    | freed f hframe hinactive howned halloc hfree =>
      refine readyKept_filter halloc (hnot f hframe ?_)
      rcases howned with hstate | hstate <;> simp [FrameBuffer.isReady, hstate]
    | unlinked f hframe hother halloc hfree => exact readyKept_map halloc fun k _ _ hready => ⟨hready, rfl⟩

theorem displayFrameLocked_readyKept (h : FrameQueue mode s) (serialNumber : Nat) :
    ReadyKept s (s.displayFrameLocked serialNumber).1 := by
  rcases displayFrameLocked_cases (s := s) serialNumber with ⟨heq, -⟩ | ⟨f, hfind, hstate, -, heq⟩
  · exact .of_subset fun f hf _ => by rw [heq]; exact hf
  · have hmem : f ∈ s.frameBufferAllocList := List.mem_of_find?_eq_some hfind
    refine readyKept_map (by rw [heq]) fun k hk hid hready => ?_
    rw [h.eq_of_id hk hmem hid] at hready
    simp [FrameBuffer.isReady, hstate] at hready

/-! ### Frames that go back -/

theorem Deferred.handBack {I B R : List FrameBuffer} {last : FrameBuffer} (hd : Deferred s) (h : FrameQueue mode s)
    (hb : Batch s I B R) (hflush : s.outputFlushing = false) (hlast : B.getLast? = some last) :
    Deferred (s.handBack I B R last) := by
  intro hwait
  simp only [OutputSide.handBack] at hwait ⊢
  split at hwait
  · cases hwait
  · next hdue =>
    obtain ⟨-, f, hf, hready, hserial⟩ := hd hwait
    rw [hb.split, List.append_assoc, List.mem_append, List.mem_append] at hf
    rcases hf with hf | hf | hf
    · have hinvalid := hb.invalid f hf
      cases hs : f.state <;> simp_all [FrameBuffer.isInvalid, FrameBuffer.isReady]
    · rw [hb.notReady hflush f hf] at hready
      cases hready
    · -- the frame is behind the batch
      have hsorted := h.aligned.serials_sorted
      rw [hb.split, List.map_append, List.map_append, List.pairwise_append] at hsorted
      have hmem : last ∈ B := List.mem_of_getLast? hlast
      have hlt : last.serial < f.serial := hsorted.2.2 _
        (List.mem_append_right _ (List.mem_map.mpr ⟨last, hmem, rfl⟩)) _ (List.mem_map.mpr ⟨f, hf, rfl⟩)
      have hne : s.formatChangeSerial ≠ last.serial + 1 := by
        simpa [changeDue, hwait] using hdue
      refine ⟨?_, f, List.mem_append_right _ hf, hready, hserial⟩
      omega

theorem Deferred.returnDecodedFrames (hd : Deferred s) (h : FrameQueue mode s) (hflush : s.outputFlushing = false) :
    Deferred s.returnDecodedFrames.1 :=
  returnDecodedFrames_keeps h.aligned h.length_le hd fun hb hlast => hd.handBack h hb hflush hlast

theorem returnDecodedFrames_wait (h : s.returnDecodedFrames.1.formatChangeState = .waitForSerial) :
    s.formatChangeState = .waitForSerial := by
  simp only [OutputSide.returnDecodedFrames] at h
  split at h
  · exact h
  · split at h
    · exact h
    · simp only at h
      split at h
      · cases h
      · exact h

theorem not_deferred_of_closed (hd : Deferred s) (h : FrameQueue mode s) (hclosed : s.hSimpleVideoDecoder = false) :
    s.formatChangeState ≠ .waitForSerial := by
  intro hwait
  obtain ⟨-, f, hf, hready, -⟩ := hd hwait
  have hstopped : s.nexus.started = false := by
    by_contra hstarted
    rw [h.acquired (by simpa using hstarted)] at hclosed
    cases hclosed
  have hinvalid := isInvalid_of_stopped h hstopped hf
  cases hs : f.state <;> simp_all [FrameBuffer.isInvalid, FrameBuffer.isReady]

/-! ### The rules -/

/-- The frame queue, with a format change that waits for earlier frames. -/
structure DeferredQueue (mode : OutputMode) (s : OutputSide) : Prop where
  queue : FrameQueue mode s
  deferred : Deferred s

/-- While a format change waits, no flush, no stop and no clearing of the alloc list takes place. -/
def deferConditions (mode : OutputMode) : OutputConditions where
  fill := fun s b => HandleOk mode b s
  flush := fun s => s.formatChangeState ≠ .waitForSerial
  stop := fun s => s.formatChangeState ≠ .waitForSerial
  clear := fun s => s.formatChangeState ≠ .waitForSerial

theorem PollStep.deferred (hstep : PollStep s s') (hd : Deferred s) : Deferred s' := by
  cases hstep with
  | quiet hq =>
    refine hd.same ?_ ?_ ?_ ?_
    all_goals rw [hq.rest]
  | deliver _ _ hopen => exact .of_ne hopen
  | defer hready _ _ hlt =>
    have hfind := List.find?_some hready
    exact fun _ => ⟨hlt, _, List.mem_of_find?_eq_some hready, hfind, rfl⟩
  | reconfig _ _ => exact .of_ne FormatChangeState.noConfusion

theorem Deferred.of_detached {b : BufferId} (hd : Deferred s) (hkept : ReadyKept s s') (hdet : Detached b s s') :
    Deferred s' := by
  refine hd.congr hkept (fun hwait => ?_) ?_ ?_
  · rw [hdet.rest] at hwait
    exact hwait
  · rw [hdet.rest]
  · rw [hdet.rest]

theorem Deferred.freeBuffer (hd : Deferred s) (h : FrameQueue mode s) : Deferred (s.freeBuffer b).1 := by
  rcases freeBuffer_detached (s := s) (b := b) with ⟨heq, -⟩ | ⟨hdet, -⟩
  · rw [heq]
    exact hd
  · exact hd.of_detached (freeBuffer_readyKept h) hdet

theorem Deferred.displayFrameLocked (hd : Deferred s) (h : FrameQueue mode s) (n : Nat) :
    Deferred (s.displayFrameLocked n).1 := by
  have hrest : (s.displayFrameLocked n).1.formatChangeState = s.formatChangeState ∧
      (s.displayFrameLocked n).1.formatChangeSerial = s.formatChangeSerial ∧
      (s.displayFrameLocked n).1.lastReturnedSerial = s.lastReturnedSerial := by
    rcases displayFrameLocked_cases (s := s) n with ⟨heq, -⟩ | ⟨f, -, -, -, heq⟩
    · rw [heq]
      exact ⟨rfl, rfl, rfl⟩
    · rw [heq]
      exact ⟨rfl, rfl, rfl⟩
  exact hd.congr (displayFrameLocked_readyKept h n) (fun hwait => hrest.1 ▸ hwait) hrest.2.1 hrest.2.2

theorem deferRules (mode : OutputMode) : OutputRules mode (deferConditions mode) (DeferredQueue mode) where
  queue h := h.queue
  take n h := by
    refine ⟨h.queue.getDecodedFrames n, ?_⟩
    simp only [OutputSide.getDecodedFrames]
    split
    · exact h.deferred
    · rw [alogAssert_rest]
      exact h.deferred.congr (.of_subset fun f hf _ => List.mem_append_left _ hf) id rfl rfl
  pollStep hstep h := ⟨hstep.frameQueue h.queue, hstep.deferred h.deferred⟩
  add b nSizeBytes nativeHandle componentAllocated h := by
    refine ⟨h.queue.addBuffer _ _ _, ?_⟩
    simp only [OutputSide.addBuffer]
    split
    · exact h.deferred
    · split
      · exact h.deferred
      · exact h.deferred.same rfl rfl rfl rfl
  fill := @fun s b _ hok hflush hnone h => by
    have hfilled := h.queue.fillThisBuffer hok
    have hkept := h.deferred.of_detached (fillThisBuffer_readyKept h.queue hok hnone) (fillThisBuffer_detached hnone).1
    have hflush' : (s.fillThisBuffer b).1.outputFlushing = false := fillThisBuffer_notFlushing hflush
    exact ⟨hfilled.returnDecodedFrames hflush', hkept.returnDecodedFrames hfilled hflush'⟩
  free := @fun s b _ hflush h => by
    refine ⟨h.queue.freeAndReturn hflush, ?_⟩
    have hfreed : Deferred (s.freeBuffer b).1 := h.deferred.freeBuffer h.queue
    unfold freeAndReturn
    split
    · exact hfreed.returnDecodedFrames h.queue.freeBuffer (freeBuffer_notFlushing hflush)
    · exact hfreed
  notify hok h := ⟨(queueRules mode).notify hok h.queue, h.deferred.same rfl rfl rfl rfl⟩
  takeDisplay hnone h := by
    refine ⟨(queueRules mode).takeDisplay hnone h.queue, ?_⟩
    simp only [takeDisplayFrame]
    split
    · exact h.deferred.same rfl rfl rfl rfl
    · exact h.deferred
  showDisplay := @fun s n _ hflush h => by
    refine ⟨h.queue.showAndReturn hflush n, ?_⟩
    have htaken : FrameQueue mode { s with displayTaken := none } :=
      h.queue.congr rfl rfl rfl rfl rfl (fun _ => rfl) (fun _ => rfl) id
    have hsame : Deferred { s with displayTaken := none } := h.deferred.same rfl rfl rfl rfl
    have hshown := hsame.displayFrameLocked htaken n
    have hflush' : ({ s with displayTaken := none }.displayFrameLocked n).1.outputFlushing = false :=
      displayFrameLocked_notFlushing (s := { s with displayTaken := none }) hflush n
    simp only [showAndReturn]
    split
    · exact hshown.returnDecodedFrames (htaken.displayFrameLocked n) hflush'
    · exact hshown
  decode hok hstarted hserials h :=
    ⟨h.queue.decode hstarted hserials, h.deferred.congr (.of_subset fun _ hf _ => hf) id rfl rfl⟩
  flush hok hopen h := by
    refine ⟨h.queue.flush hopen, .of_ne fun hwait => hok ?_⟩
    exact returnDecodedFrames_wait (s := startFlush _) hwait
  endFlush _ h := ⟨h.queue.endFlush, h.deferred.same rfl rfl rfl rfl⟩
  returnPortBuffers h := by
    refine ⟨h.queue.returnPortBuffers, ?_⟩
    rw [(returnPortBuffers_port).1]
    exact h.deferred.same rfl rfl rfl rfl
  stop_returned hok := by
    rw [deferConditions, (returnPortBuffers_port).1]
    exact hok
  stop hok _ h := ⟨h.queue.stop, .of_ne hok⟩
  release := @fun _ s h => by
    refine ⟨h.queue.release, .of_ne ?_⟩
    simp only [OutputSide.release]
    split
    · exact FormatChangeState.noConfusion
    · next hclosed =>
      have hclosed : s.hSimpleVideoDecoder = false := by simpa [invalidateDecodedFrames] using hclosed
      change s.formatChangeState ≠ .waitForSerial
      exact not_deferred_of_closed h.deferred h.queue hclosed
  unload _ _ h := by
    refine ⟨h.queue.unload, ?_⟩
    simp only [OutputSide.unload]
    rw [(returnPortBuffers_port).1]
    split
    · exact .of_ne FormatChangeState.noConfusion
    · exact h.deferred.same rfl rfl rfl rfl
  clear_flags _ _ hok := hok
  clear _ _ hok hempty h := ⟨h.queue.clearAllocList hempty, .of_ne hok⟩
  acquire _ h := ⟨h.queue.acquire, h.deferred.same rfl rfl rfl rfl⟩
  start hopen hstopped h := ⟨h.queue.nexusStart hopen hstopped, h.deferred.same rfl rfl rfl rfl⟩
  startFailed hstopped h := ⟨h.queue.startFailed hstopped, h.deferred.same rfl rfl rfl rfl⟩
  portFlags bEnabled bPopulated h :=
    ⟨(queueRules mode).portFlags bEnabled bPopulated h.queue, h.deferred.same rfl rfl rfl rfl⟩

end OutputSide
end BcmPlatform.Bomx
