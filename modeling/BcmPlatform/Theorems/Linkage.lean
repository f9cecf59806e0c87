import BcmPlatform.Theorems.FrameRuns
import BcmPlatform.Theorems.FrameSpecs

/-! The links between output buffers and frames in the modes without metadata: a frame that the client owns is the one
    of the buffer through which it was delivered, and no other frame has a buffer. -/

namespace BcmPlatform.Bomx
open Lib
namespace OutputSide
variable {s s' : OutputSide} {mode : OutputMode} {b c : BufferId} {f : FrameBuffer}

/-- Buffer `b` is the client's, and carries the frame. -/
structure Owner (f : FrameBuffer) (b : BufferId) (s : OutputSide) : Prop where
  list : b ∈ s.port.bufferList
  notQueued : b ∉ s.port.bufferQueue
  info : f.pBufferInfo = some b
  frame : (s.buffer b).pFrameBuffer = some f.id

/-- Frames that the client owns have an owner; the others have no buffer. -/
structure Owned (s : OutputSide) : Prop where
  owner : ∀ f ∈ s.frameBufferAllocList, f.isClientOwned = true → ∃ b, Owner f b s
  other : ∀ f ∈ s.frameBufferAllocList, f.isClientOwned = false → f.pBufferInfo = none
  free : ∀ f ∈ s.frameBufferFreeList, f.pBufferInfo = none

namespace Owned

theorem congr (h : Owned s) (halloc : s'.frameBufferAllocList = s.frameBufferAllocList)
    (hfree : s'.frameBufferFreeList = s.frameBufferFreeList)
    (howner : ∀ f b, Owner f b s → Owner f b s') : Owned s' where
  owner f hf howned := by
    rw [halloc] at hf
    obtain ⟨b, hb⟩ := h.owner f hf howned
    exact ⟨b, howner f b hb⟩
  other f hf := by
    rw [halloc] at hf
    exact h.other f hf
  free f hf := by
    rw [hfree] at hf
    exact h.free f hf

theorem sameBuffers (h : Owned s) (halloc : s'.frameBufferAllocList = s.frameBufferAllocList)
    (hfree : s'.frameBufferFreeList = s.frameBufferFreeList) (hlist : s'.port.bufferList = s.port.bufferList)
    (hqueue : ∀ b ∈ s'.port.bufferQueue, b ∈ s.port.bufferQueue)
    (hframe : ∀ b, (s'.buffer b).pFrameBuffer = (s.buffer b).pFrameBuffer) : Owned s' :=
  h.congr halloc hfree fun f b hb =>
    ⟨by rw [hlist]; exact hb.list, fun hmem => hb.notQueued (hqueue b hmem), hb.info, by rw [hframe]; exact hb.frame⟩

theorem detached (h : Owned s) (hd : Detached b s s')
    (halloc : ∀ g ∈ s'.frameBufferAllocList, (g ∈ s.frameBufferAllocList ∧ (s.buffer b).pFrameBuffer ≠ some g.id) ∨
      (g.isClientOwned = false ∧ g.pBufferInfo = none))
    (hfree : ∀ g ∈ s'.frameBufferFreeList, g ∈ s.frameBufferFreeList ∨ g.pBufferInfo = none) : Owned s' where
  owner g hg howned := by
    rcases halloc g hg with ⟨hmem, hne⟩ | ⟨hnot, -⟩
    · obtain ⟨c, hc⟩ := h.owner g hmem howned
      have hcb : c ≠ b := by
        rintro rfl
        exact hne hc.frame
      exact ⟨c, hd.list c hcb hc.list, fun hq => hc.notQueued (hd.queue c hcb hq), hc.info,
        by rw [hd.others c hcb]; exact hc.frame⟩
    · rw [howned] at hnot
      cases hnot
  other g hg hnot := by
    rcases halloc g hg with ⟨hmem, -⟩ | ⟨-, hnone⟩
    · exact h.other g hmem hnot
    · exact hnone
  free g hg := by
    rcases hfree g hg with hmem | hnone
    · exact h.free g hmem
    · exact hnone

end Owned

/-! ### The client's calls -/

theorem frameOf_eq_none (h : FrameQueue mode s) (hmode : mode ≠ .metadata) (hnone : s.frameOf b = none) :
    (s.buffer b).pFrameBuffer = none := by
  cases hframe : (s.buffer b).pFrameBuffer with
  | none => rfl
  | some n =>
    obtain ⟨-, f, hf, hid, -, -⟩ := h.linked hmode b n hframe
    have hfind : s.node n ≠ none := by
      rw [node, Ne, List.find?_eq_none]
      exact fun hall => absurd hid (by simpa using hall f hf)
    rw [frameOf, h.types b, if_neg hmode, hframe] at hnone
    exact absurd hnone hfind

theorem frameOf_other (hq : FrameQueue mode s) (hmode : mode ≠ .metadata) (hframe : s.frameOf b = some f)
    (g : FrameBuffer) (hid : g.id ≠ f.id) : (s.buffer b).pFrameBuffer ≠ some g.id := by
  rw [((frameOf_spec hq hframe).2 hmode).1]
  simpa using fun heq : f.id = g.id => hid heq.symm

/-- `FillThisBuffer` keeps the frame of the buffer for a display request that is pending. -/
def KeepsFrame (b : BufferId) (s : OutputSide) : Prop :=
  ∃ f, s.frameOf b = some f ∧ f.state ≠ .invalid ∧ s.displayFrameAvailable = true ∧ f.serial = s.frameSerial

theorem Owned.fillThisBuffer (h : Owned s) (hq : FrameQueue mode s) (hmode : mode ≠ .metadata)
    (hkeep : ¬ KeepsFrame b s) (hnone : (s.fillThisBuffer b).2 = .none) : Owned (s.fillThisBuffer b).1 := by
  have hd := (fillThisBuffer_detached hnone).1
  cases fillThisBuffer_cases hnone with
  | noFrame hframe halloc hfree =>
    have hlost := frameOf_eq_none hq hmode hframe
    refine h.detached hd (fun g hg => .inl ⟨halloc ▸ hg, ?_⟩) fun g hg => .inl (hfree ▸ hg)
    rw [hlost]
    exact (Option.some_ne_none _).symm
  | freed f hframe hinvalid halloc hfree =>
    have hother := frameOf_other hq hmode hframe
    refine h.detached hd (fun g hg => ?_) fun g hg => ?_
    · rw [halloc, List.mem_filter] at hg
      exact .inl ⟨hg.1, hother g (of_decide_eq_true hg.2)⟩
    · rw [hfree, List.mem_append, List.mem_singleton] at hg
      exact hg.imp id fun heq => by rw [heq]
  | pending f hframe hvalid hpending halloc hfree =>
    exact absurd ⟨f, hframe, hvalid, hpending.1, hpending.2⟩ hkeep
  | dropped f hframe hvalid hnot halloc hfree =>
    refine h.detached hd (fun g hg => ?_) fun g hg => .inl (hfree ▸ hg)
    rw [halloc] at hg
    rcases mem_map_node hg with ⟨hg, hid⟩ | ⟨k, -, -, rfl⟩
    · exact .inl ⟨hg, frameOf_other hq hmode hframe g hid⟩
    · exact .inr ⟨rfl, rfl⟩

theorem Owned.freeBuffer (h : Owned s) (hq : FrameQueue mode s) (hmode : mode ≠ .metadata) :
    Owned (s.freeBuffer b).1 := by
  rcases freeBuffer_cases (s := s) (b := b) with heq | ⟨hd, hreleased⟩
  · rw [heq]
    exact h
  · cases hreleased with
    | noFrame hframe halloc hfree =>
      have hlost := frameOf_eq_none hq hmode hframe
      refine h.detached hd (fun g hg => .inl ⟨halloc ▸ hg, ?_⟩) fun g hg => .inl (hfree ▸ hg)
      rw [hlost]
      exact (Option.some_ne_none _).symm
    | dropped f hframe hdelivered halloc hfree =>
      refine h.detached hd (fun g hg => ?_) fun g hg => .inl (hfree ▸ hg)
      rw [halloc] at hg
      rcases mem_map_node hg with ⟨hg, hid⟩ | ⟨k, -, -, rfl⟩
      · exact .inl ⟨hg, frameOf_other hq hmode hframe g hid⟩
      · exact .inr ⟨rfl, rfl⟩
    | freed f hframe hinactive howned halloc hfree =>
      refine h.detached hd (fun g hg => ?_) fun g hg => ?_
      · rw [halloc, List.mem_filter] at hg
        exact .inl ⟨hg.1, frameOf_other hq hmode hframe g (of_decide_eq_true hg.2)⟩
      · rw [hfree, List.mem_append, List.mem_singleton] at hg
        exact hg.imp id fun heq => by rw [heq]
    | unlinked f hframe hnot halloc hfree =>
      have howned := ((frameOf_spec hq hframe).2 hmode).2.1
      have hstate : f.state = .delivered ∨ f.state = .invalid := by simpa [FrameBuffer.isClientOwned] using howned
      exact absurd hstate hnot

theorem Owned.displayFrameLocked (h : Owned s) (serialNumber : Nat) :
    Owned (s.displayFrameLocked serialNumber).1 := by
  rcases displayFrameLocked_cases (s := s) serialNumber with ⟨heq, -⟩ | ⟨f, hfind, hstate, -, heq⟩
  · rw [heq]
    exact h
  · have hmem : f ∈ s.frameBufferAllocList := List.mem_of_find?_eq_some hfind
    obtain ⟨b, hb⟩ := h.owner f hmem (by simp [FrameBuffer.isClientOwned, hstate])
    rw [heq, hb.info]
    refine h.detached (b := b) ⟨by simp, fun c hc => by simp [hc], fun _ _ => id, fun _ _ => id, rfl⟩ (fun g hg => ?_)
      fun g hg => .inl hg
    rcases mem_map_node hg with ⟨hg, hid⟩ | ⟨k, -, -, rfl⟩
    · refine .inl ⟨hg, ?_⟩
      rw [hb.frame]
      simpa using fun heq : f.id = g.id => hid heq.symm
    · exact .inr ⟨rfl, rfl⟩

theorem Owned.addBuffer (h : Owned s) (nSizeBytes nativeHandle : Nat) (componentAllocated : Bool) :
    Owned (s.addBuffer mode b nSizeBytes nativeHandle componentAllocated).1 := by
  simp only [OutputSide.addBuffer]
  split
  · exact h
  · next hnew =>
    split
    · exact h
    · next port hport =>
      have hadded := Port.Added.of_ok hport
      refine h.congr rfl rfl fun f c hc => ?_
      have hcb : c ≠ b := by
        rintro rfl
        exact hnew hc.list
      refine ⟨?_, ?_, hc.info, ?_⟩
      · change c ∈ port.bufferList
        rw [hadded.bufferList]
        exact List.mem_append_left _ hc.list
      · change c ∉ port.bufferQueue
        rw [hadded.bufferQueue]
        exact hc.notQueued
      · simpa [OutputSide.setBuffer, hcb] using hc.frame

/-! ### Polls and returns -/

theorem Owned.getDecodedFrames (h : Owned s) (n : Nat) : Owned (s.getDecodedFrames n) := by
  simp only [OutputSide.getDecodedFrames]
  split
  · exact h
  · rw [alogAssert_rest]
    obtain ⟨-, -, hready, hinfo, hfree⟩ := allocFrames_split s.frameBufferFreeList
      ((s.nexus.fifo.take (min n maxDecodedFrames)).drop (s.frameBufferAllocList.dropWhile (·.isInvalid)).length)
    generalize allocFrames s.frameBufferFreeList _ = p at hready hinfo hfree
    have hnew : ∀ f ∈ p.1, f.isClientOwned = false ∧ f.pBufferInfo = none := by
      intro f hf
      have hstate : f.state = .ready := by simpa [FrameBuffer.isReady] using hready f hf
      obtain ⟨g, hg, heq⟩ := hinfo f hf
      exact ⟨by simp [FrameBuffer.isClientOwned, hstate], heq.trans (h.free g hg)⟩
    refine ⟨fun f hf howned => ?_, fun f hf hnot => ?_, fun f hf => h.free f (hfree f hf)⟩
    · rcases List.mem_append.mp hf with hf | hf
      · obtain ⟨b, hb⟩ := h.owner f hf howned
        exact ⟨b, hb.list, hb.notQueued, hb.info, hb.frame⟩
      · rw [(hnew f hf).1] at howned
        cases howned
    · rcases List.mem_append.mp hf with hf | hf
      · exact h.other f hf hnot
      · exact (hnew f hf).2

theorem Owned.deliverNode (h : Owned s) (hb : s.port.getBuffer = some b) : Owned (s.deliverNode f b) := by
  have hqueued : b ∈ s.port.bufferQueue := List.mem_of_head? hb
  refine ⟨fun g hg howned => ?_, fun g hg hnot => ?_, h.free⟩
  · rcases mem_map_node hg with ⟨hg, hid⟩ | ⟨k, hk, hid, rfl⟩
    · -- the other frames have other buffers, since this one was queued
      obtain ⟨c, hc⟩ := h.owner g hg howned
      have hcb : c ≠ b := by
        rintro rfl
        exact hc.notQueued hqueued
      refine ⟨c, hc.list, fun hmem => hc.notQueued (List.mem_of_mem_erase hmem), hc.info, ?_⟩
      rw [deliverNode_buffer_of_ne hcb]
      exact hc.frame
    · refine ⟨b, s.port.queued b hqueued, ?_, rfl, ?_⟩
      · exact s.port.nodup_queue.not_mem_erase
      · rw [deliverNode_buffer]
        exact congrArg some hid.symm
  · rcases mem_map_node hg with ⟨hg, hid⟩ | ⟨k, -, -, rfl⟩
    · exact h.other g hg hnot
    · cases hnot

theorem Owned.pollStep (h : Owned s) (hstep : PollStep s s') : Owned s' := by
  cases hstep with
  | quiet hquiet =>
    refine h.sameBuffers ?_ ?_ ?_ ?_ hquiet.frame
    · rw [hquiet.rest]
    · rw [hquiet.rest]
    · rw [hquiet.rest]
    · rw [hquiet.rest]
      exact fun _ => id
  | deliver _ hb _ => exact h.deliverNode hb
  | defer _ _ _ _ => exact h.sameBuffers rfl rfl rfl (fun _ => id) fun _ => rfl
  | reconfig _ _ => exact h.sameBuffers rfl rfl rfl (fun _ => id) fun _ => rfl

theorem Owned.handBack {I B R : List FrameBuffer} (h : Owned s) (hb : Batch s I B R) (last : FrameBuffer) :
    Owned (s.handBack I B R last) := by
  have hmem : ∀ g ∈ I ++ B ++ R, g ∈ s.frameBufferAllocList := by
    rw [hb.split]
    exact fun _ => id
  have howner : ∀ g, (∃ b, Owner g b s) → ∃ b, Owner g b (s.handBack I B R last) :=
    fun g ⟨b, hgb⟩ => ⟨b, hgb.list, hgb.notQueued, hgb.info, hgb.frame⟩
  refine ⟨fun g hg howned => ?_, fun g hg hnot => ?_, fun g hg => ?_⟩
  · rcases List.mem_append.mp hg with hg | hg
    · rcases List.mem_append.mp hg with hg | hg
      · exact howner g (h.owner g (hmem g (by simp [hg])) howned)
      · obtain ⟨k, hk, rfl⟩ := List.mem_map.mp hg
        obtain ⟨hk, hstate⟩ := List.mem_filter.mp hk
        have hkowned : k.isClientOwned = true := by
          simp only [decide_eq_true_eq] at hstate
          simp [FrameBuffer.isClientOwned, hstate]
        obtain ⟨b, hkb⟩ := h.owner k (hmem k (by simp [hk])) hkowned
        exact ⟨b, hkb.list, hkb.notQueued, hkb.info, hkb.frame⟩
    · exact howner g (h.owner g (hmem g (by simp [hg])) howned)
  · rcases List.mem_append.mp hg with hg | hg
    · rcases List.mem_append.mp hg with hg | hg
      · exact h.other g (hmem g (by simp [hg])) hnot
      · obtain ⟨k, -, rfl⟩ := List.mem_map.mp hg
        cases hnot
    · exact h.other g (hmem g (by simp [hg])) hnot
  · rcases List.mem_append.mp hg with hg | hg
    · exact h.free g hg
    · obtain ⟨k, -, rfl⟩ := List.mem_map.mp hg
      rfl

theorem Owned.returnDecodedFrames {fifo : List Nat} {next : Nat} (h : Owned s)
    (haligned : Aligned s.frameBufferAllocList fifo next) (hlen : s.frameBufferAllocList.length ≤ maxDecodedFrames) :
    Owned s.returnDecodedFrames.1 :=
  returnDecodedFrames_keeps haligned hlen h fun hb _ => h.handBack hb _

/-! ### State changes -/

theorem Owned.invalidate (h : Owned s) : Owned s.invalidateDecodedFrames := by
  refine ⟨fun g hg _ => ?_, fun g hg hnot => ?_, fun g hg => ?_⟩
  · obtain ⟨k, hk, rfl⟩ := List.mem_map.mp hg
    obtain ⟨hk, howned⟩ := List.mem_filter.mp hk
    obtain ⟨b, hkb⟩ := h.owner k hk howned
    exact ⟨b, hkb.list, hkb.notQueued, hkb.info, hkb.frame⟩
  · obtain ⟨k, -, rfl⟩ := List.mem_map.mp hg
    cases hnot
  · rcases List.mem_append.mp hg with hg | hg
    · exact h.free g hg
    · obtain ⟨k, hk, rfl⟩ := List.mem_map.mp hg
      obtain ⟨hk, hnot⟩ := List.mem_filter.mp hk
      exact h.other k hk (by simpa using hnot)

theorem Owned.returnPortBuffers (h : Owned s) : Owned s.returnPortBuffers := by
  obtain ⟨heq, hlist, -, hqueue⟩ := returnPortBuffers_port (s := s)
  rw [heq]
  refine h.sameBuffers rfl rfl hlist (fun b hb => ?_) fun _ => rfl
  have hb : b ∈ s.returnPortBuffers.port.bufferQueue := hb
  rw [hqueue] at hb
  exact absurd hb List.not_mem_nil

theorem Owned.unload (h : Owned s) : Owned s.unload := by
  simp only [OutputSide.unload]
  split
  · exact h.returnPortBuffers.sameBuffers rfl rfl rfl (fun _ => id) fun _ => rfl
  · exact h.returnPortBuffers

theorem Owned.release (h : Owned s) : Owned s.release := by
  simp only [OutputSide.release]
  split
  · exact h.invalidate.sameBuffers rfl rfl rfl (fun _ => id) fun _ => rfl
  · exact h.invalidate

theorem Owned.clearAllocList (h : Owned s) (hempty : s.port.bufferList = []) : Owned s.clearAllocList := by
  refine ⟨fun f hf => absurd hf List.not_mem_nil, fun f hf => absurd hf List.not_mem_nil, fun f hf => ?_⟩
  rcases List.mem_append.mp hf with hf | hf
  · exact h.free f hf
  · refine h.other f hf ?_
    by_contra howned
    obtain ⟨b, hb⟩ := h.owner f hf (by simpa using howned)
    have hlist := hb.list
    rw [hempty] at hlist
    exact absurd hlist List.not_mem_nil

/-! ### Runs -/

/-- The conditions of the links. -/
def linkConditions : OutputConditions where
  fill := fun s b => ¬ KeepsFrame b s

/-- The frame queue, and the owners of its frames. -/
structure OwnedQueue (mode : OutputMode) (s : OutputSide) : Prop where
  queue : FrameQueue mode s
  owned : Owned s

theorem OwnedQueue.returnDecodedFrames (h : OwnedQueue mode s) (hflush : s.outputFlushing = false) :
    OwnedQueue mode s.returnDecodedFrames.1 :=
  ⟨h.queue.returnDecodedFrames hflush, h.owned.returnDecodedFrames h.queue.aligned h.queue.length_le⟩

theorem linkRules (hmode : mode ≠ .metadata) : OutputRules mode linkConditions (OwnedQueue mode) where
  queue h := h.queue
  take n h := ⟨h.queue.getDecodedFrames n, h.owned.getDecodedFrames n⟩
  pollStep hstep h := ⟨hstep.frameQueue h.queue, h.owned.pollStep hstep⟩
  add _ _ _ _ h := ⟨h.queue.addBuffer _ _ _, h.owned.addBuffer _ _ _⟩
  fill {s b} _ hok hflush hnone h := by
    have hfill := h.queue.fillThisBuffer (b := b) fun hmeta => absurd hmeta hmode
    exact OwnedQueue.returnDecodedFrames ⟨hfill, h.owned.fillThisBuffer h.queue hmode hok hnone⟩
      (fillThisBuffer_notFlushing hflush)
  free {s b} _ hflush h := by
    have hfree : OwnedQueue mode (s.freeBuffer b).1 := ⟨h.queue.freeBuffer, h.owned.freeBuffer h.queue hmode⟩
    unfold freeAndReturn
    split
    · exact hfree.returnDecodedFrames (freeBuffer_notFlushing hflush)
    · exact hfree
  notify _ h := ⟨(queueRules mode).notify trivial h.queue, h.owned.sameBuffers rfl rfl rfl (fun _ => id) fun _ => rfl⟩
  takeDisplay hnone h := by
    refine ⟨(queueRules mode).takeDisplay hnone h.queue, ?_⟩
    simp only [takeDisplayFrame]
    split
    · exact h.owned.sameBuffers rfl rfl rfl (fun _ => id) fun _ => rfl
    · exact h.owned
  showDisplay {s n} _ hflush h := by
    have htaken : OwnedQueue mode { s with displayTaken := none } :=
      ⟨h.queue.congr rfl rfl rfl rfl rfl (fun _ => rfl) (fun _ => rfl) id,
        h.owned.sameBuffers rfl rfl rfl (fun _ => id) fun _ => rfl⟩
    have hshow : OwnedQueue mode ({ s with displayTaken := none }.displayFrameLocked n).1 :=
      ⟨htaken.queue.displayFrameLocked n, htaken.owned.displayFrameLocked n⟩
    simp only [showAndReturn]
    split
    · exact hshow.returnDecodedFrames (displayFrameLocked_notFlushing (s := { s with displayTaken := none }) hflush n)
    · exact hshow
  decode _ hstarted hserials h :=
    ⟨h.queue.decode hstarted hserials, h.owned.sameBuffers rfl rfl rfl (fun _ => id) fun _ => rfl⟩
  flush {s} _ hopen h := by
    refine ⟨h.queue.flush hopen, Owned.returnDecodedFrames (s := s.startFlush) ?_ h.queue.aligned h.queue.length_le⟩
    exact h.owned.sameBuffers rfl rfl rfl (fun _ => id) fun _ => rfl
  endFlush _ h := ⟨h.queue.endFlush, h.owned.sameBuffers rfl rfl rfl (fun _ => id) fun _ => rfl⟩
  returnPortBuffers h := ⟨h.queue.returnPortBuffers, h.owned.returnPortBuffers⟩
  stop_returned _ := trivial
  stop _ _ h := ⟨h.queue.stop, h.owned.invalidate.sameBuffers rfl rfl rfl (fun _ => id) fun _ => rfl⟩
  release _ _ h := ⟨h.queue.release, h.owned.release⟩
  unload _ _ h := ⟨h.queue.unload, h.owned.unload⟩
  clear_flags _ _ _ := trivial
  clear _ _ _ hempty h := ⟨h.queue.clearAllocList hempty, h.owned.clearAllocList hempty⟩
  acquire _ h := ⟨h.queue.acquire, h.owned.sameBuffers rfl rfl rfl (fun _ => id) fun _ => rfl⟩
  start hopen hstopped h :=
    ⟨h.queue.nexusStart hopen hstopped, h.owned.sameBuffers rfl rfl rfl (fun _ => id) fun _ => rfl⟩
  startFailed hstopped h :=
    ⟨h.queue.startFailed hstopped, h.owned.sameBuffers rfl rfl rfl (fun _ => id) fun _ => rfl⟩
  portFlags bEnabled bPopulated h :=
    ⟨(queueRules mode).portFlags bEnabled bPopulated h.queue, h.owned.sameBuffers rfl rfl rfl (fun _ => id) fun _ => rfl⟩

/-- Buffers and frames are linked in both directions, no two frames have one buffer, and an invalid frame is that of a
    buffer of the client. -/
structure Linkage (s : OutputSide) : Prop where
  link : ∀ b ∈ s.port.bufferList, ∀ f ∈ s.frameBufferAllocList, (s.buffer b).pFrameBuffer = some f.id ↔
    f.pBufferInfo = some b ∧ (f.state = .delivered ∨ f.state = .invalid)
  unique : ∀ f ∈ s.frameBufferAllocList ++ s.frameBufferFreeList, ∀ g ∈ s.frameBufferAllocList ++ s.frameBufferFreeList,
    f.pBufferInfo ≠ none → f.pBufferInfo = g.pBufferInfo → f = g
  invalid : ∀ f ∈ s.frameBufferAllocList, f.state = .invalid →
    ∃ b ∈ s.port.bufferList, b ∉ s.port.bufferQueue ∧ (s.buffer b).pFrameBuffer = some f.id

theorem OwnedQueue.linkage (h : OwnedQueue mode s) (hmode : mode ≠ .metadata) : s.Linkage := by
  have howned : ∀ f : FrameBuffer, f.isClientOwned = true ↔ f.state = .delivered ∨ f.state = .invalid := by
    intro f
    simp [FrameBuffer.isClientOwned]
  -- a frame with a buffer is one that this buffer carries
  have hcarried : ∀ f ∈ s.frameBufferAllocList ++ s.frameBufferFreeList, ∀ b, f.pBufferInfo = some b →
      f ∈ s.frameBufferAllocList ∧ (s.buffer b).pFrameBuffer = some f.id := by
    intro f hf b hb
    rcases List.mem_append.mp hf with hf | hf
    · have hclient : f.isClientOwned = true := by
        by_contra hnot
        rw [h.owned.other f hf (by simpa using hnot)] at hb
        cases hb
      obtain ⟨c, hc⟩ := h.owned.owner f hf hclient
      have heq := hc.info
      rw [hb] at heq
      cases heq
      exact ⟨hf, hc.frame⟩
    · rw [h.owned.free f hf] at hb
      cases hb
  refine ⟨fun b hb f hf => ⟨fun hframe => ?_, fun hinfo => ?_⟩, fun f hf g hg hne heq => ?_, fun f hf hstate => ?_⟩
  · obtain ⟨-, g, hg, hid, hclient, hinfo⟩ := h.queue.linked hmode b f.id hframe
    obtain rfl := h.queue.eq_of_id hg hf hid
    exact ⟨hinfo, (howned g).mp hclient⟩
  · exact (hcarried f (List.mem_append_left _ hf) b hinfo.1).2
  · obtain ⟨b, hb⟩ := Option.ne_none_iff_exists'.mp hne
    obtain ⟨hf, hfb⟩ := hcarried f hf b hb
    obtain ⟨hg, hgb⟩ := hcarried g hg b (heq ▸ hb)
    rw [hfb, Option.some_inj] at hgb
    exact h.queue.eq_of_id hf hg hgb
  · obtain ⟨b, hb⟩ := h.owned.owner f hf ((howned f).mpr (.inr hstate))
    exact ⟨b, hb.list, hb.notQueued, hb.frame⟩

end OutputSide

namespace VideoDecoder
open OutputSide

/-- No buffer is filled again while its frame waits to be displayed. -/
def noPendingFilled (d : VideoDecoder) : VideoAction → Bool
  | .fillThisBuffer _ b grallocSource pHandle =>
    ((d.out.setBuffer b { d.out.buffer b with grallocSource, pHandle }).frameOf b).all fun f =>
      f.state = .invalid || !d.out.displayFrameAvailable || f.serial ≠ d.out.frameSerial
  | _ => true

theorem linkStepOk {d : VideoDecoder} {a : VideoAction} (h : d.noPendingFilled a = true) :
    d.OutputStepOk linkConditions a := by
  refine outputStepOk_of_fill ?_
  rintro r b grallocSource pHandle rfl ⟨f, hf, hvalid, havailable, hserial⟩
  have havailable : d.out.displayFrameAvailable = true := havailable
  have hserial : f.serial = d.out.frameSerial := hserial
  simp [noPendingFilled, hf, hvalid, havailable, hserial] at h

/-- In every run without metadata in which no buffer is filled again while its frame waits to be displayed, buffers and
    frames are linked in every state. -/
theorem buffers_linked (codec : VideoCodec) (outputMode : OutputMode) (hmode : outputMode ≠ .metadata) (adaptive : Bool)
    (inputDef outputDef : PortDefinition) (d : VideoDecoder)
    (h : Reaches step (fun d a => d.noPendingFilled a = true) (init codec outputMode adaptive inputDef outputDef) d) :
    d.out.Linkage := by
  have hinit : OwnedQueue outputMode (init codec outputMode adaptive inputDef outputDef).out := by
    refine ⟨init_frameQueue .., fun _ hf => absurd hf List.not_mem_nil, fun _ hf => absurd hf List.not_mem_nil,
      fun f hf => ?_⟩
    obtain ⟨_, -, rfl⟩ := List.mem_map.mp hf
    rfl
  obtain ⟨_, hkept, -⟩ : OutputInv outputMode (OwnedQueue outputMode) d :=
    h.invariant (OutputInv.of_init hinit) fun d a _ hd hok hstep => hd.step (linkRules hmode) (linkStepOk hok) hstep
  exact hkept.out.linkage hmode

/-- The first of two frames is with the client, which has not asked for its display. -/
theorem buffers_linked_delivered :
    OutputMode.standard ≠ .metadata ∧ ∃ d : VideoDecoder,
      d.out.frameBufferAllocList.map (·.state) = [.delivered, .ready] ∧ d.out.Linkage := by
  obtain ⟨d, hd, hp⟩ := Reaches.exists_of_run step noPendingFilled (init .avc .standard false smallInput smallOutput)
    (outputWaits ++ [.decode [{ serialNumber := 1 }, { serialNumber := 2 }], .outputFrameEvent { numFrames := 2 }])
    (fun d => d.out.frameBufferAllocList.map (·.state) = [.delivered, .ready]) (by decide +kernel)
  exact ⟨by decide, d, of_decide_eq_true hp,
    buffers_linked .avc .standard (by decide) false smallInput smallOutput d hd⟩

/-- A buffer is filled again while its frame waits to be displayed, and gets a second one; the display of the first
    frame takes away the second one, which a flush leaves invalid and without a buffer. -/
theorem display_unlinks_second_frame :
    ∃ d, Reaches step (fun _ _ => True) (init .avc .standard false smallInput smallOutput) d ∧ ¬ d.out.Linkage := by
  obtain ⟨d, hd, hp⟩ := Reaches.exists_of_run step (fun _ _ => true) (init .avc .standard false smallInput smallOutput)
    (outputWaits ++ [.decode [{ serialNumber := 1 }, { serialNumber := 2 }], .outputFrameEvent { numFrames := 2 },
      .notifyDisplay 1, .fillThisBuffer {} 20 true none, .outputFrameEvent { numFrames := 2 }, .takeDisplay,
      .showDisplay {}, .flushOutput {}])
    (fun d => d.out.frameBufferAllocList.any (fun f => f.state = .invalid) && d.out.port.bufferList = [20] &&
      (d.out.buffer 20).pFrameBuffer = none) (by decide +kernel)
  simp only [Bool.and_eq_true, decide_eq_true_eq, List.any_eq_true] at hp
  obtain ⟨⟨⟨f, hf, hstate⟩, hlist⟩, hnone⟩ := hp
  refine ⟨d, hd.invariant (P := Reaches step (fun _ _ => True) _) .init fun _ _ _ h _ hstep => h.step trivial hstep, ?_⟩
  intro hlink
  obtain ⟨b, hb, -, hframe⟩ := hlink.invalid f hf hstate
  rw [hlist, List.mem_singleton] at hb
  rw [hb, hnone] at hframe
  cases hframe

end VideoDecoder
end BcmPlatform.Bomx
