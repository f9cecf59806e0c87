import BcmPlatform.Theorems.FrameMoves

/-! What the calls that take a frame away from its buffer do: the lists are those of the decision about the frame, the
    buffer has no frame any more, and nothing else but the port changes. -/

namespace BcmPlatform.Bomx
open Lib
namespace OutputSide
variable {s s' : OutputSide} {b : BufferId} {f : FrameBuffer}

/-- Buffer `b` has lost its frame. -/
structure Detached (b : BufferId) (s s' : OutputSide) : Prop where
  unlinked : (s'.buffer b).pFrameBuffer = none
  others : ∀ c, c ≠ b → s'.buffer c = s.buffer c
  list : ∀ c, c ≠ b → c ∈ s.port.bufferList → c ∈ s'.port.bufferList
  queue : ∀ c, c ≠ b → c ∈ s'.port.bufferQueue → c ∈ s.port.bufferQueue
  rest : s' = { s with
    frameBufferAllocList := s'.frameBufferAllocList, frameBufferFreeList := s'.frameBufferFreeList
    buffer := s'.buffer, port := s'.port, displayTaken := s'.displayTaken, asserts := s'.asserts }

theorem Detached.trans {s'' : OutputSide} (h : Detached b s s') (h' : Detached b s' s'') : Detached b s s'' where
  unlinked := h'.unlinked
  others c hc := (h'.others c hc).trans (h.others c hc)
  list c hc hmem := h'.list c hc (h.list c hc hmem)
  queue c hc hmem := h.queue c hc (h'.queue c hc hmem)
  rest := by
    rw [h'.rest]
    conv_lhs => rw [h.rest]

theorem Detached.of_lists (hnone : (s.buffer b).pFrameBuffer = none)
    (hrest : s' = { s with
      frameBufferAllocList := s'.frameBufferAllocList, frameBufferFreeList := s'.frameBufferFreeList
      asserts := s'.asserts }) : Detached b s s' := by
  rw [hrest]
  exact ⟨hnone, fun _ _ => rfl, fun _ _ => id, fun _ _ => id, rfl⟩

theorem unlink_detached (b : BufferId) (s : OutputSide) :
    Detached b s (s.setBuffer b { s.buffer b with pFrameBuffer := none }) :=
  ⟨by simp, fun _ hc => buffer_setBuffer_of_ne hc, fun _ _ => id, fun _ _ => id, rfl⟩

theorem alogAssert_rest (cond : Bool) (a : OutputAssert) (s : OutputSide) :
    s.alogAssert cond a = { s with asserts := (s.alogAssert cond a).asserts } := by
  unfold alogAssert
  split <;> rfl

theorem mem_map_node {l : List FrameBuffer} {n : Nat} {g : FrameBuffer → FrameBuffer} {k : FrameBuffer}
    (hk : k ∈ l.map fun f => if f.id = n then g f else f) : (k ∈ l ∧ k.id ≠ n) ∨ ∃ f ∈ l, f.id = n ∧ k = g f := by
  obtain ⟨f, hf, rfl⟩ := List.mem_map.mp hk
  split
  · next hid => exact .inr ⟨f, hf, hid, rfl⟩
  · next hid => exact .inl ⟨hf, hid⟩

theorem fillFrame_rest (f : FrameBuffer) (s : OutputSide) :
    s.fillFrame f = { s with
      frameBufferAllocList := (s.fillFrame f).frameBufferAllocList
      frameBufferFreeList := (s.fillFrame f).frameBufferFreeList, asserts := (s.fillFrame f).asserts } := by
  simp only [fillFrame]
  split
  · rfl
  · rw [alogAssert_rest]
    split <;> rfl

theorem fillFrame_lists (f : FrameBuffer) (s : OutputSide) :
    ((s.fillFrame f).frameBufferAllocList, (s.fillFrame f).frameBufferFreeList) =
      if f.state = .invalid then
        (s.frameBufferAllocList.filter (·.id ≠ f.id),
          s.frameBufferFreeList ++ [{ f with pBufferInfo := none, pPrivateHandle := none }])
      else if s.displayFrameAvailable ∧ f.serial = s.frameSerial then (s.frameBufferAllocList, s.frameBufferFreeList)
      else
        (s.frameBufferAllocList.map fun g =>
          if g.id = f.id then { g with state := .dropReady, pBufferInfo := none, pPrivateHandle := none } else g,
          s.frameBufferFreeList) := by
  simp only [fillFrame]
  split
  · rfl
  · rw [alogAssert_rest]
    simp only
    split <;> rfl

/-- The lists that `FillThisBuffer` leaves before frames are returned. -/
def fillLists (b : BufferId) (s : OutputSide) : List FrameBuffer × List FrameBuffer :=
  match s.frameOf b with
  | none => (s.frameBufferAllocList, s.frameBufferFreeList)
  | some f => ((s.fillFrame f).frameBufferAllocList, (s.fillFrame f).frameBufferFreeList)

theorem requeue_detached (hnone : (s.buffer b).pFrameBuffer = none) : Detached b s (s.requeue b) ∧
    (s.requeue b).frameBufferAllocList = s.frameBufferAllocList ∧
    (s.requeue b).frameBufferFreeList = s.frameBufferFreeList := by
  simp only [requeue]
  generalize hinfo : ({ s.buffer b with header := _ } : OutputBuffer) = info
  have hframe : info.pFrameBuffer = none := by
    rw [← hinfo]
    exact hnone
  split
  · next port hport =>
    have hqueued := Port.Queued.of_ok hport
    refine ⟨⟨?_, fun c hc => buffer_setBuffer_of_ne hc, fun c _ hmem => ?_, fun c hc hmem => ?_, rfl⟩, rfl, rfl⟩
    · simpa [setBuffer] using hframe
    · change c ∈ port.bufferList
      rw [hqueued.bufferList]
      exact hmem
    · have hmem : c ∈ port.bufferQueue := hmem
      rw [hqueued.bufferQueue, List.mem_append, List.mem_singleton] at hmem
      exact hmem.resolve_right hc
  · rw [alogAssert_rest]
    refine ⟨⟨?_, fun c hc => buffer_setBuffer_of_ne hc, fun _ _ => id, fun _ _ => id, rfl⟩, rfl, rfl⟩
    simpa [setBuffer] using hframe

theorem fillThisBuffer_detached (h : (s.fillThisBuffer b).2 = .none) : Detached b s (s.fillThisBuffer b).1 ∧
    ((s.fillThisBuffer b).1.frameBufferAllocList, (s.fillThisBuffer b).1.frameBufferFreeList) = s.fillLists b := by
  simp only [fillThisBuffer] at h ⊢
  split at h
  · cases h
  · next hdir =>
    split at h
    · cases h
    · next htype =>
      rw [if_neg hdir, if_neg htype]
      have hset := unlink_detached b s
      simp only [fillLists]
      cases hframe : s.frameOf b with
      | none =>
        obtain ⟨hqueue, halloc, hfree⟩ := requeue_detached hset.unlinked
        refine ⟨hset.trans hqueue, ?_⟩
        rw [halloc, hfree]
        rfl
      | some f =>
        simp only
        have hfill : Detached b (s.setBuffer b { s.buffer b with pFrameBuffer := none })
            ((s.setBuffer b { s.buffer b with pFrameBuffer := none }).fillFrame f) :=
          .of_lists hset.unlinked (fillFrame_rest f _)
        obtain ⟨hqueue, halloc, hfree⟩ := requeue_detached hfill.unlinked
        refine ⟨(hset.trans hfill).trans hqueue, ?_⟩
        rw [halloc, hfree, fillFrame_lists, fillFrame_lists]
        rfl

/-- What becomes of the frame of a buffer that is filled: there is none, it is freed, it stays for the display request
    that is pending, or it will be dropped. -/
inductive FrameFilled (b : BufferId) (s s' : OutputSide) : Prop where
  | noFrame (hframe : s.frameOf b = none) (halloc : s'.frameBufferAllocList = s.frameBufferAllocList)
      (hfree : s'.frameBufferFreeList = s.frameBufferFreeList)
  | freed (f : FrameBuffer) (hframe : s.frameOf b = some f) (hinvalid : f.state = .invalid)
      (halloc : s'.frameBufferAllocList = s.frameBufferAllocList.filter (·.id ≠ f.id))
      (hfree : s'.frameBufferFreeList =
        s.frameBufferFreeList ++ [{ f with pBufferInfo := none, pPrivateHandle := none }])
  | pending (f : FrameBuffer) (hframe : s.frameOf b = some f) (hvalid : f.state ≠ .invalid)
      (hpending : s.displayFrameAvailable = true ∧ f.serial = s.frameSerial)
      (halloc : s'.frameBufferAllocList = s.frameBufferAllocList)
      (hfree : s'.frameBufferFreeList = s.frameBufferFreeList)
  | dropped (f : FrameBuffer) (hframe : s.frameOf b = some f) (hvalid : f.state ≠ .invalid)
      (hnot : ¬ (s.displayFrameAvailable = true ∧ f.serial = s.frameSerial))
      (halloc : s'.frameBufferAllocList = s.frameBufferAllocList.map fun g =>
        if g.id = f.id then { g with state := .dropReady, pBufferInfo := none, pPrivateHandle := none } else g)
      (hfree : s'.frameBufferFreeList = s.frameBufferFreeList)

theorem fillThisBuffer_cases (h : (s.fillThisBuffer b).2 = .none) : FrameFilled b s (s.fillThisBuffer b).1 := by
  have hlists := (fillThisBuffer_detached h).2
  rw [fillLists] at hlists
  cases hframe : s.frameOf b with
  | none =>
    rw [hframe, Prod.mk.injEq] at hlists
    exact .noFrame hframe hlists.1 hlists.2
  | some f =>
    rw [hframe] at hlists
    simp only [fillFrame_lists] at hlists
    split at hlists
    · next hinvalid => exact .freed f hframe hinvalid (congrArg Prod.fst hlists) (congrArg Prod.snd hlists)
    · next hvalid =>
      split at hlists
      · next hpending =>
        exact .pending f hframe hvalid hpending (congrArg Prod.fst hlists) (congrArg Prod.snd hlists)
      · next hnot => exact .dropped f hframe hvalid hnot (congrArg Prod.fst hlists) (congrArg Prod.snd hlists)

/-! ### FreeBuffer -/

theorem freeFrame_rest (f : FrameBuffer) (s : OutputSide) :
    (s.freeFrame f).1 = { s with
      frameBufferAllocList := (s.freeFrame f).1.frameBufferAllocList
      frameBufferFreeList := (s.freeFrame f).1.frameBufferFreeList } := by
  simp only [freeFrame]
  split
  · rfl
  · split <;> rfl

theorem map_map_node {l : List FrameBuffer} {n : Nat} {g h : FrameBuffer → FrameBuffer} (hid : ∀ f, (g f).id = f.id) :
    (l.map fun f => if f.id = n then g f else f).map (fun f => if f.id = n then h f else f) =
      l.map fun f => if f.id = n then h (g f) else f := by
  rw [List.map_map]
  refine List.map_congr_left fun f _ => ?_
  by_cases hn : f.id = n
  · simp [hn, hid]
  · simp [hn]

theorem filter_map_node {n : Nat} {g : FrameBuffer → FrameBuffer} (hid : ∀ f, (g f).id = f.id) (l : List FrameBuffer) :
    (l.map fun f => if f.id = n then g f else f).filter (·.id ≠ n) = l.filter (·.id ≠ n) := by
  induction l with
  | nil => rfl
  | cons f l ih =>
    by_cases hn : f.id = n
    · rw [List.map_cons, if_pos hn, List.filter_cons_of_neg (by simp [hid, hn]), List.filter_cons_of_neg (by simp [hn]), ih]
    · rw [List.map_cons, if_neg hn, List.filter_cons_of_pos (by simpa using hn),
        List.filter_cons_of_pos (by simpa using hn), ih]

theorem freeFrame_lists (f : FrameBuffer) (s : OutputSide) :
    ((s.freeFrame f).1.frameBufferAllocList, (s.freeFrame f).1.frameBufferFreeList, (s.freeFrame f).2) =
      if (s.hSimpleVideoDecoder && s.nexus.started) = true ∧ f.state = .delivered then
        (s.frameBufferAllocList.map fun g =>
          if g.id = f.id then { g with state := .dropReady, pBufferInfo := none, pPrivateHandle := none } else g,
          s.frameBufferFreeList, true)
      else if f.state = .delivered ∨ f.state = .invalid then
        (s.frameBufferAllocList.filter (·.id ≠ f.id),
          s.frameBufferFreeList ++ [{ f with pBufferInfo := none, pPrivateHandle := none }], false)
      else
        (s.frameBufferAllocList.map fun g =>
          if g.id = f.id then { g with pBufferInfo := none, pPrivateHandle := none } else g,
          s.frameBufferFreeList, false) := by
  simp only [freeFrame]
  split
  · next hactive =>
    have hactive : (s.hSimpleVideoDecoder && s.nexus.started) = true ∧ f.state = .delivered := hactive
    rw [if_pos hactive]
    refine Prod.ext ?_ rfl
    exact map_map_node (g := fun f => { f with pBufferInfo := none, pPrivateHandle := none }) fun _ => rfl
  · next hactive =>
    have hactive : ¬ ((s.hSimpleVideoDecoder && s.nexus.started) = true ∧ f.state = .delivered) := hactive
    rw [if_neg hactive]
    split
    · refine Prod.ext ?_ rfl
      exact filter_map_node (g := fun f => { f with pBufferInfo := none, pPrivateHandle := none }) (fun _ => rfl) _
    · rfl

/-- The lists that `FreeBuffer` leaves before frames are returned, and whether they are. -/
def freeLists (b : BufferId) (s : OutputSide) : List FrameBuffer × List FrameBuffer × Bool :=
  match s.frameOf b with
  | none => (s.frameBufferAllocList, s.frameBufferFreeList, false)
  | some f => ((s.freeFrame f).1.frameBufferAllocList, (s.freeFrame f).1.frameBufferFreeList, (s.freeFrame f).2)

theorem freeBuffer_detached : ((s.freeBuffer b).1 = s ∧ (s.freeBuffer b).2.2 = false) ∨
    (Detached b s (s.freeBuffer b).1 ∧ ((s.freeBuffer b).1.frameBufferAllocList,
      (s.freeBuffer b).1.frameBufferFreeList, (s.freeBuffer b).2.2) = s.freeLists b) := by
  simp only [freeBuffer]
  split
  · exact .inl ⟨rfl, rfl⟩
  · next port hport =>
    right
    have hgone := Port.Removed.of_ok hport
    have hremoved : Detached b s ({ s with port }.setBuffer b { s.buffer b with pFrameBuffer := none }) := by
      refine ⟨by simp, fun c hc => buffer_setBuffer_of_ne (s := { s with port }) hc, fun c hc hmem => ?_,
        fun c _ hmem => ?_, rfl⟩
      · change c ∈ port.bufferList
        rw [hgone.bufferList]
        exact (List.mem_erase_of_ne hc).mpr hmem
      · have hmem : c ∈ port.bufferQueue := hmem
        rw [hgone.bufferQueue] at hmem
        exact hmem
    simp only [freeLists]
    cases hframe : s.frameOf b with
    | none => exact ⟨hremoved, rfl⟩
    | some f =>
      refine ⟨hremoved.trans (.of_lists hremoved.unlinked ?_), ?_⟩
      · rw [freeFrame_rest]
      · simp only
        rw [freeFrame_lists, freeFrame_lists]
        rfl

/-- What becomes of the frame of a buffer that is freed: there is none, it will be dropped, it is freed, or it only
    loses its buffer. -/
inductive FrameReleased (b : BufferId) (s s' : OutputSide) : Prop where
  | noFrame (hframe : s.frameOf b = none) (halloc : s'.frameBufferAllocList = s.frameBufferAllocList)
      (hfree : s'.frameBufferFreeList = s.frameBufferFreeList)
  | dropped (f : FrameBuffer) (hframe : s.frameOf b = some f) (hdelivered : f.state = .delivered)
      (halloc : s'.frameBufferAllocList = s.frameBufferAllocList.map fun g =>
        if g.id = f.id then { g with state := .dropReady, pBufferInfo := none, pPrivateHandle := none } else g)
      (hfree : s'.frameBufferFreeList = s.frameBufferFreeList)
  | freed (f : FrameBuffer) (hframe : s.frameOf b = some f)
      (hinactive : ¬ ((s.hSimpleVideoDecoder && s.nexus.started) = true ∧ f.state = .delivered))
      (howned : f.state = .delivered ∨ f.state = .invalid)
      (halloc : s'.frameBufferAllocList = s.frameBufferAllocList.filter (·.id ≠ f.id))
      (hfree : s'.frameBufferFreeList =
        s.frameBufferFreeList ++ [{ f with pBufferInfo := none, pPrivateHandle := none }])
  | unlinked (f : FrameBuffer) (hframe : s.frameOf b = some f) (hnot : ¬ (f.state = .delivered ∨ f.state = .invalid))
      (halloc : s'.frameBufferAllocList = s.frameBufferAllocList.map fun g =>
        if g.id = f.id then { g with pBufferInfo := none, pPrivateHandle := none } else g)
      (hfree : s'.frameBufferFreeList = s.frameBufferFreeList)

theorem freeBuffer_cases : (s.freeBuffer b).1 = s ∨
    (Detached b s (s.freeBuffer b).1 ∧ FrameReleased b s (s.freeBuffer b).1) := by
  rcases freeBuffer_detached (s := s) (b := b) with ⟨heq, -⟩ | ⟨hdetached, hlists⟩
  · exact .inl heq
  · refine .inr ⟨hdetached, ?_⟩
    rw [freeLists] at hlists
    cases hframe : s.frameOf b with
    | none =>
      rw [hframe, Prod.mk.injEq, Prod.mk.injEq] at hlists
      exact .noFrame hframe hlists.1 hlists.2.1
    | some f =>
      rw [hframe] at hlists
      simp only [freeFrame_lists] at hlists
      split at hlists
      · next hactive =>
        exact .dropped f hframe hactive.2 (congrArg Prod.fst hlists) (congrArg (·.2.1) hlists)
      · next hinactive =>
        split at hlists
        · next howned =>
          exact .freed f hframe hinactive howned (congrArg Prod.fst hlists) (congrArg (·.2.1) hlists)
        · next hnot => exact .unlinked f hframe hnot (congrArg Prod.fst hlists) (congrArg (·.2.1) hlists)

/-! ### Display -/

theorem displayFrameLocked_cases (serialNumber : Nat) :
    ((s.displayFrameLocked serialNumber) = (s, false) ∧
      ∀ f, s.findFrameBuffer serialNumber = some f → f.state ≠ .delivered) ∨
    ∃ f, s.findFrameBuffer serialNumber = some f ∧ f.state = .delivered ∧
      (s.displayFrameLocked serialNumber).2 = true ∧
      (s.displayFrameLocked serialNumber).1 = { s with
        buffer := match f.pBufferInfo with
          | some b => Function.update s.buffer b { s.buffer b with pFrameBuffer := none }
          | none => s.buffer
        frameBufferAllocList := s.frameBufferAllocList.map fun g =>
          if g.id = f.id then { g with state := .displayReady, pPrivateHandle := none, pBufferInfo := none } else g } := by
  simp only [displayFrameLocked]
  cases hfind : s.findFrameBuffer serialNumber with
  | none => exact .inl ⟨rfl, fun _ hf => by cases hf⟩
  | some f =>
    simp only
    split
    · next hstate =>
      refine .inr ⟨f, rfl, hstate, rfl, ?_⟩
      cases hinfo : f.pBufferInfo with
      | none => rfl
      | some b => rfl
    · next hstate => exact .inl ⟨rfl, fun g hg => by cases hg; exact hstate⟩

end OutputSide
end BcmPlatform.Bomx
