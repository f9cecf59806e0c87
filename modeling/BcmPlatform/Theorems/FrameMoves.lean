import BcmPlatform.Theorems.FrameQueue

/-! The operations of the client and of the state machine keep the frame queue. -/

namespace BcmPlatform.Bomx
open Lib
namespace OutputSide
variable {s s' : OutputSide} {mode : OutputMode} {b c : BufferId} {f : FrameBuffer}

/-! ### Single nodes -/

/-- No buffer has the frame. -/
def Unlinked (f : FrameBuffer) (s : OutputSide) : Prop :=
  ∀ c, f.pBufferInfo = some c → (s.buffer c).pFrameBuffer ≠ some f.id

theorem FrameQueue.setNode {g : FrameBuffer → FrameBuffer} (h : FrameQueue mode s) (hf : f ∈ s.frameBufferAllocList)
    (hid : ∀ k, (g k).id = k.id) (hserial : ∀ k, (g k).serial = k.serial) (hrank : (g f).rank = f.rank)
    (hlink : mode ≠ .metadata → Unlinked f s) : FrameQueue mode (s.setNode f.id g) := by
  refine ⟨⟨?_, h.types, fun hmode => ?_, h.stopped, h.acquired, h.asserts, h.calls⟩, ?_⟩
  · have hids := nodes_setNode (s := s) (n := f.id) hid
    rw [List.map_append, hids, ← List.map_append]
    exact h.nodes
  · refine (h.linked hmode).congr (fun _ _ => id) (fun _ _ _ => id) fun k hk howned c hc hframe => ?_
    by_cases hkf : k.id = f.id
    · obtain rfl := h.eq_of_id hk hf hkf
      exact absurd hframe (hlink hmode c hc)
    · exact ⟨k, List.mem_map.mpr ⟨k, hk, if_neg hkf⟩, rfl, howned, hc⟩
  · refine h.aligned.map (fun k hk => ?_) fun k => ?_
    · split
      · next hkf =>
        obtain rfl := h.eq_of_id hk hf hkf
        exact hrank
      · rfl
    · split
      · exact hserial k
      · rfl

theorem FrameQueue.freeNode {g : FrameBuffer} (h : FrameQueue mode s) (hf : f ∈ s.frameBufferAllocList)
    (hinvalid : f.isInvalid = true) (hid : g.id = f.id) (hlink : mode ≠ .metadata → Unlinked f s) :
    FrameQueue mode (s.freeNode g) := by
  refine ⟨⟨nodes_freeNode h.toFrameNodes hf hid, h.types, fun hmode => ?_, h.stopped, h.acquired, h.asserts, h.calls⟩, ?_⟩
  · refine (h.linked hmode).congr (fun _ _ => id) (fun _ _ _ => id) fun k hk howned c hc hframe => ?_
    have hne : k.id ≠ g.id := by
      rw [hid]
      intro hkf
      obtain rfl := h.eq_of_id hk hf hkf
      exact hlink hmode c hc hframe
    exact ⟨k, List.mem_filter.mpr ⟨hk, by simpa using hne⟩, rfl, howned, hc⟩
  · refine h.aligned.filter fun k hk hkg => ?_
    have hkg : k.id = g.id := by simpa using hkg
    rw [h.eq_of_id hk hf (hkg.trans hid)]
    exact hinvalid

theorem FrameQueue.alogAssert (h : FrameQueue mode s) (cond : Bool) {a : OutputAssert} (ha : a ≠ .frameMismatch) :
    FrameQueue mode (s.alogAssert cond a) := by
  unfold OutputSide.alogAssert
  split
  · exact h
  · refine h.congr rfl rfl rfl rfl rfl (fun _ => rfl) (fun _ => rfl) fun hmem => ?_
    rcases List.mem_append.mp hmem with hmem | hmem
    · exact hmem
    · exact absurd (List.mem_singleton.mp hmem) ha.symm

theorem FrameQueue.setBuffer {info : OutputBuffer} (h : FrameQueue mode s) (htype : info.type = (s.buffer b).type)
    (hframe : info.pFrameBuffer = (s.buffer b).pFrameBuffer ∨ info.pFrameBuffer = none) :
    FrameQueue mode (s.setBuffer b info) := by
  have hless : ∀ c n, ((s.setBuffer b info).buffer c).pFrameBuffer = some n → (s.buffer c).pFrameBuffer = some n := by
    intro c n hc
    by_cases hcb : c = b
    · subst hcb
      rw [buffer_setBuffer] at hc
      rcases hframe with heq | heq
      · rw [← heq]
        exact hc
      · rw [heq] at hc
        cases hc
    · rw [buffer_setBuffer_of_ne hcb] at hc
      exact hc
  refine ⟨⟨h.nodes, fun c => ?_, fun hmode => ?_, h.stopped, h.acquired, h.asserts, h.calls⟩, h.aligned⟩
  · by_cases hcb : c = b
    · rw [hcb, buffer_setBuffer, htype]
      exact h.types b
    · rw [buffer_setBuffer_of_ne hcb]
      exact h.types c
  · exact (h.linked hmode).congr hless (fun _ _ _ => id) fun k hk howned c hc _ => ⟨k, hk, rfl, howned, hc⟩

theorem frameOf_spec (h : FrameQueue mode s) (hf : s.frameOf b = some f) : f ∈ s.frameBufferAllocList ∧
    (mode ≠ .metadata → (s.buffer b).pFrameBuffer = some f.id ∧ f.isClientOwned = true ∧ f.pBufferInfo = some b) := by
  simp only [frameOf, h.types b] at hf
  split at hf
  · next hmode =>
    obtain ⟨handle, -, hfind⟩ := Option.bind_eq_some_iff.mp hf
    exact ⟨List.mem_of_find?_eq_some hfind, fun hnot => absurd hmode hnot⟩
  · next hmode =>
    obtain ⟨n, hn, hfind⟩ := Option.bind_eq_some_iff.mp hf
    have hmem : f ∈ s.frameBufferAllocList := List.mem_of_find?_eq_some hfind
    have hid : f.id = n := by simpa using List.find?_some hfind
    refine ⟨hmem, fun _ => ?_⟩
    obtain ⟨-, k, hk, hkid, howned, hinfo⟩ := h.linked hmode b n hn
    obtain rfl := h.eq_of_id hmem hk (hid.trans hkid.symm)
    exact ⟨by rw [hid]; exact hn, howned, hinfo⟩

theorem unlinked_of_pBufferInfo (hb : f.pBufferInfo = some b) (hnone : (s.buffer b).pFrameBuffer = none) :
    Unlinked f s := by
  intro c hc
  rw [hb] at hc
  cases hc
  rw [hnone]
  exact (Option.some_ne_none _).symm

/-! ### FillThisBuffer -/

theorem FrameQueue.fillFrame (h : FrameQueue mode s) (hf : f ∈ s.frameBufferAllocList) (hready : f.isReady = false)
    (hlink : mode ≠ .metadata → Unlinked f s) : FrameQueue mode (s.fillFrame f) := by
  simp only [OutputSide.fillFrame]
  split
  · next hstate => exact h.freeNode hf (by simp [FrameBuffer.isInvalid, hstate]) rfl hlink
  · next hstate =>
    have hassert := h.alogAssert (f.state = .delivered) (a := .frameDelivered) OutputAssert.noConfusion
    have hfields : (s.alogAssert (f.state = .delivered) .frameDelivered).frameBufferAllocList = s.frameBufferAllocList ∧
        (s.alogAssert (f.state = .delivered) .frameDelivered).buffer = s.buffer := by
      unfold OutputSide.alogAssert
      split <;> exact ⟨rfl, rfl⟩
    split
    · exact hassert
    · refine hassert.setNode (by rw [hfields.1]; exact hf) (fun _ => rfl) (fun _ => rfl) ?_ fun hmode c hc => ?_
      · cases hs : f.state <;> simp_all [FrameBuffer.rank, FrameBuffer.isReady]
      · rw [hfields.2]
        exact hlink hmode c hc

theorem FrameQueue.requeue (h : FrameQueue mode s) : FrameQueue mode (s.requeue b) := by
  simp only [OutputSide.requeue]
  generalize hinfo : ({ s.buffer b with header := _ } : OutputBuffer) = info
  have hset : FrameQueue mode (s.setBuffer b info) := by
    refine h.setBuffer ?_ (.inl ?_)
    · rw [← hinfo]
    · rw [← hinfo]
  split
  · next port hport =>
    have hlist := (Port.Queued.of_ok hport).bufferList
    exact hset.congr rfl rfl rfl rfl hlist (fun _ => rfl) (fun _ => rfl) id
  · exact hset.alogAssert false OutputAssert.noConfusion

/-- The client's handle names no frame that waits for delivery. -/
def HandleOk (mode : OutputMode) (b : BufferId) (s : OutputSide) : Prop :=
  mode = .metadata → ∀ f, s.frameOf b = some f → f.isReady = false

theorem frameOf_notReady (h : FrameQueue mode s) (hok : HandleOk mode b s) (hf : s.frameOf b = some f) :
    f.isReady = false := by
  by_cases hmode : mode = .metadata
  · exact hok hmode f hf
  · have howned := ((frameOf_spec h hf).2 hmode).2.1
    cases hstate : f.state <;> simp_all [FrameBuffer.isClientOwned, FrameBuffer.isReady]

theorem FrameQueue.fillThisBuffer (h : FrameQueue mode s) (hok : HandleOk mode b s) :
    FrameQueue mode (s.fillThisBuffer b).1 := by
  simp only [OutputSide.fillThisBuffer]
  split
  · exact h
  · split
    · exact h
    · refine FrameQueue.requeue ?_
      have hset : FrameQueue mode (s.setBuffer b { s.buffer b with pFrameBuffer := none }) := h.setBuffer rfl (.inr rfl)
      split
      · next f hf =>
        obtain ⟨hmem, hlinked⟩ := frameOf_spec h hf
        refine hset.fillFrame hmem (frameOf_notReady h hok hf) fun hmode => ?_
        exact unlinked_of_pBufferInfo (hlinked hmode).2.2 (by simp)
      · exact hset

/-! ### FreeBuffer -/

theorem isInvalid_of_stopped (h : FrameQueue mode s) (hstopped : s.nexus.started = false)
    (hf : f ∈ s.frameBufferAllocList) : f.isInvalid = true := by
  have hempty : validSerials s.frameBufferAllocList = [] := by
    have hserials := h.aligned.serials
    rw [Nexus.serials, h.stopped hstopped] at hserials
    exact List.prefix_nil.mp hserials
  by_contra hvalid
  have hmem : f.serial ∈ validSerials s.frameBufferAllocList :=
    List.mem_map.mpr ⟨f, List.mem_filter.mpr ⟨hf, by simpa using hvalid⟩, rfl⟩
  rw [hempty] at hmem
  exact absurd hmem List.not_mem_nil

theorem mem_setNode {g : FrameBuffer → FrameBuffer} (hf : f ∈ s.frameBufferAllocList) :
    g f ∈ (s.setNode f.id g).frameBufferAllocList :=
  List.mem_map.mpr ⟨f, hf, if_pos rfl⟩

theorem FrameQueue.freeFrame (h : FrameQueue mode s) (hf : f ∈ s.frameBufferAllocList)
    (hlink : mode ≠ .metadata → Unlinked f s) : FrameQueue mode (s.freeFrame f).1 := by
  have hclear : FrameQueue mode (s.setNode f.id fun f => { f with pBufferInfo := none, pPrivateHandle := none }) :=
    h.setNode hf (fun _ => rfl) (fun _ => rfl) rfl hlink
  have hmem := mem_setNode (g := fun f => { f with pBufferInfo := none, pPrivateHandle := none }) hf
  -- the node has lost its buffer by now
  have hlost : Unlinked { f with pBufferInfo := none, pPrivateHandle := none }
      (s.setNode f.id fun f => { f with pBufferInfo := none, pPrivateHandle := none }) := fun _ hc => by cases hc
  simp only [OutputSide.freeFrame]
  split
  · next hactive =>
    have hrank : ({ f with state := .dropReady, pBufferInfo := none, pPrivateHandle := none } : FrameBuffer).rank =
        ({ f with pBufferInfo := none, pPrivateHandle := none } : FrameBuffer).rank := by
      simp [FrameBuffer.rank, hactive.2]
    exact hclear.setNode (f := { f with pBufferInfo := none, pPrivateHandle := none })
      (g := fun f => { f with state := .dropReady }) hmem (fun _ => rfl) (fun _ => rfl) hrank fun _ => hlost
  · next hactive =>
    split
    · next howned =>
      have hinvalid : f.isInvalid = true := by
        rcases howned with hdelivered | hinvalid
        · -- the decoder is stopped
          refine isInvalid_of_stopped h ?_ hf
          by_contra hstarted
          have hstarted : s.nexus.started = true := by simpa using hstarted
          refine hactive ⟨?_, hdelivered⟩
          simp only [OutputSide.setNode, h.acquired hstarted, hstarted, Bool.and_self]
        · simp [FrameBuffer.isInvalid, hinvalid]
      exact hclear.freeNode hmem hinvalid rfl fun _ => hlost
    · exact hclear

theorem FrameQueue.freeBuffer (h : FrameQueue mode s) : FrameQueue mode (s.freeBuffer b).1 := by
  simp only [OutputSide.freeBuffer]
  split
  · exact h
  · next port hport =>
    have hlist := (Port.Removed.of_ok hport).bufferList
    have hset : FrameQueue mode (s.setBuffer b { s.buffer b with pFrameBuffer := none }) := h.setBuffer rfl (.inr rfl)
    have hremoved : FrameQueue mode ({ s with port }.setBuffer b { s.buffer b with pFrameBuffer := none }) := by
      refine ⟨⟨h.nodes, hset.types, fun hmode => ?_, h.stopped, h.acquired, h.asserts, h.calls⟩, h.aligned⟩
      refine (hset.linked hmode).congr (fun _ _ => id) (fun c n hc hmem => ?_) fun k hk howned c hc _ =>
        ⟨k, hk, rfl, howned, hc⟩
      have hcb : c ≠ b := by
        rintro rfl
        rw [buffer_setBuffer] at hc
        cases hc
      change c ∈ port.bufferList
      rw [hlist]
      exact (List.mem_erase_of_ne hcb).mpr hmem
    split
    · next f hf =>
      obtain ⟨hmem, hlinked⟩ := frameOf_spec h hf
      refine hremoved.freeFrame hmem fun hmode => ?_
      exact unlinked_of_pBufferInfo (hlinked hmode).2.2 (by simp)
    · exact hremoved

/-! ### Allocation and display -/

theorem FrameQueue.addBuffer (h : FrameQueue mode s) (nSizeBytes nativeHandle : Nat) (componentAllocated : Bool) :
    FrameQueue mode (s.addBuffer mode b nSizeBytes nativeHandle componentAllocated).1 := by
  simp only [OutputSide.addBuffer]
  split
  · exact h
  · split
    · exact h
    · next hnew port hport =>
      have hlist := (Port.Added.of_ok hport).bufferList
      generalize hinfo : ({ header := _, type := mode, nativeHandle } : OutputBuffer) = info
      have hset : FrameQueue mode (s.setBuffer b info) := by
        refine h.setBuffer ?_ (.inr ?_)
        · rw [← hinfo, h.types b]
        · rw [← hinfo]
      refine ⟨⟨h.nodes, hset.types, fun hmode => ?_, h.stopped, h.acquired, h.asserts, h.calls⟩, h.aligned⟩
      refine (hset.linked hmode).congr (fun _ _ => id) (fun c n hc hmem => ?_) fun k hk howned c hc _ =>
        ⟨k, hk, rfl, howned, hc⟩
      change c ∈ port.bufferList
      rw [hlist]
      exact List.mem_append_left _ hmem

theorem FrameQueue.displayFrameLocked (h : FrameQueue mode s) (serialNumber : Nat) :
    FrameQueue mode (s.displayFrameLocked serialNumber).1 := by
  simp only [OutputSide.displayFrameLocked]
  split
  · next f hfind =>
    have hmem : f ∈ s.frameBufferAllocList := List.mem_of_find?_eq_some hfind
    split
    · next hdelivered =>
      have hrank : ({ f with state := .displayReady, pPrivateHandle := none, pBufferInfo := none } : FrameBuffer).rank =
          f.rank := by
        simp [FrameBuffer.rank, hdelivered]
      split
      · next b hb =>
        have hset : FrameQueue mode (s.setBuffer b { s.buffer b with pFrameBuffer := none }) := h.setBuffer rfl (.inr rfl)
        refine hset.setNode hmem (fun _ => rfl) (fun _ => rfl) hrank fun _ => ?_
        exact unlinked_of_pBufferInfo hb (by simp)
      · next hb =>
        refine h.setNode hmem (fun _ => rfl) (fun _ => rfl) hrank fun _ c hc => ?_
        rw [hb] at hc
        cases hc
    · exact h
  · exact h

/-! ### State changes -/

theorem returnPortBuffers_port : s.returnPortBuffers = { s with port := s.returnPortBuffers.port } ∧
    s.returnPortBuffers.port.bufferList = s.port.bufferList ∧
    s.returnPortBuffers.port.definition = s.port.definition ∧ s.returnPortBuffers.port.bufferQueue = [] := by
  have hfold : ∀ (l : List BufferId) (s : OutputSide), s.port.bufferQueue = l →
      l.foldl returnPortBuffer s = { s with port := (l.foldl returnPortBuffer s).port } ∧
      (l.foldl returnPortBuffer s).port.bufferList = s.port.bufferList ∧
      (l.foldl returnPortBuffer s).port.definition = s.port.definition ∧
      (l.foldl returnPortBuffer s).port.bufferQueue = [] := by
    intro l
    induction l with
    | nil => exact fun s hs => ⟨rfl, rfl, rfl, hs⟩
    | cons b rest ih =>
      intro s hs
      have hqueue : (s.returnPortBuffer b).port.bufferQueue = rest := by
        simp [returnPortBuffer, Port.bufferComplete, hs]
      exact ih (s.returnPortBuffer b) hqueue
  exact hfold _ s rfl

theorem FrameQueue.returnPortBuffers (h : FrameQueue mode s) : FrameQueue mode s.returnPortBuffers := by
  obtain ⟨heq, hlist, -, -⟩ := returnPortBuffers_port (s := s)
  rw [heq]
  exact h.congr rfl rfl rfl rfl hlist (fun _ => rfl) (fun _ => rfl) id

theorem ids_invalidate : ((s.invalidateDecodedFrames.frameBufferAllocList ++
    s.invalidateDecodedFrames.frameBufferFreeList).map (·.id)).Perm
      ((s.frameBufferAllocList ++ s.frameBufferFreeList).map (·.id)) := by
  have hsplit := (List.filter_append_perm (·.isClientOwned) s.frameBufferAllocList).map (·.id)
  simp only [invalidateDecodedFrames, List.map_append, List.map_map, Function.comp_def] at hsplit ⊢
  refine List.Perm.trans (List.Perm.append_left _ List.perm_append_comm) ?_
  rw [← List.append_assoc]
  exact hsplit.append_right _

theorem FrameNodes.invalidate (h : FrameNodes mode s) : FrameNodes mode s.invalidateDecodedFrames := by
  refine ⟨ids_invalidate.trans h.nodes, h.types, fun hmode => ?_, h.stopped, h.acquired, h.asserts, h.calls⟩
  refine (h.linked hmode).congr (fun _ _ => id) (fun _ _ _ => id) fun f hf howned b hb _ => ?_
  exact ⟨{ f with state := .invalid }, List.mem_map.mpr ⟨f, List.mem_filter.mpr ⟨hf, howned⟩, rfl⟩, rfl, rfl, hb⟩

theorem FrameQueue.stop (h : FrameQueue mode s) : FrameQueue mode s.stop := by
  have hnodes := h.toFrameNodes.invalidate
  exact ⟨⟨hnodes.nodes, hnodes.types, hnodes.linked, fun _ => rfl, (fun hs => by cases hs), hnodes.asserts, hnodes.calls⟩,
    h.aligned.invalidated⟩

theorem FrameQueue.release (h : FrameQueue mode s) : FrameQueue mode s.release := by
  have hnodes := h.toFrameNodes.invalidate
  simp only [OutputSide.release]
  split
  · exact ⟨⟨hnodes.nodes, hnodes.types, hnodes.linked, fun _ => rfl, (fun hs => by cases hs), hnodes.asserts,
      hnodes.calls⟩, h.aligned.invalidated⟩
  · next hclosed =>
    refine ⟨hnodes, ?_⟩
    have hempty : s.nexus.fifo = [] := by
      refine h.stopped ?_
      by_contra hstarted
      exact hclosed (h.acquired (by simpa using hstarted))
    have haligned := h.aligned.invalidated
    simp only [Nexus.serials, invalidateDecodedFrames, hempty, List.map_nil]
    exact haligned

theorem FrameQueue.unload (h : FrameQueue mode s) : FrameQueue mode s.unload := by
  simp only [OutputSide.unload]
  split
  · exact h.returnPortBuffers.congr rfl rfl rfl rfl rfl (fun _ => rfl) (fun _ => rfl) id
  · exact h.returnPortBuffers

theorem FrameQueue.clearAllocList (h : FrameQueue mode s) (hempty : s.port.bufferList = []) :
    FrameQueue mode s.clearAllocList := by
  refine ⟨⟨?_, h.types, fun hmode b n hb => ?_, h.stopped, h.acquired, h.asserts, h.calls⟩, h.aligned.clear⟩
  · refine List.Perm.trans ?_ h.nodes
    change ((s.frameBufferFreeList ++ s.frameBufferAllocList).map (·.id)).Perm _
    exact List.perm_append_comm.map _
  · have hmem := (h.linked hmode b n hb).1
    rw [hempty] at hmem
    exact absurd hmem List.not_mem_nil

theorem FrameQueue.acquire (h : FrameQueue mode s) : FrameQueue mode { s with hSimpleVideoDecoder := true } :=
  ⟨⟨h.nodes, h.types, h.linked, h.stopped, fun _ => rfl, h.asserts, h.calls⟩, h.aligned⟩

theorem FrameQueue.nexusStart (h : FrameQueue mode s) (hopen : s.hSimpleVideoDecoder = true)
    (hstopped : s.nexus.started = false) : FrameQueue mode s.nexusStart := by
  refine ⟨⟨h.nodes, h.types, h.linked, (fun hs => by cases hs), fun _ => hopen, h.asserts, h.calls⟩, ?_⟩
  have haligned := h.aligned
  rw [Nexus.serials, h.stopped hstopped] at haligned
  exact haligned

theorem FrameQueue.startFailed (h : FrameQueue mode s) (hstopped : s.nexus.started = false) :
    FrameQueue mode { s.nexusStart.nexusStop with eosDelivered := false, eosReceived := false } := by
  refine ⟨⟨h.nodes, h.types, h.linked, fun _ => rfl, (fun hs => by cases hs), h.asserts, h.calls⟩, ?_⟩
  have haligned := h.aligned
  rw [Nexus.serials, h.stopped hstopped] at haligned
  exact haligned

/-! ### Decoding -/

theorem serialsFrom_spec : ∀ (frames : List FrameStatus) (n : Nat), serialsFrom n frames = true →
    (frames.map (·.serialNumber)).Pairwise (· < ·) ∧ (∀ k ∈ frames.map (·.serialNumber), n ≤ k)
  | [], _, _ => ⟨List.Pairwise.nil, by simp⟩
  | status :: rest, n, h => by
    simp only [serialsFrom, Bool.and_eq_true, decide_eq_true_eq] at h
    obtain ⟨hsorted, hfrom⟩ := serialsFrom_spec rest _ h.2
    refine ⟨List.pairwise_cons.mpr ⟨fun k hk => hfrom k hk, hsorted⟩, fun k hk => ?_⟩
    rcases List.mem_cons.mp hk with rfl | hk
    · exact h.1
    · exact Nat.le_trans (Nat.le_succ_of_le h.1) (hfrom k hk)

theorem nextSerial_decode : ∀ (frames : List FrameStatus) (n : Nat),
    n ≤ frames.foldl (fun n status => max n (status.serialNumber + 1)) n ∧
    ∀ k ∈ frames.map (·.serialNumber), k < frames.foldl (fun n status => max n (status.serialNumber + 1)) n
  | [], _ => ⟨Nat.le_refl _, by simp⟩
  | status :: rest, n => by
    obtain ⟨hle, hlt⟩ := nextSerial_decode rest (max n (status.serialNumber + 1))
    refine ⟨Nat.le_trans (Nat.le_max_left _ _) hle, fun k hk => ?_⟩
    rcases List.mem_cons.mp hk with rfl | hk
    · exact Nat.lt_of_lt_of_le (Nat.le_max_right _ _) hle
    · exact hlt k hk

theorem FrameQueue.decode (h : FrameQueue mode s) {frames : List FrameStatus} (hstarted : s.nexus.started = true)
    (hserials : serialsFrom s.nexus.nextSerial frames = true) : FrameQueue mode (s.decode frames) := by
  obtain ⟨hsorted, hfrom⟩ := serialsFrom_spec frames _ hserials
  obtain ⟨hnext, hto⟩ := nextSerial_decode frames s.nexus.nextSerial
  refine ⟨⟨h.nodes, h.types, h.linked, fun hs => ?_, h.acquired, h.asserts, h.calls⟩, ?_⟩
  · rw [OutputSide.decode, hstarted] at hs
    cases hs
  · have haligned := h.aligned.decode hsorted hfrom hnext hto
    rw [Nexus.serials, ← List.map_append] at haligned
    exact haligned

end OutputSide
end BcmPlatform.Bomx
