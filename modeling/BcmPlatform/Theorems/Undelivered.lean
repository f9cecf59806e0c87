import BcmPlatform.Bomx.EndOfStream
import BcmPlatform.Theorems.FrameSpecs
import BcmPlatform.Theorems.PollFrames

/-! The decoded frames that were not delivered: only a delivery takes one of them away, and only a flush, a stop or a
    release drops them. -/

namespace BcmPlatform.Bomx
open Lib
namespace OutputSide
variable {s s' : OutputSide} {mode : OutputMode} {b : BufferId} {f : FrameBuffer}

/-! ### Changes of single nodes -/

theorem undelivered_congr (halloc : s'.frameBufferAllocList = s.frameBufferAllocList)
    (hnexus : s'.nexus.fifo = s.nexus.fifo) : s'.undelivered = s.undelivered := by
  rw [undelivered, undelivered, halloc, hnexus]

theorem undelivered_map {n : Nat} {g : FrameBuffer → FrameBuffer}
    (halloc : s'.frameBufferAllocList = s.frameBufferAllocList.map fun k => if k.id = n then g k else k)
    (hnexus : s'.nexus.fifo = s.nexus.fifo)
    (hg : ∀ k ∈ s.frameBufferAllocList, k.id = n →
      (g k).isReady = k.isReady ∧ (g k).isInvalid = k.isInvalid ∧ (g k).frameStatus = k.frameStatus) :
    s'.undelivered = s.undelivered := by
  have hsame : ∀ k ∈ s.frameBufferAllocList, (if k.id = n then g k else k).isReady = k.isReady ∧
      (if k.id = n then g k else k).isInvalid = k.isInvalid ∧
      (if k.id = n then g k else k).frameStatus = k.frameStatus := by
    intro k hk
    split
    · next hid => exact hg k hk hid
    · exact ⟨rfl, rfl, rfl⟩
  rw [undelivered, undelivered, halloc, hnexus, List.filter_map, List.filter_map, List.length_map, List.map_map]
  have hready : s.frameBufferAllocList.filter ((·.isReady) ∘ fun k => if k.id = n then g k else k) =
      s.frameBufferAllocList.filter (·.isReady) := List.filter_congr fun k hk => (hsame k hk).1
  have hvalid : s.frameBufferAllocList.filter ((fun f => !f.isInvalid) ∘ fun k => if k.id = n then g k else k) =
      s.frameBufferAllocList.filter fun f => !f.isInvalid :=
    List.filter_congr fun k hk => congrArg (! ·) (hsame k hk).2.1
  rw [hready, hvalid]
  congr 1
  exact List.map_congr_left fun k hk => (hsame k (List.mem_filter.mp hk).1).2.2

theorem undelivered_filter {n : Nat} (halloc : s'.frameBufferAllocList = s.frameBufferAllocList.filter (·.id ≠ n))
    (hnexus : s'.nexus.fifo = s.nexus.fifo) (hinv : ∀ k ∈ s.frameBufferAllocList, k.id = n → k.isInvalid = true) :
    s'.undelivered = s.undelivered := by
  have hout : ∀ k ∈ s.frameBufferAllocList, k.isInvalid = false → decide (k.id ≠ n) = true := by
    intro k hk hvalid
    refine decide_eq_true fun hid => ?_
    rw [hinv k hk hid] at hvalid
    cases hvalid
  rw [undelivered, undelivered, halloc, hnexus, List.filter_filter, List.filter_filter]
  congr 2
  · refine List.filter_congr fun k hk => ?_
    cases hready : k.isReady with
    | false => rfl
    | true =>
      rw [hout k hk (by cases hstate : k.state <;> simp_all [FrameBuffer.isReady, FrameBuffer.isInvalid]), Bool.and_self]
  · congr 1
    refine List.filter_congr fun k hk => ?_
    cases hvalid : k.isInvalid with
    | true => rfl
    | false =>
      rw [hout k hk hvalid]
      rfl

/-! ### The client's calls -/

theorem undelivered_fillThisBuffer (h : FrameQueue mode s) (hok : HandleOk mode b s)
    (hnone : (s.fillThisBuffer b).2 = .none) : (s.fillThisBuffer b).1.undelivered = s.undelivered := by
  have hnexus : (s.fillThisBuffer b).1.nexus.fifo = s.nexus.fifo := by rw [(fillThisBuffer_detached hnone).1.rest]
  have hsame : ∀ f, s.frameOf b = some f → ∀ k ∈ s.frameBufferAllocList, k.id = f.id → k = f :=
    fun f hframe k hk hid => h.eq_of_id hk (frameOf_spec h hframe).1 hid
  cases fillThisBuffer_cases hnone with
  | noFrame hframe halloc hfree => exact undelivered_congr halloc hnexus
  | freed f hframe hinvalid halloc hfree =>
    refine undelivered_filter halloc hnexus fun k hk hid => ?_
    rw [hsame f hframe k hk hid]
    simp [FrameBuffer.isInvalid, hinvalid]
  | pending f hframe hvalid hpending halloc hfree => exact undelivered_congr halloc hnexus
  | dropped f hframe hvalid hnot halloc hfree =>
    refine undelivered_map halloc hnexus fun k hk hid => ?_
    rw [hsame f hframe k hk hid, frameOf_notReady h hok hframe]
    exact ⟨rfl, by simp [FrameBuffer.isInvalid, hvalid], rfl⟩

theorem undelivered_freeBuffer (h : FrameQueue mode s) : (s.freeBuffer b).1.undelivered = s.undelivered := by
  rcases freeBuffer_cases (s := s) (b := b) with heq | ⟨hdetached, hreleased⟩
  · rw [heq]
  · have hnexus : (s.freeBuffer b).1.nexus.fifo = s.nexus.fifo := by rw [hdetached.rest]
    have hsame : ∀ f, s.frameOf b = some f → ∀ k ∈ s.frameBufferAllocList, k.id = f.id → k = f :=
      fun f hframe k hk hid => h.eq_of_id hk (frameOf_spec h hframe).1 hid
    cases hreleased with
    | noFrame hframe halloc hfree => exact undelivered_congr halloc hnexus
    | dropped f hframe hdelivered halloc hfree =>
      refine undelivered_map halloc hnexus fun k hk hid => ?_
      rw [hsame f hframe k hk hid]
      simp [FrameBuffer.isReady, FrameBuffer.isInvalid, hdelivered]
    | freed f hframe hinactive howned halloc hfree =>
      refine undelivered_filter halloc hnexus fun k hk hid => ?_
      rw [hsame f hframe k hk hid]
      rcases howned with hdelivered | hinvalid
      · -- a delivered frame of a decoder that is not stopped is not freed
        refine isInvalid_of_stopped h ?_ (frameOf_spec h hframe).1
        by_contra hstarted
        have hstarted : s.nexus.started = true := by simpa using hstarted
        exact hinactive ⟨by rw [h.acquired hstarted, hstarted, Bool.and_self], hdelivered⟩
      · simp [FrameBuffer.isInvalid, hinvalid]
    | unlinked f hframe hnot halloc hfree => exact undelivered_map halloc hnexus fun k _ _ => ⟨rfl, rfl, rfl⟩

theorem undelivered_displayFrameLocked (h : FrameQueue mode s) (serialNumber : Nat) :
    (s.displayFrameLocked serialNumber).1.undelivered = s.undelivered := by
  rcases displayFrameLocked_cases (s := s) serialNumber with ⟨heq, -⟩ | ⟨f, hfind, hdelivered, -, heq⟩
  · rw [heq]
  · have hmem : f ∈ s.frameBufferAllocList := List.mem_of_find?_eq_some hfind
    rw [heq]
    refine undelivered_map rfl rfl fun k hk hid => ?_
    rw [h.eq_of_id hk hmem hid]
    simp [FrameBuffer.isReady, FrameBuffer.isInvalid, hdelivered]

/-! ### Taking frames and giving them back -/

theorem length_valid_le (h : FrameQueue mode s) :
    (s.frameBufferAllocList.filter fun f => !f.isInvalid).length ≤ s.nexus.fifo.length := by
  have hle := h.aligned.serials.length_le
  rw [validSerials, Nexus.serials, List.length_map, List.length_map] at hle
  exact hle

theorem undelivered_getDecodedFrames (h : FrameQueue mode s) (n : Nat) :
    (s.getDecodedFrames n).undelivered = s.undelivered := by
  have hknown : s.frameBufferAllocList.dropWhile (·.isInvalid) = s.frameBufferAllocList.filter fun f => !f.isInvalid :=
    dropWhile_eq_filter h.aligned.invalidFirst
  simp only [getDecodedFrames]
  split
  · rfl
  · rw [hknown, alogAssert_rest]
    obtain ⟨-, hstatus, hready, -, -⟩ := allocFrames_split s.frameBufferFreeList
      ((s.nexus.fifo.take (min n maxDecodedFrames)).drop (s.frameBufferAllocList.filter fun f => !f.isInvalid).length)
    generalize allocFrames s.frameBufferFreeList _ = p at hstatus hready
    have hvalid : ∀ f ∈ p.1, (!f.isInvalid) = true := by
      intro f hf
      have hf := hready f hf
      cases hstate : f.state <;> simp_all [FrameBuffer.isReady, FrameBuffer.isInvalid]
    -- the frames that are taken are the next ones of the FIFO
    have hnew : p.1.map (·.frameStatus) <+:
        s.nexus.fifo.drop (s.frameBufferAllocList.filter fun f => !f.isInvalid).length := by
      rw [List.drop_take] at hstatus
      exact hstatus.trans (List.take_prefix _ _)
    obtain ⟨later, hlater⟩ := hnew
    rw [undelivered, undelivered]
    simp only [List.filter_append, List.filter_eq_self.mpr hready, List.filter_eq_self.mpr hvalid, List.map_append,
      List.length_append, List.append_assoc]
    rw [← List.drop_drop, ← hlater, List.drop_left' (List.length_map ..)]

theorem undelivered_handBack {I B R : List FrameBuffer} (hb : Batch s I B R) (hflush : s.outputFlushing = false)
    (last : FrameBuffer) : (s.handBack I B R last).undelivered = s.undelivered := by
  have hI : ∀ f ∈ I, f.isReady = false := by
    intro f hf
    have hinvalid := hb.invalid f hf
    cases hstate : f.state <;> simp_all [FrameBuffer.isReady, FrameBuffer.isInvalid]
  have hnone : ∀ l : List FrameBuffer, (∀ f ∈ l, f.isReady = false) → l.filter (·.isReady) = [] :=
    fun l hl => List.filter_eq_nil_iff.mpr fun f hf => by simp [hl f hf]
  have hvalid : ∀ l : List FrameBuffer, (∀ f ∈ l, f.isInvalid = false) → (l.filter fun f => !f.isInvalid) = l :=
    fun l hl => List.filter_eq_self.mpr fun f hf => by simp [hl f hf]
  have hinvalid : ∀ l : List FrameBuffer, (∀ f ∈ l, f.isInvalid = true) → (l.filter fun f => !f.isInvalid) = [] :=
    fun l hl => List.filter_eq_nil_iff.mpr fun f hf => by simp [hl f hf]
  have hgone : ∀ f ∈ invalidated B, f.isReady = false := by
    intro f hf
    obtain ⟨g, -, rfl⟩ := List.mem_map.mp hf
    rfl
  rw [undelivered, undelivered, handBack, hb.split]
  simp only [List.filter_append, hnone I hI, hnone B (hb.notReady hflush), hnone _ hgone, hinvalid I hb.invalid,
    hinvalid _ Aligned.isInvalid_invalidated, hvalid B hb.valid, hvalid R hb.restValid, List.nil_append,
    List.length_append, List.drop_drop]

theorem undelivered_returnDecodedFrames (h : FrameQueue mode s) (hflush : s.outputFlushing = false) :
    s.returnDecodedFrames.1.undelivered = s.undelivered :=
  returnDecodedFrames_keeps (P := fun s' => s'.undelivered = s.undelivered) h.aligned h.length_le rfl
    fun hb _ => undelivered_handBack hb hflush _

theorem undelivered_of_empty (h : FrameQueue mode s) (hempty : s.nexus.fifo = []) : s.undelivered = [] := by
  have hvalid : validSerials s.frameBufferAllocList = [] := by
    have hserials := h.aligned.serials
    rw [Nexus.serials, hempty] at hserials
    exact List.prefix_nil.mp hserials
  have hready : s.frameBufferAllocList.filter (·.isReady) = [] := by
    refine List.filter_eq_nil_iff.mpr fun f hf hready => ?_
    have hmem : f.serial ∈ validSerials s.frameBufferAllocList := by
      refine List.mem_map.mpr ⟨f, List.mem_filter.mpr ⟨hf, ?_⟩, rfl⟩
      cases hstate : f.state <;> simp_all [FrameBuffer.isReady, FrameBuffer.isInvalid]
    rw [hvalid] at hmem
    exact absurd hmem List.not_mem_nil
  rw [undelivered, hready, hempty, List.drop_nil]
  rfl

theorem undelivered_of_stopped (h : FrameQueue mode s) (hstopped : s.nexus.started = false) : s.undelivered = [] :=
  undelivered_of_empty h (h.stopped hstopped)

theorem undelivered_decode (h : FrameQueue mode s) (frames : List FrameStatus) :
    (s.decode frames).undelivered = s.undelivered ++ frames := by
  rw [undelivered, undelivered]
  simp only [decode]
  rw [List.drop_append_of_le_length (length_valid_le h), List.append_assoc]

theorem undelivered_deliverNode {pre rest : List FrameBuffer} (halloc : s.frameBufferAllocList = pre ++ f :: rest)
    (hpre : ∀ k ∈ pre, k.isReady = false) (hready : f.isReady = true)
    (hnodup : (s.frameBufferAllocList.map (·.id)).Nodup) :
    s.undelivered = f.frameStatus :: (s.deliverNode f b).undelivered := by
  obtain ⟨f', -, -, hstate, -, halloc'⟩ := VideoDecoder.deliverNode_alloc (b := b) halloc hnodup
  have hnone : pre.filter (·.isReady) = [] := List.filter_eq_nil_iff.mpr fun k hk => by simp [hpre k hk]
  have hvalid : f.isInvalid = false := by
    cases hs : f.state <;> simp_all [FrameBuffer.isReady, FrameBuffer.isInvalid]
  have hready' : f'.isReady = false := by simp [FrameBuffer.isReady, hstate]
  have hvalid' : f'.isInvalid = false := by simp [FrameBuffer.isInvalid, hstate]
  have hfifo : (s.deliverNode f b).nexus.fifo = s.nexus.fifo := rfl
  rw [undelivered, undelivered, halloc', halloc, hfifo]
  simp [hnone, hready, hready', hvalid, hvalid']

/-! ### What the end of the stream depends on -/

theorem alogAssert_eosPending {s : OutputSide} (cond : Bool) {a : OutputAssert} (ha : a ≠ .eosPending) :
    .eosPending ∈ (s.alogAssert cond a).asserts → .eosPending ∈ s.asserts := by
  unfold OutputSide.alogAssert
  split
  · exact id
  · intro hmem
    rcases List.mem_append.mp hmem with hmem | hmem
    · exact hmem
    · exact absurd (List.mem_singleton.mp hmem).symm ha

/-- Nothing changes that the end of the stream depends on. -/
structure Still (s s' : OutputSide) : Prop where
  undelivered : s'.undelivered = s.undelivered
  received : s'.eosReceived = s.eosReceived
  delivered : s'.eosDelivered = s.eosDelivered
  started : s'.nexus.started = s.nexus.started
  asserts : .eosPending ∈ s'.asserts → .eosPending ∈ s.asserts

theorem Still.refl (s : OutputSide) : Still s s := ⟨rfl, rfl, rfl, rfl, id⟩

theorem Still.trans (h : Still s s') (h' : Still s' s'') : Still s s'' :=
  ⟨h'.undelivered.trans h.undelivered, h'.received.trans h.received, h'.delivered.trans h.delivered,
    h'.started.trans h.started, h.asserts ∘ h'.asserts⟩

theorem Still.returnPortBuffers (s : OutputSide) : Still s s.returnPortBuffers := by
  rw [(returnPortBuffers_port (s := s)).1]
  exact ⟨rfl, rfl, rfl, rfl, id⟩

theorem Still.addBuffer (type : OutputMode) (nSizeBytes nativeHandle : Nat) (componentAllocated : Bool) :
    Still s (s.addBuffer type b nSizeBytes nativeHandle componentAllocated).1 := by
  simp only [OutputSide.addBuffer]
  split
  · exact .refl s
  · split
    · exact .refl s
    · exact ⟨rfl, rfl, rfl, rfl, id⟩

theorem Still.unload (s : OutputSide) : Still s s.unload := by
  simp only [OutputSide.unload]
  split
  · exact (Still.returnPortBuffers s).trans ⟨rfl, rfl, rfl, rfl, id⟩
  · exact Still.returnPortBuffers s

theorem fillFrame_asserts (h : .eosPending ∈ (s.fillFrame f).asserts) : .eosPending ∈ s.asserts := by
  simp only [OutputSide.fillFrame] at h
  split at h
  · exact h
  · split at h
    · exact alogAssert_eosPending _ OutputAssert.noConfusion h
    · exact alogAssert_eosPending (s := s) _ OutputAssert.noConfusion h

theorem requeue_asserts (h : .eosPending ∈ (s.requeue b).asserts) : .eosPending ∈ s.asserts := by
  simp only [OutputSide.requeue] at h
  split at h
  · exact h
  · exact alogAssert_eosPending (s := s.setBuffer b _) _ OutputAssert.noConfusion h

theorem Still.fillThisBuffer (h : FrameQueue mode s) (hok : HandleOk mode b s) : Still s (s.fillThisBuffer b).1 := by
  by_cases hnone : (s.fillThisBuffer b).2 = .none
  · obtain ⟨hdetached, -⟩ := fillThisBuffer_detached hnone
    refine ⟨undelivered_fillThisBuffer h hok hnone, ?_, ?_, ?_, fun hmem => ?_⟩
    · rw [hdetached.rest]
    · rw [hdetached.rest]
    · rw [hdetached.rest]
    · simp only [OutputSide.fillThisBuffer] at hmem
      split at hmem
      · exact hmem
      · split at hmem
        · exact hmem
        · have hframe := requeue_asserts hmem
          split at hframe
          · exact fillFrame_asserts (s := s.setBuffer b _) hframe
          · exact hframe
  · have hsame : (s.fillThisBuffer b).1 = s := by
      simp only [OutputSide.fillThisBuffer] at hnone ⊢
      split
      · rfl
      · split
        · rfl
        · next hdir htype =>
          rw [if_neg hdir, if_neg htype] at hnone
          exact absurd rfl hnone
    rw [hsame]
    exact .refl s

theorem freeFrame_asserts : (s.freeFrame f).1.asserts = s.asserts := by
  simp only [OutputSide.freeFrame]
  split
  · rfl
  · split <;> rfl

theorem Still.freeBuffer (h : FrameQueue mode s) : Still s (s.freeBuffer b).1 := by
  have hasserts : (s.freeBuffer b).1.asserts = s.asserts := by
    simp only [OutputSide.freeBuffer]
    split
    · rfl
    · split
      · exact freeFrame_asserts
      · rfl
  rcases freeBuffer_detached (s := s) (b := b) with ⟨heq, -⟩ | ⟨hdetached, -⟩
  · rw [heq]
    exact .refl s
  · refine ⟨undelivered_freeBuffer h, ?_, ?_, ?_, fun hmem => hasserts ▸ hmem⟩
    · rw [hdetached.rest]
    · rw [hdetached.rest]
    · rw [hdetached.rest]

theorem Still.displayFrameLocked (h : FrameQueue mode s) (serialNumber : Nat) :
    Still s (s.displayFrameLocked serialNumber).1 := by
  have hund := undelivered_displayFrameLocked h serialNumber
  rcases displayFrameLocked_cases (s := s) serialNumber with ⟨heq, -⟩ | ⟨f, -, -, -, heq⟩
  · rw [heq]
    exact .refl s
  · refine ⟨hund, ?_, ?_, ?_, ?_⟩
    · rw [heq]
    · rw [heq]
    · rw [heq]
    · rw [heq]
      exact id

theorem Still.getDecodedFrames (h : FrameQueue mode s) (n : Nat) : Still s (s.getDecodedFrames n) := by
  have hrest : ∃ alloc free asserts, s.getDecodedFrames n = { s with
      frameBufferAllocList := alloc, frameBufferFreeList := free, asserts } ∧
      (.eosPending ∈ asserts → .eosPending ∈ s.asserts) := by
    simp only [OutputSide.getDecodedFrames]
    split
    · exact ⟨_, _, _, rfl, id⟩
    · rw [alogAssert_rest]
      exact ⟨_, _, _, rfl, alogAssert_eosPending _ OutputAssert.noConfusion⟩
  have hund := undelivered_getDecodedFrames h n
  obtain ⟨alloc, free, asserts, heq, hasserts⟩ := hrest
  rw [heq] at hund ⊢
  exact ⟨hund, rfl, rfl, rfl, hasserts⟩

theorem returnDecodedFrames_rest (s : OutputSide) : s.returnDecodedFrames.1 = { s with
    frameBufferAllocList := s.returnDecodedFrames.1.frameBufferAllocList
    frameBufferFreeList := s.returnDecodedFrames.1.frameBufferFreeList
    nexus := { s.nexus with
      fifo := s.returnDecodedFrames.1.nexus.fifo, calls := s.returnDecodedFrames.1.nexus.calls }
    lastReturnedSerial := s.returnDecodedFrames.1.lastReturnedSerial
    formatChangeState := s.returnDecodedFrames.1.formatChangeState } := by
  simp only [OutputSide.returnDecodedFrames]
  split
  · rfl
  · split <;> rfl

theorem returnDecodedFrames_empty (h : s.nexus.fifo = []) : s.returnDecodedFrames.1.nexus.fifo = [] := by
  simp only [OutputSide.returnDecodedFrames]
  split
  · exact h
  · split
    · exact h
    · rw [h, List.drop_nil]

theorem Still.returnDecodedFrames (h : FrameQueue mode s) (hflush : s.outputFlushing = false) :
    Still s s.returnDecodedFrames.1 := by
  have hund := undelivered_returnDecodedFrames h hflush
  rw [returnDecodedFrames_rest] at hund ⊢
  exact ⟨hund, rfl, rfl, rfl, id⟩

end OutputSide
end BcmPlatform.Bomx
