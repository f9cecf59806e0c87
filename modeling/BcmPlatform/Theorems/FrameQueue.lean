import Mathlib.Data.List.Perm.Basic
import BcmPlatform.Theorems.FrameList

/-! The invariant of the frame queue: the alloc list is aligned with the FIFO of Nexus, no node is lost, the buffers
    that the client has are linked to frames of the alloc list, and every call gave Nexus the decisions for the frames
    in its FIFO. -/

namespace BcmPlatform.Bomx
open Lib

/-- The serial numbers of the FIFO. -/
def Nexus.serials (n : Nexus) : List Nat := n.fifo.map (·.serialNumber)

/-- The settings of a call are those for the frames at the head of the FIFO, or of what was the FIFO before the flush:
    a frame is displayed if the client asked for it and if it is the last one of the call. -/
structure ReturnCall.Ok (c : ReturnCall) : Prop where
  serials : c.entries.map (·.serial) <+: if c.flushing then c.flushed else c.fifo
  display : ∀ i e, c.entries[i]? = some e →
    e.display = (decide (i + 1 = c.entries.length) && decide (e.state = .displayReady))

namespace OutputSide

/-- An output buffer with a frame is one of the port, and its frame is in the alloc list. -/
def Linked (s : OutputSide) : Prop :=
  ∀ b n, (s.buffer b).pFrameBuffer = some n → b ∈ s.port.bufferList ∧
    ∃ f ∈ s.frameBufferAllocList, f.id = n ∧ f.isClientOwned = true ∧ f.pBufferInfo = some b

/-- Everything but the alignment with the FIFO. -/
structure FrameNodes (mode : OutputMode) (s : OutputSide) : Prop where
  nodes : ((s.frameBufferAllocList ++ s.frameBufferFreeList).map (·.id)).Perm (List.range maxDecodedFrames)
  types : ∀ b, (s.buffer b).type = mode
  linked : mode ≠ .metadata → s.Linked
  stopped : s.nexus.started = false → s.nexus.fifo = []
  acquired : s.nexus.started = true → s.hSimpleVideoDecoder = true
  asserts : .frameMismatch ∉ s.asserts
  calls : ∀ c ∈ s.nexus.calls, c.Ok

structure FrameQueue (mode : OutputMode) (s : OutputSide) : Prop extends FrameNodes mode s where
  aligned : Aligned s.frameBufferAllocList s.nexus.serials s.nexus.nextSerial

variable {s s' : OutputSide} {mode : OutputMode} {b c : BufferId} {f : FrameBuffer}

@[simp] theorem buffer_setBuffer (b : BufferId) (info : OutputBuffer) (s : OutputSide) :
    (s.setBuffer b info).buffer b = info := by
  simp [setBuffer]

theorem buffer_setBuffer_of_ne {info : OutputBuffer} (h : c ≠ b) : (s.setBuffer b info).buffer c = s.buffer c := by
  simp [setBuffer, h]

namespace FrameNodes

theorem nodup_ids (h : FrameNodes mode s) : (s.frameBufferAllocList.map (·.id)).Nodup := by
  have hall : ((s.frameBufferAllocList ++ s.frameBufferFreeList).map (·.id)).Nodup :=
    h.nodes.nodup_iff.mpr List.nodup_range
  rw [List.map_append] at hall
  exact hall.of_append_left

theorem eq_of_id {f g : FrameBuffer} (h : FrameNodes mode s) (hf : f ∈ s.frameBufferAllocList)
    (hg : g ∈ s.frameBufferAllocList) (hid : f.id = g.id) : f = g :=
  List.inj_on_of_nodup_map h.nodup_ids hf hg hid

theorem length_le (h : FrameNodes mode s) : s.frameBufferAllocList.length ≤ maxDecodedFrames := by
  have hlen := h.nodes.length_eq
  rw [List.length_map, List.length_append, List.length_range] at hlen
  omega

end FrameNodes

namespace FrameQueue

theorem eq_of_serial {f g : FrameBuffer} (h : FrameQueue mode s) (hf : f ∈ s.frameBufferAllocList)
    (hg : g ∈ s.frameBufferAllocList) (hserial : f.serial = g.serial) : f = g :=
  List.inj_on_of_nodup_map (h.aligned.serials_sorted.imp Nat.ne_of_lt) hf hg hserial

theorem congr (h : FrameQueue mode s) (halloc : s'.frameBufferAllocList = s.frameBufferAllocList)
    (hfree : s'.frameBufferFreeList = s.frameBufferFreeList) (hnexus : s'.nexus = s.nexus)
    (hdecoder : s'.hSimpleVideoDecoder = s.hSimpleVideoDecoder)
    (hlist : s'.port.bufferList = s.port.bufferList) (htype : ∀ b, (s'.buffer b).type = (s.buffer b).type)
    (hframe : ∀ b, (s'.buffer b).pFrameBuffer = (s.buffer b).pFrameBuffer)
    (hasserts : .frameMismatch ∈ s'.asserts → .frameMismatch ∈ s.asserts) : FrameQueue mode s' where
  aligned := by
    rw [halloc, hnexus]
    exact h.aligned
  nodes := by
    rw [halloc, hfree]
    exact h.nodes
  types b := (htype b).trans (h.types b)
  linked hmode b n hb := by
    rw [hframe] at hb
    rw [halloc, hlist]
    exact h.linked hmode b n hb
  stopped := by
    rw [hnexus]
    exact h.stopped
  acquired := by
    rw [hnexus, hdecoder]
    exact h.acquired
  asserts hmem := h.asserts (hasserts hmem)
  calls := by
    rw [hnexus]
    exact h.calls

end FrameQueue

theorem Linked.congr (h : s.Linked)
    (hframe : ∀ b n, (s'.buffer b).pFrameBuffer = some n → (s.buffer b).pFrameBuffer = some n)
    (hlist : ∀ b n, (s'.buffer b).pFrameBuffer = some n → b ∈ s.port.bufferList → b ∈ s'.port.bufferList)
    (hkeep : ∀ f ∈ s.frameBufferAllocList, f.isClientOwned = true → ∀ b, f.pBufferInfo = some b →
      (s'.buffer b).pFrameBuffer = some f.id →
      ∃ f' ∈ s'.frameBufferAllocList, f'.id = f.id ∧ f'.isClientOwned = true ∧ f'.pBufferInfo = some b) :
    s'.Linked := by
  intro b n hb
  obtain ⟨hmem, f, hf, hid, howned, hinfo⟩ := h b n (hframe b n hb)
  refine ⟨hlist b n hb hmem, ?_⟩
  rw [← hid] at hb ⊢
  exact hkeep f hf howned b hinfo hb

/-! ### Nodes -/

theorem map_setNode {pre rest : List FrameBuffer} {g : FrameBuffer → FrameBuffer}
    (h : ((pre ++ f :: rest).map (·.id)).Nodup) :
    (pre ++ f :: rest).map (fun k => if k.id = f.id then g k else k) = pre ++ g f :: rest := by
  rw [List.map_append, List.map_cons, List.nodup_append] at h
  obtain ⟨-, hrest, hpre⟩ := h
  rw [List.nodup_cons] at hrest
  have hsame : ∀ l : List FrameBuffer, (∀ k ∈ l, k.id ≠ f.id) → l.map (fun k => if k.id = f.id then g k else k) = l := by
    intro l hl
    conv_rhs => rw [← List.map_id l]
    exact List.map_congr_left fun k hk => if_neg (hl k hk)
  rw [List.map_append, List.map_cons, if_pos rfl, hsame pre, hsame rest]
  · intro k hk heq
    exact hrest.1 (List.mem_map.mpr ⟨k, hk, heq⟩)
  · intro k hk heq
    exact hpre _ (List.mem_map.mpr ⟨k, hk, rfl⟩) _ (List.mem_cons_self ..) heq

theorem nodes_setNode {n : Nat} {g : FrameBuffer → FrameBuffer} (hg : ∀ f, (g f).id = f.id) :
    (s.setNode n g).frameBufferAllocList.map (·.id) = s.frameBufferAllocList.map (·.id) := by
  simp only [setNode, List.map_map]
  refine List.map_congr_left fun f _ => ?_
  simp only [Function.comp_apply]
  split
  · exact hg f
  · rfl

theorem nodes_freeNode (h : FrameNodes mode s) (hf : f ∈ s.frameBufferAllocList) {g : FrameBuffer} (hg : g.id = f.id) :
    (((s.freeNode g).frameBufferAllocList ++ (s.freeNode g).frameBufferFreeList).map (·.id)).Perm
      (List.range maxDecodedFrames) := by
  refine List.Perm.trans ?_ h.nodes
  obtain ⟨pre, rest, hsplit⟩ := List.append_of_mem hf
  have hnodup := h.nodup_ids
  rw [hsplit] at hnodup
  have hfilter : (pre ++ f :: rest).filter (·.id ≠ g.id) = pre ++ rest := by
    rw [List.map_append, List.map_cons, List.nodup_append] at hnodup
    obtain ⟨-, hrest, hpre⟩ := hnodup
    rw [List.nodup_cons] at hrest
    rw [List.filter_append, List.filter_cons_of_neg (by simp [hg]), List.filter_eq_self.mpr, List.filter_eq_self.mpr]
    · intro k hk
      have hne : k.id ≠ f.id := fun heq => hrest.1 (List.mem_map.mpr ⟨k, hk, heq⟩)
      simpa [hg] using hne
    · intro k hk
      have hne : k.id ≠ f.id := fun heq => hpre _ (List.mem_map.mpr ⟨k, hk, rfl⟩) _ (List.mem_cons_self ..) heq
      simpa [hg] using hne
  simp only [freeNode, hsplit]
  rw [hfilter]
  simp only [List.map_append, List.map_cons, List.map_nil, hg, List.append_assoc]
  refine List.Perm.append_left _ ?_
  rw [← List.append_assoc]
  exact List.perm_append_comm

/-! ### Taking frames from Nexus -/

theorem allocFrames_split : ∀ (free : List FrameBuffer) (frames : List FrameStatus),
    ((allocFrames free frames).1 ++ (allocFrames free frames).2).map (·.id) = free.map (·.id) ∧
    (allocFrames free frames).1.map (·.frameStatus) <+: frames ∧
    (∀ f ∈ (allocFrames free frames).1, f.isReady = true) ∧
    (∀ f ∈ (allocFrames free frames).1, ∃ g ∈ free, f.pBufferInfo = g.pBufferInfo) ∧
    (∀ f ∈ (allocFrames free frames).2, f ∈ free)
  | [], frames => by
    cases frames <;> exact ⟨rfl, List.nil_prefix, by simp [allocFrames], by simp [allocFrames], by simp [allocFrames]⟩
  | f :: free, [] => ⟨rfl, List.prefix_refl _, by simp [allocFrames], by simp [allocFrames], by simp [allocFrames]⟩
  | f :: free, status :: rest => by
    obtain ⟨hids, hstatus, hready, hinfo, hfree⟩ := allocFrames_split free rest
    refine ⟨?_, ?_, fun g hg => ?_, fun g hg => ?_, fun g hg => List.mem_cons_of_mem _ (hfree g hg)⟩
    · simpa [allocFrames] using hids
    · simpa [allocFrames, List.prefix_cons_iff] using hstatus
    · rcases List.mem_cons.mp hg with rfl | hg
      · rfl
      · exact hready g hg
    · rcases List.mem_cons.mp hg with rfl | hg
      · exact ⟨f, List.mem_cons_self .., rfl⟩
      · obtain ⟨k, hk, heq⟩ := hinfo g hg
        exact ⟨k, List.mem_cons_of_mem _ hk, heq⟩

theorem append_prefix_of_take {v new l : List Nat} {k : Nat} (hv : v <+: l) (hnew : new <+: (l.take k).drop v.length) :
    v ++ new <+: l := by
  obtain ⟨later, rfl⟩ := hv
  rw [List.drop_take, List.drop_left] at hnew
  exact (List.prefix_append_right_inj v).mpr (hnew.trans (List.take_prefix _ _))

theorem all_known : ∀ (known : List FrameBuffer) (fifo : List FrameStatus) (k : Nat),
    known.map (·.serial) <+: fifo.map (·.serialNumber) →
    ((known.zip (fifo.take k)).all fun p => p.1.serial = p.2.serialNumber) = true
  | [], _, _, _ => rfl
  | f :: known, [], _, h => by simp at h
  | f :: known, status :: fifo, 0, h => by simp
  | f :: known, status :: fifo, k + 1, h => by
    rw [List.map_cons, List.map_cons, List.cons_prefix_cons] at h
    simp only [List.take_succ_cons, List.zip_cons_cons, List.all_cons, Bool.and_eq_true, decide_eq_true_eq]
    exact ⟨h.1, all_known known fifo k h.2⟩

theorem FrameQueue.getDecodedFrames (h : FrameQueue mode s) (n : Nat) : FrameQueue mode (s.getDecodedFrames n) := by
  have hknown : s.frameBufferAllocList.dropWhile (·.isInvalid) = s.frameBufferAllocList.filter fun f => !f.isInvalid :=
    dropWhile_eq_filter h.aligned.invalidFirst
  simp only [OutputSide.getDecodedFrames]
  split
  · exact h
  · rw [hknown, alogAssert, if_pos (all_known _ _ _ h.aligned.serials)]
    obtain ⟨hids, hstatus, hready, -, -⟩ := allocFrames_split s.frameBufferFreeList
      ((s.nexus.fifo.take (min n maxDecodedFrames)).drop (s.frameBufferAllocList.filter fun f => !f.isInvalid).length)
    generalize allocFrames s.frameBufferFreeList _ = p at hids hstatus hready
    have hnew : validSerials s.frameBufferAllocList ++ p.1.map (·.serial) <+: s.nexus.serials := by
      refine append_prefix_of_take (k := min n maxDecodedFrames) h.aligned.serials ?_
      have hserials := hstatus.map (·.serialNumber)
      rw [List.map_map, List.map_drop, List.map_take] at hserials
      rw [validSerials, List.length_map]
      exact hserials
    refine ⟨⟨?_, h.types, fun hmode => ?_, h.stopped, h.acquired, h.asserts, h.calls⟩, h.aligned.append hready hnew⟩
    · rw [List.append_assoc, List.map_append, hids, ← List.map_append]
      exact h.nodes
    · refine (h.linked hmode).congr (fun _ _ => id) (fun _ _ _ => id) fun f hf howned b hb _ => ?_
      exact ⟨f, List.mem_append_left _ hf, rfl, howned, hb⟩

/-! ### Returning frames to Nexus -/

theorem map_serial_returnSettings : ∀ B : List FrameBuffer, (returnSettings B).map (·.serial) = B.map (·.serial)
  | [] => rfl
  | [_] => rfl
  | f :: g :: rest => congrArg (f.serial :: ·) (map_serial_returnSettings (g :: rest))

theorem returnSettings_display : ∀ (B : List FrameBuffer) (i : Nat) (e : ReturnEntry), (returnSettings B)[i]? = some e →
    e.display = (decide (i + 1 = (returnSettings B).length) && decide (e.state = .displayReady))
  | [], _, _, h => by simp [returnSettings] at h
  | [f], 0, e, h => by
    cases h
    rfl
  | [f], i + 1, _, h => by simp [returnSettings] at h
  | f :: g :: rest, 0, e, h => by
    cases h
    simp [returnSettings, length_returnSettings]
  | f :: g :: rest, i + 1, e, h => by
    have hrest := returnSettings_display (g :: rest) i e (by simpa [returnSettings] using h)
    rw [hrest]
    simp [returnSettings]

theorem ids_batch (B : List FrameBuffer) :
    ((invalidated B ++ released B).map (·.id)).Perm (B.map (·.id)) := by
  have hmap : (invalidated B ++ released B).map (·.id) =
      (B.filter (·.state = .delivered) ++ B.filter fun f => !decide (f.state = .delivered)).map (·.id) := by
    simp [invalidated, released, Function.comp_def]
  rw [hmap]
  exact (List.filter_append_perm _ B).map _

section
variable {I B R : List FrameBuffer}

theorem Linked.handBack (h : s.Linked) (hb : Batch s I B R) (last : FrameBuffer) : (s.handBack I B R last).Linked := by
  refine h.congr (fun _ _ => id) (fun _ _ _ => id) fun f hf howned b hinfo _ => ?_
  rw [hb.split, List.append_assoc, List.mem_append, List.mem_append] at hf
  rcases hf with hf | hf | hf
  · exact ⟨f, List.mem_append_left _ (List.mem_append_left _ hf), rfl, howned, hinfo⟩
  · -- a frame that the client owns stays, as an invalid one
    have hdelivered : f.state = .delivered := by
      have hvalid := hb.valid f hf
      cases hstate : f.state <;> simp_all [FrameBuffer.isClientOwned, FrameBuffer.isInvalid]
    refine ⟨{ f with state := .invalid }, List.mem_append_left _ (List.mem_append_right _ ?_), rfl, rfl, hinfo⟩
    exact List.mem_map.mpr ⟨f, List.mem_filter.mpr ⟨hf, by simp [hdelivered]⟩, rfl⟩
  · exact ⟨f, List.mem_append_right _ hf, rfl, howned, hinfo⟩

theorem FrameNodes.handBack (h : FrameNodes mode s) (hb : Batch s I B R) (last : FrameBuffer)
    (hserials : B.map (·.serial) <+: if s.outputFlushing then s.flushedFifo else s.nexus.serials) :
    FrameNodes mode (s.handBack I B R last) where
  nodes := by
    refine List.Perm.trans ?_ h.nodes
    have hbatch := ids_batch B
    simp only [OutputSide.handBack, hb.split, List.map_append, List.append_assoc] at hbatch ⊢
    refine List.Perm.append_left _ ?_
    -- what the batch releases moves to the end of the free list
    calc (invalidated B).map (·.id) ++ (R.map (·.id) ++ (s.frameBufferFreeList.map (·.id) ++ (released B).map (·.id)))
      _ = (invalidated B).map (·.id) ++ ((R.map (·.id) ++ s.frameBufferFreeList.map (·.id)) ++ (released B).map (·.id)) := by
        rw [List.append_assoc]
      _ |>.Perm ((invalidated B).map (·.id) ++ ((released B).map (·.id) ++
          (R.map (·.id) ++ s.frameBufferFreeList.map (·.id)))) := List.Perm.append_left _ List.perm_append_comm
      _ = ((invalidated B).map (·.id) ++ (released B).map (·.id)) ++ (R.map (·.id) ++ s.frameBufferFreeList.map (·.id)) := by
        rw [List.append_assoc]
      _ |>.Perm (B.map (·.id) ++ (R.map (·.id) ++ s.frameBufferFreeList.map (·.id))) := hbatch.append_right _
  types := h.types
  linked hmode := (h.linked hmode).handBack hb last
  stopped hstopped := by
    have hempty := h.stopped hstopped
    simp [OutputSide.handBack, hempty]
  acquired := h.acquired
  asserts := h.asserts
  calls c hc := by
    rcases List.mem_append.mp hc with hc | hc
    · exact h.calls c hc
    · rw [List.mem_singleton.mp hc]
      refine ⟨?_, returnSettings_display B⟩
      rw [map_serial_returnSettings]
      exact hserials

theorem Batch.serials {fifo : List Nat} {next : Nat} (hb : Batch s I B R)
    (h : Aligned s.frameBufferAllocList fifo next) : B.map (·.serial) <+: fifo := by
  have hserials := h.serials
  rw [hb.split, validSerials_append, validSerials_append, validSerials_of_invalid hb.invalid,
    validSerials_of_valid hb.valid, List.nil_append] at hserials
  exact (List.prefix_append _ _).trans hserials

theorem Batch.aligned {fifo : List Nat} {next : Nat} (hb : Batch s I B R)
    (h : Aligned s.frameBufferAllocList fifo next) :
    Aligned (I ++ invalidated B ++ R) (fifo.drop B.length) next := by
  rw [hb.split] at h
  exact h.returned hb.invalid hb.valid hb.restValid

theorem FrameQueue.handBack (h : FrameQueue mode s) (hb : Batch s I B R) (hflush : s.outputFlushing = false)
    (last : FrameBuffer) : FrameQueue mode (s.handBack I B R last) := by
  refine ⟨h.toFrameNodes.handBack hb last ?_, ?_⟩
  · simp only [hflush, Bool.false_eq_true, if_false]
    exact hb.serials h.aligned
  · have haligned := hb.aligned h.aligned
    simp only [Nexus.serials, ← List.map_drop] at haligned
    exact haligned

theorem FrameQueue.returnDecodedFrames (h : FrameQueue mode s) (hflush : s.outputFlushing = false) :
    FrameQueue mode s.returnDecodedFrames.1 :=
  returnDecodedFrames_keeps h.aligned h.length_le h fun hb _ => h.handBack hb hflush _

/-- The flush of the output port, up to the return of frames. -/
def startFlush (s : OutputSide) : OutputSide := { s with outputFlushing := true }.nexusFlush

theorem startFlush_nodes (h : FrameNodes mode s) : FrameNodes mode s.startFlush :=
  ⟨h.nodes, h.types, h.linked, fun _ => rfl, h.acquired, h.asserts, h.calls⟩

theorem FrameQueue.flush (h : FrameQueue mode s) (hopen : s.hSimpleVideoDecoder = true) :
    FrameQueue mode s.startFlush.returnDecodedFrames.1 := by
  have haligned : Aligned s.startFlush.frameBufferAllocList s.nexus.serials s.nexus.nextSerial := h.aligned
  have hnodes := startFlush_nodes h.toFrameNodes
  obtain ⟨I, B, R, hb, hcases⟩ := returnDecodedFrames_cases haligned hnodes.length_le hopen
  have hR : R = [] := hb.flushed rfl
  rcases hcases with ⟨hB, heq⟩ | ⟨last, -, heq⟩
  · -- there is nothing but invalid frames
    rw [heq]
    refine ⟨hnodes, h.aligned.emptyFifo (validSerials_of_invalid ?_)⟩
    have hsplit : s.frameBufferAllocList = I := by
      have hsplit := hb.split
      rw [hB, hR, List.append_nil, List.append_nil] at hsplit
      exact hsplit
    rw [hsplit]
    exact hb.invalid
  · rw [heq]
    refine ⟨hnodes.handBack hb last ?_, ?_⟩
    · exact hb.serials haligned
    · have hempty : (s.startFlush.handBack I B R last).nexus.serials = [] := by
        simp [OutputSide.handBack, startFlush, nexusFlush, Nexus.serials]
      rw [hempty]
      refine (hb.aligned haligned).emptyFifo (validSerials_of_invalid fun f hf => ?_)
      rw [hR, List.append_nil] at hf
      rcases List.mem_append.mp hf with hf | hf
      · exact hb.invalid f hf
      · exact Aligned.isInvalid_invalidated f hf

end

end OutputSide
end BcmPlatform.Bomx
