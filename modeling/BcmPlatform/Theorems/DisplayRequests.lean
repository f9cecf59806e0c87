import BcmPlatform.Theorems.FrameRuns
import BcmPlatform.Theorems.FrameSpecs

/-! A display request: the frame stays with the client until the display thread shows it or a later frame goes back with
    it, and then it goes back to Nexus. -/

namespace BcmPlatform.Bomx
open Lib

/-- The call tells Nexus to display frame `n`, or to drop it because of a later frame. -/
def ReturnCall.Shows (n : Nat) (c : ReturnCall) : Prop :=
  ∀ i e, c.entries[i]? = some e → e.serial = n → e.display = true ∨ i + 1 < c.entries.length

namespace OutputSide
variable {s s' : OutputSide} {mode : OutputMode} {b : BufferId} {f : FrameBuffer} {n : Nat} {old : List ReturnCall}

/-- Frame `n` is with the client, and the request to display it waits for the display thread or is taken by it. -/
structure Waits (n : Nat) (s : OutputSide) : Prop where
  request : (s.displayFrameAvailable = true ∧ s.frameSerial = n) ∨ s.displayTaken = some n
  frame : ∃ f ∈ s.frameBufferAllocList, f.serial = n ∧ f.state = .delivered

/-- Since the calls `old`, Nexus was told nothing else about frame `n` than to display it, or to drop it because of a
    later frame; it was told so if the request does not wait. -/
structure Requested (mode : OutputMode) (n : Nat) (old : List ReturnCall) (s : OutputSide) : Prop where
  queue : FrameQueue mode s
  known : n < s.nexus.nextSerial
  calls : ∃ new, s.nexus.calls = old ++ new ∧ (∀ c ∈ new, c.Shows n) ∧
    (Waits n s ∨ (∃ c ∈ new, n ∈ c.entries.map (·.serial)) ∧ n ∉ s.nexus.serials)

theorem FrameQueue.serial_mem (h : FrameQueue mode s) (hf : f ∈ s.frameBufferAllocList) (hvalid : f.isInvalid = false) :
    f.serial ∈ s.nexus.serials :=
  h.aligned.serials.subset (List.mem_map.mpr ⟨f, List.mem_filter.mpr ⟨hf, by simp [hvalid]⟩, rfl⟩)

namespace Requested

theorem congr (h : Requested mode n old s) (hqueue : FrameQueue mode s') (hnexus : s'.nexus = s.nexus)
    (hwaits : Waits n s → Waits n s') : Requested mode n old s' := by
  refine ⟨hqueue, by rw [hnexus]; exact h.known, ?_⟩
  obtain ⟨new, hcalls, hshows, hprogress⟩ := h.calls
  rw [hnexus]
  exact ⟨new, hcalls, hshows, hprogress.imp_left hwaits⟩

theorem same (h : Requested mode n old s) (hqueue : FrameQueue mode s') (hnexus : s'.nexus = s.nexus)
    (halloc : s'.frameBufferAllocList = s.frameBufferAllocList)
    (havailable : s'.displayFrameAvailable = s.displayFrameAvailable) (hserial : s'.frameSerial = s.frameSerial)
    (htaken : s'.displayTaken = s.displayTaken) : Requested mode n old s' := by
  refine h.congr hqueue hnexus fun hw => ⟨?_, ?_⟩
  · rw [havailable, hserial, htaken]
    exact hw.request
  · rw [halloc]
    exact hw.frame

theorem undropped (h : Requested mode n old s) (hf : f ∈ s.frameBufferAllocList) (hserial : f.serial = n) :
    f.state ≠ .dropReady := by
  obtain ⟨_, -, -, ⟨-, g, hg, hgserial, hstate⟩ | ⟨-, hnot⟩⟩ := h.calls
  · rw [h.queue.eq_of_serial hf hg (hserial.trans hgserial.symm), hstate]
    exact FrameBufferState.noConfusion
  · intro hdrop
    rw [← hserial] at hnot
    exact hnot (h.queue.serial_mem hf (by simp [FrameBuffer.isInvalid, hdrop]))

end Requested

/-! ### Frames that go back -/

theorem getElem?_returnSettings : ∀ (B : List FrameBuffer) (i : Nat) (e : ReturnEntry), (returnSettings B)[i]? = some e →
    ∃ k, B[i]? = some k ∧ e.serial = k.serial ∧ e.state = k.state
  | [], _, _, h => by simp [returnSettings] at h
  | [k], 0, e, h => by
    cases h
    exact ⟨k, rfl, rfl, rfl⟩
  | [k], i + 1, _, h => by simp [returnSettings] at h
  | k :: g :: rest, 0, e, h => by
    cases h
    exact ⟨k, rfl, rfl, rfl⟩
  | k :: g :: rest, i + 1, e, h => getElem?_returnSettings (g :: rest) i e (by simpa [returnSettings] using h)

section
variable {I B R : List FrameBuffer} {last : FrameBuffer} {new : List ReturnCall}

/-- The call that a batch makes. -/
def batchCall (B : List FrameBuffer) (s : OutputSide) : ReturnCall :=
  { flushing := s.outputFlushing, fifo := s.nexus.serials, flushed := s.flushedFifo, entries := returnSettings B }

theorem calls_handBack (h : s.nexus.calls = old ++ new) :
    (s.handBack I B R last).nexus.calls = old ++ (new ++ [s.batchCall B]) := by
  rw [← List.append_assoc, ← h]
  rfl

theorem Batch.shows (hb : Batch s I B R) (hflush : s.outputFlushing = false)
    (hundropped : ∀ k ∈ B, k.serial = n → k.state ≠ .dropReady) : (s.batchCall B).Shows n := by
  intro i e he hserial
  have he : (returnSettings B)[i]? = some e := he
  change e.display = true ∨ i + 1 < (returnSettings B).length
  obtain ⟨k, hk, hks, hstate⟩ := getElem?_returnSettings B i e he
  have hlt : i < B.length := (List.getElem?_eq_some_iff.mp hk).1
  rw [returnSettings_display B i e he, length_returnSettings]
  by_cases hend : i + 1 = B.length
  · -- the last frame of the batch is one that the client has decided about
    have hlast : B.getLast? = some k := by
      rw [List.getLast?_eq_getElem?, ← hend]
      exact hk
    have hdecided := hb.lastDecided hflush k hlast
    have hne := hundropped k (List.mem_of_getElem? hk) (hks.symm.trans hserial)
    have hdisplay : k.state = .displayReady := by
      cases hs : k.state <;> simp_all [FrameBuffer.isActionable]
    exact .inl (by simp [hend, hstate, hdisplay])
  · exact .inr (by omega)

theorem FrameQueue.serial_not_mem_handBack (h : FrameQueue mode s) (hb : Batch s I B R) (hf : f ∈ B) :
    f.serial ∉ (s.handBack I B R last).nexus.serials := by
  obtain ⟨later, hlater⟩ := hb.serials h.aligned
  have hsorted : s.nexus.serials.Pairwise (· < ·) := h.aligned.sorted.sublist (List.sublist_append_right _ _)
  have hdrop : (s.handBack I B R last).nexus.serials = later := by
    change (s.nexus.fifo.drop B.length).map (·.serialNumber) = later
    rw [List.map_drop]
    change s.nexus.serials.drop B.length = later
    rw [← hlater, List.drop_left' (by simp)]
  rw [← hlater, List.pairwise_append] at hsorted
  rw [hdrop]
  intro hmem
  exact Nat.lt_irrefl _ (hsorted.2.2 _ (List.mem_map.mpr ⟨f, hf, rfl⟩) _ hmem)

theorem serials_handBack_subset {k : Nat} (hk : k ∈ (s.handBack I B R last).nexus.serials) : k ∈ s.nexus.serials := by
  have hsub : (s.handBack I B R last).nexus.serials.Sublist s.nexus.serials := (List.drop_sublist _ _).map _
  exact hsub.subset hk

theorem Requested.returned (h : FrameQueue mode s) (hknown : n < s.nexus.nextSerial)
    (hcalls : s.nexus.calls = old ++ new) (hshows : ∀ c ∈ new, c.Shows n) (hb : Batch s I B R)
    (hflush : s.outputFlushing = false) (hundropped : ∀ k ∈ B, k.serial = n → k.state ≠ .dropReady)
    (hf : f ∈ B) (hserial : f.serial = n) : Requested mode n old (s.handBack I B R last) := by
  refine ⟨h.handBack hb hflush last, hknown, _, calls_handBack hcalls, fun c hc => ?_, .inr ⟨?_, ?_⟩⟩
  · rcases List.mem_append.mp hc with hc | hc
    · exact hshows c hc
    · rw [List.mem_singleton.mp hc]
      exact hb.shows hflush hundropped
  · refine ⟨s.batchCall B, List.mem_append_right _ (List.mem_singleton.mpr rfl), ?_⟩
    rw [batchCall, map_serial_returnSettings]
    exact List.mem_map.mpr ⟨f, hf, hserial⟩
  · rw [← hserial]
    exact h.serial_not_mem_handBack hb hf

theorem Requested.handBack (h : Requested mode n old s) (hb : Batch s I B R) (hflush : s.outputFlushing = false) :
    Requested mode n old (s.handBack I B R last) := by
  have hundropped : ∀ k ∈ B, k.serial = n → k.state ≠ .dropReady := fun k hk hserial =>
    h.undropped (by rw [hb.split]; exact List.mem_append_left _ (List.mem_append_right _ hk)) hserial
  obtain ⟨new, hcalls, hshows, hprogress⟩ := h.calls
  by_cases hmem : ∃ f ∈ B, f.serial = n
  · obtain ⟨f, hf, hserial⟩ := hmem
    exact Requested.returned h.queue h.known hcalls hshows hb hflush hundropped hf hserial
  · -- the call is about other frames
    refine ⟨h.queue.handBack hb hflush last, h.known, _, calls_handBack hcalls, fun c hc => ?_, ?_⟩
    · rcases List.mem_append.mp hc with hc | hc
      · exact hshows c hc
      · rw [List.mem_singleton.mp hc]
        exact hb.shows hflush hundropped
    · rcases hprogress with hwaits | ⟨⟨c, hc, hcn⟩, hnot⟩
      · left
        refine ⟨hwaits.request, ?_⟩
        obtain ⟨f, hf, hserial, hstate⟩ := hwaits.frame
        rw [hb.split, List.append_assoc, List.mem_append, List.mem_append] at hf
        rcases hf with hf | hf | hf
        · exact ⟨f, List.mem_append_left _ (List.mem_append_left _ hf), hserial, hstate⟩
        · exact absurd ⟨f, hf, hserial⟩ hmem
        · exact ⟨f, List.mem_append_right _ hf, hserial, hstate⟩
      · exact .inr ⟨⟨c, List.mem_append_left _ hc, hcn⟩, fun hk => hnot (serials_handBack_subset hk)⟩

end

theorem Requested.returnDecodedFrames (h : Requested mode n old s) (hflush : s.outputFlushing = false) :
    Requested mode n old s.returnDecodedFrames.1 :=
  returnDecodedFrames_keeps h.queue.aligned h.queue.length_le h fun hb _ => h.handBack hb hflush

/-! ### The client's calls -/

theorem mem_map_other {l : List FrameBuffer} {m : Nat} {g : FrameBuffer → FrameBuffer} {k : FrameBuffer} (hk : k ∈ l)
    (hne : k.id ≠ m) : k ∈ l.map fun f => if f.id = m then g f else f :=
  List.mem_map.mpr ⟨k, hk, if_neg hne⟩

theorem Requested.of_detached (h : Requested mode n old s) (hqueue : FrameQueue mode s') (hdet : Detached b s s')
    (htaken : s'.displayTaken = s.displayTaken)
    (hkeep : ∀ f ∈ s.frameBufferAllocList, f.serial = n → f.state = .delivered → f ∈ s'.frameBufferAllocList) :
    Requested mode n old s' := by
  refine h.congr hqueue (by rw [hdet.rest]) fun hw => ⟨?_, ?_⟩
  · rw [htaken, hdet.rest]
    exact hw.request
  · obtain ⟨f, hf, hserial, hstate⟩ := hw.frame
    exact ⟨f, hkeep f hf hserial hstate, hserial, hstate⟩

/-- The buffer is not that of frame `n`, or the request still waits for the display thread. -/
def FillOk (n : Nat) (b : BufferId) (s : OutputSide) : Prop :=
  ∀ f, s.frameOf b = some f → f.serial = n → f.state = .delivered → s.displayFrameAvailable = true ∧ s.frameSerial = n

theorem fillThisBuffer_displayTaken : (s.fillThisBuffer b).1.displayTaken = s.displayTaken := by
  have hrequeue : ∀ s : OutputSide, (s.requeue b).displayTaken = s.displayTaken := by
    intro s
    simp only [requeue]
    split
    · rfl
    · rw [alogAssert_rest]
      rfl
  simp only [fillThisBuffer]
  split
  · rfl
  · split
    · rfl
    · rw [hrequeue]
      split
      · rw [fillFrame_rest]
        rfl
      · rfl

theorem Requested.fillThisBuffer (h : Requested mode n old s) (hhandle : HandleOk mode b s) (hok : FillOk n b s)
    (hnone : (s.fillThisBuffer b).2 = .none) : Requested mode n old (s.fillThisBuffer b).1 := by
  have hdet := (fillThisBuffer_detached hnone).1
  refine h.of_detached (h.queue.fillThisBuffer hhandle) hdet fillThisBuffer_displayTaken fun k hk hserial hstate => ?_
  cases fillThisBuffer_cases hnone with
  | noFrame hframe halloc hfree => exact halloc ▸ hk
  | freed f hframe hinvalid halloc hfree =>
    rw [halloc]
    refine List.mem_filter.mpr ⟨hk, decide_eq_true fun hid => ?_⟩
    rw [h.queue.eq_of_id hk (frameOf_spec h.queue hframe).1 hid, hinvalid] at hstate
    cases hstate
  | pending f hframe hvalid hpending halloc hfree => exact halloc ▸ hk
  | dropped f hframe hvalid hnot halloc hfree =>
    rw [halloc]
    refine mem_map_other hk fun hid => ?_
    obtain rfl := h.queue.eq_of_id hk (frameOf_spec h.queue hframe).1 hid
    obtain ⟨havailable, hfs⟩ := hok k hframe hserial hstate
    exact hnot ⟨havailable, hserial.trans hfs.symm⟩

theorem freeBuffer_displayTaken : (s.freeBuffer b).1.displayTaken = s.displayTaken := by
  simp only [freeBuffer]
  split
  · rfl
  · split
    · rw [freeFrame_rest]
      rfl
    · rfl

theorem Requested.freeBuffer (h : Requested mode n old s) (hok : ∀ f, s.frameOf b = some f → f.serial ≠ n) :
    Requested mode n old (s.freeBuffer b).1 := by
  rcases freeBuffer_cases (s := s) (b := b) with heq | ⟨hdet, hreleased⟩
  · rw [heq]
    exact h
  · refine h.of_detached h.queue.freeBuffer hdet freeBuffer_displayTaken fun k hk hserial _ => ?_
    have hne : ∀ f, s.frameOf b = some f → k.id ≠ f.id := by
      intro f hframe hid
      refine hok f hframe ?_
      rw [← h.queue.eq_of_id hk (frameOf_spec h.queue hframe).1 hid]
      exact hserial
    cases hreleased with
    | noFrame hframe halloc hfree => exact halloc ▸ hk
    | dropped f hframe hdelivered halloc hfree =>
      rw [halloc]
      exact mem_map_other hk (hne f hframe)
    | freed f hframe hinactive howned halloc hfree =>
      rw [halloc]
      exact List.mem_filter.mpr ⟨hk, decide_eq_true (hne f hframe)⟩
    | unlinked f hframe hnot halloc hfree =>
      rw [halloc]
      exact mem_map_other hk (hne f hframe)

/-! ### Display -/

theorem Requested.takeDisplayFrame (h : Requested mode n old s) (hnone : s.displayTaken = none) :
    Requested mode n old s.takeDisplayFrame := by
  have hqueue : FrameQueue mode s.takeDisplayFrame := (queueRules mode).takeDisplay hnone h.queue
  refine h.congr hqueue ?_ fun hw => ?_
  · simp only [OutputSide.takeDisplayFrame]
    split <;> rfl
  · obtain ⟨⟨havailable, hserial⟩ | htaken, hframe⟩ := hw
    · refine ⟨.inr ?_, ?_⟩
      · simp only [OutputSide.takeDisplayFrame, havailable, if_true, hserial]
      · simp only [OutputSide.takeDisplayFrame, havailable, if_true]
        exact hframe
    · rw [hnone] at htaken
      cases htaken

theorem Requested.show {new : List ReturnCall} (h : FrameQueue mode s) (hknown : n < s.nexus.nextSerial)
    (hcalls : s.nexus.calls = old ++ new) (hshows : ∀ c ∈ new, c.Shows n)
    (hframe : ∃ f ∈ s.frameBufferAllocList, f.serial = n ∧ f.state = .delivered)
    (hflush' : (s.displayFrameLocked n).1.outputFlushing = false) :
    (s.displayFrameLocked n).2 = true ∧ Requested mode n old (s.displayFrameLocked n).1.returnDecodedFrames.1 := by
  have hqueue := h.displayFrameLocked n
  obtain ⟨f, hf, hserial, hstate⟩ := hframe
  rcases displayFrameLocked_cases (s := s) n with ⟨-, hnot⟩ | ⟨g, hfind, -, hreturn, heq⟩
  · -- the frame is found
    cases hfind : s.findFrameBuffer n with
    | none =>
      have hne := List.find?_eq_none.mp hfind f hf
      simp [hserial] at hne
    | some g =>
      have hg : g ∈ s.frameBufferAllocList := List.mem_of_find?_eq_some hfind
      have hgserial : g.serial = n := by simpa using List.find?_some hfind
      rw [h.eq_of_serial hf hg (hserial.trans hgserial.symm)] at hstate
      exact absurd hstate (hnot g hfind)
  · have hg : g ∈ s.frameBufferAllocList := List.mem_of_find?_eq_some hfind
    have hgserial : g.serial = n := by simpa using List.find?_some hfind
    have hshown : ∃ k ∈ (s.displayFrameLocked n).1.frameBufferAllocList, k.serial = n ∧ k.state = .displayReady := by
      rw [heq]
      exact ⟨_, List.mem_map.mpr ⟨g, hg, if_pos rfl⟩, hgserial, rfl⟩
    have hnexus : (s.displayFrameLocked n).1.nexus = s.nexus := by rw [heq]
    have hopen : (s.displayFrameLocked n).1.hSimpleVideoDecoder = true := by
      rw [heq]
      refine h.acquired ?_
      by_contra hstopped
      have hinvalid := isInvalid_of_stopped h (by simpa using hstopped) hf
      simp [FrameBuffer.isInvalid, hstate] at hinvalid
    refine ⟨hreturn, ?_⟩
    obtain ⟨k, hk, hkserial, hkstate⟩ := hshown
    generalize (s.displayFrameLocked n).1 = s₁ at hqueue hflush' hk hnexus hopen ⊢
    have hundropped : ∀ j ∈ s₁.frameBufferAllocList, j.serial = n → j.state ≠ .dropReady := fun j hj hjs => by
      rw [hqueue.eq_of_serial hj hk (hjs.trans hkserial.symm), hkstate]
      exact FrameBufferState.noConfusion
    obtain ⟨I, B, R, hb, hcases⟩ := returnDecodedFrames_cases hqueue.aligned hqueue.length_le hopen
    have hkB : k ∈ B := by
      have hk' := hk
      rw [hb.split, List.append_assoc, List.mem_append, List.mem_append] at hk'
      rcases hk' with hk' | hk' | hk'
      · have hinvalid := hb.invalid k hk'
        simp [FrameBuffer.isInvalid, hkstate] at hinvalid
      · exact hk'
      · have hundecided := hb.restUndecided hflush' k hk'
        simp [FrameBuffer.isActionable, hkstate] at hundecided
    rcases hcases with ⟨hnil, -⟩ | ⟨last, -, hret⟩
    · rw [hnil] at hkB
      cases hkB
    · rw [hret]
      refine Requested.returned hqueue (by rw [hnexus]; exact hknown) (by rw [hnexus]; exact hcalls) hshows hb hflush'
        (fun j hj => hundropped j ?_) hkB hkserial
      rw [hb.split]
      exact List.mem_append_left _ (List.mem_append_right _ hj)

theorem Requested.showOther {m : Nat} (h : Requested mode n old s) (hne : m ≠ n)
    (hqueue : FrameQueue mode (s.displayFrameLocked m).1) : Requested mode n old (s.displayFrameLocked m).1 := by
  rcases displayFrameLocked_cases (s := s) m with ⟨heq, -⟩ | ⟨g, hfind, -, -, heq⟩
  · rw [heq]
    exact h
  · rw [heq] at hqueue ⊢
    refine h.congr hqueue rfl fun hw => ⟨hw.request, ?_⟩
    obtain ⟨f, hf, hserial, hstate⟩ := hw.frame
    refine ⟨f, mem_map_other hf fun hid => ?_, hserial, hstate⟩
    have hg : g ∈ s.frameBufferAllocList := List.mem_of_find?_eq_some hfind
    have hgserial : g.serial = m := by simpa using List.find?_some hfind
    rw [h.queue.eq_of_id hf hg hid, hgserial] at hserial
    exact hne hserial

end OutputSide
end BcmPlatform.Bomx
