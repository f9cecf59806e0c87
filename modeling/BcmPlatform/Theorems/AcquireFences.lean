import BcmPlatform.Hwc.AcquireFence
import BcmPlatform.Lib.Logs
import Mathlib.Data.List.Nodup

/-! Who closes the acquire fences. A list and its work item hold the same descriptors; with fences only the item's are closed,
    without them both are. The fence of the output buffer is left to the item, or handed back where the display is not
    composed. -/

namespace BcmPlatform.Hwc
open Lib

/-- A blit that reads the buffer of a layer needs a wait on its fence, if it has one. -/
def FenceContents.needs (list : FenceContents) : FenceEvent → Option FenceEvent
  | .read i => if 0 ≤ list.acquireFenceFd i then some (.wait (.layer i)) else none
  | .wait _ | .close _ | .handBack _ => none

/-- The events that close the fences of some of the layers. -/
def closings (n : Nat) (p : Nat → Bool) : List FenceEvent := ((List.range n).filter p).map fun i => .close (.layer i)

theorem count_closings (n : Nat) (p : Nat → Bool) (j : Nat) :
    (closings n p).count (.close (.layer j)) = if j < n ∧ p j = true then 1 else 0 := by
  have hnodup : (closings n p).Nodup := by
    refine (List.nodup_range.filter _).map fun i i' h => ?_
    injection h with h
    injection h
  rw [hnodup.count]
  simp [closings]

theorem closings_outbuf (n : Nat) (p : Nat → Bool) :
    (closings n p).count (.close .outbuf) = 0 ∧ (closings n p).count (.handBack .outbuf) = 0 := by
  constructor <;> exact List.count_eq_zero.mpr (by simp [closings])

theorem closings_quiet (list : FenceContents) {n : Nat} {p : Nat → Bool} : ∀ x ∈ closings n p, list.needs x = none := by
  intro x hx
  obtain ⟨i, -, rfl⟩ := List.mem_map.mp hx
  rfl

namespace FenceItem
variable {list : FenceContents} {s : FenceItem} {a : SetAnswers} {i j : Nat}

/-- How the item stands to the list that it was copied from: a fence of the list is still held, or was closed once. -/
structure Tracked (list : FenceContents) (s : FenceItem) : Prop where
  numHwLayers : s.content.numHwLayers = list.numHwLayers
  held : ∀ j, 0 ≤ list.acquireFenceFd j →
    (s.content.acquireFenceFd j = list.acquireFenceFd j ∧ s.log.count (.close (.layer j)) = 0) ∨
      (s.content.acquireFenceFd j = invalidFence ∧ s.log.count (.close (.layer j)) = 1)
  outbuf : s.content.outbufAcquireFenceFd = list.outbufAcquireFenceFd ∧ s.log.count (.close .outbuf) = 0
  notBack : s.log.count (.handBack .outbuf) = 0
  waited : Preceded list.needs s.log

/-- The layers that the loop has not come to have their fences. -/
def Untouched (list : FenceContents) (i : Nat) (s : FenceItem) : Prop :=
  ∀ j, i ≤ j → s.content.acquireFenceFd j = list.acquireFenceFd j

namespace Tracked

theorem start (list : FenceContents) : Tracked list { content := list } where
  numHwLayers := rfl
  held _ _ := .inl ⟨rfl, rfl⟩
  outbuf := ⟨rfl, rfl⟩
  notBack := rfl
  waited := Preceded.nil

theorem closeFence (h : s.Tracked list) {waits : List FenceEvent} (hwaits : waits = [] ∨ waits = [.wait (.layer i)])
    (hvalid : s.content.acquireFenceFd i ≠ invalidFence) :
    ((s.record (waits ++ [.close (.layer i)])).setFence i invalidFence).Tracked list where
  numHwLayers := h.numHwLayers
  held j hj := by
    have hheld := h.held j hj
    by_cases hij : j = i
    · subst hij
      obtain ⟨-, hcount⟩ := hheld.resolve_right fun h' => hvalid h'.1
      right
      rcases hwaits with rfl | rfl <;> simp [record, setFence, hcount]
    · have hij' : i ≠ j := fun h => hij h.symm
      rcases hwaits with rfl | rfl <;> simpa [record, setFence, hij, hij'] using hheld
  outbuf := by
    obtain ⟨hfd, hcount⟩ := h.outbuf
    refine ⟨hfd, ?_⟩
    rcases hwaits with rfl | rfl <;> simp [record, setFence, hcount]
  notBack := by rcases hwaits with rfl | rfl <;> simp [record, setFence, h.notBack]
  waited := by
    refine h.waited.append fun x hx => ?_
    rcases hwaits with rfl | rfl
    · cases List.mem_singleton.mp hx
      rfl
    · rcases List.mem_cons.mp hx with rfl | hx
      · rfl
      · cases List.mem_singleton.mp hx
        rfl

theorem waitLayer (h : s.Tracked list) : (s.waitLayer i).Tracked list := by
  unfold FenceItem.waitLayer
  split
  · next hge => exact h.closeFence (.inr rfl) (by unfold invalidFence; omega)
  · exact h

theorem clearLayer (h : s.Tracked list) : (s.clearLayer i).Tracked list := by
  unfold FenceItem.clearLayer
  split
  · next hne => exact h.closeFence (.inl rfl) hne
  · exact h

theorem clearAcquireReleaseFences (h : s.Tracked list) (index : Nat) : (s.clearAcquireReleaseFences index).Tracked list := by
  unfold FenceItem.clearAcquireReleaseFences
  induction index with
  | zero => exact h
  | succ index ih =>
    rw [List.range_succ, List.foldl_append]
    exact ih.clearLayer

theorem readLayer (h : s.Tracked list) (hread : 0 ≤ list.acquireFenceFd i → .wait (.layer i) ∈ s.log) :
    (s.record [.read i]).Tracked list where
  numHwLayers := h.numHwLayers
  held j hj := by simpa [record] using h.held j hj
  outbuf := by simpa [record] using h.outbuf
  notBack := by simpa [record] using h.notBack
  waited := by
    refine h.waited.snoc fun y hy => ?_
    simp only [FenceContents.needs] at hy
    split at hy
    · next hge =>
      cases hy
      exact hread hge
    · cases hy

end Tracked

/-! ### What a layer leaves alone -/

theorem waitLayer_untouched (h : s.Untouched list i) : (s.waitLayer i).Untouched list (i + 1) := by
  intro j hj
  unfold waitLayer
  split
  · exact (Function.update_of_ne (by omega) _ _).trans (h j (by omega))
  · exact h j (by omega)

theorem clearAcquireReleaseFences_frame (index : Nat) (s : FenceItem) (hj : index ≤ j) :
    (s.clearAcquireReleaseFences index).content.acquireFenceFd j = s.content.acquireFenceFd j ∧
      s.log <+: (s.clearAcquireReleaseFences index).log := by
  unfold clearAcquireReleaseFences
  induction index with
  | zero => exact ⟨rfl, List.prefix_rfl⟩
  | succ index ih =>
    obtain ⟨hfd, hlog⟩ := ih (by omega)
    rw [List.range_succ, List.foldl_append, List.foldl_cons, List.foldl_nil]
    unfold clearLayer
    split
    · refine ⟨(Function.update_of_ne (by omega) _ _).trans hfd, hlog.trans ?_⟩
      exact List.prefix_append _ _
    · exact ⟨hfd, hlog⟩

theorem wait_mem (h : s.Untouched list i) (hi : 0 ≤ list.acquireFenceFd i) : .wait (.layer i) ∈ (s.waitLayer i).log := by
  have hge : s.content.acquireFenceFd i ≥ 0 := by rw [h i (Nat.le_refl i)]; exact hi
  rw [waitLayer, if_pos hge]
  simp [setFence, record]

theorem composeGrallocBuffer_tracked (h : s.Tracked list) (hread : 0 ≤ list.acquireFenceFd i → .wait (.layer i) ∈ s.log)
    (reads composed : Bool) (clearsFirst clears : Nat) :
    (s.composeGrallocBuffer i reads composed clearsFirst clears).Tracked list := by
  have hcleared := h.clearAcquireReleaseFences (min i clearsFirst)
  have hlog := (clearAcquireReleaseFences_frame (min i clearsFirst) s (Nat.le_refl _)).2
  have hdone : (if reads then (s.clearAcquireReleaseFences (min i clearsFirst)).record [.read i]
      else s.clearAcquireReleaseFences (min i clearsFirst)).Tracked list := by
    split
    · exact hcleared.readLayer fun hi => hlog.subset (hread hi)
    · exact hcleared
  obtain ⟨hn, hheld, hout, hback, hwaited⟩ := hdone.clearAcquireReleaseFences (min i clears)
  exact ⟨hn, hheld, hout, hback, hwaited⟩

theorem composeGrallocBuffer_untouched (h : s.Untouched list (i + 1)) (reads composed : Bool) (clearsFirst clears : Nat) :
    (s.composeGrallocBuffer i reads composed clearsFirst clears).Untouched list (i + 1) := by
  intro j hj
  unfold composeGrallocBuffer
  have hmin (k : Nat) : min i k ≤ j := by omega
  dsimp only
  rw [(clearAcquireReleaseFences_frame _ _ (hmin clears)).1]
  split
  · exact (clearAcquireReleaseFences_frame _ s (hmin clearsFirst)).1.trans (h j hj)
  · exact (clearAcquireReleaseFences_frame _ s (hmin clearsFirst)).1.trans (h j hj)

theorem composeLayers_tracked (last : Nat) (fate : Nat → LayerFate) : ∀ (n i : Nat) (s : FenceItem), s.Tracked list →
    s.Untouched list i → (s.composeLayers last fate i n).Tracked list
  | 0, _, _, h, _ => h
  | n + 1, i, s, h, hlater => by
    have hnext : s.Untouched list (i + 1) := fun j hj => hlater j (by omega)
    unfold composeLayers
    split
    · exact composeLayers_tracked last fate n (i + 1) s h hnext
    · split
      · exact h
      · exact composeLayers_tracked last fate n (i + 1) s h hnext
    · next reads composed clearsFirst clears _ =>
      split
      · exact h
      · refine composeLayers_tracked last fate n (i + 1) _ ?_ ?_
        · exact composeGrallocBuffer_tracked h.waitLayer (wait_mem hlater) reads composed clearsFirst clears
        · exact composeGrallocBuffer_untouched (waitLayer_untouched hlater) reads composed clearsFirst clears

/-! ### The end of a composition -/

/-- After a composition each fence of the list was closed once; of the output buffer's, the virtual display takes care. -/
structure Composed (list : FenceContents) (outbuf : Nat) (log : List FenceEvent) : Prop where
  layers : ∀ j, j < list.numHwLayers → 0 ≤ list.acquireFenceFd j → log.count (.close (.layer j)) = 1
  outbuf : 0 ≤ list.outbufAcquireFenceFd → log.count (.close .outbuf) = outbuf
  notBack : log.count (.handBack .outbuf) = 0
  waited : Preceded list.needs log

theorem closeLayers_composed {outbuf : Nat} (hn : s.content.numHwLayers = list.numHwLayers)
    (hheld : ∀ j, 0 ≤ list.acquireFenceFd j →
      (s.content.acquireFenceFd j = list.acquireFenceFd j ∧ s.log.count (.close (.layer j)) = 0) ∨
        (s.content.acquireFenceFd j = invalidFence ∧ s.log.count (.close (.layer j)) = 1))
    (hout : 0 ≤ list.outbufAcquireFenceFd → s.log.count (.close .outbuf) = outbuf)
    (hback : s.log.count (.handBack .outbuf) = 0) (hwaited : Preceded list.needs s.log) :
    Composed list outbuf s.closeLayers.log := by
  have hlog : s.closeLayers.log =
      s.log ++ closings list.numHwLayers fun i => s.content.acquireFenceFd i ≠ invalidFence := by rw [← hn]; rfl
  rw [hlog]
  refine ⟨fun j hj hfd => ?_, fun hge => ?_, ?_, hwaited.append (closings_quiet list)⟩
  · rw [List.count_append, count_closings]
    rcases hheld j hfd with ⟨hsame, hcount⟩ | ⟨hclosed, hcount⟩
    · have hvalid : s.content.acquireFenceFd j ≠ invalidFence := by rw [hsame]; unfold invalidFence; omega
      simp [hcount, hj, hvalid]
    · simp [hcount, hclosed]
  · rw [List.count_append, (closings_outbuf _ _).1, hout hge, Nat.add_zero]
  · rw [List.count_append, (closings_outbuf _ _).2, hback]

theorem composePrimary_composed (a : SetAnswers) (list : FenceContents) :
    Composed list 0 (({ content := list } : FenceItem).composePrimary a).log := by
  unfold composePrimary
  have h : (if a.surface then ({ content := list } : FenceItem).composeLayers (nscGpxClientsNumber - 1) a.fate 0 list.numHwLayers
      else { content := list }).Tracked list := by
    split
    · exact composeLayers_tracked _ a.fate _ 0 _ (Tracked.start list) fun _ _ => rfl
    · exact Tracked.start list
  exact closeLayers_composed h.numHwLayers h.held (fun _ => h.outbuf.2) h.notBack h.waited

theorem Tracked.closeOutbuf (h : s.Tracked list) (wait : Bool) :
    Composed list 1 (if wait then s.waitOutbuf else s).closeOutbuf.closeLayers.log := by
  obtain ⟨hfd, hcount⟩ := h.outbuf
  by_cases hge : 0 ≤ list.outbufAcquireFenceFd
  · have hge' : s.content.outbufAcquireFenceFd ≥ 0 := by rw [hfd]; exact hge
    have hquiet : ∀ x ∈ [FenceEvent.wait .outbuf, .close .outbuf], list.needs x = none := by simp [FenceContents.needs]
    cases wait with
    | true =>
      simp only [if_true, waitOutbuf, FenceItem.closeOutbuf, hge', record, invalidFence, ge_iff_le, Int.reduceLE, if_false]
      refine closeLayers_composed h.numHwLayers (fun j hj => ?_) (fun _ => ?_) ?_ (h.waited.append hquiet)
      · simpa using h.held j hj
      · simp [hcount]
      · simp [h.notBack]
    | false =>
      simp only [Bool.false_eq_true, if_false, FenceItem.closeOutbuf, hge', if_true, record]
      refine closeLayers_composed h.numHwLayers (fun j hj => ?_) (fun _ => ?_) ?_ (h.waited.append fun x hx => ?_)
      · simpa using h.held j hj
      · simp [hcount]
      · simp [h.notBack]
      · exact hquiet x (List.mem_cons_of_mem _ hx)
  · have hlt : ¬ s.content.outbufAcquireFenceFd ≥ 0 := by rw [hfd]; exact hge
    have hsame : (if wait then s.waitOutbuf else s).closeOutbuf = s := by
      cases wait <;> simp [waitOutbuf, FenceItem.closeOutbuf, hlt]
    rw [hsame]
    exact closeLayers_composed h.numHwLayers h.held (fun h' => absurd h' hge) h.notBack h.waited

theorem composeVirtual_composed (a : SetAnswers) (list : FenceContents) :
    Composed list 1 (({ content := list } : FenceItem).composeVirtual a).log := by
  unfold composeVirtual
  dsimp only
  split
  · have h := composeLayers_tracked nscGpxClientsNumber a.fate list.numHwLayers 0 { content := list } (Tracked.start list)
      fun _ _ => rfl
    exact h.closeOutbuf _
  · simpa using (Tracked.start list).closeOutbuf false

end FenceItem

/-! ### The calls -/

/-- The item is posted. -/
def SetAnswers.posts (d : Display) (a : SetAnswers) : Bool :=
  a.mutex && (d = .primary || (a.composes && a.outbuf)) && a.powerMutex && a.powered && a.allocated && a.workListMutex

/-- The fence of the output buffer becomes the retire fence: the virtual display is not composed by the graphics core. -/
def SetAnswers.handsBack (d : Display) (a : SetAnswers) : Bool := d = .virtual && a.mutex && !a.composes

namespace FenceContents
variable {list : FenceContents} {d : Display} {a : SetAnswers}

/-- The log of the item when it is composed. -/
def itemLog (d : Display) (a : SetAnswers) (list : FenceContents) : List FenceEvent :=
  match d with
  | .primary => (({ content := list } : FenceItem).composePrimary a).log
  | .virtual => (({ content := list } : FenceItem).composeVirtual a).log

theorem itemLog_composed (d : Display) (a : SetAnswers) (list : FenceContents) :
    FenceItem.Composed list (if d = .virtual then 1 else 0) (list.itemLog d a) := by
  cases d with
  | primary => exact FenceItem.composePrimary_composed a list
  | virtual => exact FenceItem.composeVirtual_composed a list

theorem set_posts (h : a.posts d = true) :
    list.set d a = list.itemLog d a ++ if a.fenceSupport then [] else list.closeFences := by
  cases d <;> simp_all [SetAnswers.posts, set, setPrimary, setVirtual, posted, itemLog]

theorem set_not_posts (h : a.posts d = false) :
    list.set d a = (if a.handsBack d then [.handBack .outbuf] else []) ++ list.closeFences := by
  cases d with
  | primary =>
    simp only [set, setPrimary, SetAnswers.handsBack, reduceCtorEq, decide_false, Bool.false_and, Bool.false_eq_true, if_false,
      List.nil_append]
    repeat' split
    all_goals simp_all [SetAnswers.posts]
  | virtual =>
    simp only [set, setVirtual]
    repeat' split
    all_goals simp_all [SetAnswers.posts, SetAnswers.handsBack]

/-- What is promised about the fences: each one is closed once, or handed back, and a layer is read after the wait on its
    own. -/
structure FencesClosed (list : FenceContents) (log : List FenceEvent) : Prop where
  layers : ∀ j, j < list.numHwLayers → 0 ≤ list.acquireFenceFd j → log.count (.close (.layer j)) = 1
  outbuf : 0 ≤ list.outbufAcquireFenceFd → log.count (.close .outbuf) + log.count (.handBack .outbuf) = 1
  waited : ∀ before i after, log = before ++ .read i :: after → 0 ≤ list.acquireFenceFd i → .wait (.layer i) ∈ before

theorem waited_of_preceded {log : List FenceEvent} (h : Preceded list.needs log) (before : List FenceEvent) (i : Nat)
    (after : List FenceEvent) (hlog : log = before ++ .read i :: after) (hi : 0 ≤ list.acquireFenceFd i) :
    .wait (.layer i) ∈ before :=
  h before _ after _ hlog (if_pos hi)

theorem count_closeFences {j : Nat} (hj : j < list.numHwLayers) (hfd : 0 ≤ list.acquireFenceFd j) :
    list.closeFences.count (.close (.layer j)) = 1 := by
  have h := count_closings list.numHwLayers (fun i => list.acquireFenceFd i ≥ 0) j
  rw [if_pos ⟨hj, decide_eq_true hfd⟩] at h
  exact h

theorem closeFences_outbuf (list : FenceContents) :
    list.closeFences.count (.close .outbuf) = 0 ∧ list.closeFences.count (.handBack .outbuf) = 0 :=
  closings_outbuf list.numHwLayers fun i => list.acquireFenceFd i ≥ 0

theorem fencesClosed_posts_iff (h : a.posts d = true) : list.FencesClosed (list.set d a) ↔
    (a.fenceSupport = false → ∀ j, j < list.numHwLayers → list.acquireFenceFd j < 0) ∧
      (0 ≤ list.outbufAcquireFenceFd → d = .virtual) := by
  obtain ⟨hlayers, hout, hback, hwaited⟩ := list.itemLog_composed d a
  have hfences : ∀ x ∈ (if a.fenceSupport then [] else list.closeFences), list.needs x = none := by
    split
    · simp
    · exact closings_quiet list
  have houtbuf : 0 ≤ list.outbufAcquireFenceFd →
      (list.set d a).count (.close .outbuf) + (list.set d a).count (.handBack .outbuf) = if d = .virtual then 1 else 0 := by
    intro hge
    obtain ⟨hclose, hhand⟩ := list.closeFences_outbuf
    rw [set_posts h, List.count_append, List.count_append, hout hge, hback]
    cases a.fenceSupport <;> simp [hclose, hhand]
  constructor
  · intro hclosed
    refine ⟨fun hsync j hj => ?_, fun hge => ?_⟩
    · by_contra hfd
      have hfd : 0 ≤ list.acquireFenceFd j := by omega
      have honce := hclosed.layers j hj hfd
      rw [set_posts h, List.count_append, hlayers j hj hfd, hsync, if_neg Bool.false_ne_true, count_closeFences hj hfd] at honce
      omega
    · have honce := (houtbuf hge).symm.trans (hclosed.outbuf hge)
      by_contra hd
      rw [if_neg hd] at honce
      omega
  · intro ⟨hsync, hdisplay⟩
    refine ⟨fun j hj hfd => ?_, fun hge => ?_, waited_of_preceded (set_posts h ▸ hwaited.append hfences)⟩
    · rw [set_posts h, List.count_append, hlayers j hj hfd]
      cases hsupport : a.fenceSupport with
      | true => rfl
      | false => exact absurd hfd (by have := hsync hsupport j hj; omega)
    · rw [houtbuf hge, if_pos (hdisplay hge)]

theorem fencesClosed_not_posts_iff (h : a.posts d = false) : list.FencesClosed (list.set d a) ↔
    (0 ≤ list.outbufAcquireFenceFd → a.handsBack d = true) := by
  obtain ⟨hclose, hhand⟩ := list.closeFences_outbuf
  have houtbuf : (list.set d a).count (.close .outbuf) + (list.set d a).count (.handBack .outbuf) =
      if a.handsBack d then 1 else 0 := by
    rw [set_not_posts h]
    cases a.handsBack d <;> simp [hclose, hhand]
  constructor
  · intro hclosed hge
    have honce := houtbuf.symm.trans (hclosed.outbuf hge)
    by_contra hback
    rw [if_neg hback] at honce
    omega
  · intro hback
    refine ⟨fun j hj hfd => ?_, fun hge => by rw [houtbuf, if_pos (hback hge)], waited_of_preceded ?_⟩
    · rw [set_not_posts h, List.count_append, count_closeFences hj hfd]
      cases a.handsBack d <;> rfl
    · rw [set_not_posts h]
      refine Preceded.append ?_ (closings_quiet list)
      cases a.handsBack d with
      | true => exact Preceded.nil.snoc nofun
      | false => exact Preceded.nil

/-- The fences are closed once exactly if, without fence support, no fence of a posted list is valid, and a valid fence of
    the output buffer is one of the virtual display whose list is posted, or that is not composed by the graphics core. -/
theorem fences_closed_once (d : Display) (a : SetAnswers) (list : FenceContents) :
    list.FencesClosed (list.set d a) ↔
      (a.posts d = true → a.fenceSupport = false → ∀ j, j < list.numHwLayers → list.acquireFenceFd j < 0) ∧
      (0 ≤ list.outbufAcquireFenceFd → d = .virtual ∧ (a.posts d = true ∨ a.handsBack d = true)) := by
  cases h : a.posts d with
  | true =>
    rw [fencesClosed_posts_iff h]
    simp
  | false =>
    rw [fencesClosed_not_posts_iff h]
    simp only [Bool.false_eq_true, false_implies, true_and, false_or]
    refine forall_congr' fun _ => ⟨fun hback => ⟨?_, hback⟩, fun hback => hback.2⟩
    simp only [SetAnswers.handsBack, Bool.and_eq_true, decide_eq_true_eq] at hback
    exact hback.1.1

/-- Without fence support the fence 7 of a layer is closed by the item and by the call. With the power off the fence 8 of
    the output buffer is not closed by anybody. -/
theorem fence_closed_twice :
    ¬ FencesClosed { numHwLayers := 1, acquireFenceFd := fun _ => 7 }
      (FenceContents.set .primary { fenceSupport := false, fate := fun _ => .visible true true 0 0 }
        { numHwLayers := 1, acquireFenceFd := fun _ => 7 }) ∧
    ¬ FencesClosed { numHwLayers := 0, acquireFenceFd := fun _ => invalidFence, outbufAcquireFenceFd := 8 }
      (FenceContents.set .virtual { powered := false, fate := fun _ => .dropped }
        { numHwLayers := 0, acquireFenceFd := fun _ => invalidFence, outbufAcquireFenceFd := 8 }) := by
  refine ⟨fun h => ?_, fun h => ?_⟩
  · exact absurd (h.layers 0 (by decide) (by decide)) (by decide)
  · exact absurd (h.outbuf (by decide)) (by decide)

end FenceContents
end BcmPlatform.Hwc
