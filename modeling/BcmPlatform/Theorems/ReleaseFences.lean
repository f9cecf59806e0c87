import BcmPlatform.Hwc.ReleaseFence
import BcmPlatform.Lib.Runs
import BcmPlatform.Lib.Timelines

/-! The timelines of the release fences stay in step with the frames, as long as every fence can be created and the
    virtual display has nothing to release early: the index of a timeline goes up before its fence is created, and an
    early release counts on the timelines of the primary display. -/

namespace BcmPlatform.Hwc
open Lib

/-! ### One timeline -/

/-- The timeline signals the fences that wait in their order; without a timeline there are none. -/
structure RelTimeline.InStep (t : RelTimeline) (waiting : List Fence) : Prop where
  line : TicketLine Fence.value t.relTlIx t.counter t.created t.signalled waiting
  closed : t.relTl = false → t.relTlIx = 0

namespace RelTimeline.InStep
variable {t : RelTimeline} {waiting : List Fence} {frame : Frame}

theorem fence (h : t.InStep waiting) {ok : Bool} (hok : t.relTl = true → ok = true) :
    (t.fence ok frame).1.InStep (waiting ++ ((t.fence ok frame).2.map fun value => (⟨value, frame⟩ : Fence)).toList) := by
  cases hopen : t.relTl with
  | false => simpa [RelTimeline.fence, hopen] using h
  | true =>
    simp only [RelTimeline.fence, hopen, hok hopen, Bool.not_true, Bool.false_eq_true, if_false, Option.map_some,
      Option.toList_some]
    exact ⟨h.line.issue rfl, fun hclosed => Bool.noConfusion hclosed⟩

theorem inc {value : Nat} {rest : List Fence} (h : t.InStep ({ value, frame } :: rest)) : (t.inc frame).InStep rest := by
  have hopen : t.relTl = true := by
    by_contra hclosed
    have hissued := h.closed (by simpa using hclosed)
    have hcount := h.line.count
    rw [hissued, List.length_cons] at hcount
    cases hcount
  have hvalue : value = t.counter + 1 := h.line.next rfl
  have hserve := h.line.serve rfl
  simp only [RelTimeline.inc, hopen, if_true]
  refine ⟨?_, fun hclosed => Bool.noConfusion hclosed⟩
  rwa [hvalue] at hserve

end RelTimeline.InStep

namespace HwcContext
variable {ctx ctx' : HwcContext} {d : Display} {i : Nat}

/-- The frames of a display that are not finished, in the order in which they are composed. -/
def items (d : Display) (ctx : HwcContext) : List WorkItem :=
  ((ctx.composing d).map (·.item)).toList ++ ctx.workList d

/-- The release fence of layer `i`, for the frame that created it. -/
def fenceOf (d : Display) (i : Nat) (item : WorkItem) : Option Fence :=
  (item.releaseFence i).map fun value => { value, frame := { display := d, compIx := item.compIx } }

/-- The release fences of a layer whose frames are not finished and did not release them early. -/
def outstanding (d : Display) (i : Nat) (ctx : HwcContext) : List Fence := (ctx.items d).filterMap (fenceOf d i)

def InStep (ctx : HwcContext) : Prop := ∀ d i, (ctx.cli d i).InStep (ctx.outstanding d i)

theorem InStep.congr (h : InStep ctx) (hcli : ctx'.cli = ctx.cli) (hitems : ∀ d, ctx'.items d = ctx.items d) :
    InStep ctx' := by
  intro d i
  rw [outstanding, hitems, hcli]
  exact h d i

/-! ### `hwc_set` -/

/-- Every fence can be created, and a layer that gets none comes without one. -/
def fencesCreated (d : Display) (ok : Nat → Bool) (hwLayers : List HwLayer) (ctx : HwcContext) : Bool :=
  (List.range hwLayers.length).all fun i =>
    hwLayers[i]?.all fun l => if l.fenced then !(ctx.cli d i).relTl || ok i else l.releaseFenceFd.isNone

theorem installFences_layer (ok : Nat → Bool) (item : WorkItem) (d : Display) (i : Nat) (ctx : HwcContext) :
    (item.hwLayers[i]?.any (·.fenced) = true ∧
      (ctx.installFences d ok item).1.cli d i =
        ((ctx.cli d i).fence (ok i) { display := d, compIx := item.compIx }).1 ∧
      (ctx.installFences d ok item).2.releaseFence i =
        ((ctx.cli d i).fence (ok i) { display := d, compIx := item.compIx }).2) ∨
    (item.hwLayers[i]?.any (·.fenced) = false ∧ (ctx.installFences d ok item).1.cli d i = ctx.cli d i ∧
      (ctx.installFences d ok item).2.releaseFence i = item.releaseFence i) := by
  cases hl : item.hwLayers[i]? with
  | none =>
    right
    simp [installFences, WorkItem.releaseFence, List.getElem?_mapIdx, hl]
  | some l =>
    by_cases hfenced : l.fenced = true
    · left
      simp [installFences, WorkItem.releaseFence, List.getElem?_mapIdx, hl, hfenced]
    · right
      simp [installFences, WorkItem.releaseFence, List.getElem?_mapIdx, hl, hfenced]

theorem InStep.installFences (h : InStep ctx) {ok : Nat → Bool} (item : WorkItem)
    (hok : ctx.fencesCreated d ok item.hwLayers = true) (i : Nat) :
    ((ctx.installFences d ok item).1.cli d i).InStep
      (ctx.outstanding d i ++ (fenceOf d i (ctx.installFences d ok item).2).toList) := by
  have hlayer : ∀ l, item.hwLayers[i]? = some l →
      (if l.fenced then !(ctx.cli d i).relTl || ok i else l.releaseFenceFd.isNone) = true := by
    intro l hl
    obtain ⟨hi, -⟩ := List.getElem?_eq_some_iff.mp hl
    have hi := List.all_eq_true.mp hok i (List.mem_range.mpr hi)
    rwa [hl] at hi
  rcases installFences_layer ok item d i ctx with ⟨hfenced, hcli, hfd⟩ | ⟨hfenced, hcli, hfd⟩
  · obtain ⟨l, hl, hfenced⟩ := (Option.any_eq_true _ _).mp hfenced
    have hcreated := hlayer l hl
    rw [if_pos hfenced] at hcreated
    rw [hcli, fenceOf, hfd]
    exact (h d i).fence fun hopen => by simpa [hopen] using hcreated
  · have hnone : item.releaseFence i = none := by
      cases hl : item.hwLayers[i]? with
      | none => simp [WorkItem.releaseFence, hl]
      | some l =>
        rw [hl, Option.any_some] at hfenced
        have hinvalid := hlayer l hl
        rw [hfenced] at hinvalid
        simpa [WorkItem.releaseFence, hl] using hinvalid
    rw [hcli, fenceOf, hfd, hnone, Option.map_none, Option.toList_none, List.append_nil]
    exact h d i

theorem outstanding_post (item : WorkItem) (d' : Display) :
    ({ ctx with workList := Function.update ctx.workList d (ctx.workList d ++ [item]) } : HwcContext).outstanding d' i =
      ctx.outstanding d' i ++ if d' = d then (fenceOf d i item).toList else [] := by
  by_cases hd : d' = d
  · subst hd
    simp only [outstanding, items, Function.update_self, if_true, ← List.append_assoc, List.filterMap_append,
      List.filterMap_cons, List.filterMap_nil]
    cases fenceOf d' i item <;> rfl
  · simp only [outstanding, items, Function.update_of_ne hd, hd, if_false, List.append_nil]

theorem InStep.setDisplay (h : InStep ctx) {posted : Bool} {ok : Nat → Bool} {hwLayers : List HwLayer}
    (hok : posted = true → ctx.fencesCreated d ok hwLayers = true) : InStep (ctx.setDisplay d posted ok hwLayers) := by
  cases hposted : posted with
  | false => exact h.congr rfl fun _ => rfl
  | true =>
    have hcalled : InStep { ctx with setCall := Function.update ctx.setCall d (ctx.setCall d + 1) } :=
      h.congr rfl fun _ => rfl
    simp only [HwcContext.setDisplay, if_true, Function.update_self]
    intro d' i
    rw [outstanding_post]
    by_cases hd : d' = d
    · subst hd
      rw [if_pos rfl]
      exact hcalled.installFences { compIx := ctx.setCall d' + 1, hwLayers } (hok hposted) i
    · rw [if_neg hd, List.append_nil]
      simp only [HwcContext.installFences, Function.update_of_ne hd]
      exact hcalled d' i

/-! ### Releases -/

/-- The frame at work after the fences of its first `n` layers were released. -/
def released (n : Nat) (c : Composing) : Composing :=
  { c with item := { c.item with hwLayers := c.item.hwLayers.mapIdx fun i l =>
      if i < n then { l with releaseFenceFd := none } else l } }

theorem released_releaseFence (n : Nat) (c : Composing) (i : Nat) :
    (released n c).item.releaseFence i = if i < n then none else c.item.releaseFence i := by
  simp only [released, WorkItem.releaseFence, List.getElem?_mapIdx]
  cases c.item.hwLayers[i]? with
  | none => simp
  | some l => by_cases hi : i < n <;> simp [hi]

theorem outstanding_composing {c : Composing} (hc : ctx.composing d = some c) :
    ctx.outstanding d i = (fenceOf d i c.item).toList ++ (ctx.workList d).filterMap (fenceOf d i) := by
  simp only [outstanding, items, hc, Option.map_some, Option.toList_some, List.singleton_append, List.filterMap_cons]
  cases fenceOf d i c.item <;> rfl

theorem releaseFences_eq {index : Display} {n : Nat} {c : Composing} (hc : ctx.composing d = some c) :
    ctx.releaseFences d index n = { ctx with
      cli := Function.update ctx.cli index fun i =>
        if i < n && (c.item.releaseFence i).isSome then
          (ctx.cli index i).inc { display := d, compIx := c.item.compIx }
        else ctx.cli index i
      composing := Function.update ctx.composing d (some (released n c)) } := by
  simp only [HwcContext.releaseFences, hc, setComposing, released]

theorem releaseFences_cli {index : Display} {n : Nat} {c : Composing} (hc : ctx.composing d = some c) (d' : Display) :
    (ctx.releaseFences d index n).cli d' i =
      if d' = index ∧ i < n ∧ (c.item.releaseFence i).isSome then
        (ctx.cli d' i).inc { display := d, compIx := c.item.compIx }
      else ctx.cli d' i := by
  rw [releaseFences_eq hc]
  by_cases hindex : d' = index
  · subst hindex
    simp only [Function.update_self, true_and, Bool.and_eq_true, decide_eq_true_eq]
  · simp only [Function.update_of_ne hindex, hindex, false_and, if_false]

theorem releaseFences_outstanding {index : Display} {n : Nat} {c : Composing} (hc : ctx.composing d = some c)
    (d' : Display) : (ctx.releaseFences d index n).outstanding d' i =
      if d' = d then (if i < n then [] else (fenceOf d i c.item).toList) ++ (ctx.workList d).filterMap (fenceOf d i)
      else ctx.outstanding d' i := by
  rw [releaseFences_eq hc]
  by_cases hd : d' = d
  · subst hd
    rw [if_pos rfl, outstanding_composing (c := released n c) (Function.update_self _ _ _), fenceOf,
      released_releaseFence]
    by_cases hi : i < n <;> simp [hi, fenceOf, released]
  · simp only [outstanding, items, Function.update_of_ne hd, hd, if_false]

/-- The frame that a display composes is the first that is not finished, so its fences are the next to be signalled on
    the timelines of its own display; the other timelines must be left alone. -/
theorem InStep.releaseFences (h : InStep ctx) (index : Display) {n : Nat}
    (hok : index = d ∨ ∀ c, ctx.composing d = some c → ∀ i < n, c.item.releaseFence i = none) :
    InStep (ctx.releaseFences d index n) := by
  cases hc : ctx.composing d with
  | none => simpa only [HwcContext.releaseFences, hc] using h
  | some c =>
    have hnone : index ≠ d → ∀ i < n, c.item.releaseFence i = none := fun hne => hok.resolve_left hne c hc
    intro d' i
    rw [releaseFences_cli hc, releaseFences_outstanding hc]
    have hbefore := h d' i
    by_cases hd : d' = d
    · subst hd
      rw [outstanding_composing hc] at hbefore
      rw [if_pos rfl]
      by_cases hi : i < n
      · rw [if_pos hi, List.nil_append]
        rw [fenceOf] at hbefore
        cases hfence : c.item.releaseFence i with
        | none =>
          rw [hfence] at hbefore
          simpa using hbefore
        | some value =>
          have hindex : d' = index := by
            by_contra hne
            rw [hnone (Ne.symm hne) i hi] at hfence
            cases hfence
          rw [hfence] at hbefore
          rw [if_pos ⟨hindex, hi, rfl⟩]
          exact hbefore.inc
      · rwa [if_neg hi, if_neg fun hmem => hi hmem.2.1]
    · rw [if_neg hd]
      have hquiet : ¬ (d' = index ∧ i < n ∧ (c.item.releaseFence i).isSome = true) := by
        rintro ⟨hindex, hi, hsome⟩
        rw [hnone (hindex ▸ hd) i hi] at hsome
        cases hsome
      rwa [if_neg hquiet]

/-! ### The composer threads -/

theorem InStep.setComposing (h : InStep ctx) {c c' : Composing} (hc : ctx.composing d = some c) (hitem : c'.item = c.item) :
    InStep (ctx.setComposing d (some c')) := by
  refine h.congr rfl fun d' => ?_
  by_cases hd : d' = d
  · subst hd
    simp only [items, HwcContext.setComposing, Function.update_self, hc, Option.map_some, hitem]
  · simp only [items, HwcContext.setComposing, Function.update_of_ne hd]

theorem InStep.setQOps (h : InStep ctx) (qOps : Bool) : InStep (ctx.setQOps d qOps) := by
  unfold HwcContext.setQOps
  split
  · next c hc => exact h.setComposing hc rfl
  · exact h

/-- How many layers `hwc_compose_gralloc_buffer` releases early while the virtual display composes one. -/
def earlyRelease (layerId : Nat) (visible : Bool) (a : BufferAnswers) : Nat :=
  if !visible || a.empty || !a.surfaces || !a.locked then 0
  else if a.yv12 then if !a.packetBuffer || !a.lockedAgain || !a.written || !a.checkpoint then 0 else layerId
  else if a.blit = .queueFull && a.flushed then layerId - 1
  else 0

section
variable {P : HwcContext → Prop} {layerId : Nat} {visible : Bool} {a : BufferAnswers}

theorem seedDispSurface_keeps (hqOps : ∀ ctx q, P ctx → P (ctx.setQOps d q)) (h : P ctx) :
    P (ctx.seedDispSurface d a) := by
  unfold seedDispSurface
  split
  · exact hqOps _ _ h
  · exact h

theorem composeYv12_keeps (hvisible : ¬ (!visible || a.empty) = true) (hyv12 : a.yv12 = true)
    (hqOps : ∀ ctx q, P ctx → P (ctx.setQOps d q))
    (hclear : ∀ ctx n, (d = .virtual → n = earlyRelease layerId visible a) → P ctx →
      P (ctx.clearAcquireReleaseFences d n)) (h : P ctx) : P (ctx.composeYv12 d layerId a).1 := by
  have hseed : P (ctx.seedDispSurface d a) := seedDispSurface_keeps hqOps h
  simp only [composeYv12]
  split
  · exact h
  · next hsurfaces =>
    split
    · exact hseed
    · next hbuffer =>
      have hflush : ∀ ctx, P ctx → P (if !ctx.g2dAllowSimult && ctx.qOps d && a.flushed then
          (ctx.setQOps d false).clearAcquireReleaseFences d (layerId - 1) else ctx) := by
        intro ctx h
        split
        · next hq =>
          refine hclear _ _ (fun hd => ?_) (hqOps _ _ h)
          simp [qOps, hd] at hq
        · exact h
      split
      · exact hflush _ hseed
      · next hdone =>
        refine hclear _ _ (fun _ => ?_) (hqOps _ _ (hflush _ hseed))
        simp only [Bool.or_eq_true, Bool.not_eq_true', not_or, Bool.not_eq_false] at hvisible hsurfaces hbuffer hdone
        simp [earlyRelease, hvisible, hsurfaces, hyv12, hbuffer, hdone]

/-- An RGB layer releases the layers before it when the queue of blits is full, and on the primary display when it was
    composed. -/
theorem composeRgb_keeps (hvisible : ¬ (!visible || a.empty) = true) (hyv12 : ¬ a.yv12 = true)
    (hqOps : ∀ ctx q, P ctx → P (ctx.setQOps d q))
    (hclear : ∀ ctx n, (d = .virtual → n = earlyRelease layerId visible a) → P ctx →
      P (ctx.clearAcquireReleaseFences d n)) (h : P ctx) : P (ctx.composeRgb d layerId a).1 := by
  have hseed : P (ctx.seedDispSurface d a) := seedDispSurface_keeps hqOps h
  simp only [composeRgb]
  split
  · exact h
  · next hsurfaces =>
    split
    · exact hseed
    · next hlocked =>
      have hretry : P (if a.blit = .queueFull && a.flushed then
          (ctx.seedDispSurface d a).clearAcquireReleaseFences d (layerId - 1) else ctx.seedDispSurface d a) := by
        split
        · next hfull =>
          refine hclear _ _ (fun _ => ?_) hseed
          simp only [Bool.or_eq_true, Bool.not_eq_true', not_or, Bool.not_eq_false] at hvisible hsurfaces hlocked
          simp [earlyRelease, hvisible, hsurfaces, hyv12, hlocked, hfull]
        · exact hseed
      split
      · exact hretry
      · split
        · exact hretry
        · next hprimary =>
          split
          · exact hclear _ _ (fun hd => absurd hd hprimary) (hqOps _ _ hretry)
          · exact hqOps _ _ hretry

/-- What early releases and the flag for queued operations keep, a layer keeps; the virtual display has one early release
    at most. -/
theorem composeGrallocBuffer_keeps (hqOps : ∀ ctx q, P ctx → P (ctx.setQOps d q))
    (hclear : ∀ ctx n, (d = .virtual → n = earlyRelease layerId visible a) → P ctx →
      P (ctx.clearAcquireReleaseFences d n)) (h : P ctx) :
    P (ctx.composeGrallocBuffer d layerId visible a).1 := by
  simp only [composeGrallocBuffer]
  split
  · exact h
  · split
    · exact h
    · next hvisible =>
      split
      · next hyv12 => exact composeYv12_keeps hvisible hyv12 hqOps hclear h
      · next hyv12 => exact composeRgb_keeps hvisible hyv12 hqOps hclear h

end

theorem dequeue_cases {output : Bool} (hstep : ctx.dequeue d output = some ctx') :
    ∃ item rest c, ctx.composing d = none ∧ ctx.workList d = item :: rest ∧ c.item = item ∧
      ctx' = ({ ctx with workList := Function.update ctx.workList d rest } : HwcContext).setComposing d (some c) := by
  simp only [HwcContext.dequeue] at hstep
  split at hstep
  · next item rest hidle hwork =>
    cases hstep
    exact ⟨item, rest, _, hidle, hwork, rfl, rfl⟩
  · cases hstep

theorem composeLayer_cases {valid : Bool} {a : BufferAnswers} (hstep : ctx.composeLayer d valid a = some ctx') :
    ∃ c l ctx₁, ctx.composing d = some c ∧ c.item.hwLayers[c.next]? = some l ∧
      (ctx₁ = ctx ∨ valid = true ∧ l.visible = true ∧ (d = .virtual → c.next ≤ nscGpxClientsNumber) ∧
        ctx₁ = (ctx.composeGrallocBuffer d c.next l.visible a).1) ∧
      (ctx' = ctx₁ ∨ ∃ c₁ c', ctx₁.composing d = some c₁ ∧ c'.item = c₁.item ∧ ctx' = ctx₁.setComposing d (some c')) := by
  unfold HwcContext.composeLayer at hstep
  split at hstep
  · cases hstep
  · next c hc =>
    split at hstep
    · cases hstep
    · next l hl =>
      extract_lets inRange p at hstep
      refine ⟨c, l, p.1, hc, hl, ?_, ?_⟩
      · by_cases hcomposed : (valid && inRange && l.visible) = true
        · have hp : p = ctx.composeGrallocBuffer d c.next l.visible a := if_pos hcomposed
          simp only [Bool.and_eq_true] at hcomposed
          refine .inr ⟨hcomposed.1.1, hcomposed.2, ?_, by rw [hp]⟩
          rintro rfl
          exact of_decide_eq_true hcomposed.1.2
        · have hp : p = (ctx, false) := if_neg hcomposed
          exact .inl (by rw [hp])
      · cases hstep
        split
        · next c₁ hc₁ =>
          refine .inr ⟨c₁, _, hc₁, ?_, rfl⟩
          rfl
        · exact .inl rfl

theorem finishFrame_cases (hstep : ctx.finishFrame d = some ctx') : ∃ c, ctx.composing d = some c ∧
    ctx' = (ctx.releaseFences d d c.item.hwLayers.length).setComposing d none := by
  simp only [HwcContext.finishFrame] at hstep
  split at hstep
  · cases hstep
  · next c hc =>
    split at hstep
    · cases hstep
    · cases hstep
      exact ⟨c, hc, rfl⟩

/-- The virtual display reaches no early release while a layer before it has a fence. -/
def nothingToRelease (valid : Bool) (a : BufferAnswers) (ctx : HwcContext) : Bool :=
  match ctx.composing .virtual with
  | none => true
  | some c =>
    let visible := valid && c.next ≤ nscGpxClientsNumber && c.item.hwLayers[c.next]?.any (·.visible)
    (List.range (earlyRelease c.next visible a)).all fun i => (c.item.releaseFence i).isNone

/-- The frame that a display composes has no fence in its first `n` layers. -/
def Quiet (d : Display) (n : Nat) (ctx : HwcContext) : Prop :=
  ∀ c, ctx.composing d = some c → ∀ i < n, c.item.releaseFence i = none

theorem Quiet.of_item {n : Nat} {c c' : Composing} (h : Quiet d n ctx) (hc : ctx.composing d = some c)
    (hitem : c'.item = c.item) : Quiet d n (ctx.setComposing d (some c')) := by
  intro c'' hc'' i hi
  cases (Function.update_self d _ _).symm.trans hc''
  rw [hitem]
  exact h c hc i hi

theorem Quiet.setQOps {n : Nat} (h : Quiet d n ctx) (qOps : Bool) : Quiet d n (ctx.setQOps d qOps) := by
  unfold HwcContext.setQOps
  split
  · next c hc => exact h.of_item hc rfl
  · exact h

theorem Quiet.releaseFences {n m : Nat} {index : Display} (h : Quiet d n ctx) :
    Quiet d n (ctx.releaseFences d index m) := by
  cases hc : ctx.composing d with
  | none => simpa only [HwcContext.releaseFences, hc] using h
  | some c =>
    rw [releaseFences_eq hc]
    intro c' hc' i hi
    cases (Function.update_self d _ _).symm.trans hc'
    rw [released_releaseFence, h c hc i hi, ite_self]

theorem InStep.composeGrallocBuffer (h : InStep ctx) {layerId : Nat} {visible : Bool} {a : BufferAnswers}
    (hquiet : d = .virtual → Quiet d (earlyRelease layerId visible a) ctx) :
    InStep (ctx.composeGrallocBuffer d layerId visible a).1 := by
  refine (composeGrallocBuffer_keeps (P := fun ctx => InStep ctx ∧
    (d = .virtual → Quiet d (earlyRelease layerId visible a) ctx)) ?_ ?_ ⟨h, hquiet⟩).1
  · rintro ctx q ⟨h, hquiet⟩
    exact ⟨h.setQOps q, fun hd => (hquiet hd).setQOps q⟩
  · rintro ctx n hn ⟨h, hquiet⟩
    refine ⟨h.releaseFences .primary ?_, fun hd => (hquiet hd).releaseFences⟩
    cases hd : d with
    | primary => exact .inl rfl
    | virtual =>
      rw [hn hd]
      exact .inr (hd ▸ hquiet hd)

theorem InStep.composeLayer (h : InStep ctx) {valid : Bool} {a : BufferAnswers}
    (hok : d = .virtual → ctx.nothingToRelease valid a = true) (hstep : ctx.composeLayer d valid a = some ctx') :
    InStep ctx' := by
  obtain ⟨c, l, ctx₁, hc, hl, hlayer, hnext⟩ := composeLayer_cases hstep
  have h₁ : InStep ctx₁ := by
    rcases hlayer with rfl | ⟨rfl, hvisible, hrange, rfl⟩
    · exact h
    · refine h.composeGrallocBuffer ?_
      rintro rfl c' hc' i hi
      cases hc.symm.trans hc'
      have hnothing := hok rfl
      simp only [hvisible] at hi
      simp only [nothingToRelease, hc, hl, Option.any_some, hvisible, hrange rfl, decide_true, Bool.and_self,
        List.all_eq_true, List.mem_range] at hnothing
      exact Option.isNone_iff_eq_none.mp (hnothing i hi)
  rcases hnext with rfl | ⟨c₁, c', hc₁, hitem, rfl⟩
  · exact h₁
  · exact h₁.setComposing hc₁ hitem

theorem InStep.finishFrame (h : InStep ctx) (hstep : ctx.finishFrame d = some ctx') : InStep ctx' := by
  obtain ⟨c, hc, rfl⟩ := finishFrame_cases hstep
  have hreleased := h.releaseFences (d := d) (n := c.item.hwLayers.length) d (.inl rfl)
  intro d' i
  have hline := hreleased d' i
  rw [releaseFences_outstanding hc] at hline
  by_cases hd : d' = d
  · subst hd
    have hnone : (if i < c.item.hwLayers.length then [] else (fenceOf d' i c.item).toList) = [] := by
      split
      · rfl
      · next hi => simp [fenceOf, WorkItem.releaseFence, List.getElem?_eq_none (Nat.le_of_not_lt hi)]
    rw [if_pos rfl, hnone, List.nil_append] at hline
    simpa only [outstanding, items, HwcContext.setComposing, Function.update_self, releaseFences_eq hc,
      Option.map_none, Option.toList_none, List.nil_append] using hline
  · rw [if_neg hd] at hline
    simpa only [outstanding, items, HwcContext.setComposing, Function.update_of_ne hd, releaseFences_eq hc]
      using hline

theorem InStep.dequeue (h : InStep ctx) {output : Bool} (hstep : ctx.dequeue d output = some ctx') : InStep ctx' := by
  obtain ⟨item, rest, c, hidle, hwork, hitem, rfl⟩ := dequeue_cases hstep
  refine h.congr rfl fun d' => ?_
  by_cases hd : d' = d
  · subst hd
    simp [items, HwcContext.setComposing, hidle, hwork, hitem]
  · simp only [items, HwcContext.setComposing, Function.update_of_ne hd]

/-- The steps that keep the timelines in step: `hwc_set` creates every fence that it installs, and the virtual display has
    nothing to release early. -/
def keepsStep (ctx : HwcContext) : HwcAction → Bool
  | .set d posted ok hwLayers => !posted || ctx.fencesCreated d ok hwLayers
  | .composeLayer .virtual valid a => ctx.nothingToRelease valid a
  | _ => true

theorem InStep.step (h : InStep ctx) {action : HwcAction} (hok : ctx.keepsStep action = true)
    (hstep : ctx.step action = some ctx') : InStep ctx' := by
  cases action with
  | set d posted ok hwLayers =>
    have hset : InStep (ctx.setDisplay d posted ok hwLayers) := by
      refine h.setDisplay fun hposted => ?_
      rwa [keepsStep, hposted, Bool.not_true, Bool.false_or] at hok
    cases d <;> cases hstep <;> exact hset
  | dequeue d output => exact h.dequeue hstep
  | composeLayer d valid a =>
    refine h.composeLayer ?_ hstep
    rintro rfl
    exact hok
  | finishFrame d => exact h.finishFrame hstep

theorem InStep.init (g2dAllowSimult : Bool) (relTl : Display → Nat → Bool) : InStep (init g2dAllowSimult relTl) :=
  fun _ _ => ⟨.empty, fun _ => rfl⟩

/-! ### The frames of the fences -/

/-- The fences of a timeline were created by frames of its display, each of which is newer than the one before it. -/
structure Numbered (ctx : HwcContext) (d : Display) (i : Nat) : Prop where
  display : ∀ f ∈ (ctx.cli d i).created, f.frame.display = d
  called : ∀ f ∈ (ctx.cli d i).created, f.frame.compIx ≤ ctx.setCall d
  newer : ((ctx.cli d i).created.map (·.frame.compIx)).Pairwise (· < ·)

theorem Numbered.congr (h : Numbered ctx d i) (hcreated : (ctx'.cli d i).created = (ctx.cli d i).created)
    (hcall : ctx.setCall d ≤ ctx'.setCall d) : Numbered ctx' d i where
  display := by
    rw [hcreated]
    exact h.display
  called := by
    rw [hcreated]
    exact fun f hf => Nat.le_trans (h.called f hf) hcall
  newer := by
    rw [hcreated]
    exact h.newer

theorem fence_created (t : RelTimeline) (ok : Bool) (frame : Frame) :
    (t.fence ok frame).1.created = t.created ∨
      ∃ value, (t.fence ok frame).1.created = t.created ++ [(⟨value, frame⟩ : Fence)] := by
  unfold RelTimeline.fence
  split
  · exact .inl rfl
  · split
    · exact .inl rfl
    · exact .inr ⟨_, rfl⟩

theorem inc_created (t : RelTimeline) (frame : Frame) : (t.inc frame).created = t.created := by
  unfold RelTimeline.inc
  split <;> rfl

theorem Numbered.setDisplay (h : Numbered ctx d i) (d' : Display) (posted : Bool) (ok : Nat → Bool)
    (hwLayers : List HwLayer) : Numbered (ctx.setDisplay d' posted ok hwLayers) d i := by
  have hcalls : ctx.setCall d ≤ Function.update ctx.setCall d' (ctx.setCall d' + 1) d := by
    by_cases hd : d = d'
    · subst hd
      simp
    · exact Nat.le_of_eq (Function.update_of_ne hd _ _).symm
  cases posted with
  | false => exact h.congr rfl hcalls
  | true =>
    simp only [HwcContext.setDisplay, if_true, Function.update_self]
    by_cases hd : d = d'
    · subst hd
      rcases installFences_layer ok { compIx := ctx.setCall d + 1, hwLayers } d i
          { ctx with setCall := Function.update ctx.setCall d (ctx.setCall d + 1) } with
        ⟨-, hcli, -⟩ | ⟨-, hcli, -⟩
      · rcases fence_created (ctx.cli d i) (ok i) ⟨d, ctx.setCall d + 1⟩ with hnone | ⟨value, hcreated⟩
        · exact h.congr ((congrArg RelTimeline.created hcli).trans hnone) hcalls
        · have hcreated := (congrArg RelTimeline.created hcli).trans hcreated
          constructor
          · intro f hf
            rw [hcreated, List.mem_append, List.mem_singleton] at hf
            rcases hf with hf | rfl
            · exact h.display f hf
            · rfl
          · intro f hf
            rw [hcreated, List.mem_append, List.mem_singleton] at hf
            rcases hf with hf | rfl
            · exact Nat.le_trans (h.called f hf) hcalls
            · simp [HwcContext.installFences]
          · rw [hcreated, List.map_append, List.pairwise_append]
            refine ⟨h.newer, List.pairwise_singleton _ _, ?_⟩
            simp only [List.mem_map, List.map_singleton, List.mem_singleton]
            rintro _ ⟨f, hf, rfl⟩ _ rfl
            exact Nat.lt_succ_of_le (h.called f hf)
      · exact h.congr (congrArg RelTimeline.created hcli) hcalls
    · exact h.congr (by simp only [HwcContext.installFences, Function.update_of_ne hd]) hcalls

theorem Numbered.setComposing (h : Numbered ctx d i) (d' : Display) (c : Option Composing) :
    Numbered (ctx.setComposing d' c) d i := h.congr rfl (Nat.le_refl _)

theorem Numbered.setQOps (h : Numbered ctx d i) (d' : Display) (qOps : Bool) : Numbered (ctx.setQOps d' qOps) d i := by
  unfold HwcContext.setQOps
  split
  · exact h.setComposing _ _
  · exact h

theorem Numbered.releaseFences (h : Numbered ctx d i) (d' index : Display) (n : Nat) :
    Numbered (ctx.releaseFences d' index n) d i := by
  cases hc : ctx.composing d' with
  | none => simpa only [HwcContext.releaseFences, hc] using h
  | some c =>
    refine h.congr ?_ (Nat.le_of_eq ?_)
    · rw [releaseFences_cli hc]
      split
      · exact inc_created _ _
      · rfl
    · rw [releaseFences_eq hc]

theorem Numbered.step (h : Numbered ctx d i) {action : HwcAction} (hstep : ctx.step action = some ctx') :
    Numbered ctx' d i := by
  cases action with
  | set d' posted ok hwLayers => cases d' <;> cases hstep <;> exact h.setDisplay _ posted ok hwLayers
  | dequeue d' output =>
    obtain ⟨item, rest, c, -, -, -, rfl⟩ := dequeue_cases hstep
    exact h.congr rfl (Nat.le_refl _)
  | composeLayer d' valid a =>
    obtain ⟨c, l, ctx₁, -, -, hlayer, hnext⟩ := composeLayer_cases hstep
    have h₁ : Numbered ctx₁ d i := by
      rcases hlayer with rfl | ⟨-, -, -, rfl⟩
      · exact h
      · exact composeGrallocBuffer_keeps (P := fun ctx => Numbered ctx d i) (fun _ q h => h.setQOps _ q)
          (fun _ n _ h => h.releaseFences _ _ n) h
    rcases hnext with rfl | ⟨c₁, c', -, -, rfl⟩
    · exact h₁
    · exact h₁.setComposing _ _
  | finishFrame d' =>
    obtain ⟨c, -, rfl⟩ := finishFrame_cases hstep
    exact (h.releaseFences _ _ _).setComposing _ _

theorem Numbered.init (g2dAllowSimult : Bool) (relTl : Display → Nat → Bool) (d : Display) (i : Nat) :
    Numbered (init g2dAllowSimult relTl) d i :=
  ⟨fun _ hf => absurd hf List.not_mem_nil, fun _ hf => absurd hf List.not_mem_nil, .nil⟩

/-! ### Every run -/

/-- After every run whose steps keep the timelines in step, each timeline has signalled all but the fences of frames that
    are not finished and did not release them early: every fence was signalled by the frame that created it, once, and by
    no other frame, layer or display. -/
theorem release_fences_in_step (g2dAllowSimult : Bool) (relTl : Display → Nat → Bool)
    (h : Reaches HwcContext.step (fun ctx action => ctx.keepsStep action = true) (init g2dAllowSimult relTl) ctx)
    (d : Display) (i : Nat) :
    (ctx.cli d i).counter + (ctx.outstanding d i).length = (ctx.cli d i).relTlIx ∧
      (ctx.cli d i).created = (ctx.cli d i).signalled ++ ctx.outstanding d i ∧
      (ctx.cli d i).created.map Fence.value = List.range' 1 (ctx.cli d i).relTlIx ∧
      (ctx.cli d i).signalled.map Fence.value = List.range' 1 (ctx.cli d i).counter ∧
      Numbered ctx d i := by
  have hstep : ctx.InStep :=
    h.invariant (P := InStep) (.init g2dAllowSimult relTl) fun _ _ _ h hok hstep => h.step hok hstep
  have hnumbered : Numbered ctx d i :=
    h.invariant (P := fun ctx => Numbered ctx d i) (.init g2dAllowSimult relTl d i) fun _ _ _ h _ hstep => h.step hstep
  have hline := (hstep d i).line
  exact ⟨hline.count, hline.split, hline.numbers, hline.reached, hnumbered⟩

def overlay : HwLayer := { compositionType := .overlay }

/-- A frame of two layers on each display: the first is RGB, and the second YV12, which releases the first one early. -/
def twoLayers (d : Display) (ok : Nat → Bool) (second : BufferAnswers) : List HwcAction :=
  [.set d true ok [overlay, overlay], .dequeue d true, .composeLayer d true {}, .composeLayer d true second,
    .finishFrame d]

theorem release_fences_in_step_two :
    ∃ ctx, Reaches HwcContext.step (fun ctx action => ctx.keepsStep action = true) (init false fun _ _ => true) ctx ∧
      (ctx.cli .primary 0).counter = 1 ∧ (ctx.outstanding .virtual 0).length = 1 ∧
      ∀ d i, (ctx.cli d i).counter + (ctx.outstanding d i).length = (ctx.cli d i).relTlIx := by
  obtain ⟨ctx, hrun, hend⟩ := Reaches.exists_of_run HwcContext.step keepsStep (init false fun _ _ => true)
    (.set .virtual true (fun _ => true) [overlay] :: twoLayers .primary (fun _ => true) { yv12 := true })
    (fun ctx => (ctx.cli .primary 0).counter = 1 && (ctx.outstanding .virtual 0).length = 1) (by decide +kernel)
  simp only [Bool.and_eq_true, decide_eq_true_eq] at hend
  exact ⟨ctx, hrun, hend.1, hend.2, fun d i => (release_fences_in_step false (fun _ _ => true) hrun d i).1⟩

/-- The YV12 layer of the virtual display releases the layer before it on the timeline of the primary display, whose fence
    counts as signalled before its frame is composed, and the fence of the virtual display is never signalled. The same
    happens to a fence that could not be created: its number is taken, and the next fence waits for one tick too many. -/
theorem release_fences_out_of_step :
    (∃ ctx, Reaches HwcContext.step (fun _ _ => true) (init false fun _ _ => true) ctx ∧
      (ctx.cli .virtual 0).counter + (ctx.outstanding .virtual 0).length ≠ (ctx.cli .virtual 0).relTlIx ∧
      ctx.outstanding .primary 0 ≠ [] ∧ (ctx.cli .primary 0).counter = (ctx.cli .primary 0).relTlIx) ∧
    ∃ ctx, Reaches HwcContext.step (fun _ _ => true) (init false fun _ _ => true) ctx ∧
      (ctx.cli .primary 0).counter + (ctx.outstanding .primary 0).length ≠ (ctx.cli .primary 0).relTlIx := by
  constructor
  · obtain ⟨ctx, hrun, hend⟩ := Reaches.exists_of_run HwcContext.step (fun _ _ => true) (init false fun _ _ => true)
      (.set .primary true (fun _ => true) [overlay] :: twoLayers .virtual (fun _ => true) { yv12 := true })
      (fun ctx =>
        (ctx.cli .virtual 0).counter + (ctx.outstanding .virtual 0).length ≠ (ctx.cli .virtual 0).relTlIx &&
          ctx.outstanding .primary 0 ≠ [] && (ctx.cli .primary 0).counter = (ctx.cli .primary 0).relTlIx)
      (by decide +kernel)
    simp only [Bool.and_eq_true, decide_eq_true_eq] at hend
    exact ⟨ctx, hrun, hend.1.1, hend.1.2, hend.2⟩
  · obtain ⟨ctx, hrun, hend⟩ := Reaches.exists_of_run HwcContext.step (fun _ _ => true) (init false fun _ _ => true)
      (twoLayers .primary (fun i => i != 0) {})
      (fun ctx => (ctx.cli .primary 0).counter + (ctx.outstanding .primary 0).length ≠ (ctx.cli .primary 0).relTlIx)
      (by decide +kernel)
    exact ⟨ctx, hrun, of_decide_eq_true hend⟩

end HwcContext
end BcmPlatform.Hwc
