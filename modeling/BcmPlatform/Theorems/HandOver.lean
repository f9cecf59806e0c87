import BcmPlatform.Hwc.HandOver
import BcmPlatform.Lib.Runs

/-! Items are composed once and in the order in which they were posted, whatever the order of the steps. That a
    composition reads what the call wrote needs more: an item is on the list before its fences are in. -/

namespace BcmPlatform.Hwc
open Lib

/-- The item that the composer has taken and not composed yet. -/
def Composer.inHand : Composer → List Nat
  | .dequeued item _ => [item]
  | _ => []

/-- The item that the call has posted without its fences. -/
def Caller.pendingInstall : Caller → Option Nat
  | .appended item _ => some item
  | _ => none

namespace HandOver
variable {s s' : HandOver} {a : HandOverAction}

/-! ### What each step does -/

/-- The steps, each with the place of the thread that takes it. -/
inductive Moves (s : HandOver) : HandOverAction → HandOver → Prop where
  | enter {content : DisplayContents} (hcaller : s.caller = .idle) :
    Moves s (.enter content) { s with setCall := s.setCall + 1, caller := .entered content }
  | accept {content : DisplayContents} (hcaller : s.caller = .entered content) (hpower : s.powerMode.composes = true) :
    Moves s .checkPower { s with caller := .accepted content }
  | skip {content : DisplayContents} (hcaller : s.caller = .entered content) (hpower : s.powerMode.composes = false) :
    Moves s .checkPower { s with caller := .idle }
  | allocFails {content : DisplayContents} (hcaller : s.caller = .accepted content) :
    Moves s (.append false) { s with caller := .idle }
  | append {content : DisplayContents} (hcaller : s.caller = .accepted content) :
    Moves s (.append true) { s with
      heap := Function.update s.heap s.nextItem (some { compIx := s.setCall, content })
      nextItem := s.nextItem + 1
      composerWorkList := s.composerWorkList ++ [s.nextItem]
      caller := .appended s.nextItem content
      posted := s.posted ++ [s.nextItem] }
  | install {item : Nat} {content : DisplayContents} {f : FenceAnswers} {oob : Bool}
      (hcaller : s.caller = .appended item content) :
    Moves s (.install f oob) { s with
      heap := Function.update s.heap item ((s.heap item).map fun i =>
        { i with content := i.content.installFences s.fenceSupport s.fenceRetire f })
      caller := .installed item (s.display = .primary && s.signalOobInline && oob)
      installs := s.installs ++
        [(item, { compIx := s.setCall, content := content.installFences s.fenceSupport s.fenceRetire f })]
      lateWrites := s.lateWrites ++ if (s.heap item).isNone then [item] else [] }
  | setComposerEvent {item : Nat} {oob : Bool} (hcaller : s.caller = .installed item oob) :
    Moves s .setComposerEvent { s with composerEvent := true, caller := .signalled item oob }
  | chooseWait {item : Nat} {oob : Bool} (hcaller : s.caller = .signalled item oob) :
    Moves s .chooseWait { s with caller :=
      if !s.fenceSupport then .waitSync item else if s.waitsForced oob then .waitForced item else .idle }
  | wakeSync {item : Nat} (hcaller : s.caller = .waitSync item) (hevent : s.composerEventSync = true) :
    Moves s .wake { s with composerEventSync := false, caller := .idle }
  | wakeForced {item : Nat} (hcaller : s.caller = .waitForced item) (hevent : s.composerEventForced = true) :
    Moves s .wake { s with composerEventForced := false, caller := .idle }
  | powerOn (hcomposer : s.composer = .checkPower) (hpower : s.powerMode.composes = true) :
    Moves s .compose { s with composer := .waiting }
  | powerOff (hcomposer : s.composer = .checkPower) (hpower : s.powerMode.composes = false) :
    Moves s .compose { s with composer := .sleeping }
  | slept (hcomposer : s.composer = .sleeping) : Moves s .compose { s with composer := .checkPower }
  | awake (hcomposer : s.composer = .waiting) (hevent : s.composerEvent = true) :
    Moves s .compose { s with composerEvent := false, composer := .draining }
  | drained (hcomposer : s.composer = .draining) (hlist : s.composerWorkList = []) :
    Moves s .compose { s with composer := .drained }
  | dequeue {item : Nat} {rest : List Nat} (hcomposer : s.composer = .draining)
      (hlist : s.composerWorkList = item :: rest) :
    Moves s .compose { s with
      composerWorkList := rest
      composed := s.composed + 1
      composer := .dequeued item (s.display = .primary && s.setCall ≥ s.composed + hwcSetCompThreshold) }
  | read {item : Nat} {forced : Bool} (hcomposer : s.composer = .dequeued item forced) :
    Moves s .compose
      { s with composer := .composed item forced, compositions := s.compositions ++ [(item, s.heap item)] }
  | free {item : Nat} {forced : Bool} (hcomposer : s.composer = .composed item forced) :
    Moves s .compose { s with heap := Function.update s.heap item none, composer := .freed forced }
  | release {forced : Bool} (hcomposer : s.composer = .freed forced) :
    Moves s .compose { s with composerEventForced := s.composerEventForced || forced, composer := .draining }
  | finish (hcomposer : s.composer = .drained) :
    Moves s .compose
      { s with composerEventSync := s.composerEventSync || !s.fenceSupport, composer := .checkPower }
  | setPowerMode (mode : PowerMode) : Moves s (.setPowerMode mode) { s with powerMode := mode }

theorem moves_compose (h : s.compose = some s') : Moves s .compose s' := by
  unfold compose at h
  split at h <;> rename_i hcomposer
  · cases h
    cases hpower : s.powerMode.composes with
    | true => exact .powerOn hcomposer hpower
    | false => exact .powerOff hcomposer hpower
  · cases h
    exact .slept hcomposer
  · split at h
    · next hevent =>
      cases h
      exact .awake hcomposer hevent
    · cases h
  · cases h
    unfold dequeue
    split
    · next hlist => exact .drained hcomposer hlist
    · next item rest hlist => exact .dequeue hcomposer hlist
  · cases h
    exact .read hcomposer
  · cases h
    exact .free hcomposer
  · cases h
    exact .release hcomposer
  · cases h
    exact .finish hcomposer

theorem moves_of_step (h : s.step a = some s') : Moves s a s' := by
  cases a with
  | enter content =>
    simp only [step, enter] at h
    split at h <;> cases h
    next hcaller => exact .enter hcaller
  | checkPower =>
    simp only [step, checkPower] at h
    split at h <;> cases h
    next content hcaller =>
    cases hpower : s.powerMode.composes with
    | true => exact .accept hcaller hpower
    | false => exact .skip hcaller hpower
  | append allocated =>
    simp only [step, append] at h
    split at h
    · next content hcaller =>
      cases allocated <;> cases h
      · exact .allocFails hcaller
      · exact .append hcaller
    · cases h
  | install f oob =>
    simp only [step, install] at h
    split at h <;> cases h
    next item content hcaller => exact .install hcaller
  | setComposerEvent =>
    simp only [step, setComposerEvent] at h
    split at h <;> cases h
    next item oob hcaller => exact .setComposerEvent hcaller
  | chooseWait =>
    simp only [step, chooseWait] at h
    split at h <;> cases h
    next item oob hcaller => exact .chooseWait hcaller
  | wake =>
    simp only [step, wake] at h
    split at h
    · next item hcaller =>
      split at h <;> cases h
      next hevent => exact .wakeSync hcaller hevent
    · next item hcaller =>
      split at h <;> cases h
      next hevent => exact .wakeForced hcaller hevent
    · cases h
  | compose => exact moves_compose h
  | setPowerMode mode =>
    cases h
    exact .setPowerMode mode

/-! ### The items in the order of the list -/

/-- The posted items are those that were composed, then the one in hand, then the list; their addresses are fresh. -/
structure InOrder (s : HandOver) : Prop where
  order : s.compositions.map Prod.fst ++ s.composer.inHand ++ s.composerWorkList = s.posted
  fresh : s.posted = List.range s.nextItem

theorem InOrder.nodup (h : s.InOrder) : s.posted.Nodup := by
  rw [h.fresh]
  exact List.nodup_range

theorem InOrder.step (h : s.InOrder) (hstep : s.step a = some s') : s'.InOrder := by
  obtain ⟨horder, hfresh⟩ := h
  cases moves_of_step hstep with
  | append hcaller =>
    refine ⟨?_, ?_⟩
    · rw [← horder, List.append_assoc _ _ [s.nextItem]]
    · simp only [hfresh, List.range_succ]
  | powerOn hcomposer | powerOff hcomposer | slept hcomposer | awake hcomposer | drained hcomposer
  | free hcomposer | release hcomposer | finish hcomposer =>
    rw [hcomposer] at horder
    exact ⟨horder, hfresh⟩
  | dequeue hcomposer hlist =>
    rw [hcomposer, hlist] at horder
    refine ⟨?_, hfresh⟩
    simpa [Composer.inHand] using horder
  | read hcomposer =>
    rw [hcomposer] at horder
    refine ⟨?_, hfresh⟩
    simpa [Composer.inHand] using horder
  | _ => exact ⟨horder, hfresh⟩

/-! ### The fences are in before the item is taken -/

/-- The composer does not take an item while the call that posted it has not written its fences yet. -/
def takesInstalled (s : HandOver) : HandOverAction → Bool
  | .compose =>
    !(s.composer = .draining && s.caller.pendingInstall.isSome && s.composerWorkList.head? = s.caller.pendingInstall)
  | _ => true

/-- The item holds what the call that posted it wrote. -/
def HasFences (s : HandOver) (item : Nat) : Prop := ∃ i, s.heap item = some i ∧ (item, i) ∈ s.installs

/-- Every call but the one that has posted its item just now has written its fences, and they are still there. -/
structure Installed (s : HandOver) : Prop where
  calls : s.installs.map Prod.fst ++ s.caller.pendingInstall.toList = s.posted
  pending : ∀ item content, s.caller = .appended item content →
    item ∈ s.composerWorkList ∧ s.heap item = some { compIx := s.setCall, content }
  listed : ∀ item ∈ s.composerWorkList, s.caller.pendingInstall = some item ∨ s.HasFences item
  inHand : ∀ item ∈ s.composer.inHand, s.HasFences item
  composed : ∀ item forced, s.composer = .composed item forced → item ∈ s.compositions.map Prod.fst
  afterInstall : ∀ p ∈ s.compositions, ∃ i, p.2 = some i ∧ (p.1, i) ∈ s.installs
  onTime : s.lateWrites = []

theorem HasFences.congr {item : Nat} (h : s.HasFences item) (hheap : s'.heap item = s.heap item)
    (hinstalls : ∀ p ∈ s.installs, p ∈ s'.installs) : s'.HasFences item := by
  obtain ⟨i, hi, hmem⟩ := h
  exact ⟨i, hheap.trans hi, hinstalls _ hmem⟩

theorem Installed.setCaller (h : s.Installed) (caller : Caller) (hbefore : s.caller.pendingInstall = none)
    (hafter : caller.pendingInstall = none) (setCall : Nat) : Installed { s with caller, setCall } where
  calls := by
    have hcalls := h.calls
    rw [hbefore] at hcalls
    rw [hafter]
    exact hcalls
  pending := by
    rintro item content rfl
    cases hafter
  listed := by
    intro item hitem
    rcases h.listed item hitem with hpending | hf
    · rw [hbefore] at hpending
      cases hpending
    · exact .inr hf
  inHand := h.inHand
  composed := h.composed
  afterInstall := h.afterInstall
  onTime := h.onTime

theorem Installed.setComposer (h : s.Installed) (composer : Composer) (hhand : composer.inHand = [])
    (hcomposed : ∀ item forced, composer ≠ .composed item forced) : Installed { s with composer } where
  calls := h.calls
  pending := h.pending
  listed := h.listed
  inHand := by
    intro item hitem
    rw [hhand] at hitem
    cases hitem
  composed item forced hc := absurd hc (hcomposed item forced)
  afterInstall := h.afterInstall
  onTime := h.onTime

theorem Installed.append (h : s.Installed) (horder : s.InOrder) {content : DisplayContents}
    (hcaller : s.caller = .accepted content) : Installed { s with
      heap := Function.update s.heap s.nextItem (some { compIx := s.setCall, content })
      nextItem := s.nextItem + 1
      composerWorkList := s.composerWorkList ++ [s.nextItem]
      caller := .appended s.nextItem content
      posted := s.posted ++ [s.nextItem] } := by
  have hcalls : s.installs.map Prod.fst = s.posted := by
    have hcalls := h.calls
    rw [hcaller] at hcalls
    exact (List.append_nil _).symm.trans hcalls
  -- The address of an item that has its fences is not the one that the new item gets.
  have hkept : ∀ item, s.HasFences item →
      Function.update s.heap s.nextItem (some ⟨s.setCall, content⟩) item = s.heap item := by
    rintro item ⟨i, -, hmem⟩
    have hposted : item ∈ s.posted := hcalls ▸ List.mem_map_of_mem (f := Prod.fst) hmem
    rw [horder.fresh, List.mem_range] at hposted
    exact Function.update_of_ne (Nat.ne_of_lt hposted) ..
  refine ⟨?_, ?_, ?_, ?_, h.composed, h.afterInstall, h.onTime⟩
  · rw [hcalls]
    rfl
  · rintro item content' heq
    cases heq
    exact ⟨List.mem_append_right _ (List.mem_singleton_self _), Function.update_self ..⟩
  · intro item hitem
    rcases List.mem_append.mp hitem with hitem | hitem
    · rcases h.listed item hitem with hpending | hf
      · rw [hcaller] at hpending
        cases hpending
      · exact .inr (hf.congr (hkept item hf) fun _ => id)
    · rw [List.mem_singleton.mp hitem]
      exact .inl rfl
  · intro item hitem
    have hf := h.inHand item hitem
    exact hf.congr (hkept item hf) fun _ => id

theorem Installed.install (h : s.Installed) (horder : s.InOrder) {item : Nat} {content : DisplayContents} {oob : Bool}
    {f : FenceAnswers} (hcaller : s.caller = .appended item content) : Installed { s with
      heap := Function.update s.heap item ((s.heap item).map fun i =>
        { i with content := i.content.installFences s.fenceSupport s.fenceRetire f })
      caller := .installed item (s.display = .primary && s.signalOobInline && oob)
      installs := s.installs ++
        [(item, { compIx := s.setCall, content := content.installFences s.fenceSupport s.fenceRetire f })]
      lateWrites := s.lateWrites ++ if (s.heap item).isNone then [item] else [] } := by
  obtain ⟨hitem, hheap⟩ := h.pending item content hcaller
  have hcalls := h.calls
  rw [hcaller, Caller.pendingInstall] at hcalls
  have hnodup := horder.nodup
  rw [← horder.order, List.append_assoc] at hnodup
  rw [hheap, Option.map_some]
  have hkept : ∀ other, other ≠ item → s.HasFences other → HasFences { s with
      heap := Function.update s.heap item (some
        { compIx := s.setCall, content := content.installFences s.fenceSupport s.fenceRetire f })
      installs := s.installs ++
        [(item, { compIx := s.setCall, content := content.installFences s.fenceSupport s.fenceRetire f })] } other :=
    fun other hne hf => hf.congr (Function.update_of_ne hne ..) fun _ => List.mem_append_left _
  refine ⟨?_, nofun, ?_, ?_, h.composed, ?_, ?_⟩
  · rw [List.map_append, ← hcalls]
    exact List.append_nil _
  · intro other hother
    by_cases hne : other = item
    · subst hne
      exact .inr ⟨_, Function.update_self .., List.mem_append_right _ (List.mem_singleton_self _)⟩
    · rcases h.listed other hother with hpending | hf
      · rw [hcaller] at hpending
        cases hpending
        exact absurd rfl hne
      · exact .inr (hkept other hne hf)
  · intro other hother
    have hne : other ≠ item := by
      rintro rfl
      exact (List.nodup_append.mp (List.nodup_append.mp hnodup).2.1).2.2 _ hother _ hitem rfl
    exact hkept other hne (h.inHand other hother)
  · intro p hp
    obtain ⟨i, hi, hmem⟩ := h.afterInstall p hp
    exact ⟨i, hi, List.mem_append_left _ hmem⟩
  · rw [h.onTime]
    rfl

theorem Installed.dequeue (h : s.Installed) {item : Nat} {rest : List Nat} (forced : Bool)
    (hlist : s.composerWorkList = item :: rest) (hok : s.caller.pendingInstall ≠ some item) :
    Installed { s with composerWorkList := rest, composed := s.composed + 1, composer := .dequeued item forced } where
  calls := h.calls
  pending := by
    intro other content hcaller
    obtain ⟨hother, hheap⟩ := h.pending other content hcaller
    rw [hlist] at hother
    rcases List.mem_cons.mp hother with rfl | hrest
    · rw [show s.caller = _ from hcaller] at hok
      exact absurd rfl hok
    · exact ⟨hrest, hheap⟩
  listed other hother := h.listed other (hlist ▸ List.mem_cons_of_mem _ hother)
  inHand := by
    intro other hother
    rw [List.mem_singleton.mp hother]
    exact (h.listed item (hlist ▸ List.mem_cons_self)).resolve_left hok
  composed := nofun
  afterInstall := h.afterInstall
  onTime := h.onTime

theorem Installed.read (h : s.Installed) {item : Nat} {forced : Bool} (hcomposer : s.composer = .dequeued item forced) :
    Installed { s with composer := .composed item forced, compositions := s.compositions ++ [(item, s.heap item)] } where
  calls := h.calls
  pending := h.pending
  listed := h.listed
  inHand := nofun
  composed := by
    intro other forced' heq
    cases heq
    rw [List.map_append]
    exact List.mem_append_right _ (List.mem_singleton_self _)
  afterInstall := by
    intro p hp
    rcases List.mem_append.mp hp with hp | hp
    · exact h.afterInstall p hp
    · rw [List.mem_singleton.mp hp]
      exact h.inHand item (by rw [hcomposer]; exact List.mem_singleton_self _)
  onTime := h.onTime

theorem Installed.free (h : s.Installed) (horder : s.InOrder) {item : Nat} {forced : Bool}
    (hcomposer : s.composer = .composed item forced) :
    Installed { s with heap := Function.update s.heap item none, composer := .freed forced } := by
  have hnodup := horder.nodup
  rw [← horder.order, List.append_assoc] at hnodup
  -- The item was composed, so it is not on the list any more.
  have hne : ∀ other ∈ s.composerWorkList, other ≠ item := by
    rintro other hother rfl
    exact (List.nodup_append.mp hnodup).2.2 _ (h.composed other forced hcomposer) _
      (List.mem_append_right _ hother) rfl
  refine ⟨h.calls, ?_, ?_, nofun, nofun, h.afterInstall, h.onTime⟩
  · intro other content hcaller
    obtain ⟨hother, hheap⟩ := h.pending other content hcaller
    exact ⟨hother, (Function.update_of_ne (hne other hother) ..).trans hheap⟩
  · intro other hother
    exact (h.listed other hother).imp_right fun hf => hf.congr (Function.update_of_ne (hne other hother) ..) fun _ => id

theorem Installed.step (h : s.Installed) (horder : s.InOrder) (hok : s.takesInstalled a = true)
    (hstep : s.step a = some s') : s'.Installed := by
  cases moves_of_step hstep with
  | enter hcaller | accept hcaller _ | skip hcaller _ | allocFails hcaller =>
    exact h.setCaller _ (by rw [hcaller]; rfl) rfl _
  | append hcaller => exact h.append horder hcaller
  | install hcaller => exact h.install horder hcaller
  | @setComposerEvent item oob hcaller =>
    have hmoved := h.setCaller (.signalled item oob) (by rw [hcaller]; rfl) rfl s.setCall
    exact { hmoved with }
  | chooseWait hcaller =>
    refine h.setCaller _ (by rw [hcaller]; rfl) ?_ s.setCall
    split
    · rfl
    · split <;> rfl
  | wakeSync hcaller _ | wakeForced hcaller _ =>
    have hmoved := h.setCaller .idle (by rw [hcaller]; rfl) rfl s.setCall
    exact { hmoved with }
  | powerOn _ _ | powerOff _ _ | slept _ | drained _ _ => exact h.setComposer _ rfl nofun
  | awake _ _ =>
    have hmoved := h.setComposer .draining rfl nofun
    exact { hmoved with }
  | dequeue hcomposer hlist =>
    refine h.dequeue _ hlist fun hpending => ?_
    simp [takesInstalled, hcomposer, hlist, hpending] at hok
  | read hcomposer => exact h.read hcomposer
  | free hcomposer => exact h.free horder hcomposer
  | release hcomposer =>
    have hmoved := h.setComposer .draining rfl nofun
    exact { hmoved with }
  | finish hcomposer =>
    have hmoved := h.setComposer .checkPower rfl nofun
    exact { hmoved with }
  | setPowerMode mode => exact { h with }

/-! ### Runs -/

/-- What the hand-over promises. An item that is composed was posted, and every item is composed once, in the order of the
    posts; a composition reads what the call wrote, and nothing is written into an item that was freed. -/
structure HandedOver (s : HandOver) : Prop where
  inOrder : s.compositions.map Prod.fst ++ s.composer.inHand ++ s.composerWorkList = s.posted
  once : s.posted.Nodup
  afterInstall : ∀ item r, (item, r) ∈ s.compositions → ∃ i, r = some i ∧ (item, i) ∈ s.installs
  fencesKnown : ∀ item i r, (item, i) ∈ s.installs → (item, r) ∈ s.compositions → r = some i
  beforeFree : s.lateWrites = []

theorem handedOver (horder : s.InOrder) (h : s.Installed) : s.HandedOver where
  inOrder := horder.order
  once := horder.nodup
  afterInstall item r hr := h.afterInstall (item, r) hr
  fencesKnown := by
    intro item i r hi hr
    obtain ⟨i', rfl, hi'⟩ := h.afterInstall (item, r) hr
    have hkeys : (s.installs.map Prod.fst).Nodup := by
      have hnodup := horder.nodup
      rw [← h.calls] at hnodup
      exact (List.nodup_append.mp hnodup).1
    have heq : (item, i) = (item, i') := List.inj_on_of_nodup_map hkeys hi hi' rfl
    rw [(Prod.mk.inj heq).2]
  beforeFree := h.onTime

/-- In every run in which the composer takes no item before the call that posted it has written the fences, the items are
    handed over. -/
theorem items_handed_over (display : Display) (fenceSupport fenceRetire signalOobInline : Bool) (powerMode : PowerMode)
    (s : HandOver) (h : Reaches HandOver.step (fun s a => s.takesInstalled a = true)
      (init display fenceSupport fenceRetire signalOobInline powerMode) s) : s.HandedOver := by
  have hinv : s.InOrder ∧ s.Installed := by
    refine h.invariant (P := fun s => s.InOrder ∧ s.Installed)
      ⟨⟨rfl, rfl⟩, ⟨rfl, nofun, nofun, nofun, nofun, nofun, rfl⟩⟩ fun s a s' hs hok hstep => ?_
    exact ⟨hs.1.step hstep, hs.2.step hs.1 hok hstep⟩
  exact handedOver hinv.1 hinv.2

/-- A call of `hwc_set` up to its post, for a frame with one layer. -/
def postFrame : List HandOverAction :=
  [.enter { hwLayers := [{ compositionType := .overlay }] }, .checkPower, .append true]

/-- Every fence of the frame has the number `n`. -/
def installFence (n : Nat) : HandOverAction := .install { release := fun _ => some n, retire := some n } false

/-- The composer has taken the first frame, and the call returned; the second frame is posted. -/
def secondPosted : List HandOverAction :=
  .compose :: postFrame ++ [installFence 1, .setComposerEvent, .compose, .compose, .chooseWait] ++ postFrame

/-- The second frame is posted while the first is composed, and taken when its fences are in. -/
theorem items_handed_over_second : ∃ s : HandOver, s.compositions.length = 2 ∧ s.HandedOver := by
  obtain ⟨s, hs, hp⟩ := Reaches.exists_of_run HandOver.step takesInstalled (init .primary true true false .normal)
    (secondPosted ++ [.compose, .compose, .compose, installFence 2, .compose, .compose])
    (fun s => s.compositions.length = 2) (by decide +kernel)
  exact ⟨s, of_decide_eq_true hp, items_handed_over .primary true true false .normal s hs⟩

/-- The composer is still in its inner loop when the second frame is posted: it composes the item without fences and
    frees it, and the call then writes into it. -/
theorem fences_written_after_free :
    ∃ s, Reaches HandOver.step (fun _ _ => True) (init .primary true true false .normal) s ∧ ¬ s.HandedOver := by
  obtain ⟨s, hs, hp⟩ := Reaches.exists_of_run HandOver.step (fun _ _ => true) (init .primary true true false .normal)
    (secondPosted ++ [.compose, .compose, .compose, .compose, .compose, .compose, installFence 2])
    (fun s => s.lateWrites ≠ []) (by decide +kernel)
  exact ⟨s, hs.mono fun _ _ _ => trivial, fun h => of_decide_eq_true hp h.beforeFree⟩

end HandOver
end BcmPlatform.Hwc
