import BcmPlatform.Hwc.Classify

/-! What the classification leaves for the framebuffer target. After the first pass a layer that is to be composed is a
    framebuffer layer or an overlay; the last pass takes the overlays back unless they are video, and it is left out only
    when there is no framebuffer layer, or when sideband video is shown in the mode that always composes with GL. -/

namespace BcmPlatform.Hwc
namespace HwcLayer
variable {ctx : ClassifyConfig} {shared : Option SharedData} {l : HwcLayer}

/-- The layers that the classification leaves to others. -/
def isApart (l : HwcLayer) : Bool :=
  l.compositionType = .framebufferTarget || l.compositionType = .sideband || l.compositionType = .cursorOverlay

/-- A layer that is composed, into the framebuffer target or by the graphics core. -/
def isComposed (l : HwcLayer) : Prop := l.compositionType = .framebuffer ∨ l.compositionType = .overlay

@[simp] theorem clearFb_compositionType (video : Bool) (l : HwcLayer) :
    (l.clearFb video).compositionType = l.compositionType := by
  unfold clearFb
  split <;> rfl

@[simp] theorem clearFb_isVideoLayer (video : Bool) (shared : Option SharedData) (l : HwcLayer) :
    (l.clearFb video).isVideoLayer shared = l.isVideoLayer shared := by
  unfold clearFb
  split <;> rfl

theorem canHandleDownscale_compositionType (ctx : ClassifyConfig) (shared : Option SharedData) (l : HwcLayer) :
    (l.canHandleDownscale ctx shared).2.compositionType = l.compositionType := by
  unfold canHandleDownscale
  repeat' split
  all_goals simp

theorem overlay_isComposed (ctx : ClassifyConfig) (shared : Option SharedData) (l : HwcLayer) :
    (l.overlay ctx shared).isComposed := by
  unfold overlay
  simp only [hwcCursorSurfaceSupported, Bool.and_false, Bool.false_eq_true, if_false]
  split
  · exact .inl rfl
  · split
    · exact .inr (canHandleDownscale_compositionType ctx shared _)
    · exact .inl rfl
  · exact .inr rfl

theorem classify_cases (ctx : ClassifyConfig) (shared : Option SharedData) (l : HwcLayer) :
    (l.classify ctx shared).isApart = true ∨ (l.classify ctx shared).isComposed := by
  unfold classify
  dsimp only
  split
  · split
    · exact .inr (.inl rfl)
    · exact .inr (overlay_isComposed ctx shared _)
  · next hplain =>
    left
    unfold reportBackground isPlain at *
    split at hplain
    · exact absurd rfl hplain
    · cases hl : l.compositionType <;> simp_all [isApart]

theorem classify_always (halways : ctx.glesMode = .always) (shared : Option SharedData) (l : HwcLayer) :
    (l.classify ctx shared).compositionType ≠ .overlay := by
  unfold classify
  dsimp only
  split
  · split
    · exact nofun
    · simp [overlay, halways, setType]
  · next hplain =>
    intro hoverlay
    exact hplain (by simp [isPlain, hoverlay])

theorem classify_skipped (hskip : (l.reportBackground.isPlain && l.skipLayer) = true) :
    (l.classify ctx shared).compositionType = .framebuffer := by
  simp only [Bool.and_eq_true] at hskip
  have hkept : l.reportBackground.skipLayer = true := by
    unfold reportBackground
    split <;> exact hskip.2
  simp [classify, hskip.1, hkept, setType]

theorem classify_sideband (h : (l.classify ctx shared).compositionType = .sideband) : l.classify ctx shared = l := by
  unfold classify at h ⊢
  dsimp only at h ⊢
  split
  · next hplain =>
    rw [if_pos hplain] at h
    split at h
    · cases h
    · rcases overlay_isComposed ctx shared (l.reportBackground.setType .framebuffer) with ho | ho <;> rw [ho] at h <;> cases h
  · next hplain =>
    unfold reportBackground at hplain ⊢
    split
    · next hback =>
      rw [if_pos hback] at hplain
      exact absurd rfl hplain
    · rfl

theorem demote_of_ne (h : l.compositionType ≠ .overlay) : l.demote shared = l := if_neg h

theorem demote_isVideoLayer (h : (l.demote shared).compositionType = .overlay) : (l.demote shared).isVideoLayer shared = true := by
  unfold demote at h ⊢
  split at h
  · next hoverlay =>
    rw [if_pos hoverlay]
    split at h
    · next hvideo =>
      rw [if_pos hvideo, clearFb_isVideoLayer, hvideo]
    · cases h
  · next hoverlay => exact absurd h hoverlay

theorem demote_cases (h : l.isApart = true ∨ l.isComposed) : (l.demote shared).isApart = true ∨ (l.demote shared).isComposed := by
  unfold demote
  split
  · next hoverlay =>
    split
    · exact .inr (.inr (by simp [hoverlay]))
    · exact .inr (.inl rfl)
  · exact h

end HwcLayer

section Setup
variable {ctx : ClassifyConfig} {shared : SetupPass → Nat → Option SharedData} {hwLayers : List HwcLayer} {i : Nat} {l : HwcLayer}

theorem classifyLayers_getElem? : (classifyLayers ctx shared hwLayers)[i]? =
    hwLayers[i]?.map fun l => (l.classify ctx (shared .downscale i)).count (shared .count i) := by
  simp [classifyLayers, List.getElem?_mapIdx, Function.comp_def]

theorem mem_classifyLayers (h : l ∈ classifyLayers ctx shared hwLayers) : ∃ (i : Nat) (l₀ : HwcLayer), hwLayers[i]? = some l₀ ∧
    l = (l₀.classify ctx (shared .downscale i)).count (shared .count i) := by
  obtain ⟨i, hi⟩ := List.mem_iff_getElem?.mp h
  rw [classifyLayers_getElem?] at hi
  obtain ⟨l₀, hl₀, rfl⟩ := Option.map_eq_some_iff.mp hi
  exact ⟨i, l₀, hl₀, rfl⟩

theorem classifyLayers_cases (h : l ∈ classifyLayers ctx shared hwLayers) : l.isApart = true ∨ l.isComposed := by
  obtain ⟨i, l₀, -, rfl⟩ := mem_classifyLayers h
  simpa [HwcLayer.count, HwcLayer.isApart, HwcLayer.isComposed] using HwcLayer.classify_cases ctx (shared .downscale i) l₀

theorem setup_cases (h : l ∈ (primaryCompositionSetup ctx shared hwLayers).hwLayers) : l.isApart = true ∨ l.isComposed := by
  simp only [primaryCompositionSetup] at h
  split at h
  · obtain ⟨i, hi⟩ := List.mem_iff_getElem?.mp h
    rw [List.getElem?_mapIdx] at hi
    obtain ⟨l', hl', rfl⟩ := Option.map_eq_some_iff.mp hi
    exact HwcLayer.demote_cases (classifyLayers_cases (List.mem_of_getElem? hl'))
  · exact classifyLayers_cases h

/-- There is no framebuffer layer, or the framebuffer target is needed and every graphics layer goes into it. What is video
    is what the last pass finds. -/
def GraphicsTogether (shared : Nat → Option SharedData) (r : CompositionSetup) : Prop :=
  (∀ l ∈ r.hwLayers, l.compositionType ≠ .framebuffer) ∨
    r.needsFbTarget = true ∧ ∀ (i : Nat) (l : HwcLayer), r.hwLayers[i]? = some l → l.isApart = false → l.isVideoLayer (shared i) = false →
      l.compositionType = .framebuffer

/-- When there is no framebuffer layer, the layers with a handle are overlays, unless they are to be skipped or apart. -/
def OverlaysAlone (r : CompositionSetup) : Prop :=
  (∀ l ∈ r.hwLayers, l.compositionType ≠ .framebuffer) →
    ∀ l ∈ r.hwLayers, l.skipLayer = false → l.handle.isSome = true → l.isApart = false → l.compositionType = .overlay

theorem graphicsTogether_of_demoted (hneeds : (primaryCompositionSetup ctx shared hwLayers).needsFbTarget = true) :
    GraphicsTogether (shared .compose) (primaryCompositionSetup ctx shared hwLayers) := by
  refine .inr ⟨hneeds, fun i l hl hapart hvideo => ?_⟩
  have hcases := setup_cases (List.mem_of_getElem? hl)
  rcases hcases with hcases | hfb | hoverlay
  · exact absurd hcases (by simp [hapart])
  · exact hfb
  · simp only [primaryCompositionSetup] at hneeds hl
    rw [if_pos (by simp [hasLastPass, hneeds])] at hl
    rw [List.getElem?_mapIdx] at hl
    obtain ⟨l', hl', rfl⟩ := Option.map_eq_some_iff.mp hl
    exact absurd (HwcLayer.demote_isVideoLayer hoverlay) (by simp [hvideo])

theorem no_framebuffer (hnone : ∀ l ∈ classifyLayers ctx shared hwLayers, l.compositionType ≠ .framebuffer)
    (hkept : ctx.glesMode = .fallback ∨ ∀ l ∈ classifyLayers ctx shared hwLayers, l.compositionType ≠ .overlay) :
    ∀ l ∈ (primaryCompositionSetup ctx shared hwLayers).hwLayers, l.compositionType ≠ .framebuffer := by
  have hany : (classifyLayers ctx shared hwLayers).any (·.compositionType = .framebuffer) = false := by
    simpa [List.any_eq_false] using hnone
  intro l hl
  simp only [primaryCompositionSetup, hasLastPass, needsFbTarget, hany, Bool.and_false, Bool.or_false] at hl
  split at hl
  · next hdemoted =>
    obtain ⟨i, hi⟩ := List.mem_iff_getElem?.mp hl
    rw [List.getElem?_mapIdx] at hi
    obtain ⟨l', hl', rfl⟩ := Option.map_eq_some_iff.mp hi
    have hmem := List.mem_of_getElem? hl'
    rcases hkept with hfallback | hkept
    · -- A layer to be skipped would be a framebuffer layer.
      simp only [hasSkipLayer, alwaysGl, hfallback, decide_true, Bool.true_and, reduceCtorEq, decide_false, Bool.false_and,
        Bool.or_false, List.any_eq_true] at hdemoted
      obtain ⟨l₀, hl₀, hskip⟩ := hdemoted
      obtain ⟨j, hj⟩ := List.mem_iff_getElem?.mp hl₀
      have hfb : (l₀.classify ctx (shared .downscale j)).compositionType = .framebuffer :=
        HwcLayer.classify_skipped hskip
      refine absurd ?_ (hnone _ (List.mem_of_getElem? (by rw [classifyLayers_getElem?, hj]; rfl)))
      simpa [HwcLayer.count] using hfb
    · rw [HwcLayer.demote_of_ne (hkept l' hmem)]
      exact hnone l' hmem
  · exact hnone l hl

theorem videoLayers_always (halways : ctx.glesMode = .always)
    (hsideband : ∀ l ∈ hwLayers, l.compositionType = .sideband → l.isVideoLayer none = false) :
    videoLayers ctx shared hwLayers = [] := by
  refine List.filterMap_eq_nil_iff.mpr fun ⟨l, i⟩ hmem => ?_
  have hi := List.mem_zipIdx_iff_getElem?.mp hmem
  rw [classifyLayers_getElem?] at hi
  dsimp only at hi
  obtain ⟨l₀, hl₀, rfl⟩ := Option.map_eq_some_iff.mp hi
  have hoverlay := HwcLayer.classify_always halways (shared .downscale i) l₀
  have hvideo : (l₀.classify ctx (shared .downscale i)).isVideoLayer (shared .count i) = false := by
    by_cases hs : (l₀.classify ctx (shared .downscale i)).compositionType = .sideband
    · have hsame := HwcLayer.classify_sideband hs
      rw [hsame] at hs ⊢
      rw [← hsideband l₀ (List.mem_of_getElem? hl₀) hs]
      simp [HwcLayer.isVideoLayer, HwcLayer.isVideoLayerLocked, hs]
    · simp [HwcLayer.isVideoLayer, hoverlay, hs]
  simp [HwcLayer.count, hvideo]

theorem graphicsTogether_fallback (hfallback : ctx.glesMode = .fallback) :
    GraphicsTogether (shared .compose) (primaryCompositionSetup ctx shared hwLayers) := by
  by_cases hany : (classifyLayers ctx shared hwLayers).any (·.compositionType = .framebuffer) = true
  · exact graphicsTogether_of_demoted (by simp [primaryCompositionSetup, needsFbTarget, hfallback, hany])
  · refine .inl (no_framebuffer (fun l hl hfb => hany ?_) (.inl hfallback))
    exact List.any_eq_true.mpr ⟨l, hl, by simp [hfb]⟩

theorem graphicsTogether_always (halways : ctx.glesMode = .always)
    (hsideband : ∀ l ∈ hwLayers, l.compositionType = .sideband → l.isVideoLayer none = false) :
    GraphicsTogether (shared .compose) (primaryCompositionSetup ctx shared hwLayers) := by
  by_cases hany : (classifyLayers ctx shared hwLayers).any (·.compositionType = .framebuffer) = true
  · refine graphicsTogether_of_demoted ?_
    simp [primaryCompositionSetup, needsFbTarget, alwaysGl, halways, videoLayers_always halways hsideband, hany]
  · refine .inl (no_framebuffer (fun l hl hfb => hany ?_) (.inr fun l hl => ?_))
    · exact List.any_eq_true.mpr ⟨l, hl, by simp [hfb]⟩
    · obtain ⟨i, l₀, -, rfl⟩ := mem_classifyLayers hl
      simpa [HwcLayer.count] using HwcLayer.classify_always halways (shared .downscale i) l₀

theorem overlaysAlone (ctx : ClassifyConfig) (shared : SetupPass → Nat → Option SharedData) (hwLayers : List HwcLayer) :
    OverlaysAlone (primaryCompositionSetup ctx shared hwLayers) := by
  intro hnone l hl _ _ hapart
  rcases setup_cases hl with hcases | hfb | hoverlay
  · exact absurd hcases (by simp [hapart])
  · exact absurd hfb (hnone l hl)
  · exact hoverlay

end Setup

end BcmPlatform.Hwc
